import Mathlib.Algebra.Group.Nat.Defs
import Formulary.Text.Quoted

/-!
# Reading quoted texts

Each character between two quote marks is written in a way of its own: what has been written can be read
from the left, one character after the other, and the closing mark is the first one that no escape begins
before. So a quoted text ends in one place only, whatever comes after it, and is that of one text only.
-/

namespace Formulary.Text

def hexValue (c : Char) : Nat :=
  if c.toNat < 0x61 then c.toNat - 0x30 else c.toNat - 0x57

def readHex (digits : List Char) : Nat :=
  digits.foldl (fun value c => value * 16 + hexValue c) 0

theorem hexValue_hexDigit : ∀ value < 16, hexValue (hexDigit value) = value := by
  decide

theorem length_hexDigits (width value : Nat) : (hexDigits width value).length = width := by
  induction width generalizing value with
  | zero => rfl
  | succ width ih => simp [hexDigits, ih]

theorem readHex_hexDigits (width value : Nat) : readHex (hexDigits width value) = value % 16 ^ width := by
  induction width generalizing value with
  | zero => simp [hexDigits, readHex, Nat.mod_one]
  | succ width ih =>
    have front := ih (value / 16)
    have last := hexValue_hexDigit (value % 16) (Nat.mod_lt _ (by decide))
    rw [readHex] at front
    rw [hexDigits, readHex, List.foldl_append, front, List.foldl_cons, List.foldl_nil, last, Nat.pow_succ',
      Nat.mod_mul]
    omega

/-- The number of hexadecimal digits after the letter of an escape. -/
def escapeWidth? (letter : Char) : Option Nat :=
  if letter = 'x' then some 2
  else if letter = 'u' then some 4
  else if letter = 'U' then some 8
  else none

/-- The character of the escape that starts with a letter, and what follows it. -/
def readEscape (letter : Char) (rest : List Char) : Char × List Char :=
  match escapeWidth? letter with
  | some width => (Char.ofNat (readHex (rest.take width)), rest.drop width)
  | none =>
    if letter = 'n' then ('\n', rest)
    else if letter = 'r' then ('\r', rest)
    else if letter = 't' then ('\t', rest)
    else (letter, rest)

/-- The character at the head of what is between quote marks, and what follows it. -/
def readCharacter? : List Char → Option (Char × List Char)
  | [] => none
  | c :: rest =>
    if c = backslash then
      match rest with
      | [] => none
      | letter :: rest => some (readEscape letter rest)
    else some (c, rest)

theorem readCharacter?_escaped (letter : Char) (rest : List Char) :
    readCharacter? (backslash :: letter :: rest) = some (readEscape letter rest) :=
  rfl

theorem readCharacter?_of_ne {c : Char} (plain : c ≠ backslash) (rest : List Char) :
    readCharacter? (c :: rest) = some (c, rest) := by
  simp [readCharacter?, plain]

theorem readCharacter?_escapeCode (c : Char) (rest : List Char) :
    readCharacter? (escapeCode c ++ rest) = some (c, rest) := by
  have bound : c.toNat < 16 ^ 8 := by
    have valid := c.valid
    simp only [UInt32.isValidChar, Nat.isValidChar] at valid
    change c.val.toNat < 16 ^ 8
    omega
  have read : ∀ {letter width}, escapeWidth? letter = some width → c.toNat < 16 ^ width →
      readCharacter? (backslash :: letter :: hexDigits width c.toNat ++ rest) = some (c, rest) := by
    intro letter width wide fits
    have length := length_hexDigits width c.toNat
    simp only [List.cons_append, readCharacter?_escaped, readEscape, wide]
    rw [List.take_left' length, List.drop_left' length, readHex_hexDigits, Nat.mod_eq_of_lt fits, Char.ofNat_toNat]
  rw [escapeCode]
  by_cases two : c.toNat < 0x100
  · simp only [two, if_true]
    exact read rfl two
  by_cases four : c.toNat < 0x10000
  · simp only [two, four, if_false, if_true]
    exact read rfl four
  · simp only [two, four, if_false]
    exact read rfl bound

section
variable {mark : Char} (isMark : mark = singleQuote ∨ mark = doubleQuote)
include isMark

/-- A character is read back from how it is written between quote marks. -/
theorem readCharacter?_escape (c : Char) (rest : List Char) :
    readCharacter? (escape mark c ++ rest) = some (c, rest) := by
  by_cases special : c = mark ∨ c = backslash
  · have itself : readEscape c rest = (c, rest) := by
      rcases special with rfl | rfl
      · rcases isMark with rfl | rfl <;> rfl
      · rfl
    rw [escape, if_pos special, ← itself]
    exact readCharacter?_escaped c rest
  rw [escape, if_neg special]
  by_cases line : c = '\n'
  · subst line
    rfl
  by_cases back : c = '\r'
  · subst back
    rfl
  by_cases tab : c = '\t'
  · subst tab
    rfl
  rw [if_neg line, if_neg back, if_neg tab]
  by_cases visible : isPrintable c
  · rw [if_pos visible, List.singleton_append]
    exact readCharacter?_of_ne (fun escapes => special (.inr escapes)) rest
  · rw [if_neg visible]
    exact readCharacter?_escapeCode c rest

/-- No character is written with the quote mark at the head. -/
theorem escape_append_ne (c : Char) (rest tail : List Char) : escape mark c ++ rest ≠ mark :: tail := by
  intro same
  have plain : mark ≠ backslash := by
    rcases isMark with rfl | rfl <;> decide
  -- What is read at the mark is the mark itself, and that would have been written with a backslash.
  have read := congrArg readCharacter? same
  rw [readCharacter?_escape isMark, readCharacter?_of_ne plain, Option.some.injEq, Prod.mk.injEq] at read
  rw [read.1, escape, if_pos (.inl rfl)] at same
  exact plain (List.cons.inj same).1.symm

/-- The closing mark is the first one that no escape begins before. -/
theorem flatMap_escape_append_cancel {cs ds rest rest' : List Char}
    (same : cs.flatMap (escape mark) ++ mark :: rest = ds.flatMap (escape mark) ++ mark :: rest') :
    cs = ds ∧ rest = rest' := by
  induction cs generalizing ds with
  | nil =>
    cases ds with
    | nil => exact ⟨rfl, (List.cons.inj same).2⟩
    | cons d ds =>
      rw [List.flatMap_cons, List.append_assoc] at same
      exact absurd same.symm (escape_append_ne isMark d _ _)
  | cons c cs ih =>
    rw [List.flatMap_cons, List.append_assoc] at same
    cases ds with
    | nil => exact absurd same (escape_append_ne isMark c _ _)
    | cons d ds =>
      rw [List.flatMap_cons, List.append_assoc] at same
      have read := congrArg readCharacter? same
      rw [readCharacter?_escape isMark, readCharacter?_escape isMark, Option.some.injEq, Prod.mk.injEq] at read
      obtain ⟨rfl, after⟩ := ih read.2
      exact ⟨by rw [read.1], after⟩

end

theorem isMark_quoteMark (cs : List Char) : quoteMark cs = singleQuote ∨ quoteMark cs = doubleQuote := by
  rw [quoteMark]
  split
  · exact .inr rfl
  · exact .inl rfl

/-- A quoted text is that of one text only, and ends in one place only. -/
theorem quoted_append_cancel {s t : String} {rest rest' : List Char}
    (same : (quoted s).toList ++ rest = (quoted t).toList ++ rest') : s = t ∧ rest = rest' := by
  simp only [quoted, String.toList_ofList, quotedChars, List.cons_append, List.append_assoc, List.nil_append,
    List.cons.injEq] at same
  obtain ⟨mark, inside⟩ := same
  rw [← mark] at inside
  obtain ⟨characters, after⟩ := flatMap_escape_append_cancel (isMark_quoteMark s.toList) inside
  exact ⟨String.toList_inj.1 characters, after⟩

end Formulary.Text
