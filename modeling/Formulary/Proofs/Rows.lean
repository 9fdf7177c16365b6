import Formulary.Symbols

/-!
# Reading comma-separated rows

A field is read as its characters if no special one is among them, and from between double quote marks in
any case, where a quote mark stands for itself when it is written twice. A comma ends every field of a row but
the last one, which a carriage return and a line feed end. A text can be read as rows in one way at most, so
rows that are written are read as themselves and as nothing else.
-/

namespace Formulary.Text.Csv

/-- Between its quote marks, the content of a field has each quote mark twice. -/
inductive IsDoubled : List Char → List Char → Prop where
  | nil : IsDoubled [] []
  | quote {inside content : List Char} (more : IsDoubled inside content) :
      IsDoubled (doubleQuote :: doubleQuote :: inside) (doubleQuote :: content)
  | other {c : Char} {inside content : List Char} (other : c ≠ doubleQuote) (more : IsDoubled inside content) :
      IsDoubled (c :: inside) (c :: content)

/-- A character that stands in a field with or without quote marks. -/
def Plain (c : Char) : Prop :=
  c ≠ ',' ∧ c ≠ doubleQuote ∧ c ≠ '\r' ∧ c ≠ '\n'

/-- A text is a field with some content. -/
inductive IsField : List Char → String → Prop where
  | plain {content : String} (plain : ∀ c ∈ content.toList, Plain c) : IsField content.toList content
  | quoted {inside : List Char} {content : String} (doubled : IsDoubled inside content.toList) :
      IsField (doubleQuote :: inside ++ [doubleQuote]) content

/-- A text is a row of fields. -/
inductive IsRow : List Char → List String → Prop where
  | last {text : List Char} {content : String} (field : IsField text content) :
      IsRow (text ++ ['\r', '\n']) [content]
  | cons {text rest : List Char} {content : String} {contents : List String} (field : IsField text content)
      (more : IsRow rest contents) : IsRow (text ++ ',' :: rest) (content :: contents)

/-- A text is some rows, one after the other. -/
inductive AreRows : List Char → List (List String) → Prop where
  | nil : AreRows [] []
  | cons {text rest : List Char} {contents : List String} {rows : List (List String)} (row : IsRow text contents)
      (more : AreRows rest rows) : AreRows (text ++ rest) (contents :: rows)

/-- A text that starts with what ends a field. -/
def EndsField (rest : List Char) : Prop :=
  ∃ c tail, rest = c :: tail ∧ (c = ',' ∨ c = '\r')

theorem endsField_comma (rest : List Char) : EndsField (',' :: rest) := ⟨_, _, rfl, .inl rfl⟩

theorem endsField_return (rest : List Char) : EndsField ('\r' :: rest) := ⟨_, _, rfl, .inr rfl⟩

theorem EndsField.ne_quote {rest tail : List Char} (ends : EndsField rest) : rest ≠ doubleQuote :: tail := by
  rintro rfl
  obtain ⟨c, _, same, comma | back⟩ := ends
  · exact absurd ((List.cons.inj same).1.trans comma) (by decide)
  · exact absurd ((List.cons.inj same).1.trans back) (by decide)

section
variable {rest rest' : List Char}

/-- The closing quote mark is the first one that is not doubled. -/
theorem IsDoubled.unique {inside inside' content content' : List Char} (doubled : IsDoubled inside content)
    (doubled' : IsDoubled inside' content') (ends : EndsField rest) (ends' : EndsField rest')
    (same : inside ++ doubleQuote :: rest = inside' ++ doubleQuote :: rest') :
    content = content' ∧ rest = rest' := by
  induction doubled generalizing inside' content' with
  | nil =>
    cases doubled' with
    | nil => exact ⟨rfl, (List.cons.inj same).2⟩
    | quote more => exact absurd (List.cons.inj same).2 ends.ne_quote
    | other other => exact absurd (List.cons.inj same).1.symm other
  | quote more ih =>
    cases doubled' with
    | nil => exact absurd (List.cons.inj same).2.symm ends'.ne_quote
    | quote more' =>
      simp only [List.cons_append, List.cons.injEq, true_and] at same
      obtain ⟨rfl, rest⟩ := ih more' same
      exact ⟨rfl, rest⟩
    | other other => exact absurd (List.cons.inj same).1.symm other
  | other other more ih =>
    cases doubled' with
    | nil => exact absurd (List.cons.inj same).1 other
    | quote more' => exact absurd (List.cons.inj same).1 other
    | other other' more' =>
      simp only [List.cons_append, List.cons.injEq] at same
      obtain ⟨rfl, rest⟩ := ih more' same.2
      exact ⟨by rw [same.1], rest⟩

theorem plain_iff {c : Char} : Plain c ↔ isSpecial c = false := by
  simp [Plain, isSpecial, and_assoc]

/-- A field without quote marks ends before the first character that is not plain. -/
theorem takeWhile_plain {cs : List Char} (plain : ∀ c ∈ cs, Plain c) (ends : EndsField rest) :
    (cs ++ rest).takeWhile (!isSpecial ·) = cs := by
  have inside : ∀ c ∈ cs, (!isSpecial c) = true := by
    intro c member
    rw [plain_iff.1 (plain c member), Bool.not_false]
  rw [List.takeWhile_append_of_pos inside]
  obtain ⟨c, tail, rfl, rfl | rfl⟩ := ends
  · rw [List.takeWhile_cons_of_neg (by decide), List.append_nil]
  · rw [List.takeWhile_cons_of_neg (by decide), List.append_nil]

theorem plain_ne_quoted {cs inside : List Char} (plain : ∀ c ∈ cs, Plain c) (ends : EndsField rest) :
    cs ++ rest ≠ doubleQuote :: inside := by
  cases cs with
  | nil => exact ends.ne_quote
  | cons c cs =>
    intro same
    exact (plain c List.mem_cons_self).2.1 (List.cons.inj same).1

theorem IsField.unique {text text' : List Char} {content content' : String} (field : IsField text content)
    (field' : IsField text' content') (ends : EndsField rest) (ends' : EndsField rest')
    (same : text ++ rest = text' ++ rest') : content = content' ∧ rest = rest' := by
  cases field with
  | plain plain =>
    cases field' with
    | plain plain' =>
      have taken := congrArg (List.takeWhile (!isSpecial ·)) same
      rw [takeWhile_plain plain ends, takeWhile_plain plain' ends'] at taken
      rw [taken] at same
      exact ⟨String.toList_inj.1 taken, List.append_cancel_left same⟩
    | quoted doubled => exact absurd same (plain_ne_quoted plain ends)
  | quoted doubled =>
    cases field' with
    | plain plain => exact absurd same.symm (plain_ne_quoted plain ends')
    | quoted doubled' =>
      simp only [List.cons_append, List.append_assoc, List.nil_append, List.cons.injEq, true_and] at same
      obtain ⟨content, rest⟩ := doubled.unique doubled' ends ends' same
      exact ⟨String.toList_inj.1 content, rest⟩

theorem IsRow.unique {text text' : List Char} {contents contents' : List String} (row : IsRow text contents)
    (row' : IsRow text' contents') (same : text ++ rest = text' ++ rest') :
    contents = contents' ∧ rest = rest' := by
  induction row generalizing text' contents' with
  | last field =>
    cases row' with
    | last field' =>
      simp only [List.append_assoc, List.cons_append, List.nil_append] at same
      obtain ⟨rfl, after⟩ := field.unique field' (endsField_return _) (endsField_return _) same
      simp only [List.cons.injEq, true_and] at after
      exact ⟨rfl, after⟩
    | cons field' more' =>
      simp only [List.append_assoc, List.cons_append, List.nil_append] at same
      obtain ⟨_, after⟩ := field.unique field' (endsField_return _) (endsField_comma _) same
      exact absurd (List.cons.inj after).1 (by decide)
  | cons field more ih =>
    cases row' with
    | last field' =>
      simp only [List.append_assoc, List.cons_append, List.nil_append] at same
      obtain ⟨_, after⟩ := field.unique field' (endsField_comma _) (endsField_return _) same
      exact absurd (List.cons.inj after).1 (by decide)
    | cons field' more' =>
      simp only [List.append_assoc, List.cons_append] at same
      obtain ⟨rfl, after⟩ := field.unique field' (endsField_comma _) (endsField_comma _) same
      obtain ⟨rfl, rest⟩ := ih more' (List.cons.inj after).2
      exact ⟨rfl, rest⟩

end

theorem IsRow.ne_nil {text : List Char} {contents : List String} (row : IsRow text contents) : text ≠ [] := by
  cases row <;> simp

/-- A text is read as rows in one way at most. -/
theorem AreRows.unique {text : List Char} {rows rows' : List (List String)} (read : AreRows text rows)
    (read' : AreRows text rows') : rows = rows' := by
  induction read generalizing rows' with
  | nil =>
    generalize empty : ([] : List Char) = text at read'
    cases read' with
    | nil => rfl
    | cons row => exact absurd (List.append_eq_nil_iff.1 empty.symm).1 row.ne_nil
  | @cons text rest contents rows row more ih =>
    generalize whole : text ++ rest = all at read'
    cases read' with
    | nil => exact absurd (List.append_eq_nil_iff.1 whole).1 row.ne_nil
    | cons row' more' =>
      obtain ⟨rfl, rfl⟩ := row.unique row' whole
      rw [ih more']

theorem isDoubled_doubled (cs : List Char) : IsDoubled (doubled cs) cs := by
  induction cs with
  | nil => exact .nil
  | cons c cs ih =>
    rw [doubled]
    by_cases mark : c = doubleQuote
    · subst mark
      exact .quote ih
    · rw [if_neg mark]
      exact .other mark ih

theorem isField_field (content : String) : IsField (field content.toList) content := by
  rw [field]
  by_cases special : content.toList.any isSpecial
  · rw [if_pos special]
    exact .quoted (isDoubled_doubled _)
  · rw [if_neg special]
    refine .plain fun c member => plain_iff.2 ?_
    simpa using fun specialHere => special (List.any_eq_true.2 ⟨c, member, specialHere⟩)

theorem isRow_row {fields : List String} (filled : fields ≠ []) : IsRow (row (fields.map String.toList)) fields := by
  induction fields with
  | nil => exact absurd rfl filled
  | cons content fields ih =>
    cases fields with
    | nil =>
      have single : row [content.toList] = field content.toList ++ ['\r', '\n'] := by simp [row, List.intercalate]
      rw [List.map_singleton, single]
      exact .last (isField_field content)
    | cons next fields =>
      have more := ih (List.cons_ne_nil _ _)
      have split : row ((content :: next :: fields).map String.toList) =
          field content.toList ++ ',' :: row ((next :: fields).map String.toList) := by
        simp [row, List.intercalate]
      rw [split]
      exact .cons (isField_field content) more

/-- Rows that each have a field are read from the text that is written for them, and no others are. -/
theorem areRows_render_iff {rows other : List (List String)} (filled : ∀ fields ∈ rows, fields ≠ []) :
    AreRows (render rows).toList other ↔ other = rows := by
  have written : AreRows (render rows).toList rows := by
    rw [render, String.toList_ofList]
    induction rows with
    | nil => exact .nil
    | cons fields rows ih =>
      rw [List.forall_mem_cons] at filled
      exact .cons (isRow_row filled.1) (ih filled.2)
  constructor
  · intro read
    exact read.unique written
  · rintro rfl
    exact written

end Formulary.Text.Csv

namespace Formulary
open Formulary.Text

/-- The text of a symbol table is read as one row for each of its entries, with the name and the value as its
    two fields, in the order of the names, and in no other way. -/
theorem SymbolTable.areRows_csv_iff (symbols : SymbolTable) :
    ∃ entries : List (String × Scalar),
      entries.Pairwise (fun entry later => entry.1.toList < later.1.toList) ∧
        (∀ name value, (name, value) ∈ entries ↔ symbols[name]? = some value) ∧
        ∀ rows, Csv.AreRows symbols.csv.toList rows ↔
          rows = entries.map fun (name, value) => [name, value.repr] := by
  have filled : ∀ fields ∈ symbols.toList.map fun (name, value) => [name, value.repr], fields ≠ [] := by
    intro fields member
    obtain ⟨_, _, rfl⟩ := List.mem_map.1 member
    exact List.cons_ne_nil _ _
  exact ⟨symbols.toList, Std.TreeMap.ordered_keys_toList.imp compare_eq_lt_iff.1,
    fun name value => Std.TreeMap.mem_toList_iff_getElem?_eq_some, fun rows => Csv.areRows_render_iff filled⟩

end Formulary
