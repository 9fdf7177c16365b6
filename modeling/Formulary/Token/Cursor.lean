import Formulary.Token

/-!
# Cursors over tokens

A cursor stands on one token of a list that is closed by an end marker. It begins on a start
marker before the first token; it moves forward to the last token and no further, and back to the
start marker.
-/

namespace Formulary
open Formulary.Number

/-- A place in a token list: the tokens behind, nearest first, the token at hand, and the tokens
    ahead. The last token of all is an end marker. -/
structure Cursor where
  behind : List Token
  current : Token
  ahead : List Token
  closed : (ahead.getLast?.getD current).kind = .endMarker

namespace Cursor

/-- The cursor before the first token of a list, which must be closed by an end marker. -/
def ofTokens (tokens : List Token) : Except Error Cursor :=
  if closed : (tokens.getLast?.getD .startMarker).kind = .endMarker then
    .ok ⟨[], .startMarker, tokens, closed⟩
  else .error (.defect .unfinishedTokens)

/-- The number of moves from the start marker. -/
def position (cursor : Cursor) : Nat := cursor.behind.length

/-- The next token; on the last token the cursor stays. -/
def advance : Cursor → Cursor
  | ⟨behind, current, [], closed⟩ => ⟨behind, current, [], closed⟩
  | ⟨behind, current, next :: ahead, closed⟩ =>
    ⟨current :: behind, next, ahead, by simpa [List.getLast?_cons] using closed⟩

/-- The token before, if the cursor is not on the start marker. -/
def retreat? : Cursor → Option Cursor
  | ⟨[], _, _, _⟩ => none
  | ⟨previous :: behind, current, ahead, closed⟩ =>
    some ⟨behind, previous, current :: ahead, by simpa [List.getLast?_cons] using closed⟩

def display (cursor : Cursor) : String :=
  "TokenStream(index=" ++ intText cursor.position ++ ", current=" ++ cursor.current.display ++ ")"

/-- All tokens, the start marker included. -/
def toList (cursor : Cursor) : List Token :=
  cursor.behind.reverse ++ cursor.current :: cursor.ahead

@[simp] theorem toList_advance (cursor : Cursor) : cursor.advance.toList = cursor.toList := by
  obtain ⟨behind, current, ahead, closed⟩ := cursor
  cases ahead <;> simp [advance, toList]

theorem toList_of_retreat? {cursor previous : Cursor} (back : cursor.retreat? = some previous) :
    previous.toList = cursor.toList := by
  obtain ⟨behind, current, ahead, closed⟩ := cursor
  cases behind with
  | nil => simp [retreat?] at back
  | cons token behind =>
    simp only [retreat?, Option.some.injEq] at back
    subst back
    simp [toList]

end Cursor
end Formulary
