import Std.Data.TreeMap
import Formulary.Scalar
import Formulary.Text.Csv

/-!
# Symbol tables

A symbol table binds names to scalars, one each, and lists them in the order of their characters'
codes.
-/

namespace Formulary

theorem getElem?_insert_name {α : Type} (values : Std.TreeMap String α) (name other : String) (value : α) :
    (values.insert name value)[other]? = if name = other then some value else values[other]? := by
  rw [Std.TreeMap.getElem?_insert]
  by_cases same : name = other
  · subst same
    rw [if_pos Std.ReflCmp.compare_self, if_pos rfl]
  · have differ : ¬ compare name other = .eq := fun equal => same (Std.LawfulEqCmp.eq_of_compare equal)
    rw [if_neg differ, if_neg same]

/-- Names are in the order of their characters' codes. -/
theorem compare_eq_lt_iff {s t : String} : compare s t = .lt ↔ s.toList < t.toList := by
  change compareOfLessAndEq s t = .lt ↔ s < t
  rw [compareOfLessAndEq]
  by_cases less : s < t
  · simp [less]
  · by_cases same : s = t <;> simp [less, same]

/-- The scalars bound to names. -/
abbrev SymbolTable := Std.TreeMap String Scalar

/-- A symbol table as rows of a name and its value, in the order of the names. -/
def SymbolTable.csv (symbols : SymbolTable) : String :=
  Text.Csv.render (symbols.toList.map fun (name, value) => [name, value.repr])

end Formulary
