import Formulary.Proofs.Finiteness
import Formulary.Proofs.Rowwise

/-!
# What formulas do to the columns of a table

A formula that has a result puts a column of finite doubles in the place of the first column with the
assigned name, or at the end of the table if there is none, and one that fails changes nothing. So after
formulas one after the other, each on the table that those before it left, the columns of the table are
still in their places under their names, and after them stand those whose names were new, in the order
in which these were assigned first.
-/

namespace Formulary

/-- Doubles that are finite, wherever a cell is not empty. -/
def Doubles.Finite {rows : Nat} (doubles : Doubles rows) : Prop :=
  ∀ i x, doubles.get i = some x → x.isFinite

namespace Table

/-- The tables with finite doubles in the place of the first column with a name, or in a new column at
    the end if there is none, and with all other columns as they are. -/
inductive Replaces (name : String) (before : Table) : Table → Prop where
  | inPlace {front back : List (Column before.rows)} {old : Column before.rows} {doubles : Doubles before.rows}
      (columns : before.columns = front ++ old :: back) (named : old.name = name)
      (first : ∀ column ∈ front, column.name ≠ name) (finite : doubles.Finite) :
      Replaces name before ⟨before.rows, front ++ ⟨name, .floats .double doubles⟩ :: back⟩
  | atEnd {doubles : Doubles before.rows} (unnamed : ∀ column ∈ before.columns, column.name ≠ name)
      (finite : doubles.Finite) :
      Replaces name before ⟨before.rows, before.columns ++ [⟨name, .floats .double doubles⟩]⟩

theorem exists_split_of_findIdx? {α : Type} {p : α → Bool} {xs : List α} {place : Nat}
    (found : xs.findIdx? p = some place) :
    ∃ front old back, xs = front ++ old :: back ∧ p old ∧ (∀ x ∈ front, ¬ p x) ∧
      ∀ new, xs.set place new = front ++ new :: back := by
  induction xs generalizing place with
  | nil => cases found
  | cons x xs ih =>
    rw [List.findIdx?_cons] at found
    split at found
    next holds =>
      cases found
      exact ⟨[], x, xs, rfl, holds, by simp, fun new => rfl⟩
    next other =>
      obtain ⟨before, earlier, rfl⟩ := Option.map_eq_some_iff.1 found
      obtain ⟨front, old, back, rfl, holds, none, replaced⟩ := ih earlier
      refine ⟨x :: front, old, back, rfl, holds, List.forall_mem_cons.2 ⟨other, none⟩, fun new => ?_⟩
      rw [List.set_cons_succ, replaced, List.cons_append]

theorem replaces_assign (table : Table) (name : String) {doubles : Doubles table.rows} (finite : doubles.Finite) :
    table.Replaces name (table.assign name doubles) := by
  cases found : table.index? name with
  | some place =>
    obtain ⟨front, old, back, columns, named, first, replaced⟩ := exists_split_of_findIdx? found
    rw [assign, found]
    simp only [replaced]
    exact .inPlace columns (beq_iff_eq.1 named) (fun column member => by simpa using first column member) finite
  | none =>
    rw [assign, found]
    exact .atEnd (by simpa using List.findIdx?_eq_none_iff.1 found) finite

end Table

theorem Value.finite_of_finiteCells {rows : Nat} {value : Value rows} {doubles : Doubles rows}
    (accepted : value.finiteCells = .ok doubles) : doubles.Finite := by
  cases value with
  | scalar x =>
    by_cases finite : x.isFinite
    · rw [finiteCells, if_pos finite] at accepted
      cases accepted
      intro i y found
      rw [get_cells] at found
      cases found
      exact finite
    · rw [finiteCells, if_neg finite] at accepted
      cases accepted
  | column xs =>
    by_cases finite : xs.all (·.all Float.isFinite)
    · rw [finiteCells, if_pos finite] at accepted
      cases accepted
      intro i x found
      by_contra infinite
      exact (all_isFinite_iff _).1 finite ⟨i, x, found, infinite⟩
    · rw [finiteCells, if_neg finite] at accepted
      cases accepted

/-- A statement that has a result over a table gives its target finite doubles. -/
theorem Scope.exists_of_interpret_eq_ok {scope : Scope} {resolved : Resolved scope} {statement : Tree}
    {name : String} {doubles : Doubles scope.table.rows}
    (performed : (scope.interpret resolved statement).result = .ok (name, doubles)) :
    doubles.Finite ∧ ∃ expression, statement.assignment = .ok (name, expression) := by
  rw [interpret] at performed
  split at performed
  next => cases performed
  next target expression assignment =>
    split at performed
    next => cases performed
    next names _ =>
      dsimp only at performed
      split at performed
      next => cases performed
      next after _ =>
        obtain ⟨value, _, performed⟩ := bind_eq_ok_iff.1 performed
        obtain ⟨cells, accepted, same⟩ := bind_eq_ok_iff.1 performed
        cases same
        exact ⟨Value.finite_of_finiteCells accepted, expression, assignment⟩

/-- A source that has a result on a table has assigned finite doubles to its name. -/
theorem Table.exists_of_evaluate_eq_ok {table after : Table} {constants : SymbolTable} {source name : String}
    (evaluated : (table.evaluate constants source).result = .ok (name, after)) :
    assignedName? source = some name ∧ ∃ doubles : Doubles table.rows, doubles.Finite ∧
      after = table.assign name doubles := by
  rw [evaluate] at evaluated
  split at evaluated
  next => cases evaluated
  next statement parsed =>
    dsimp only at evaluated
    split at evaluated
    next => cases evaluated
    next target doubles performed =>
      cases evaluated
      obtain ⟨finite, expression, assignment⟩ := Scope.exists_of_interpret_eq_ok performed
      refine ⟨?_, doubles, finite, rfl⟩
      cases isStatement_of_parse parsed with
      | assignment =>
        cases assignment
        rw [assignedName?, parsed]

/-- What a source may make of a table: nothing if it fails, and one new column if it has a result. -/
def TableOutcome.Leads (outcome : TableOutcome) (source : String) (before after : Table) : Prop :=
  match outcome.result with
  | .error _ => after = before
  | .ok (name, made) => assignedName? source = some name ∧ before.Replaces name made ∧ after = made

theorem Table.leads_evaluate (table : Table) (constants : SymbolTable) (source : String) :
    (table.evaluate constants source).Leads source table ((table.evaluate constants source).table table) := by
  rw [TableOutcome.Leads, TableOutcome.table]
  cases evaluated : (table.evaluate constants source).result with
  | error error => rfl
  | ok assigned =>
    obtain ⟨known, doubles, finite, same⟩ := exists_of_evaluate_eq_ok evaluated
    exact ⟨known, same ▸ table.replaces_assign _ finite, rfl⟩

section
variable {rows : Nat} {before middle after : List (Column rows)} {names more : List String}

/-- The columns that keep those of before in their places under their names, and have after them one for
    each of some assigned names that is new, in the order in which these come first. A column is as it
    was if its name is not among those assigned, or if it is not the first one of its name. -/
structure Extends (assigned : List String) (before after : List (Column rows)) : Prop where
  names : after.map (·.name) =
    before.map (·.name) ++ (assigned.removeAll (before.map (·.name))).eraseDups
  kept : ∀ (place : Nat) (column : Column rows), before[place]? = some column →
    (column.name ∉ assigned ∨ ∃ earlier < place, (before.map (·.name))[earlier]? = some column.name) →
      after[place]? = some column

theorem Extends.refl (columns : List (Column rows)) : Extends [] columns columns where
  names := by simp
  kept := fun _ _ found _ => found

theorem removeAll_append_right {α : Type} [DecidableEq α] (xs ys zs : List α) :
    xs.removeAll (ys ++ zs) = (xs.removeAll ys).removeAll zs := by
  simp only [List.removeAll, List.filter_filter]
  apply List.filter_congr
  intro x _
  simp [Bool.and_comm]

theorem removeAll_eraseDups {α : Type} [DecidableEq α] (xs ys : List α) :
    xs.removeAll ys.eraseDups = xs.removeAll ys := by
  simp only [List.removeAll]
  apply List.filter_congr
  intro x _
  simp

theorem Extends.trans (first : Extends names before middle) (second : Extends more middle after) :
    Extends (names ++ more) before after where
  names := by
    rw [second.names, first.names, removeAll_append_right, removeAll_eraseDups, List.append_assoc,
      ← List.eraseDups_append]
    simp [List.removeAll]
  kept := by
    intro place column found spared
    have found' : middle[place]? = some column := by
      refine first.kept place column found ?_
      exact spared.imp_left fun unassigned member => unassigned (List.mem_append_left _ member)
    refine second.kept place column found' ?_
    rcases spared with unassigned | ⟨earlier, inside, named⟩
    · exact .inl fun member => unassigned (List.mem_append_right _ member)
    · refine .inr ⟨earlier, inside, ?_⟩
      rw [first.names]
      exact List.getElem?_append_left (List.getElem?_eq_some_iff.1 named).1 ▸ named

end

/-- Replacing a column is such an extension by one name, whether it is new or not. -/
theorem Table.Replaces.exists_extends {table made : Table} {name : String} (replaces : table.Replaces name made) :
    ∃ columns, made = ⟨table.rows, columns⟩ ∧ Extends [name] table.columns columns := by
  cases replaces with
  | @inPlace front back old doubles columns named first finite =>
    refine ⟨_, rfl, by simp [columns, named, List.removeAll], ?_⟩
    rw [columns]
    intro place column found spared
    rcases Nat.lt_trichotomy place front.length with early | rfl | late
    · rw [List.getElem?_append_left early] at found ⊢
      exact found
    · -- The column that is replaced is the first one of its name, so neither reason spares it.
      obtain rfl : old = column := by simpa using found
      rcases spared with other | ⟨earlier, inside, same⟩
      · exact absurd (named ▸ List.mem_singleton_self _) other
      · rw [List.getElem?_map, List.getElem?_append_left inside] at same
        obtain ⟨twin, member, same⟩ := Option.map_eq_some_iff.1 same
        exact absurd (same.trans named) (first twin (List.mem_of_getElem? member))
    · obtain ⟨more, rfl⟩ := Nat.exists_eq_add_of_lt late
      rw [Nat.add_assoc, List.getElem?_append_right (Nat.le_add_right _ _), Nat.add_sub_cancel_left] at found ⊢
      exact found
  | @atEnd doubles unnamed finite =>
    have new : [name].removeAll (table.columns.map (·.name)) = [name] := by
      simpa [List.removeAll, List.filter_eq_self] using unnamed
    refine ⟨_, rfl, by simp [new, List.eraseDups_cons], ?_⟩
    intro place column found _
    rw [List.getElem?_append_left (List.getElem?_eq_some_iff.1 found).1, found]

/-- The name that a formula has assigned, if it has. -/
def TableOutcome.assigned? (outcome : TableOutcome) : Option String :=
  match outcome.result with
  | .ok (name, _) => some name
  | .error _ => none

namespace Table

/-- The table after formulas one after the other. -/
def afterAll (table : Table) (constants : SymbolTable) : List String → Table
  | [] => table
  | source :: sources => ((table.evaluate constants source).table table).afterAll constants sources

/-- The names that formulas one after the other have assigned, in their order. -/
def assignedNames (table : Table) (constants : SymbolTable) (sources : List String) : List String :=
  (table.evaluateAll constants sources).filterMap TableOutcome.assigned?

section
variable {constants : SymbolTable}

theorem afterAll_append (table : Table) (front back : List String) :
    table.afterAll constants (front ++ back) = (table.afterAll constants front).afterAll constants back := by
  induction front generalizing table with
  | nil => rfl
  | cons source front ih => exact ih _

theorem getElem?_evaluateAll (table : Table) (sources : List String) (i : Nat) :
    (table.evaluateAll constants sources)[i]? =
      sources[i]?.map ((table.afterAll constants (sources.take i)).evaluate constants) := by
  induction sources generalizing table i with
  | nil => simp [evaluateAll]
  | cons source sources ih =>
    cases i with
    | zero => rfl
    | succ i => exact ih _ i

theorem assignedNames_cons (table : Table) (source : String) (sources : List String) :
    table.assignedNames constants (source :: sources) =
      (table.evaluate constants source).assigned?.toList ++
        ((table.evaluate constants source).table table).assignedNames constants sources := by
  rw [assignedNames, evaluateAll, List.filterMap_cons]
  cases (table.evaluate constants source).assigned? <;> rfl

/-- After formulas one after the other a table has been extended by the names that they have assigned. -/
theorem exists_afterAll_eq (table : Table) (sources : List String) :
    ∃ columns, table.afterAll constants sources = ⟨table.rows, columns⟩ ∧
      Extends (table.assignedNames constants sources) table.columns columns := by
  induction sources generalizing table with
  | nil => exact ⟨table.columns, rfl, .refl table.columns⟩
  | cons source sources ih =>
    have leads := table.leads_evaluate constants source
    rw [afterAll, assignedNames_cons]
    rw [TableOutcome.Leads] at leads
    cases evaluated : (table.evaluate constants source).result with
    | error error =>
      have nothing : (table.evaluate constants source).assigned? = none := by
        rw [TableOutcome.assigned?, evaluated]
      simp only [evaluated] at leads
      rw [nothing, leads]
      exact ih table
    | ok assigned =>
      obtain ⟨name, made⟩ := assigned
      have one : (table.evaluate constants source).assigned? = some name := by
        rw [TableOutcome.assigned?, evaluated]
      simp only [evaluated] at leads
      obtain ⟨_, replaces, after⟩ := leads
      obtain ⟨columns, rfl, extended⟩ := replaces.exists_extends
      obtain ⟨more, same, further⟩ := ih ⟨table.rows, columns⟩
      rw [one, after]
      exact ⟨more, same, extended.trans further⟩

end

/-- Of formulas one after the other, each on the table that the one before it left, one that fails leaves
    the table as it was, and one that has a result puts finite doubles in the place of the first column of
    its name, or at the end, and leaves the other columns as they were. So the table keeps its rows, and
    its columns in their places under their names, and those that are new stand after them in the order
    in which their names were assigned first. -/
theorem evaluateAll_leads (table : Table) (constants : SymbolTable) (sources : List String) :
    (∀ (i : Nat) source, sources[i]? = some source →
      ∃ outcome, (table.evaluateAll constants sources)[i]? = some outcome ∧
        outcome.Leads source (table.afterAll constants (sources.take i))
          (table.afterAll constants (sources.take (i + 1)))) ∧
      ∃ columns, table.afterAll constants sources = ⟨table.rows, columns⟩ ∧
        Extends (table.assignedNames constants sources) table.columns columns := by
  refine ⟨?_, table.exists_afterAll_eq sources⟩
  intro i source found
  refine ⟨_, by rw [getElem?_evaluateAll, found, Option.map_some], ?_⟩
  have further : sources.take (i + 1) = sources.take i ++ [source] := by
    rw [List.take_add_one, found, Option.toList_some]
  rw [further, afterAll_append]
  exact leads_evaluate _ constants source

/-- Of two columns of a name the second one is kept, and `d` is appended once. -/
theorem evaluateAll_repeated_name :
    let table : Table := ⟨2, [⟨"a", .truths #v[some true, none]⟩, ⟨"a", .floats .single #v[none, none]⟩,
      ⟨"b", .others "string" #v[none, none]⟩]⟩
    ∃ columns, table.afterAll ∅ ["b = 2", "c = a", "d = b", "a = b / d", "d = 1 / 0", "d = -d"] = ⟨2, columns⟩ ∧
      columns.map (·.name) = ["a", "a", "b", "d"] ∧
      columns[1]? = some ⟨"a", .floats .single #v[none, none]⟩ := by
  intro table
  obtain ⟨_, columns, after, extended⟩ :=
    evaluateAll_leads table ∅ ["b = 2", "c = a", "d = b", "a = b / d", "d = 1 / 0", "d = -d"]
  have assigned : table.assignedNames ∅ ["b = 2", "c = a", "d = b", "a = b / d", "d = 1 / 0", "d = -d"] =
      ["b", "d", "a", "d"] := by
    decide +kernel
  rw [assigned] at extended
  refine ⟨columns, after, extended.names.trans (by decide), ?_⟩
  exact extended.kept 1 _ rfl (.inr ⟨0, Nat.one_pos, rfl⟩)

end Table
end Formulary
