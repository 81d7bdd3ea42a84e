import Mathlib.Data.List.Nodup
import ScrollCursor.Text.Case
import ScrollCursor.WriteBack.Plan

/-! # Tables by places

A table as a server keeps it: every row has a place of its own, which it keeps when its values
change. The place of a row that is gone stays empty. Whether two values are equal is up to the
server, and may depend on the column.
-/

namespace ScrollCursor

structure TableRow where
  /-- The values under the names of their columns, in capitals. -/
  value : String → Value

/-- The equality of a server on the values of a column other than NULL. -/
abbrev Agreement := String → Value → Value → Bool

namespace TableRow

/-- The value in a column, the name being compared without regard to case. -/
def get (row : TableRow) (name : String) : Value :=
  row.value (Text.upper name)

def set (row : TableRow) (a : ColumnValue) : TableRow where
  value name := if name = Text.upper a.column then a.value else row.value name

/-- The row with the values of some columns replaced. -/
def assign (row : TableRow) (values : List ColumnValue) : TableRow :=
  values.foldl set row

variable (agrees : Agreement)

/-- The row has the value of a term. -/
def holds (row : TableRow) (term : ColumnValue) : Bool :=
  if term.value.isNull then (row.get term.column).isNull
  else
    !(row.get term.column).isNull &&
      agrees (Text.upper term.column) (row.get term.column) term.value

/-- The row has the values of all terms. -/
def satisfies (row : TableRow) (terms : List ColumnValue) : Bool :=
  terms.all (row.holds agrees)

/-- Two rows have equal values in some columns, none of them NULL. -/
def clashes (names : List String) (row other : TableRow) : Bool :=
  names.all fun name =>
    !(row.get name).isNull && !(other.get name).isNull &&
      agrees (Text.upper name) (row.get name) (other.get name)

theorem get_set (row : TableRow) (a : ColumnValue) (name : String) :
    (row.set a).get name =
      if Text.sameName name a.column = true then a.value else row.get name := by
  simp [get, set, Text.sameName]

theorem get_eq_of_sameName (row : TableRow) {a b : String} (h : Text.sameName a b = true) :
    row.get a = row.get b := by
  rw [get, get, Text.sameName_iff.mp h]

end TableRow

/-- The rows of a table by their places. -/
abbrev Places := List (Option TableRow)

namespace Places

/-- No row clashes with another one. -/
def apart (agrees : Agreement) (names : List String) : Option TableRow → Option TableRow → Bool
  | some row, some other => !row.clashes agrees names other && !other.clashes agrees names row
  | _, _ => true

/-- No two rows have equal values in some columns, unless one of them is NULL. -/
def Distinct (agrees : Agreement) (names : List String) (t : Places) : Prop :=
  t.Pairwise fun a b => apart agrees names a b = true

instance (agrees : Agreement) (names : List String) (t : Places) :
    Decidable (t.Distinct agrees names) :=
  inferInstanceAs (Decidable (List.Pairwise _ t))

/-- The places whose rows have the values of all terms. -/
def matching (agrees : Agreement) (terms : List ColumnValue) (t : Places) : List Nat :=
  (List.range t.length).filter fun i => t[i]?.join.any (TableRow.satisfies agrees · terms)

/-- The table after an update. -/
def update (agrees : Agreement) (values terms : List ColumnValue) (t : Places) : Places :=
  t.map (Option.map fun row =>
    if row.satisfies agrees terms then row.assign values else row)

/-- The table after a delete. -/
def delete (agrees : Agreement) (terms : List ColumnValue) (t : Places) : Places :=
  t.map (Option.filter fun row => !row.satisfies agrees terms)

variable {agrees : Agreement} {terms : List ColumnValue} {t : Places} {place : Nat}
  {row : TableRow}

theorem mem_matching :
    place ∈ t.matching agrees terms ↔
      ∃ row, t[place]? = some (some row) ∧ row.satisfies agrees terms = true := by
  rw [matching, List.mem_filter, List.mem_range]
  constructor
  · rintro ⟨-, hany⟩
    obtain ⟨row, hrow, hsatisfies⟩ := (Option.any_eq_true _ _).mp hany
    exact ⟨row, Option.join_eq_some_iff.mp hrow, hsatisfies⟩
  · rintro ⟨row, hrow, hsatisfies⟩
    refine ⟨(List.getElem?_eq_some_iff.mp hrow).1, ?_⟩
    simp [hrow, hsatisfies]

theorem matching_eq_singleton
    (h : ∀ i, i ∈ t.matching agrees terms ↔ i = place) : t.matching agrees terms = [place] := by
  have hnodup : (t.matching agrees terms).Nodup := List.nodup_range.filter _
  have hplace : place ∈ t.matching agrees terms := (h place).mpr rfl
  cases hfound : t.matching agrees terms with
  | nil =>
      rw [hfound] at hplace
      cases hplace
  | cons i rest =>
      rw [hfound] at h hnodup
      have hi : i = place := (h i).mp List.mem_cons_self
      cases rest with
      | nil => rw [hi]
      | cons j rest =>
          have hj : j = place := (h j).mp (by simp)
          simp [hi, hj] at hnodup

/-- Two rows with equal values in columns that are to be distinct are one row. -/
theorem Distinct.eq_of_clashes {names : List String} (h : t.Distinct agrees names) {i j : Nat}
    {other : TableRow} (hrow : t[i]? = some (some row)) (hother : t[j]? = some (some other))
    (hclash : row.clashes agrees names other = true) : i = j := by
  obtain ⟨hi, hrowAt⟩ := List.getElem?_eq_some_iff.mp hrow
  obtain ⟨hj, hotherAt⟩ := List.getElem?_eq_some_iff.mp hother
  rcases Nat.lt_trichotomy i j with hlt | heq | hlt
  · have hapart := List.pairwise_iff_getElem.mp h i j hi hj hlt
    simp [hrowAt, hotherAt, apart, hclash] at hapart
  · exact heq
  · have hapart := List.pairwise_iff_getElem.mp h j i hj hi hlt
    simp [hrowAt, hotherAt, apart, hclash] at hapart

/-! ### Effects by place -/

theorem satisfies_eq_false (h : place ∉ t.matching agrees terms)
    (hrow : t[place]? = some (some row)) : row.satisfies agrees terms = false := by
  by_contra hsatisfies
  exact h (mem_matching.mpr ⟨row, hrow, by simpa using hsatisfies⟩)

theorem getElem?_update (values : List ColumnValue) (i : Nat) :
    (t.update agrees values terms)[i]? =
      if i ∈ t.matching agrees terms then t[i]?.map (Option.map (TableRow.assign · values))
      else t[i]? := by
  rw [update, List.getElem?_map]
  by_cases hmem : i ∈ t.matching agrees terms
  · obtain ⟨row, hrow, hsatisfies⟩ := mem_matching.mp hmem
    simp [hmem, hrow, hsatisfies]
  · rw [if_neg hmem]
    cases hrow : t[i]? with
    | none => rfl
    | some entry =>
        cases entry with
        | none => rfl
        | some row => simp [satisfies_eq_false hmem hrow]

theorem getElem?_delete (i : Nat) :
    (t.delete agrees terms)[i]? =
      if i ∈ t.matching agrees terms then some none else t[i]? := by
  rw [delete, List.getElem?_map]
  by_cases hmem : i ∈ t.matching agrees terms
  · obtain ⟨row, hrow, hsatisfies⟩ := mem_matching.mp hmem
    simp [hmem, hrow, hsatisfies]
  · rw [if_neg hmem]
    cases hrow : t[i]? with
    | none => rfl
    | some entry =>
        cases entry with
        | none => rfl
        | some row => simp [satisfies_eq_false hmem hrow]

end Places

end ScrollCursor
