import ScrollCursor.Positioned.Add
import ScrollCursor.Proofs.Table.ExactServer

/-! # Servers that number rows

What is relied upon of a server whose table has a column that it numbers by itself. A row that is
inserted has the values of the plan and NULL in all other columns, except that the numbered column
has a number if the plan gave it none. The answer reports that number.
-/

namespace ScrollCursor

/-- The values have nothing but NULL for a column. -/
def ColumnValue.LeaveOut (values : List ColumnValue) (name : String) : Prop :=
  ∀ a ∈ values, Text.sameName a.column name = true → a.value.isNull = true

/-- A row is stored as an insert says, with a number in the numbered column if it was left out. -/
structure TableRow.Stores (row : TableRow) (numbered : Option String) (values : List ColumnValue)
    (generated : Option Nat) : Prop where
  given : ∀ a ∈ values, a.value.isNull = false → row.get a.column = a.value
  omitted : ∀ name, ColumnValue.LeaveOut values name →
    numbered.any (Text.sameName · name) = false → row.get name = .null
  generates : ∀ name, numbered = some name → ColumnValue.LeaveOut values name →
    generated.isSome = true
  /-- The numbered column has the number that is reported. -/
  reported : ∀ n, generated = some n →
    ∃ name, numbered = some name ∧ row.get name = .integer (signed64 n)

/-- A server that has a table with a numbered column, with the laws of its answers. -/
structure NumberingServer (σ : Type) where
  server : Server σ
  ref : TableRef
  /-- What the server tells about the table, if it tells anything. -/
  metadata : Option TableMetadata
  /-- The column that the server numbers, if there is one. -/
  numbered : Option String
  /-- The columns in which no two rows are equal. -/
  uniques : List (List String)
  agrees : Agreement
  table : σ → Places
  table_metadata : ∀ ref s, table (server.metadata ref s).2 = table s
  metadata_eq : ∀ s answer, (server.metadata ref s).1 = .ok answer → answer = metadata
  table_refused : ∀ request s e, (server.execute request s).1 = .error e →
    table (server.execute request s).2 = table s
  updated : ∀ request s values terms answer, request.plan = some (.update ref values terms) →
    (server.execute request s).1 = .ok answer →
      answer.affected = ((table s).matching agrees terms).length ∧
        table (server.execute request s).2 = (table s).update agrees values terms
  deleted : ∀ request s terms answer, request.plan = some (.delete ref terms) →
    (server.execute request s).1 = .ok answer →
      answer.affected = ((table s).matching agrees terms).length ∧
        table (server.execute request s).2 = (table s).delete agrees terms
  inserted : ∀ request s values answer, request.plan = some (.insert ref values) →
    (server.execute request s).1 = .ok answer →
      answer.affected = 1 ∧
        ∃ row : TableRow, row.Stores numbered values answer.generated ∧
          table (server.execute request s).2 = table s ++ [some row]
  distinct : ∀ request s names, names ∈ uniques →
    (table s).Distinct agrees names → (table (server.execute request s).2).Distinct agrees names

/-! ## A server with one table -/

namespace TableRow

/-- The row with the values of a plan and NULL elsewhere. -/
def ofValues (values : List ColumnValue) : TableRow where
  value name := ((values.find? fun a => Text.upper a.column == name).map ColumnValue.value).getD .null

variable {values : List ColumnValue}

theorem get_ofValues_of_mem (hnodup : (values.map fun a => Text.upper a.column).Nodup)
    {a : ColumnValue} (ha : a ∈ values) : (ofValues values).get a.column = a.value := by
  have hfound : values.find? (fun b => Text.upper b.column == Text.upper a.column) = some a := by
    cases hfind : values.find? fun b => Text.upper b.column == Text.upper a.column with
    | none => exact absurd (beq_self_eq_true _) (List.find?_eq_none.mp hfind a ha)
    | some b =>
        have hsame := List.find?_some hfind
        rw [List.inj_on_of_nodup_map hnodup (List.mem_of_find?_eq_some hfind) ha
          (beq_iff_eq.mp hsame)]
  simp only [get, ofValues, hfound, Option.map_some, Option.getD_some]

/-- A column without a value is null. -/
theorem get_ofValues_of_leaveOut {name : String} (h : ColumnValue.LeaveOut values name) :
    (ofValues values).get name = .null := by
  change ((values.find? fun a => Text.upper a.column == Text.upper name).map _).getD Value.null = _
  cases hfind : values.find? fun a => Text.upper a.column == Text.upper name with
  | none => rfl
  | some a =>
      have hsame := List.find?_some hfind
      rw [beq_iff_eq] at hsame
      have hnull := h a (List.mem_of_find?_eq_some hfind) (Text.sameName_iff.mpr hsame)
      change a.value = .null
      cases hvalue : a.value with
      | null => rfl
      | _ => rw [hvalue] at hnull; cases hnull

end TableRow

/-- The rows of a table with the number that the next row gets. -/
structure NumberedTable where
  places : Places
  next : Nat

namespace NumberedTable

instance (values : List ColumnValue) (name : String) :
    Decidable (ColumnValue.LeaveOut values name) :=
  inferInstanceAs (Decidable (∀ a ∈ values, _ → _))

/-- The row that an insert adds to the table, and its number if it gets one. -/
def newRow (numbered : Option String) (values : List ColumnValue) (next : Nat) :
    TableRow × Option Nat :=
  match numbered with
  | none => (.ofValues values, none)
  | some name =>
      if ColumnValue.LeaveOut values name then
        ((TableRow.ofValues values).set ⟨name, .bigInt, .integer (signed64 next)⟩, some next)
      else (.ofValues values, none)

/-- A new row stores the values given, and the next number where none is. -/
theorem newRow_stores {numbered : Option String} {values : List ColumnValue}
    (hnodup : (values.map fun a => Text.upper a.column).Nodup) (next : Nat) :
    (newRow numbered values next).1.Stores numbered values (newRow numbered values next).2 := by
  have hgiven := fun a (ha : a ∈ values) (_ : a.value.isNull = false) =>
    TableRow.get_ofValues_of_mem hnodup ha
  cases numbered with
  | none =>
      exact ⟨hgiven, fun name hleft _ => TableRow.get_ofValues_of_leaveOut hleft,
        fun _ hname => (nomatch hname), fun _ hn => (nomatch hn)⟩
  | some name =>
      by_cases hleft : ColumnValue.LeaveOut values name
      · rw [newRow, if_pos hleft]
        refine ⟨fun a ha hnull => ?_, fun other hother hname => ?_, fun _ _ _ => rfl,
          fun n hn => ⟨name, rfl, ?_⟩⟩
        · rw [TableRow.get_set, if_neg fun hsame => ?_, hgiven a ha hnull]
          rw [hleft a ha hsame] at hnull
          cases hnull
        · rw [TableRow.get_set, if_neg fun hsame => ?_, TableRow.get_ofValues_of_leaveOut hother]
          rw [Option.any_some, Text.sameName_symm hsame] at hname
          cases hname
        · cases hn
          rw [TableRow.get_set, if_pos (Text.sameName_refl name)]
      · rw [newRow, if_neg hleft]
        refine ⟨hgiven, fun other hother _ => TableRow.get_ofValues_of_leaveOut hother,
          fun other hother hout => ?_, fun _ hn => (nomatch hn)⟩
        cases hother
        exact absurd hout hleft

/-- The answer to a plan, and the table afterwards. An insert names no column twice. -/
def perform (ref : TableRef) (numbered : Option String) (t : NumberedTable) :
    Plan → Option (WriteAnswer × NumberedTable)
  | .insert table values =>
      if table = ref ∧ (values.map fun a => Text.upper a.column).Nodup then
        let (row, generated) := newRow numbered values t.next
        some (⟨1, generated⟩, ⟨t.places ++ [some row], t.next + 1⟩)
      else none
  | plan =>
      (t.places.perform ref plan).map fun (affected, places) =>
        ({ affected := affected }, { t with places := places })

/-- A plan is carried out if the rows stay distinct. -/
def execute (ref : TableRef) (numbered : Option String) (uniques : List (List String))
    (request : Request) (t : NumberedTable) : Except Error WriteAnswer × NumberedTable :=
  match request.plan.bind (t.perform ref numbered) with
  | none => (.error Places.refused, t)
  | some (answer, after) =>
      if ∀ names ∈ uniques, after.places.Distinct Places.sameText names then (.ok answer, after)
      else (.error Places.refused, t)

variable {ref : TableRef} {numbered : Option String} {uniques : List (List String)}
  {request : Request} {t : NumberedTable} {answer : WriteAnswer}

/-- A request that is refused leaves the table. -/
theorem execute_error {e : Error} (h : (execute ref numbered uniques request t).1 = .error e) :
    (execute ref numbered uniques request t).2 = t := by
  unfold execute at h ⊢
  split at h
  · rfl
  · split at h
    · cases h
    next hdistinct => exact congrArg Prod.snd (if_neg hdistinct)

theorem execute_ok (h : (execute ref numbered uniques request t).1 = .ok answer) :
    request.plan.bind (t.perform ref numbered) =
        some (answer, (execute ref numbered uniques request t).2) ∧
      ∀ names ∈ uniques,
        (execute ref numbered uniques request t).2.places.Distinct Places.sameText names := by
  unfold execute at h ⊢
  split at h
  · cases h
  next found after hperform =>
    split at h
    next hdistinct =>
      cases h
      rw [hperform, if_pos hdistinct]
      exact ⟨rfl, hdistinct⟩
    · cases h

/-- What a plan does to the table is what a request with that plan does. -/
theorem execute_ok_of_perform {plan : Plan} {given : WriteAnswer} {after : NumberedTable}
    (hplan : request.plan = some plan) (hperform : t.perform ref numbered plan = some (given, after))
    (h : (execute ref numbered uniques request t).1 = .ok answer) :
    answer = given ∧ (execute ref numbered uniques request t).2 = after := by
  have hdone := (execute_ok h).1
  rw [hplan, Option.bind_some, hperform] at hdone
  obtain ⟨hanswer, hafter⟩ := Prod.mk.inj (Option.some.inj hdone)
  exact ⟨hanswer.symm, hafter.symm⟩

theorem perform_update (values terms : List ColumnValue) :
    t.perform ref numbered (.update ref values terms) =
      some ({ affected := (t.places.matching Places.sameText terms).length },
        { t with places := t.places.update Places.sameText values terms }) := by
  simp [perform, Places.perform]

theorem perform_delete (terms : List ColumnValue) :
    t.perform ref numbered (.delete ref terms) =
      some ({ affected := (t.places.matching Places.sameText terms).length },
        { t with places := t.places.delete Places.sameText terms }) := by
  simp [perform, Places.perform]

theorem execute_ok_of_insert {values : List ColumnValue}
    (hplan : request.plan = some (.insert ref values))
    (h : (execute ref numbered uniques request t).1 = .ok answer) :
    answer.affected = 1 ∧
      ∃ row : TableRow, row.Stores numbered values answer.generated ∧
        (execute ref numbered uniques request t).2.places = t.places ++ [some row] := by
  have hdone := (execute_ok h).1
  rw [hplan, Option.bind_some, perform] at hdone
  split at hdone
  next hnames =>
    obtain ⟨hanswer, hafter⟩ := Prod.mk.inj (Option.some.inj hdone)
    subst hanswer
    exact ⟨rfl, _, newRow_stores hnames.2 t.next, congrArg NumberedTable.places hafter.symm⟩
  · cases hdone

/-- No request makes two rows agree in what is to be unique. -/
theorem distinct_execute {names : List String} (hnames : names ∈ uniques)
    (hdistinct : t.places.Distinct Places.sameText names) :
    (execute ref numbered uniques request t).2.places.Distinct Places.sameText names := by
  cases hanswer : (execute ref numbered uniques request t).1 with
  | error e => rwa [execute_error hanswer]
  | ok answer => exact (execute_ok hanswer).2 names hnames

end NumberedTable

/-- The server whose state is its only table. -/
def NumberingServer.ofTable (ref : TableRef) (metadata : Option TableMetadata)
    (numbered : Option String) (uniques : List (List String)) : NumberingServer NumberedTable where
  server :=
    { query := fun _ t => (.error Places.refused, t)
      execute := NumberedTable.execute ref numbered uniques
      metadata := fun _ t => (.ok metadata, t) }
  ref := ref
  metadata := metadata
  numbered := numbered
  uniques := uniques
  agrees := Places.sameText
  table := NumberedTable.places
  table_metadata _ _ := rfl
  metadata_eq _ _ h := (Except.ok.inj h).symm
  table_refused _ _ _ h := congrArg NumberedTable.places (NumberedTable.execute_error h)
  updated _ _ values terms _ hplan h := by
    have hdone :=
      NumberedTable.execute_ok_of_perform hplan (NumberedTable.perform_update values terms) h
    exact ⟨congrArg WriteAnswer.affected hdone.1, congrArg NumberedTable.places hdone.2⟩
  deleted _ _ terms _ hplan h := by
    have hdone := NumberedTable.execute_ok_of_perform hplan (NumberedTable.perform_delete terms) h
    exact ⟨congrArg WriteAnswer.affected hdone.1, congrArg NumberedTable.places hdone.2⟩
  inserted _ _ _ _ hplan h := NumberedTable.execute_ok_of_insert hplan h
  distinct _ _ _ hnames hdistinct := NumberedTable.distinct_execute hnames hdistinct

end ScrollCursor
