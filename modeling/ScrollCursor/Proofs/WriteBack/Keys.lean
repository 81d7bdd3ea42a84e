import ScrollCursor.Proofs.Key.Priority
import ScrollCursor.Proofs.Results
import ScrollCursor.Proofs.Table.ExactServer

/-! # Keys and the rows they find

The terms of a true key are the values that a row has in columns which no other row shares, so they
find that row and no other.
-/

namespace ScrollCursor

/-- A record has the values of a row in the columns of a table that a result shows. -/
def Record.Shows (record : Record) (d : ResultDescriptor) (table : TableRef) (row : TableRow) :
    Prop :=
  ∀ ordinal c, (ordinal, c) ∈ d.columnsOf table → record[ordinal]? = some (row.get c.baseColumn)

theorem ResultDescriptor.mem_columnsOf {d : ResultDescriptor} {table : TableRef} {ordinal : Nat}
    {c : Column} :
    (ordinal, c) ∈ d.columnsOf table ↔ d[ordinal]? = some c ∧ c.belongsTo table = true := by
  simp only [columnsOf, List.mem_map, List.mem_filter, Prod.mk.injEq, Prod.exists,
    List.mem_zipIdx_iff_getElem?]
  constructor
  · rintro ⟨c', i, ⟨hat, hbelongs⟩, rfl, rfl⟩
    exact ⟨hat, hbelongs⟩
  · rintro ⟨hat, hbelongs⟩
    exact ⟨c, ordinal, ⟨hat, hbelongs⟩, rfl, rfl⟩

/-- A key column shows a column of the table under its name. -/
def KeyColumn.Shows (d : ResultDescriptor) (table : TableRef) (name : String) (k : KeyColumn) :
    Prop :=
  ∃ c, (k.ordinal, c) ∈ d.columnsOf table ∧ k.name = c.baseColumn ∧
    Text.sameName c.baseColumn name = true

namespace KeySet

variable {d : ResultDescriptor} {table : TableRef} {m : TableMetadata} {key : KeySet}

/-! ### Chosen keys -/

theorem Component.shows {name : String} {k : KeyColumn} (h : Component d table name k) :
    k.Shows d table name := by
  obtain ⟨c, hfirst, -, hname, -⟩ := h
  exact ⟨c, ResultDescriptor.mem_columnsOf.mpr ⟨hfirst.found, hfirst.belongs⟩, hname, hfirst.named⟩

/-- A true key is made of columns that the metadata says are unique. -/
theorem exists_uniqueColumns (h : ofMetadata d table m = .ok key) (hunique : key.isUnique = true) :
    key.table = table ∧ ∃ names ∈ m.uniqueColumns,
      List.Forall₂ (fun name k => KeyColumn.Shows d table name k) names key.columns := by
  have hmem {names : List String} (hsome : names ≠ [])
      (hnames : names ∈ m.primaryKey :: m.uniqueIndexes.map UniqueIndex.columns) :
      names ∈ m.uniqueColumns := by
    rw [TableMetadata.uniqueColumns, List.mem_filter]
    exact ⟨hnames, by simpa using hsome⟩
  have hchosen : Chosen d table (.ofMetadata m) (.ok key) :=
    (ofTable_eq_iff (m := some m)).mp h
  cases hchosen with
  | primaryKey husable =>
      exact ⟨rfl, _, hmem husable.1 List.mem_cons_self,
        husable.2.imp fun _ _ => Component.shows⟩
  | @uniqueIndex name columns hprimary hshortest =>
      obtain ⟨before, names, after, hsets, husable, -, -⟩ := hshortest
      have hset : (name, names) ∈ m.uniqueIndexes.map fun ix => (ix.name, ix.columns) := by
        change (name, names) ∈ (Known.ofMetadata m).unique
        rw [hsets]
        exact List.mem_append_right before List.mem_cons_self
      obtain ⟨index, hindex, heq⟩ := List.mem_map.mp hset
      cases heq
      exact ⟨rfl, _, hmem husable.1 (List.mem_cons_of_mem _ (List.mem_map_of_mem hindex)),
        husable.2.imp fun _ _ => Component.shows⟩
  | allColumns => cases hunique

/-! ### Terms of a row -/

/-- A term asks for the value that a row has in a named column, which is not NULL. -/
def AsksFor (row : TableRow) (name : String) (t : ColumnValue) : Prop :=
  Text.sameName t.column name = true ∧ t.value = row.get name ∧ t.value.isNull = false

/-- A record has the value of a row in the column of a key under a name of its own. -/
def Has (image : Record) (row : TableRow) (name : String) (k : KeyColumn) : Prop :=
  Text.sameName k.name name = true ∧ image[k.ordinal]? = some (row.get name)

theorem has_of_shows {image : Record} {row : TableRow} {name : String} {k : KeyColumn}
    (hk : k.Shows d table name) (himage : image.Shows d table row) : Has image row name k := by
  obtain ⟨c, hc, hname, hsame⟩ := hk
  refine ⟨hname ▸ hsame, ?_⟩
  rw [himage k.ordinal c hc, row.get_eq_of_sameName hsame]

theorem asksFor_of_term {image : Record} {row : TableRow} {name : String} {k : KeyColumn}
    {t : ColumnValue} (hunique : key.isUnique = true) (hk : Has image row name k)
    (h : key.term image k = .ok t) : AsksFor row name t := by
  unfold KeySet.term at h
  rw [hk.2] at h
  dsimp only at h
  split at h
  · cases h
  next hnull =>
    cases h
    rw [hunique, Bool.and_true, Bool.not_eq_true] at hnull
    exact ⟨hk.1, rfl, hnull⟩

theorem asksFor_of_terms {image : Record} {row : TableRow} {names : List String}
    {columns : List KeyColumn} {terms : List ColumnValue} (hunique : key.isUnique = true)
    (hcolumns : List.Forall₂ (Has image row) names columns)
    (h : columns.mapM (key.term image) = .ok terms) :
    List.Forall₂ (AsksFor row) names terms := by
  induction hcolumns generalizing terms with
  | nil =>
      cases h
      exact .nil
  | cons hk hrest ih =>
      obtain ⟨t, rest, ht, hterms, rfl⟩ := Results.mapM_cons_eq_ok.mp h
      exact .cons (asksFor_of_term hunique hk ht) (ih hterms)

variable {agrees : Agreement} {row other : TableRow} {names : List String}
  {terms : List ColumnValue}

theorem satisfies_of_asksFor (h : List.Forall₂ (AsksFor row) names terms)
    (hself : ∀ t ∈ terms, t.value.isNull = false →
      agrees (Text.upper t.column) t.value t.value = true) :
    row.satisfies agrees terms = true := by
  induction h with
  | nil => rfl
  | @cons name t names terms ht hrest ih =>
      obtain ⟨hsame, hvalue, hnull⟩ := ht
      have hget : row.get t.column = t.value := by
        rw [hvalue, row.get_eq_of_sameName hsame]
      have hagrees := hself t List.mem_cons_self hnull
      have hrest := ih fun u hu => hself u (List.mem_cons_of_mem t hu)
      rw [TableRow.satisfies, List.all_cons, Bool.and_eq_true]
      exact ⟨by simp [TableRow.holds, hget, hnull, hagrees], hrest⟩

/-- Another row that has the values of all terms has equal values in all named columns. -/
theorem clashes_of_asksFor (h : List.Forall₂ (AsksFor row) names terms)
    (hother : other.satisfies agrees terms = true) : other.clashes agrees names row = true := by
  induction h with
  | nil => rfl
  | @cons name t names terms ht hrest ih =>
      obtain ⟨hsame, hvalue, hnull⟩ := ht
      rw [TableRow.satisfies, List.all_cons, Bool.and_eq_true] at hother
      obtain ⟨hholds, hothers⟩ := hother
      rw [hvalue] at hnull
      rw [TableRow.holds, hvalue, hnull, if_neg Bool.noConfusion,
        other.get_eq_of_sameName hsame, Text.sameName_iff.mp hsame, Bool.and_eq_true] at hholds
      rw [TableRow.clashes, List.all_cons, Bool.and_eq_true]
      exact ⟨by simp [hholds, hnull], ih hothers⟩

end KeySet

/-! ### Rows found -/

theorem Dialect.exists_value_of_predicate {s : Dialect} {terms : List ColumnValue}
    {found : Fragment} (h : s.predicate terms = .ok found) {t : ColumnValue} (ht : t ∈ terms)
    (hnull : t.value.isNull = false) : ∃ text, s.value t.value t.sqlType = .ok text := by
  obtain ⟨comparisons, hcomparisons, -⟩ := Results.bind_eq_ok.mp h
  obtain ⟨f, -, hf⟩ := Results.exists_mem_of_mapM hcomparisons ht
  rw [Dialect.comparison, hnull, if_neg Bool.noConfusion] at hf
  obtain ⟨text, htext, -⟩ := Results.bind_eq_ok.mp hf
  exact ⟨text, htext⟩

namespace ExactServer

variable {σ : Type} (S : ExactServer σ) {d : ResultDescriptor} {key : KeySet}

/-- The terms of a true key find the row that they were taken from and no other. -/
theorem matching_terms {s : σ} {place : Nat} {row : TableRow} {image : Record}
    {terms : List ColumnValue} {dialect : Dialect} {found : Fragment}
    (hkey : KeySet.ofMetadata d S.ref S.metadata = .ok key) (hunique : key.isUnique = true)
    (hdistinct : ∀ names ∈ S.metadata.uniqueColumns, (S.table s).Distinct S.agrees names)
    (hrow : (S.table s)[place]? = some (some row)) (himage : image.Shows d S.ref row)
    (hterms : key.terms image = .ok terms) (hfound : dialect.predicate terms = .ok found) :
    (S.table s).matching S.agrees terms = [place] := by
  obtain ⟨-, names, hnames, hcolumns⟩ := KeySet.exists_uniqueColumns hkey hunique
  have hasks := KeySet.asksFor_of_terms hunique
    (hcolumns.imp fun _ _ hk => KeySet.has_of_shows hk himage) hterms
  have hself : row.satisfies S.agrees terms = true := by
    refine KeySet.satisfies_of_asksFor hasks fun t ht hnull => ?_
    obtain ⟨text, htext⟩ := Dialect.exists_value_of_predicate hfound ht hnull
    exact S.agrees_self _ _ _ _ _ hnull htext
  refine Places.matching_eq_singleton fun i => ?_
  rw [Places.mem_matching]
  constructor
  · rintro ⟨other, hother, hsatisfies⟩
    exact (hdistinct names hnames).eq_of_clashes hother hrow
      (KeySet.clashes_of_asksFor hasks hsatisfies)
  · rintro rfl
    exact ⟨row, hrow, hself⟩

end ExactServer

end ScrollCursor
