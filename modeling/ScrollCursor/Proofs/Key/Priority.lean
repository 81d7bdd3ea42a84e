import Mathlib.Data.List.Sort
import ScrollCursor.Key.Resolution

/-! # Which key is chosen

Two sources tell of the keys of a table: its metadata, or the flags of the result columns where
there is none. The rule is the same for both. The primary key comes first, then the unique set with
the fewest columns, then all columns of the table, and a name counts by the first result column that
shows it. The rule leaves nothing open, so a key is resolved to what the rule says and to nothing
else.
-/

namespace ScrollCursor

/-- The column at an ordinal is the first one of the table with the name. -/
structure ResultDescriptor.FirstShows (d : ResultDescriptor) (table : TableRef) (name : String)
    (ordinal : Nat) (c : Column) : Prop where
  found : d[ordinal]? = some c
  belongs : c.belongsTo table = true
  named : Text.sameName c.baseColumn name = true
  first : ∀ i c', i < ordinal → d[i]? = some c' → c'.belongsTo table = true →
    Text.sameName c'.baseColumn name = false

namespace KeySet

variable (d : ResultDescriptor) (table : TableRef)

/-- The key column of a name: the first result column that shows it, which is not long. -/
def Component (name : String) (k : KeyColumn) : Prop :=
  ∃ c, d.FirstShows table name k.ordinal c ∧ c.sqlType.isLong = false ∧
    k.name = c.baseColumn ∧ k.sqlType = c.sqlType

/-- One or more names, with a key column for each of them. -/
def Usable (names : List String) (columns : List KeyColumn) : Prop :=
  names ≠ [] ∧ List.Forall₂ (Component d table) names columns

/-- What is known of the keys of a table: its primary key, its named unique sets in the order of
their declaration, and its columns. -/
structure Known where
  primary : List String
  unique : List (String × List String)
  columns : List String

/-- What metadata tells. -/
def Known.ofMetadata (m : TableMetadata) : Known where
  primary := m.primaryKey
  unique := m.uniqueIndexes.map fun ix => (ix.name, ix.columns)
  columns := m.columns.map TableColumn.name

/-- What the flags of the result columns tell. A column that is flagged as unique is a unique set of
its own, so that the first usable one has the fewest columns. -/
def Known.ofFlags : Known where
  primary := ((ownColumns d table).filter Column.primaryKey).map Column.baseColumn
  unique := ((ownColumns d table).filter Column.uniqueKey).map fun c =>
    (c.baseColumn, [c.baseColumn])
  columns := (ownColumns d table).map Column.baseColumn

/-- Metadata goes before flags. -/
def Known.of : Option TableMetadata → Known
  | some m => .ofMetadata m
  | none => .ofFlags d table

/-- The unique sets that are usable, with their columns. -/
def candidates (unique : List (String × List String)) : List (String × List KeyColumn) :=
  unique.filterMap fun set => (candidate? d table set.2).map fun columns => (set.1, columns)

/-- A usable unique set has its columns: no other one has fewer, and none declared before it has as
few. -/
def Shortest (unique : List (String × List String)) (name : String) (columns : List KeyColumn) :
    Prop :=
  ∃ before names after, unique = before ++ (name, names) :: after ∧ Usable d table names columns ∧
    (∀ other ∈ before, ∀ others, Usable d table other.2 others → columns.length < others.length) ∧
    ∀ other ∈ after, ∀ others, Usable d table other.2 others → columns.length ≤ others.length

/-- The key columns of the names that are neither long nor inexact, in the order of the result. -/
structure Remaining (names : List String) (columns : List KeyColumn) : Prop where
  increasing : columns.Pairwise fun a b => a.ordinal < b.ordinal
  mem_iff : ∀ k, k ∈ columns ↔
    (∃ name ∈ names, Component d table name k) ∧ k.sqlType.isInexact = false

/-- No true key is usable. -/
structure NoTrueKey (known : Known) : Prop where
  primary : ∀ columns, ¬ Usable d table known.primary columns
  unique : ∀ other ∈ known.unique, ∀ columns, ¬ Usable d table other.2 columns

/-- The rule by which a key is chosen. -/
inductive Chosen (known : Known) : Except Error KeySet → Prop
  | primaryKey {columns : List KeyColumn} (h : Usable d table known.primary columns) :
      Chosen known (.ok ⟨table, columns, .primaryKey⟩)
  | uniqueIndex {name : String} {columns : List KeyColumn}
      (hprimary : ∀ others, ¬ Usable d table known.primary others)
      (h : Shortest d table known.unique name columns) :
      Chosen known (.ok ⟨table, columns, .uniqueIndex name⟩)
  | allColumns {columns : List KeyColumn} (htrue : NoTrueKey d table known)
      (h : Remaining d table known.columns columns) (hsome : columns ≠ []) :
      Chosen known (.ok ⟨table, columns, .allColumns⟩)
  | none (htrue : NoTrueKey d table known) (h : Remaining d table known.columns []) :
      Chosen known (.error (.noUsableKey table.text))

/-- The key by what is known of the table. -/
def ofKnown (known : Known) : Except Error KeySet :=
  match candidate? d table known.primary with
  | some columns => .ok ⟨table, columns, .primaryKey⟩
  | none =>
      match shortest? (candidates d table known.unique) with
      | some (name, columns) => .ok ⟨table, columns, .uniqueIndex name⟩
      | none => fallback d table known.columns

/-- A key whose columns are columns of the table in the result. -/
structure WellFormed (key : KeySet) : Prop where
  table_eq : key.table = table
  nonempty : key.columns ≠ []
  columns : ∀ k ∈ key.columns, ∃ c, d[k.ordinal]? = some c ∧ c.belongsTo table = true ∧
    c.sqlType.isLong = false ∧ k.name = c.baseColumn ∧ k.sqlType = c.sqlType
  increasing : key.source = .allColumns →
    key.columns.Pairwise fun a b => a.ordinal < b.ordinal

variable {d table} {name : String} {names : List String} {k : KeyColumn}
  {columns : List KeyColumn} {known : Known}

/-! ## Names and their columns -/

/-- A name is found just if the result has a column for it. -/
theorem column?_eq_some : column? d table name = some k ↔ Component d table name k := by
  unfold column? ResultDescriptor.ordinalOf?
  constructor
  · intro h
    obtain ⟨ordinal, hordinal, h⟩ := Option.bind_eq_some_iff.mp h
    obtain ⟨c, hc, h⟩ := Option.bind_eq_some_iff.mp h
    obtain ⟨hlt, hshows, hfirst⟩ := List.findIdx?_eq_some_iff_getElem.mp hordinal
    rw [List.getElem?_eq_getElem hlt] at hc
    cases hc
    simp only [Column.shows, Bool.and_eq_true] at hshows
    split at h
    · cases h
    next hlong =>
      cases h
      refine ⟨_, ⟨List.getElem?_eq_getElem hlt, hshows.1, hshows.2, ?_⟩, by simpa using hlong, rfl,
        rfl⟩
      intro i c' hi hc' hbelongs
      rw [List.getElem?_eq_getElem (Nat.lt_trans hi hlt)] at hc'
      cases hc'
      simpa [Column.shows, hbelongs] using hfirst i hi
  · rintro ⟨c, hfirst, hlong, hname, htype⟩
    have hfound := hfirst.found
    obtain ⟨hlt, rfl⟩ := List.getElem?_eq_some_iff.mp hfound
    have hordinal : d.findIdx? (Column.shows · table name) = some k.ordinal := by
      refine List.findIdx?_eq_some_iff_getElem.mpr ⟨hlt, ?_, fun i hi => ?_⟩
      · simp [Column.shows, hfirst.belongs, hfirst.named]
      · have hother := hfirst.first i _ hi (List.getElem?_eq_getElem (Nat.lt_trans hi hlt))
        simpa [Column.shows] using hother
    rw [hordinal, Option.bind_eq_bind, Option.bind_some, hfound, Option.bind_eq_bind,
      Option.bind_some, hlong, if_neg Bool.false_ne_true, ← hname, ← htype]

/-- All names are found just if the result has a column for each. -/
theorem mapM_column?_eq_some :
    names.mapM (column? d table) = some columns ↔
      List.Forall₂ (Component d table) names columns := by
  induction names generalizing columns with
  | nil =>
      rw [List.mapM_nil, List.forall₂_nil_left_iff]
      exact ⟨fun h => (Option.some.inj h).symm, fun h => congrArg some h.symm⟩
  | cons name names ih =>
      rw [List.mapM_cons, List.forall₂_cons_left_iff]
      constructor
      · intro h
        obtain ⟨k, hk, h⟩ := Option.bind_eq_some_iff.mp h
        obtain ⟨rest, hrest, h⟩ := Option.bind_eq_some_iff.mp h
        cases h
        exact ⟨k, rest, column?_eq_some.mp hk, ih.mp hrest, rfl⟩
      · rintro ⟨k, rest, hk, hrest, rfl⟩
        rw [column?_eq_some.mpr hk, ih.mpr hrest]
        rfl

/-- Names make a key just if each has a column that may be in one. -/
theorem candidate?_eq_some :
    candidate? d table names = some columns ↔ Usable d table names columns := by
  unfold candidate? Usable
  cases names with
  | nil => simp
  | cons name names =>
      rw [List.isEmpty_cons, if_neg Bool.false_ne_true, mapM_column?_eq_some]
      simp only [ne_eq, reduceCtorEq, not_false_eq_true, true_and]

/-- Names make no key just if no columns of theirs may be in one. -/
theorem candidate?_eq_none :
    candidate? d table names = none ↔ ∀ columns, ¬ Usable d table names columns := by
  simp only [Option.eq_none_iff_forall_ne_some, ne_eq, candidate?_eq_some]

/-! ## The shortest candidate -/

/-- The shortest candidate is shorter than those before it and no longer than those after it. -/
theorem shortest?_eq_some {candidates : List (String × List KeyColumn)}
    {best : String × List KeyColumn} :
    shortest? candidates = some best ↔
      ∃ before after, candidates = before ++ best :: after ∧
        (∀ other ∈ before, best.2.length < other.2.length) ∧
        ∀ other ∈ after, best.2.length ≤ other.2.length := by
  induction candidates generalizing best with
  | nil => simp [shortest?]
  | cons first rest ih =>
      constructor
      · intro h
        unfold shortest? at h
        split at h
        next hnone =>
          cases h
          cases rest with
          | nil => exact ⟨[], [], rfl, by simp, by simp⟩
          | cons second rest =>
              unfold shortest? at hnone
              split at hnone
              · cases hnone
              · split at hnone <;> cases hnone
        next found hfound =>
          obtain ⟨before, after, rfl, hbefore, hafter⟩ := ih.mp hfound
          split at h
          next hlt =>
            cases h
            refine ⟨first :: before, after, rfl, fun other hother => ?_, hafter⟩
            rcases List.mem_cons.mp hother with rfl | hother
            · exact hlt
            · exact hbefore other hother
          next hle =>
            cases h
            refine ⟨[], before ++ found :: after, rfl, by simp, fun other hother => ?_⟩
            have hfirst := Nat.not_lt.mp hle
            rcases List.mem_append.mp hother with hother | hother
            · exact Nat.le_trans hfirst (Nat.le_of_lt (hbefore other hother))
            · rcases List.mem_cons.mp hother with rfl | hother
              · exact hfirst
              · exact Nat.le_trans hfirst (hafter other hother)
      · rintro ⟨before, after, heq, hbefore, hafter⟩
        cases before with
        | nil =>
            cases heq
            unfold shortest?
            split
            · rfl
            next found hfound =>
              -- What is found later is not shorter than the first one.
              obtain ⟨before, after, rfl, -, -⟩ := ih.mp hfound
              rw [if_neg (Nat.not_lt.mpr (hafter found (by simp)))]
        | cons other before =>
            rw [List.cons_append] at heq
            obtain ⟨rfl, rfl⟩ := List.cons_eq_cons.mp heq
            have hfound : shortest? (before ++ best :: after) = some best :=
              ih.mpr ⟨before, after, rfl, fun x hx => hbefore x (List.mem_cons_of_mem _ hx), hafter⟩
            rw [shortest?, hfound]
            exact if_pos (hbefore first List.mem_cons_self)

/-- There is a shortest candidate if there is any. -/
theorem shortest?_eq_none {candidates : List (String × List KeyColumn)} :
    shortest? candidates = none ↔ candidates = [] := by
  cases candidates with
  | nil => simp [shortest?]
  | cons first rest =>
      unfold shortest?
      split
      · simp
      · split <;> simp

/-- Among candidates of one size the earliest is the shortest. -/
theorem shortest?_eq_head? {candidates : List (String × List KeyColumn)} {size : Nat}
    (h : ∀ found ∈ candidates, found.2.length = size) :
    shortest? candidates = candidates.head? := by
  cases candidates with
  | nil => rfl
  | cons first rest =>
      refine shortest?_eq_some.mpr ⟨[], rest, rfl, by simp, fun other hother => ?_⟩
      rw [h first List.mem_cons_self, h other (List.mem_cons_of_mem _ hother)]

/-- The candidates are the unique indexes that can be used. -/
theorem mem_candidates {unique : List (String × List String)} {found : String × List KeyColumn} :
    found ∈ candidates d table unique ↔
      ∃ names, (found.1, names) ∈ unique ∧ Usable d table names found.2 := by
  simp only [candidates, List.mem_filterMap, Option.map_eq_some_iff, candidate?_eq_some]
  constructor
  · rintro ⟨set, hmem, columns, husable, rfl⟩
    exact ⟨set.2, hmem, husable⟩
  · rintro ⟨names, hmem, husable⟩
    exact ⟨(found.1, names), hmem, found.2, husable, rfl⟩

/-- There are none if no unique index can be used. -/
theorem candidates_eq_nil {unique : List (String × List String)} :
    candidates d table unique = [] ↔
      ∀ other ∈ unique, ∀ columns, ¬ Usable d table other.2 columns := by
  simp only [candidates, List.filterMap_eq_nil_iff, Option.map_eq_none_iff, candidate?_eq_none]

/-- The unique index chosen is the shortest that can be used. -/
theorem shortest?_candidates {unique : List (String × List String)} :
    shortest? (candidates d table unique) = some (name, columns) ↔
      Shortest d table unique name columns := by
  rw [shortest?_eq_some]
  constructor
  · rintro ⟨before', after', heq, hbefore, hafter⟩
    obtain ⟨before, rest, rfl, rfl, hrest⟩ := List.filterMap_eq_append_iff.mp heq
    obtain ⟨skipped, ⟨name', names⟩, after, rfl, hskipped, hset, rfl⟩ :=
      List.filterMap_eq_cons_iff.mp hrest
    obtain ⟨columns', hcandidate, heq⟩ := Option.map_eq_some_iff.mp hset
    cases heq
    refine ⟨before ++ skipped, names, after, by rw [List.append_assoc],
      candidate?_eq_some.mp hcandidate, fun other hother others husable => ?_,
      fun other hother others husable => ?_⟩
    · rcases List.mem_append.mp hother with hother | hother
      · exact hbefore (other.1, others) (mem_candidates.mpr ⟨other.2, hother, husable⟩)
      · have hnone := candidate?_eq_none.mp (Option.map_eq_none_iff.mp (hskipped other hother))
        exact absurd husable (hnone others)
    · exact hafter (other.1, others) (mem_candidates.mpr ⟨other.2, hother, husable⟩)
  · rintro ⟨before, names, after, rfl, husable, hbefore, hafter⟩
    refine ⟨candidates d table before, candidates d table after, ?_, fun other hother => ?_,
      fun other hother => ?_⟩
    · rw [candidates, List.filterMap_append, List.filterMap_cons, candidate?_eq_some.mpr husable]
      rfl
    · obtain ⟨names', hmem, hother⟩ := mem_candidates.mp hother
      exact hbefore (other.1, names') hmem other.2 hother
    · obtain ⟨names', hmem, hother⟩ := mem_candidates.mp hother
      exact hafter (other.1, names') hmem other.2 hother

/-! ## The columns that remain -/

/-- A column is told by its ordinal. -/
theorem Component.ext {name' : String} {k' : KeyColumn} (h : Component d table name k)
    (h' : Component d table name' k') (hordinal : k.ordinal = k'.ordinal) : k = k' := by
  obtain ⟨c, hfirst, -, hname, htype⟩ := h
  obtain ⟨c', hfirst', -, hname', htype'⟩ := h'
  have hfound := hfirst.found
  rw [hordinal, hfirst'.found] at hfound
  cases hfound
  cases k
  cases k'
  simp_all

/-- Key columns are all known by their ordinals, so looking each ordinal up finds all of them. -/
theorem fallback_eq (d : ResultDescriptor) (table : TableRef) (names : List String) :
    ∃ columns, Remaining d table names columns ∧ fallback d table names =
      if columns.isEmpty then .error (.noUsableKey table.text)
      else .ok ⟨table, columns, .allColumns⟩ := by
  refine ⟨_, ⟨?_, fun k => ?_⟩, rfl⟩
  · refine List.pairwise_filterMap.mpr (List.pairwise_lt_range.imp ?_)
    intro i j hlt a ha b hb
    have ha := List.find?_some ha
    have hb := List.find?_some hb
    rw [beq_iff_eq] at ha hb
    rwa [ha, hb]
  · have hmem : ∀ k, k ∈ (names.filterMap (column? d table)).filter (!·.sqlType.isInexact) ↔
        (∃ name ∈ names, Component d table name k) ∧ k.sqlType.isInexact = false := by
      intro k
      simp only [List.mem_filter, List.mem_filterMap, column?_eq_some, Bool.not_eq_true']
    rw [← hmem k, List.mem_filterMap]
    constructor
    · rintro ⟨i, -, hfind⟩
      exact List.mem_of_find?_eq_some hfind
    · intro hk
      obtain ⟨⟨name, -, hcomponent⟩, -⟩ := (hmem k).mp hk
      obtain ⟨k', hfind⟩ := Option.isSome_iff_exists.mp
        (List.find?_isSome (p := fun c => c.ordinal == k.ordinal).mpr ⟨k, hk, beq_self_eq_true _⟩)
      obtain ⟨⟨name', -, hcomponent'⟩, -⟩ := (hmem k').mp (List.mem_of_find?_eq_some hfind)
      have hordinal := List.find?_some hfind
      rw [beq_iff_eq] at hordinal
      obtain rfl := hcomponent'.ext hcomponent hordinal
      obtain ⟨c, hfirst, -⟩ := hcomponent
      exact ⟨k'.ordinal, List.mem_range.mpr (List.getElem?_eq_some_iff.mp hfirst.found).1, hfind⟩

/-- Which columns remain is settled by their names. -/
theorem Remaining.ext {columns' : List KeyColumn} (h : Remaining d table names columns)
    (h' : Remaining d table names columns') : columns = columns' := by
  have : Std.Antisymm fun a b : KeyColumn => a.ordinal < b.ordinal :=
    ⟨fun _ _ hab hba => absurd hab (Nat.lt_asymm hba)⟩
  have : Std.Irrefl fun a b : KeyColumn => a.ordinal < b.ordinal := ⟨fun _ => Nat.lt_irrefl _⟩
  exact h.increasing.eq_of_mem_iff h'.increasing fun k => (h.mem_iff k).trans (h'.mem_iff k).symm

/-! ## Both sources follow the rule -/

/-- With metadata the key is chosen from what they say. -/
theorem ofMetadata_eq (m : TableMetadata) :
    ofMetadata d table m = ofKnown d table (.ofMetadata m) := by
  simp only [ofMetadata, ofKnown, Known.ofMetadata, candidates, List.filterMap_map]
  rfl

/-- Without metadata it is chosen from the flags of the columns. -/
theorem ofFlags_eq : ofFlags d table = ofKnown d table (.ofFlags d table) := by
  have hsize : ∀ found ∈ candidates d table (Known.ofFlags d table).unique,
      found.2.length = 1 := by
    intro found hfound
    obtain ⟨names, hmem, -, hcolumns⟩ := mem_candidates.mp hfound
    obtain ⟨c, -, heq⟩ := List.mem_map.mp hmem
    obtain ⟨-, rfl⟩ := Prod.mk.inj heq
    exact hcolumns.length_eq.symm
  rw [ofKnown, shortest?_eq_head? hsize, candidates, List.head?_filterMap]
  simp only [ofFlags, Known.ofFlags, List.findSome?_map]
  rfl

/-- Either way it is chosen from what is known of the table. -/
theorem ofTable_eq (m : Option TableMetadata) :
    ofTable d table m = ofKnown d table (.of d table m) := by
  cases m with
  | none => exact ofFlags_eq
  | some m => exact ofMetadata_eq m

/-- The key that is found is the one to be chosen. -/
theorem chosen_ofKnown (known : Known) : Chosen d table known (ofKnown d table known) := by
  unfold ofKnown
  split
  next columns hprimary => exact .primaryKey (candidate?_eq_some.mp hprimary)
  next hprimary =>
    have hprimary := candidate?_eq_none.mp hprimary
    split
    next name columns hunique => exact .uniqueIndex hprimary (shortest?_candidates.mp hunique)
    next hunique =>
      have htrue : NoTrueKey d table known :=
        ⟨hprimary, candidates_eq_nil.mp (shortest?_eq_none.mp hunique)⟩
      obtain ⟨columns, hremaining, heq⟩ := fallback_eq d table known.columns
      rw [heq]
      split
      next hempty =>
        obtain rfl := List.isEmpty_iff.mp hempty
        exact .none htrue hremaining
      next hsome => exact .allColumns htrue hremaining (by simpa using hsome)

/-- The rule leaves nothing open. -/
theorem Chosen.ofKnown_eq {r : Except Error KeySet} (h : Chosen d table known r) :
    ofKnown d table known = r := by
  unfold ofKnown
  cases h with
  | primaryKey h => rw [candidate?_eq_some.mpr h]
  | uniqueIndex hprimary h =>
      rw [candidate?_eq_none.mpr hprimary, shortest?_candidates.mpr h]
  | allColumns htrue h hsome =>
      obtain ⟨columns, hremaining, heq⟩ := fallback_eq d table known.columns
      obtain rfl := hremaining.ext h
      rw [candidate?_eq_none.mpr htrue.primary, candidates_eq_nil.mpr htrue.unique]
      simpa [shortest?, hsome] using heq
  | none htrue h =>
      obtain ⟨columns, hremaining, heq⟩ := fallback_eq d table known.columns
      obtain rfl := hremaining.ext h
      rw [candidate?_eq_none.mpr htrue.primary, candidates_eq_nil.mpr htrue.unique]
      simpa [shortest?] using heq

/-- The key that is found is the only one to be chosen. -/
theorem ofTable_eq_iff {m : Option TableMetadata} {r : Except Error KeySet} :
    ofTable d table m = r ↔ Chosen d table (.of d table m) r := by
  rw [ofTable_eq]
  refine ⟨?_, Chosen.ofKnown_eq⟩
  rintro rfl
  exact chosen_ofKnown _

/-! ## What is chosen -/

/-- Each column of a key that can be used has its name in it. -/
theorem Usable.exists_component (h : Usable d table names columns) (hk : k ∈ columns) :
    ∃ name, Component d table name k := by
  obtain ⟨i, hi, rfl⟩ := List.mem_iff_getElem.mp hk
  exact ⟨_, h.2.get (h.2.length_eq ▸ hi) hi⟩

/-- A key that can be used has a column. -/
theorem Usable.ne_nil (h : Usable d table names columns) : columns ≠ [] := by
  rintro rfl
  exact h.1 (List.forall₂_nil_right_iff.mp h.2)

/-- A chosen key has columns of the result, in order, and some of them. -/
theorem Chosen.wellFormed {key : KeySet} (h : Chosen d table known (.ok key)) :
    WellFormed d table key := by
  have hmade : ∀ {columns : List KeyColumn}, (∀ k ∈ columns, ∃ name, Component d table name k) →
      ∀ k ∈ columns, ∃ c, d[k.ordinal]? = some c ∧ c.belongsTo table = true ∧
        c.sqlType.isLong = false ∧ k.name = c.baseColumn ∧ k.sqlType = c.sqlType := by
    intro columns h k hk
    obtain ⟨name, c, hfirst, hlong, hname, htype⟩ := h k hk
    exact ⟨c, hfirst.found, hfirst.belongs, hlong, hname, htype⟩
  cases h with
  | primaryKey h =>
      exact ⟨rfl, h.ne_nil, hmade fun _ => h.exists_component, fun hsource => nomatch hsource⟩
  | uniqueIndex hprimary h =>
      obtain ⟨before, names, after, -, h, -, -⟩ := h
      exact ⟨rfl, h.ne_nil, hmade fun _ => h.exists_component, fun hsource => nomatch hsource⟩
  | allColumns htrue h hsome =>
      refine ⟨rfl, hsome, hmade fun k hk => ?_, fun _ => h.increasing⟩
      obtain ⟨⟨name, -, hcomponent⟩, -⟩ := (h.mem_iff k).mp hk
      exact ⟨name, hcomponent⟩

end KeySet

end ScrollCursor
