import ScrollCursor.Proofs.Sql.Pieces
import ScrollCursor.Sql.Positioned
import ScrollCursor.WriteBack.Synthesis

/-! # Scanning synthesized statements

A statement that the engine writes says what its plan says and nothing else. Names and values are
text from outside, but whatever they contain, the scan of the statement finds the identifiers of
the plan as its only quoted names and a placeholder for every parameter.
-/

namespace ScrollCursor

open Sql

namespace TableRef

/-- The names that stand for a table in a statement. -/
def identifiers (t : TableRef) : List String :=
  t.catalog.toList ++ [t.name]

end TableRef

namespace Plan

/-- The identifiers of a plan in the order of the statement's text. -/
def identifiers : Plan → List String
  | .update table assignments predicate =>
      table.identifiers ++ assignments.map ColumnValue.column ++ predicate.map ColumnValue.column
  | .delete table predicate => table.identifiers ++ predicate.map ColumnValue.column
  | .insert table values => table.identifiers ++ values.map ColumnValue.column
  | .selectByKey table columns predicate _ =>
      columns ++ table.identifiers ++ predicate.map ColumnValue.column

end Plan

namespace Sql

/-- Text that leaves nothing and after which plain text follows. -/
structure Leads (text : String) : Prop where
  reads : Reads text.toList [] 0
  plain : modeAfter .plain 0 text.toList = .plain

/-- Text that can stand between two pieces. -/
structure Separates (text : String) : Prop extends Leads text where
  isBreak : ∃ c rest, text.toList = c :: rest ∧ isBreak c = true

end Sql

/-! ## Fragments -/

namespace Fragment

/-- The quoted names of a fragment are the given ones, and it has as many placeholders as
parameters. -/
def Reads (f : Fragment) (names : List String) : Prop :=
  Sql.Reads f.sql.toList names f.params.length

theorem append_params (a b : Fragment) : (a ++ b).params = a.params ++ b.params :=
  rfl

theorem append_assoc (a b c : Fragment) : a ++ b ++ c = a ++ (b ++ c) := by
  change Fragment.mk _ _ = Fragment.mk _ _
  congr 1
  · exact String.append_assoc
  · exact List.append_assoc a.params b.params c.params

variable {f g : Fragment} {names names' : List String} {text : String}

theorem reads_raw (h : Sql.Reads text.toList names 0) : (raw text).Reads names :=
  h

namespace Reads

/-- Fragments that are set apart are read one after the other. -/
theorem append (hf : f.Reads names) (hg : g.Reads names')
    (hapart : Apart f.sql.toList g.sql.toList) : (f ++ g).Reads (names ++ names') := by
  rw [Fragment.Reads, append_sql, append_params, List.length_append]
  exact Sql.Reads.append hf hg hapart

/-- A fragment after text that leads to it. -/
theorem after (hg : g.Reads names) (h : Leads text) : (raw text ++ g).Reads names :=
  (reads_raw h.reads).append hg (.inl h.plain)

/-- A fragment before text that ends it. -/
theorem before (hf : f.Reads names) (h : Sql.Reads text.toList [] 0)
    (hbreak : text.toList.head?.all isBreak = true) : (f ++ raw text).Reads names := by
  have hboth := hf.append (reads_raw h) (.inr ((Option.all_eq_true _ _).mp hbreak))
  rwa [List.append_nil] at hboth

/-- Two fragments with text between them. -/
theorem between (hf : f.Reads names) (hg : g.Reads names') (h : Separates text) :
    (f ++ raw text ++ g).Reads (names ++ names') := by
  obtain ⟨c, rest, htext, hbreak⟩ := h.isBreak
  rw [append_assoc]
  refine hf.append (hg.after h.toLeads) (.inr ?_)
  rw [append_sql]
  change ∀ d ∈ (text.toList ++ g.sql.toList).head?, _
  rw [htext]
  intro d hd
  cases hd
  exact hbreak

end Reads

/-- Fragments with a separator between them leave what each of them leaves. -/
theorem reads_joined {α : Type} {sep : String} {names : α → List String} {xs : List α}
    {fs : List Fragment} (hsep : Separates sep)
    (h : List.Forall₂ (fun x f => f.Reads (names x)) xs fs) :
    (joined sep fs).Reads (xs.flatMap names) := by
  induction h with
  | nil =>
      have hnothing : Sql.Reads "".toList [] 0 := ⟨rfl, rfl, rfl, by decide +kernel⟩
      exact reads_raw hnothing
  | @cons x f xs fs hfirst hrest ih =>
      rw [List.flatMap_cons]
      cases hrest with
      | nil =>
          rw [List.flatMap_nil, List.append_nil]
          exact hfirst
      | cons hsecond hmore => exact hfirst.between ih hsep

/-- Fragments of one name each. -/
theorem reads_joined_map {α : Type} {sep : String} {name : α → String} {text : α → Fragment}
    {xs : List α} (hsep : Separates sep) (h : ∀ x ∈ xs, (text x).Reads [name x]) :
    (joined sep (xs.map text)).Reads (xs.map name) := by
  have hjoined : (joined sep (xs.map text)).Reads (xs.flatMap fun x => [name x]) := by
    refine reads_joined hsep ?_
    rw [List.forall₂_map_right_iff, List.forall₂_same]
    exact h
  rwa [← List.map_eq_flatMap] at hjoined

theorem params_joined_eq_nil {sep : String} {fs : List Fragment} (h : ∀ f ∈ fs, f.params = []) :
    (joined sep fs).params = [] := by
  induction fs with
  | nil => rfl
  | cons f fs ih =>
      have hfirst := h f List.mem_cons_self
      cases fs with
      | nil => exact hfirst
      | cons g fs =>
          have hrest := ih fun f hf => h f (List.mem_cons_of_mem _ hf)
          change (f.params ++ []) ++ (joined sep (g :: fs)).params = []
          rw [hfirst, hrest]
          rfl

end Fragment

/-! ## Parts of statements -/

theorem separates_comma : Separates ", " :=
  ⟨⟨⟨rfl, rfl, rfl, by decide +kernel⟩, rfl⟩, _, _, rfl, by decide⟩

theorem separates_and : Separates " AND " :=
  ⟨⟨⟨rfl, rfl, rfl, by decide +kernel⟩, rfl⟩, _, _, rfl, by decide⟩

theorem separates_where : Separates " WHERE " :=
  ⟨⟨⟨rfl, rfl, rfl, by decide +kernel⟩, rfl⟩, _, _, rfl, by decide⟩

namespace Dialect

variable {s : Dialect}

/-- A quoted name is read as the name. -/
theorem reads_identifier (hquote : s.quote = .backtick) (name : String) :
    (s.identifier name).Reads [name] := by
  rw [identifier, hquote]
  exact reads_quoteIdentifier name

theorem table_catalog (s : Dialect) (catalog name : String) :
    s.table ⟨some catalog, name⟩ = s.identifier catalog ++ .raw "." ++ s.identifier name :=
  rfl

/-- A table is read as its catalog and its name. -/
theorem reads_table (hquote : s.quote = .backtick) (t : TableRef) :
    (s.table t).Reads t.identifiers := by
  obtain ⟨catalog, name⟩ := t
  have hname := reads_identifier hquote name
  cases catalog with
  | none => exact hname
  | some catalog =>
      have hdot : Separates "." :=
        ⟨⟨⟨rfl, rfl, rfl, by decide +kernel⟩, rfl⟩, _, _, rfl, by decide⟩
      rw [table_catalog]
      exact (reads_identifier hquote catalog).between hname hdot

theorem reads_value {v : Value} {type : SqlType} {f : Fragment} (h : s.value v type = .ok f) :
    f.Reads [] := by
  unfold value at h
  split at h
  · obtain ⟨text, htext, rfl⟩ := Results.map_eq_ok.mp h
    exact reads_literal htext
  · split at h
    · cases h
      have hnull : Sql.Reads "NULL".toList [] 0 := ⟨rfl, rfl, rfl, by decide +kernel⟩
      exact hnull
    · obtain ⟨p, -, rfl⟩ := Results.map_eq_ok.mp h
      have hmark : Sql.Reads "?".toList [] 1 := ⟨rfl, rfl, rfl, by decide +kernel⟩
      exact hmark

/-- An assignment is read as the name of its column. -/
theorem reads_assignment (hquote : s.quote = .backtick) {a : ColumnValue} {f : Fragment}
    (h : s.assignment a = .ok f) : f.Reads [a.column] := by
  obtain ⟨v, hv, h⟩ := Results.bind_eq_ok.mp h
  cases h
  have hequals : Separates "=" :=
    ⟨⟨⟨rfl, rfl, rfl, by decide +kernel⟩, rfl⟩, _, _, rfl, by decide⟩
  exact (reads_identifier hquote a.column).between (reads_value hv) hequals

/-- A comparison is read as the name of its column. -/
theorem reads_comparison (hquote : s.quote = .backtick) {t : ColumnValue} {f : Fragment}
    (h : s.comparison t = .ok f) : f.Reads [t.column] := by
  unfold comparison at h
  split at h
  · cases h
    exact (reads_identifier hquote t.column).before ⟨rfl, rfl, rfl, by decide +kernel⟩ (by decide)
  · exact reads_assignment hquote h

/-- A predicate is read as the names of its columns, in their order. -/
theorem reads_predicate (hquote : s.quote = .backtick) {terms : List ColumnValue} {f : Fragment}
    (h : s.predicate terms = .ok f) : f.Reads (terms.map ColumnValue.column) := by
  obtain ⟨comparisons, hcomparisons, h⟩ := Results.bind_eq_ok.mp h
  cases h
  rw [← List.flatMap_singleton' (terms.map _), List.flatMap_map]
  refine Fragment.reads_joined separates_and ?_
  exact (Results.mapM_eq_ok.mp hcomparisons).imp fun t f ht => reads_comparison hquote ht

/-! ## Values in the text -/

/-- A value that is written into the text is no parameter. -/
theorem params_value_of_inlined (hmode : s.bindMode = .inlined) {v : Value} {type : SqlType}
    {f : Fragment} (h : s.value v type = .ok f) : f.params = [] := by
  rw [value, hmode] at h
  obtain ⟨text, -, rfl⟩ := Results.map_eq_ok.mp h
  rfl

theorem params_assignment_of_inlined (hmode : s.bindMode = .inlined) {a : ColumnValue}
    {f : Fragment} (h : s.assignment a = .ok f) : f.params = [] := by
  obtain ⟨v, hv, h⟩ := Results.bind_eq_ok.mp h
  cases h
  rw [Fragment.append_params, params_value_of_inlined hmode hv]
  rfl

theorem params_comparison_of_inlined (hmode : s.bindMode = .inlined) {t : ColumnValue}
    {f : Fragment} (h : s.comparison t = .ok f) : f.params = [] := by
  unfold comparison at h
  split at h
  · cases h
    rfl
  · exact params_assignment_of_inlined hmode h

/-- A predicate with its values in the text has no parameters. -/
theorem params_predicate_of_inlined (hmode : s.bindMode = .inlined) {terms : List ColumnValue}
    {f : Fragment} (h : s.predicate terms = .ok f) : f.params = [] := by
  obtain ⟨comparisons, hcomparisons, h⟩ := Results.bind_eq_ok.mp h
  cases h
  refine Fragment.params_joined_eq_nil fun g hg => ?_
  obtain ⟨t, -, ht⟩ := Results.exists_of_mem_mapM hcomparisons hg
  exact params_comparison_of_inlined hmode ht

end Dialect

/-! ## Statements -/

namespace Sql

/-- The kind of a statement is told by the word before its first blank. -/
theorem kind_of_word (word : String) {lead : String} {g : Fragment} {more : List Char}
    (hlead : lead.toList = word.toList ++ ' ' :: more)
    (htokens : tokensOf 0 word.toList = [⟨word, 0, false⟩])
    (hopen : (modeAfter .plain 0 word.toList).isOpen = true)
    (hword : (⟨word, 0, false⟩ : Token).isWord = true) :
    (StatementText.parse (Fragment.raw lead ++ g).sql).kind = .ofWord word := by
  have htext : (Fragment.raw lead ++ g).sql.toList =
      word.toList ++ ' ' :: (more ++ g.sql.toList) := by
    rw [Fragment.append_sql]
    change lead.toList ++ _ = _
    rw [hlead, List.append_assoc, List.cons_append]
  change StatementKind.ofTokens (tokensOf 0 (Fragment.raw lead ++ g).sql.toList) = _
  rw [htext, tokensOf_append_blank _ _ _ hopen (by decide), htokens, StatementKind.ofTokens,
    List.singleton_append, List.find?_cons_of_pos hword]

/-- A statement without the word `CURRENT` has no positioned clause. -/
theorem positioned_eq_none {sql : String}
    (h : ∀ t ∈ tokens sql, t.isKeyword "CURRENT" = false) :
    (StatementText.parse sql).positioned = none := by
  have hclause : PositionedClause.ofTokens? (tokens sql) = none := by
    simp only [PositionedClause.ofTokens?, PositionedClause.ofReversed?]
    split
    next name of current whereToken rest hlist =>
      have hmem : current ∈ (tokens sql).reverse.dropWhile (Token.isSymbol · ";") := by
        rw [hlist]
        simp
      have hcurrent := h current (List.mem_reverse.mp ((List.dropWhile_sublist _).mem hmem))
      rw [hcurrent, Bool.and_false, Bool.false_and, Bool.false_and, if_neg Bool.false_ne_true]
    next => rfl
  simp only [StatementText.parse, hclause, ite_self]

end Sql

namespace Request

/-- The scan of a request finds the identifiers of its plan, as quoted names and in the order of
the text, a placeholder for every parameter, the given kind and no positioned clause. -/
structure ReadsAsPlanned (r : Request) (kind : StatementKind) : Prop where
  identifiers : ∃ plan, r.plan = some plan ∧ quotedNames (tokens r.sql) = plan.identifiers
  placeholders : (StatementText.parse r.sql).placeholders = r.params.length
  kind : (StatementText.parse r.sql).kind = kind
  positioned : (StatementText.parse r.sql).positioned = none

/-- A text that is read as the names of its plan, and is of its kind, reads as planned. -/
theorem readsAsPlanned_of_reads {f : Fragment} {plan : Plan} {kind : StatementKind}
    (h : f.Reads plan.identifiers) (hkind : (StatementText.parse f.sql).kind = kind) :
    (f.toRequest plan).ReadsAsPlanned kind where
  identifiers := ⟨plan, rfl, h.names_eq⟩
  placeholders := h.marks_eq
  kind := hkind
  positioned := positioned_eq_none h.isKeyword

end Request

/-- The ways to have a statement written. -/
inductive Synthesis where
  | update (key : KeySet) (d : ResultDescriptor) (image : Record)
      (assignments : List (Nat × Value))
  | delete (key : KeySet) (image : Record)
  | insert (table : TableRef) (d : ResultDescriptor) (values : List (Nat × Value))
  | selectByKey (key : KeySet) (d : ResultDescriptor) (image : Record) (forUpdate : Bool)

namespace Synthesis

/-- The request that a dialect writes, if it writes one. -/
def request (s : Dialect) : Synthesis → Except Error Request
  | .update key d image assignments => s.update key d image assignments
  | .delete key image => s.delete key image
  | .insert table d values => s.insert table d values
  | .selectByKey key d image forUpdate => (s.selectByKey key d image forUpdate).map Prod.fst

/-- The kind of the statement that is to be written. -/
def kind : Synthesis → StatementKind
  | .selectByKey .. => .query
  | _ => .dml

end Synthesis

namespace Dialect

variable {s : Dialect} {r : Request} {key : KeySet} {d : ResultDescriptor} {image : Record}

theorem readsAsPlanned_update (hquote : s.quote = .backtick) {assignments : List (Nat × Value)}
    (h : s.update key d image assignments = .ok r) :
    r.ReadsAsPlanned .dml ∧ (s.bindMode = .inlined → r.params = []) := by
  unfold update at h
  split at h
  · cases h
  obtain ⟨terms, -, h⟩ := Results.bind_eq_ok.mp h
  obtain ⟨set, hset, h⟩ := Results.bind_eq_ok.mp h
  obtain ⟨found, hfound, h⟩ := Results.bind_eq_ok.mp h
  cases h
  have hassigned : ∀ p ∈ set, s.assignment p.1 = .ok p.2 := by
    intro p hp
    obtain ⟨x, -, hx⟩ := Results.exists_of_mem_mapM hset hp
    obtain ⟨a, -, hx⟩ := Results.bind_eq_ok.mp hx
    obtain ⟨f, hf, hx⟩ := Results.bind_eq_ok.mp hx
    cases hx
    exact hf
  refine ⟨Request.readsAsPlanned_of_reads ?_ ?_, fun hmode => ?_⟩
  · have hlead : Leads "UPDATE " := ⟨⟨rfl, rfl, rfl, by decide +kernel⟩, rfl⟩
    have hset : Separates " SET " :=
      ⟨⟨⟨rfl, rfl, rfl, by decide +kernel⟩, rfl⟩, _, _, rfl, by decide⟩
    have hassignments : (Fragment.joined ", " (set.map Prod.snd)).Reads
        ((set.map Prod.fst).map ColumnValue.column) := by
      rw [List.map_map]
      exact Fragment.reads_joined_map separates_comma
        fun p hp => reads_assignment hquote (hassigned p hp)
    exact (((reads_table hquote key.table).after hlead).between hassignments hset).between
      (reads_predicate hquote hfound) separates_where
  · simp only [Fragment.append_assoc]
    exact (kind_of_word "UPDATE" rfl rfl rfl rfl).trans (by decide)
  · have hassignments : (Fragment.joined ", " (set.map Prod.snd)).params = [] := by
      refine Fragment.params_joined_eq_nil fun f hf => ?_
      obtain ⟨p, hp, rfl⟩ := List.mem_map.mp hf
      exact params_assignment_of_inlined hmode (hassigned p hp)
    change (Fragment.joined ", " (set.map Prod.snd)).params ++ [] ++ found.params = []
    rw [hassignments, params_predicate_of_inlined hmode hfound]
    rfl

theorem readsAsPlanned_delete (hquote : s.quote = .backtick) (h : s.delete key image = .ok r) :
    r.ReadsAsPlanned .dml ∧ (s.bindMode = .inlined → r.params = []) := by
  obtain ⟨terms, -, h⟩ := Results.bind_eq_ok.mp h
  obtain ⟨found, hfound, h⟩ := Results.bind_eq_ok.mp h
  cases h
  refine ⟨Request.readsAsPlanned_of_reads ?_ ?_, fun hmode => ?_⟩
  · have hlead : Leads "DELETE FROM " := ⟨⟨rfl, rfl, rfl, by decide +kernel⟩, rfl⟩
    exact ((reads_table hquote key.table).after hlead).between (reads_predicate hquote hfound)
      separates_where
  · simp only [Fragment.append_assoc]
    exact (kind_of_word "DELETE" rfl rfl rfl rfl).trans (by decide)
  · change [] ++ found.params = []
    rw [params_predicate_of_inlined hmode hfound]
    rfl

theorem readsAsPlanned_insert (hquote : s.quote = .backtick) {table : TableRef}
    {values : List (Nat × Value)} (h : s.insert table d values = .ok r) :
    r.ReadsAsPlanned .dml ∧ (s.bindMode = .inlined → r.params = []) := by
  obtain ⟨targets, -, h⟩ := Results.bind_eq_ok.mp h
  obtain ⟨texts, htexts, h⟩ := Results.bind_eq_ok.mp h
  cases h
  refine ⟨Request.readsAsPlanned_of_reads ?_ ?_, fun hmode => ?_⟩
  · have hlead : Leads "INSERT INTO " := ⟨⟨rfl, rfl, rfl, by decide +kernel⟩, rfl⟩
    have hopen : Separates " (" :=
      ⟨⟨⟨rfl, rfl, rfl, by decide +kernel⟩, rfl⟩, _, _, rfl, by decide⟩
    have hvalues : Separates ") VALUES (" :=
      ⟨⟨⟨rfl, rfl, rfl, by decide +kernel⟩, rfl⟩, _, _, rfl, by decide⟩
    have hcolumns : (Fragment.joined ", " (targets.map fun a => s.identifier a.column)).Reads
        (targets.map ColumnValue.column) :=
      Fragment.reads_joined_map separates_comma fun a _ => reads_identifier hquote a.column
    have hliterals : (Fragment.joined ", " texts).Reads [] := by
      have hnone : (targets.flatMap fun _ => []) = ([] : List String) := by simp
      rw [← hnone]
      refine Fragment.reads_joined separates_comma ?_
      exact (Results.mapM_eq_ok.mp htexts).imp fun a f hf => reads_value hf
    have hclose : Sql.Reads ")".toList [] 0 := ⟨rfl, rfl, rfl, by decide +kernel⟩
    have hall := ((((reads_table hquote table).after hlead).between hcolumns hopen).between
      hliterals hvalues).before hclose (by decide)
    rwa [List.append_nil] at hall
  · simp only [Fragment.append_assoc]
    exact (kind_of_word "INSERT" rfl rfl rfl rfl).trans (by decide)
  · have hnames : (Fragment.joined ", "
        (targets.map fun a => s.identifier a.column)).params = [] := by
      refine Fragment.params_joined_eq_nil fun f hf => ?_
      obtain ⟨a, -, rfl⟩ := List.mem_map.mp hf
      rfl
    have hliterals : (Fragment.joined ", " texts).params = [] := by
      refine Fragment.params_joined_eq_nil fun f hf => ?_
      obtain ⟨a, -, ha⟩ := Results.exists_of_mem_mapM htexts hf
      exact params_value_of_inlined hmode ha
    change (Fragment.joined ", " (targets.map fun a => s.identifier a.column)).params ++ [] ++
      (Fragment.joined ", " texts).params ++ [] = []
    rw [hnames, hliterals]
    rfl

/-- A query for one row reads as planned. -/
theorem readsAsPlanned_selectByKey (hquote : s.quote = .backtick) {forUpdate : Bool}
    {ordinals : List Nat} (h : s.selectByKey key d image forUpdate = .ok (r, ordinals)) :
    r.ReadsAsPlanned .query ∧ (s.bindMode = .inlined → r.params = []) := by
  obtain ⟨terms, -, h⟩ := Results.bind_eq_ok.mp h
  obtain ⟨found, hfound, h⟩ := Results.bind_eq_ok.mp h
  cases h
  generalize List.map _ (d.columnsOf key.table) = names
  refine ⟨Request.readsAsPlanned_of_reads ?_ ?_, fun hmode => ?_⟩
  · have hlead : Leads "SELECT " := ⟨⟨rfl, rfl, rfl, by decide +kernel⟩, rfl⟩
    have hfrom : Separates " FROM " :=
      ⟨⟨⟨rfl, rfl, rfl, by decide +kernel⟩, rfl⟩, _, _, rfl, by decide⟩
    have hcolumns : (Fragment.joined ", " (names.map s.identifier)).Reads names := by
      have hjoined : (Fragment.joined ", " (names.map s.identifier)).Reads (names.map id) :=
        Fragment.reads_joined_map separates_comma fun name _ => reads_identifier hquote name
      rwa [List.map_id] at hjoined
    have hall := ((hcolumns.after hlead).between (reads_table hquote key.table) hfrom).between
      (reads_predicate hquote hfound) separates_where
    cases forUpdate with
    | true => exact hall.before ⟨rfl, rfl, rfl, by decide +kernel⟩ (by decide)
    | false => exact hall.before ⟨rfl, rfl, rfl, by decide +kernel⟩ (by decide)
  · simp only [Fragment.append_assoc]
    exact (kind_of_word "SELECT" rfl rfl rfl rfl).trans (by decide)
  · have hnames : (Fragment.joined ", " (names.map s.identifier)).params = [] := by
      refine Fragment.params_joined_eq_nil fun f hf => ?_
      obtain ⟨name, -, rfl⟩ := List.mem_map.mp hf
      rfl
    change (Fragment.joined ", " (names.map s.identifier)).params ++ [] ++ [] ++ [] ++
      found.params ++ [] = []
    rw [hnames, params_predicate_of_inlined hmode hfound]
    rfl

end Dialect

/-- Whatever names and values a statement is written from, its scan finds what its plan says: the
identifiers in order, a placeholder for each parameter, the kind, and no positioned clause. With
the values in the text there are no placeholders. -/
theorem Synthesis.readsAsPlanned {s : Dialect} {c : Synthesis} {r : Request}
    (hquote : s.quote = .backtick) (h : c.request s = .ok r) :
    r.ReadsAsPlanned c.kind ∧ (s.bindMode = .inlined → r.params = []) := by
  cases c with
  | update key d image assignments => exact Dialect.readsAsPlanned_update hquote h
  | delete key image => exact Dialect.readsAsPlanned_delete hquote h
  | insert table d values => exact Dialect.readsAsPlanned_insert hquote h
  | selectByKey key d image forUpdate =>
      obtain ⟨⟨r', ordinals⟩, hselect, rfl⟩ := Results.map_eq_ok.mp h
      exact Dialect.readsAsPlanned_selectByKey hquote hselect

/-- Names and values that are made to look like the end of what they stand in. -/
theorem Synthesis.readsAsPlanned_update_quotes :
    let c : Synthesis := .update
      ⟨⟨some "a\x60;", "t\x60 -- ?"⟩, [⟨0, "id\x60\x60", .varchar⟩], .primaryKey⟩
      [{ name := "id", sqlType := .varchar }, { name := "CURRENT", sqlType := .longVarchar }]
      [.string "\\", .null] [(1, .string "'; DROP TABLE t; # ?\x60 WHERE CURRENT OF c")]
    ∃ r, c.request {} = .ok r ∧ r.ReadsAsPlanned .dml ∧
      (({} : Dialect).bindMode = .inlined → r.params = []) := by
  intro c
  have h : c.request {} = .ok _ := rfl
  exact ⟨_, h, Synthesis.readsAsPlanned rfl h⟩

end ScrollCursor
