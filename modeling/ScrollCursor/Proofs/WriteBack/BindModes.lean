import ScrollCursor.Proofs.Sql.Numerals
import ScrollCursor.Proofs.WriteBack.Statements

/-! # Values in the text and beside it

A statement is the same whether its values stand in the text as literals or beside it as parameters:
what is refused is refused alike, and otherwise one text has marks just where the other has the
literals that the parameters would be written as. A decimal that is not the text of a number is the
exception, since it is sent as a parameter but not written as a literal.
-/

namespace ScrollCursor

/-- A decimal is the text of a number. -/
def Value.WellSpelled : Value → Prop
  | .decimal text => Numeral.normalize? text ≠ none
  | _ => True

/-- The values that a text has places for. NULL is written as a word. -/
def ColumnValue.placed (values : List ColumnValue) : List ColumnValue :=
  values.filter fun v => !v.value.isNull

theorem ColumnValue.placed_cons (v : ColumnValue) (values : List ColumnValue) :
    placed (v :: values) = placed [v] ++ placed values := by
  rw [placed, placed, placed, ← List.filter_append, List.singleton_append]

/-- The values that are placed are those that are not null. -/
theorem ColumnValue.mem_placed {v : ColumnValue} {values : List ColumnValue} :
    v ∈ placed values ↔ v ∈ values ∧ v.value.isNull = false := by
  rw [placed, List.mem_filter, Bool.not_eq_true']

/-- The values of a plan in the order of its text. -/
def Plan.values : Plan → List ColumnValue
  | .update _ assignments predicate => assignments ++ predicate
  | .delete _ predicate => predicate
  | .insert _ values => values
  | .selectByKey _ _ predicate _ => predicate

namespace Fragment

/-- Two texts are the same but for the places of the values: there the first has a literal, and the
second a mark and a parameter for which that literal would be written. -/
inductive Alike : List ColumnValue → Fragment → Fragment → Prop
  | raw (sql : String) : Alike [] (raw sql) (raw sql)
  | place {v : ColumnValue} {parameter : Value} {literal : String}
      (hvalue : Sql.literal v.value v.sqlType = .ok literal)
      (hparameter : Sql.literal parameter v.sqlType = .ok literal) :
      Alike [v] (raw literal) ⟨"?", [parameter]⟩
  | append {values values' : List ColumnValue} {f f' g g' : Fragment} (h : Alike values f g)
      (h' : Alike values' f' g') : Alike (values ++ values') (f ++ f') (g ++ g')

/-- Texts that are alike one by one. -/
inductive AllAlike : List ColumnValue → List Fragment → List Fragment → Prop
  | nil : AllAlike [] [] []
  | cons {values values' : List ColumnValue} {f g : Fragment} {fs gs : List Fragment}
      (h : Alike values f g) (hrest : AllAlike values' fs gs) :
      AllAlike (values ++ values') (f :: fs) (g :: gs)

variable {values : List ColumnValue} {f g : Fragment} {fs gs : List Fragment}

/-- Fragments that are alike are so after the same text. -/
theorem Alike.after (sql : String) (h : Alike values f g) :
    Alike values (Fragment.raw sql ++ f) (Fragment.raw sql ++ g) :=
  (Alike.raw sql).append h

/-- Fragments that are alike are so before the same text. -/
theorem Alike.before (sql : String) (h : Alike values f g) :
    Alike values (f ++ Fragment.raw sql) (g ++ Fragment.raw sql) := by
  have happend := h.append (.raw sql)
  rwa [List.append_nil] at happend

/-- Fragments that are alike one by one are alike when they are joined. -/
theorem AllAlike.joined (sep : String) (h : AllAlike values fs gs) :
    Alike values (joined sep fs) (joined sep gs) := by
  induction h with
  | nil => exact .raw ""
  | cons h hrest ih =>
      cases hrest with
      | nil =>
          rw [List.append_nil]
          exact h
      | cons hsecond hrest => exact (h.before sep).append ih

theorem AllAlike.raws {α : Type} (text : α → String) (xs : List α) :
    AllAlike [] (xs.map fun x => Fragment.raw (text x))
      (xs.map fun x => Fragment.raw (text x)) := by
  induction xs with
  | nil => exact .nil
  | cons x xs ih => exact .cons (.raw (text x)) ih

/-- Every value that has a place has a literal. -/
theorem Alike.exists_literal (h : Alike values f g) {v : ColumnValue} (hv : v ∈ values) :
    ∃ literal, Sql.literal v.value v.sqlType = .ok literal := by
  induction h with
  | raw sql => cases hv
  | place hvalue hparameter =>
      rw [List.mem_singleton.mp hv]
      exact ⟨_, hvalue⟩
  | append h h' ih ih' =>
      rcases List.mem_append.mp hv with hv | hv
      · exact ih hv
      · exact ih' hv

end Fragment

/-- Two requests for the same plan, with literals in the first and parameters in the second. -/
def Request.Alike (r r' : Request) : Prop :=
  ∃ plan, r.plan = some plan ∧ r'.plan = some plan ∧
    Fragment.Alike (ColumnValue.placed plan.values) ⟨r.sql, r.params⟩ ⟨r'.sql, r'.params⟩

/-- Fragments that are alike make requests that are alike. -/
theorem Fragment.Alike.toRequest {f g : Fragment} {plan : Plan}
    (h : Fragment.Alike (ColumnValue.placed plan.values) f g) :
    (f.toRequest plan).Alike (g.toRequest plan) :=
  ⟨plan, rfl, rfl, h⟩

namespace Synthesis

/-- The values that are to be written: those assigned, and those of the key in the image. -/
def values : Synthesis → List Value
  | .update key _ image assignments =>
      assignments.map Prod.snd ++ key.columns.filterMap (image[·.ordinal]?)
  | .delete key image => key.columns.filterMap (image[·.ordinal]?)
  | .insert _ _ values => values.map Prod.snd
  | .selectByKey key _ image _ => key.columns.filterMap (image[·.ordinal]?)

/-- The two bind modes refuse for the same reason, or write the same statement. -/
def SameInBothModes (quote : IdentifierQuote) (c : Synthesis) : Prop :=
  Results.Related Request.Alike (c.request ⟨quote, .inlined⟩) (c.request ⟨quote, .parameters⟩)

end Synthesis

/-! ## One value -/

/-- Only a value that is well spelled has a literal. -/
theorem Value.wellSpelled_of_literal {v : Value} {type : SqlType} {literal : String}
    (h : Sql.literal v type = .ok literal) : v.WellSpelled := by
  cases v with
  | decimal text =>
      obtain ⟨numeral, hnumeral, -⟩ := Results.map_eq_ok.mp h
      intro hnone
      rw [Sql.numeral, hnone] at hnumeral
      cases hnumeral
  | _ => trivial

/-- The literal of a value is the literal of its parameter. -/
theorem related_parameter {v : Value} (h : v.WellSpelled) (type : SqlType) :
    Results.Related
      (fun literal p => Sql.literal v type = .ok literal ∧ Sql.literal p type = .ok literal)
      (Sql.literal v type) (Dialect.parameter v type) := by
  cases v with
  | string s =>
      by_cases hnumeric : type.isNumeric = true
      · have hliteral : Sql.literal (.string s) type = Sql.numeral s type := if_pos hnumeric
        rw [hliteral, Dialect.parameter, if_pos hnumeric]
        cases hnumeral : Sql.numeral s type with
        | error e => exact .refused e
        | ok numeral =>
            refine .given ⟨rfl, ?_⟩
            rw [Sql.literal, Sql.numeral_of_numeral hnumeral]
            exact congrArg Except.ok (if_pos hnumeric)
      · rw [Dialect.parameter, if_neg hnumeric]
        have hliteral : ∃ literal, Sql.literal (.string s) type = .ok literal := by
          rw [Sql.literal, if_neg hnumeric]
          split
          · exact ⟨_, rfl⟩
          · exact ⟨_, rfl⟩
        obtain ⟨literal, hliteral⟩ := hliteral
        rw [hliteral]
        exact .given ⟨rfl, hliteral⟩
  | float x =>
      rw [Dialect.parameter, Sql.literal]
      cases hnumeral : Sql.floatNumeral x with
      | error e => exact .refused e
      | ok numeral =>
          refine .given ⟨rfl, ?_⟩
          rw [Sql.literal, hnumeral]
          rfl
  | decimal text =>
      have hparameter : Dialect.parameter (.decimal text) type = .ok (.decimal text) := rfl
      rw [hparameter]
      cases hnumeral : Numeral.normalize? text with
      | none => exact absurd hnumeral h
      | some numeral =>
          have hliteral :
              Sql.literal (.decimal text) type = .ok (Sql.forType type numeral) := by
            rw [Sql.literal, Sql.numeral, hnumeral]
            rfl
          rw [hliteral]
          exact .given ⟨rfl, hliteral⟩
  | null | binary bytes | integer n | boolean b | date d | time t | timestamp t | json d =>
      exact .given ⟨rfl, rfl⟩

namespace Dialect

open ColumnValue

variable {quote : IdentifierQuote}

/-- A well spelled value is written alike in both modes. -/
theorem related_value {v : ColumnValue} (h : v.value.WellSpelled) :
    Results.Related (Fragment.Alike (placed [v])) (value ⟨quote, .inlined⟩ v.value v.sqlType)
      (value ⟨quote, .parameters⟩ v.value v.sqlType) := by
  obtain ⟨column, type, v⟩ := v
  cases hnull : v.isNull with
  | true =>
      obtain rfl : v = .null := by
        cases v with
        | null => rfl
        | _ => cases hnull
      exact .given (.raw "NULL")
  | false =>
      have hplaced : placed [⟨column, type, v⟩] = [⟨column, type, v⟩] := by simp [placed, hnull]
      change Results.Related _ ((Sql.literal v type).map _)
        (if v.isNull then _ else (parameter v type).map _)
      rw [hplaced, hnull, if_neg Bool.false_ne_true]
      exact (related_parameter h type).map fun literal p hp => .place hp.1 hp.2

/-! ## Statements -/

theorem alike_table (quote : IdentifierQuote) (sql : String) (t : TableRef) :
    Fragment.Alike [] (.raw sql ++ table ⟨quote, .inlined⟩ t)
      (.raw sql ++ table ⟨quote, .parameters⟩ t) :=
  (Fragment.Alike.raw _).after sql

theorem related_assignment {a : ColumnValue} (h : a.value.WellSpelled) :
    Results.Related (Fragment.Alike (placed [a])) (assignment ⟨quote, .inlined⟩ a)
      (assignment ⟨quote, .parameters⟩ a) :=
  (related_value h).bind fun _ _ hvalue => .given (((Fragment.Alike.raw _).append (.raw _)).append
    hvalue)

theorem related_comparison {t : ColumnValue} (h : t.value.WellSpelled) :
    Results.Related (Fragment.Alike (placed [t])) (comparison ⟨quote, .inlined⟩ t)
      (comparison ⟨quote, .parameters⟩ t) := by
  unfold comparison
  split
  next hnull =>
    have hplaced : placed [t] = [] := by simp [placed, hnull]
    rw [hplaced]
    exact .given ((Fragment.Alike.raw _).append (.raw _))
  next => exact related_assignment h

/-- A predicate over well spelled values is alike in both modes. -/
theorem related_predicate {terms : List ColumnValue} (h : ∀ t ∈ terms, t.value.WellSpelled) :
    Results.Related (Fragment.Alike (placed terms)) (predicate ⟨quote, .inlined⟩ terms)
      (predicate ⟨quote, .parameters⟩ terms) := by
  have hcomparisons : Results.Related (Fragment.AllAlike (placed terms))
      (terms.mapM (comparison ⟨quote, .inlined⟩)) (terms.mapM (comparison ⟨quote, .parameters⟩)) :=
    Results.Related.mapM (S := fun terms => Fragment.AllAlike (placed terms)) .nil
      (fun t terms f fs g gs hfirst hrest => by
        rw [placed_cons]
        exact .cons hfirst hrest)
      fun t ht => related_comparison (h t ht)
  exact hcomparisons.bind fun fs gs hall => .given (hall.joined " AND ")

variable {key : KeySet} {d : ResultDescriptor} {image : Record}

/-- The values of a predicate are those of the key in the image. -/
theorem value_of_terms {terms : List ColumnValue} (h : key.terms image = .ok terms) :
    terms.map ColumnValue.value = key.columns.filterMap (image[·.ordinal]?) := by
  have hterm : ∀ k t, key.term image k = .ok t → image[k.ordinal]? = some t.value := by
    intro k t hterm
    unfold KeySet.term at hterm
    split at hterm
    · cases hterm
    next value hvalue =>
      obtain ⟨-, hterm⟩ := Results.ite_error_eq_ok.mp hterm
      cases hterm
      exact hvalue
  unfold KeySet.terms at h
  generalize key.columns = columns at h
  induction Results.mapM_eq_ok.mp h with
  | nil => rfl
  | cons hfirst hrest ih =>
      rw [List.map_cons, List.filterMap_cons, hterm _ _ hfirst, ih (Results.mapM_eq_ok.mpr hrest)]

theorem value_of_target {ordinal : Nat} {v : Value} {a : ColumnValue}
    (h : target d ordinal v = .ok a) : a.value = v := by
  unfold target at h
  split at h
  · cases h
    rfl
  · cases h

/-- The values of a predicate are well spelled if those of the image are. -/
theorem wellSpelled_of_terms {terms : List ColumnValue} (h : key.terms image = .ok terms)
    (hspelled : ∀ v ∈ key.columns.filterMap (image[·.ordinal]?), v.WellSpelled) :
    ∀ t ∈ terms, t.value.WellSpelled := by
  intro t ht
  refine hspelled _ ?_
  rw [← value_of_terms h]
  exact List.mem_map_of_mem ht

/-- An update of well spelled values is alike in both modes. -/
theorem related_update {assignments : List (Nat × Value)}
    (hassigned : ∀ v ∈ assignments.map Prod.snd, v.WellSpelled)
    (hkey : ∀ v ∈ key.columns.filterMap (image[·.ordinal]?), v.WellSpelled) :
    Results.Related Request.Alike (update ⟨quote, .inlined⟩ key d image assignments)
      (update ⟨quote, .parameters⟩ key d image assignments) := by
  unfold update
  split
  · exact .refused _
  refine Results.Related.bind_same fun terms hterms => ?_
  refine (Results.Related.mapM (S := fun _ set set' => set.map Prod.fst = set'.map Prod.fst ∧
    Fragment.AllAlike (placed (set.map Prod.fst)) (set.map Prod.snd) (set'.map Prod.snd))
    (R := fun _ a a' => a.1 = a'.1 ∧ Fragment.Alike (placed [a.1]) a.2 a'.2) ⟨rfl, .nil⟩ ?_
    ?_).bind fun set set' hset => ?_
  · rintro - - a set a' set' ⟨ha, halike⟩ ⟨hset, hall⟩
    rw [List.map_cons, List.map_cons, placed_cons]
    exact ⟨congrArg₂ List.cons ha hset, .cons halike hall⟩
  · rintro ⟨ordinal, v⟩ hmem
    refine Results.Related.bind_same fun a ha => ?_
    have hspelled : a.value.WellSpelled := by
      rw [value_of_target ha]
      exact hassigned v (List.mem_map_of_mem hmem)
    exact (related_assignment hspelled).bind fun f f' hf => .given ⟨rfl, hf⟩
  · refine (related_predicate (wellSpelled_of_terms hterms hkey)).bind fun found found' hfound => ?_
    obtain ⟨htargets, hall⟩ := hset
    rw [← htargets]
    refine .given (Fragment.Alike.toRequest ?_)
    have hlead := (alike_table quote "UPDATE " key.table).before " SET "
    have hset := (hlead.append (hall.joined ", ")).before " WHERE "
    rw [Plan.values, placed, List.filter_append]
    exact hset.append hfound

theorem related_delete (hkey : ∀ v ∈ key.columns.filterMap (image[·.ordinal]?), v.WellSpelled) :
    Results.Related Request.Alike (delete ⟨quote, .inlined⟩ key image)
      (delete ⟨quote, .parameters⟩ key image) := by
  refine Results.Related.bind_same fun terms hterms => ?_
  refine (related_predicate (wellSpelled_of_terms hterms hkey)).bind fun found found' hfound => ?_
  have hlead := (alike_table quote "DELETE FROM " key.table).before " WHERE "
  exact .given (Fragment.Alike.toRequest (hlead.append hfound))

theorem related_insert {table : TableRef} {values : List (Nat × Value)}
    (hgiven : ∀ v ∈ values.map Prod.snd, v.WellSpelled) :
    Results.Related Request.Alike (insert ⟨quote, .inlined⟩ table d values)
      (insert ⟨quote, .parameters⟩ table d values) := by
  refine Results.Related.bind_same fun targets htargets => ?_
  refine (Results.Related.mapM (S := fun targets => Fragment.AllAlike (placed targets)) .nil
    (fun a targets f fs g gs hfirst hrest => ?_) fun a ha => related_value ?_).bind
    fun texts texts' hall => ?_
  · rw [placed_cons]
    exact .cons hfirst hrest
  · obtain ⟨⟨ordinal, v⟩, hmem, htarget⟩ := Results.exists_of_mem_mapM htargets ha
    rw [value_of_target htarget]
    exact hgiven v (List.mem_map_of_mem hmem)
  · have hlead := (alike_table quote "INSERT INTO " table).before " ("
    have hnames := (Fragment.AllAlike.raws
      (fun a : ColumnValue => Sql.quoteIdentifier quote a.column) targets).joined ", "
    have hopen := (hlead.append hnames).before ") VALUES ("
    exact .given (Fragment.Alike.toRequest ((hopen.append (hall.joined ", ")).before ")"))

theorem related_selectByKey {forUpdate : Bool}
    (hkey : ∀ v ∈ key.columns.filterMap (image[·.ordinal]?), v.WellSpelled) :
    Results.Related Request.Alike
      ((selectByKey ⟨quote, .inlined⟩ key d image forUpdate).map Prod.fst)
      ((selectByKey ⟨quote, .parameters⟩ key d image forUpdate).map Prod.fst) := by
  refine Results.Related.map (R := fun r r' => r.1.Alike r'.1) ?_ fun _ _ h => h
  refine Results.Related.bind_same fun terms hterms => ?_
  refine (related_predicate (wellSpelled_of_terms hterms hkey)).bind fun found found' hfound => ?_
  have htable : Fragment.Alike [] (table ⟨quote, .inlined⟩ key.table)
    (table ⟨quote, .parameters⟩ key.table) := .raw _
  have hnames (names : List String) :=
    ((Fragment.AllAlike.raws (Sql.quoteIdentifier quote) names).joined ", ").after "SELECT "
  have hlead (names : List String) :=
    (((hnames names).before " FROM ").append htable).before " WHERE "
  exact .given (Fragment.Alike.toRequest (((hlead _).append hfound).before _))

theorem values_of_mapM {β : Type} (value : β → Value) {f : Nat × Value → Except Error β}
    {values : List (Nat × Value)} {results : List β} (h : values.mapM f = .ok results)
    (hvalue : ∀ x y, f x = .ok y → value y = x.2) : results.map value = values.map Prod.snd := by
  induction Results.mapM_eq_ok.mp h with
  | nil => rfl
  | cons hfirst hrest ih =>
      rw [List.map_cons, List.map_cons, hvalue _ _ hfirst, ih (Results.mapM_eq_ok.mpr hrest)]

end Dialect

namespace Synthesis

variable {c : Synthesis} {quote : IdentifierQuote}

/-- The modes agree if all values can be written. -/
theorem sameInBothModes_of_wellSpelled (h : ∀ v ∈ c.values, v.WellSpelled) :
    c.SameInBothModes quote := by
  cases c with
  | update key d image assignments =>
      exact Dialect.related_update (fun v hv => h v (List.mem_append_left _ hv))
        fun v hv => h v (List.mem_append_right _ hv)
  | delete key image => exact Dialect.related_delete h
  | insert table d values => exact Dialect.related_insert h
  | selectByKey key d image forUpdate => exact Dialect.related_selectByKey h

/-- The plan of a request has the values that were to be written. -/
theorem exists_plan {s : Dialect} {r : Request} (h : c.request s = .ok r) :
    ∃ plan, r.plan = some plan ∧ plan.values.map ColumnValue.value = c.values := by
  cases c with
  | update key d image assignments =>
      obtain ⟨-, h⟩ := Results.ite_error_eq_ok.mp h
      obtain ⟨terms, hterms, h⟩ := Results.bind_eq_ok.mp h
      obtain ⟨set, hset, h⟩ := Results.bind_eq_ok.mp h
      obtain ⟨found, -, h⟩ := Results.bind_eq_ok.mp h
      cases h
      have hassigned := Dialect.values_of_mapM (fun entry => entry.1.value) hset
        fun x entry hentry => by
          obtain ⟨a, ha, hentry⟩ := Results.bind_eq_ok.mp hentry
          obtain ⟨text, -, hentry⟩ := Results.bind_eq_ok.mp hentry
          cases hentry
          exact Dialect.value_of_target ha
      refine ⟨_, rfl, ?_⟩
      rw [Plan.values, List.map_append, List.map_map, Dialect.value_of_terms hterms]
      exact congrArg (· ++ _) hassigned
  | delete key image =>
      obtain ⟨terms, hterms, h⟩ := Results.bind_eq_ok.mp h
      obtain ⟨found, -, h⟩ := Results.bind_eq_ok.mp h
      cases h
      exact ⟨_, rfl, Dialect.value_of_terms hterms⟩
  | insert table d values =>
      obtain ⟨targets, htargets, h⟩ := Results.bind_eq_ok.mp h
      obtain ⟨texts, -, h⟩ := Results.bind_eq_ok.mp h
      cases h
      exact ⟨_, rfl, Dialect.values_of_mapM ColumnValue.value htargets fun _ _ =>
        Dialect.value_of_target⟩
  | selectByKey key d image forUpdate =>
      obtain ⟨written, h, hr⟩ := Results.map_eq_ok.mp h
      obtain ⟨terms, hterms, h⟩ := Results.bind_eq_ok.mp h
      obtain ⟨found, -, h⟩ := Results.bind_eq_ok.mp h
      cases h
      cases hr
      exact ⟨_, rfl, Dialect.value_of_terms hterms⟩

/-- The modes differ in what they accept just where a decimal is not the text of a number and
nothing else is wrong. -/
theorem sameInBothModes_iff (c : Synthesis) (quote : IdentifierQuote) :
    c.SameInBothModes quote ↔ (∀ v ∈ c.values, v.WellSpelled) ∨
      ∃ e, c.request ⟨quote, .inlined⟩ = .error e ∧ c.request ⟨quote, .parameters⟩ = .error e := by
  constructor
  · intro h
    unfold SameInBothModes at h
    generalize hr : c.request ⟨quote, .inlined⟩ = x at h
    generalize c.request ⟨quote, .parameters⟩ = y at h
    cases h with
    | refused e => exact .inr ⟨e, rfl, rfl⟩
    | @given r r' h =>
        -- The inline text has a literal in each place, and only NULL has no place.
        obtain ⟨plan, hplan, -, halike⟩ := h
        obtain ⟨plan', hplan', hvalues⟩ := exists_plan hr
        rw [hplan] at hplan'
        cases hplan'
        refine .inl fun v hv => ?_
        rw [← hvalues] at hv
        obtain ⟨w, hw, rfl⟩ := List.mem_map.mp hv
        cases hnull : w.value.isNull with
        | true =>
            cases hvalue : w.value with
            | decimal text =>
                rw [hvalue] at hnull
                cases hnull
            | _ => trivial
        | false =>
            obtain ⟨literal, hliteral⟩ :=
              halike.exists_literal (ColumnValue.mem_placed.mpr ⟨hw, hnull⟩)
            exact Value.wellSpelled_of_literal hliteral
  · rintro (h | ⟨e, hinlined, hparameters⟩)
    · exact sameInBothModes_of_wellSpelled h
    · unfold SameInBothModes
      rw [hinlined, hparameters]
      exact .refused e

/-- A decimal without a number is sent as a parameter, but not written as a literal. -/
theorem not_sameInBothModes_decimal :
    let table : TableRef := ⟨none, "t"⟩
    let c : Synthesis := .update ⟨table, [⟨0, "id", .integer⟩], .primaryKey⟩
      [{ name := "id", sqlType := .integer, table := some table, primaryKey := true },
        { name := "price", sqlType := .decimal, table := some table }]
      [.integer 1, .decimal "1.0"] [(1, .decimal "abc")]
    c.request ⟨.backtick, .inlined⟩ =
        .error (.conversion "'abc' is not a valid Decimal value") ∧
      (∃ r, c.request ⟨.backtick, .parameters⟩ = .ok r ∧
        r.params = [.decimal "abc", .integer 1]) ∧
      ¬ c.SameInBothModes .backtick := by
  intro table c
  have hinlined : c.request ⟨.backtick, .inlined⟩ =
      .error (.conversion "'abc' is not a valid Decimal value") := rfl
  have hparameters : c.request ⟨.backtick, .parameters⟩ = .ok _ := rfl
  refine ⟨hinlined, ⟨_, hparameters, rfl⟩, fun h => ?_⟩
  rw [SameInBothModes, hinlined, hparameters] at h
  cases h

end Synthesis

end ScrollCursor
