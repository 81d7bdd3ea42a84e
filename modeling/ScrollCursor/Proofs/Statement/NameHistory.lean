import ScrollCursor.Proofs.Statement.CursorNames

/-! # The history of cursor names

What the names of a connection tell is told by the calls that were made on them. The history of
the calls says since when a statement has the name that it has and what it has told of its row
since it came to have one; the names agree with it after every run of calls. A generated name is
found after finitely many numbers, is free, and is never given out twice.
-/

namespace ScrollCursor

open Text (sameName)

/-- A call on the names of a connection. -/
inductive NameCall where
  | register (id : Nat) (name : String)
  | generate (id : Nat)
  | publish (id : Nat) (target : PublishedTarget)
  | unregister (id : Nat)

/-- What a call is answered. -/
inductive NameAnswer where
  | done
  | refused (cause : Error)
  | generated (name : String)

/-- Calls with their answers, the last one first. -/
abbrev NameHistory := List (NameCall × NameAnswer)

/-- A name and the number of calls that came before the one by which it was taken. -/
structure Tenure where
  since : Nat
  name : String

namespace NameCall

/-- The statement that a call is about. -/
def statement : NameCall → Nat
  | register id _ | generate id | publish id _ | unregister id => id

end NameCall

namespace NameHistory

/-- The name that a statement has after some calls. A statement that registers the name that it
has, up to case, goes on with it as it is. -/
def tenure? (id : Nat) : NameHistory → Option Tenure
  | [] => none
  | (.register i name, .done) :: past =>
      if i = id then
        some (((tenure? id past).filter (sameName ·.name name)).getD ⟨past.length, name⟩)
      else tenure? id past
  | (.generate i, .generated name) :: past =>
      if i = id then some ⟨past.length, name⟩ else tenure? id past
  | (.unregister i, _) :: past => if i = id then none else tenure? id past
  | _ :: past => tenure? id past

/-- The calls after the one by which a statement without a name last came to have one. -/
def sinceNamed (id : Nat) : NameHistory → NameHistory
  | [] => []
  | call :: past => if (tenure? id past).isNone then [] else call :: sinceNamed id past

/-- What a call tells of the row of a statement's cursor. -/
def toldBy? (id : Nat) : NameCall × NameAnswer → Option PublishedTarget
  | (.publish i target, _) => if i = id then some target else none
  | _ => none

/-- What was last told of the row of a statement's cursor since the statement came to have a
name. -/
def lastTold (id : Nat) (past : NameHistory) : PublishedTarget :=
  ((sinceNamed id past).findSome? (toldBy? id)).join

/-- The names that were generated. -/
def generatedNames (past : NameHistory) : List String :=
  past.filterMap fun
    | (_, .generated name) => some name
    | _ => none

/-- The statement has the name, up to case. -/
def Holds (past : NameHistory) (id : Nat) (name : String) : Prop :=
  ∃ t, tenure? id past = some t ∧ sameName t.name name = true

variable {past : NameHistory} {id : Nat} {call : NameCall × NameAnswer}

/-- A call matters to the tenure of its own statement only. -/
theorem tenure?_cons_of_ne (h : call.1.statement ≠ id) :
    tenure? id (call :: past) = tenure? id past := by
  obtain ⟨call, told⟩ := call
  cases call <;> cases told <;> simp_all [tenure?, NameCall.statement]

/-- A call for another statement tells nothing of this one. -/
theorem toldBy?_of_ne (h : call.1.statement ≠ id) : toldBy? id call = none := by
  obtain ⟨call, told⟩ := call
  cases call <;> simp_all [toldBy?, NameCall.statement]

/-- A statement without a name has nothing told of it. -/
theorem lastTold_cons_of_nameless (h : tenure? id past = none) :
    lastTold id (call :: past) = none := by
  simp [lastTold, sinceNamed, h]

/-- Of a statement with a name the last thing told counts. -/
theorem lastTold_cons_of_named {t : Tenure} (h : tenure? id past = some t) :
    lastTold id (call :: past) = (toldBy? id call).getD (lastTold id past) := by
  cases htold : toldBy? id call <;> simp [lastTold, sinceNamed, h, htold]

/-- Who has just registered a name holds it. -/
theorem holds_registered (past : NameHistory) (id : Nat) (name : String) :
    Holds ((.register id name, .done) :: past) id name := by
  refine ⟨_, if_pos rfl, ?_⟩
  cases hkept : (tenure? id past).filter (sameName ·.name name) with
  | none => exact Text.sameName_refl name
  | some t => exact (Option.filter_eq_some_iff.mp hkept).2

end NameHistory

namespace CursorNames

open NameHistory

/-- A call that is refused leaves the names as they are. -/
def perform (r : CursorNames) : NameCall → NameAnswer × CursorNames
  | .register id name =>
      match r.register id name with
      | .ok r' => (.done, r')
      | .error e => (.refused e, r)
  | .generate id => (.generated (r.generate id).1, (r.generate id).2)
  | .publish id target => (.done, r.publish id target)
  | .unregister id => (.done, r.unregister id)

/-- The history of some calls, the last one first, with the names after them. -/
def recorded : List NameCall → NameHistory × CursorNames
  | [] => ([], {})
  | call :: before =>
      let (past, r) := recorded before
      ((call, (r.perform call).1) :: past, (r.perform call).2)

/-- Nobody has the name, or nothing is known of the holder's row. -/
def unknownCursor (name : String) : Error :=
  .cursorName ("Cursor '" ++ name ++ "' does not exist or does not have a result set.")

/-! ## Agreement with the history -/

/-- The names are those that the history tells of, with what it tells of their rows. -/
structure Agrees (past : NameHistory) (r : CursorNames) : Prop where
  lawful : r.Lawful
  entry : ∀ id, r.ofStatement? id =
    (tenure? id past).map fun t => ⟨id, t.name, lastTold id past⟩
  /-- The names stand in the order in which they were taken. -/
  ordered : r.entries.Pairwise fun e e' => ∀ t t', tenure? e.statement past = some t →
    tenure? e'.statement past = some t' → t.since < t'.since
  taken : ∀ id t, tenure? id past = some t → t.since < past.length
  numbered : ∀ name ∈ generatedNames past, ∃ n < r.generated, name = generatedName n

variable {r r' : CursorNames} {past : NameHistory} {id : Nat} {name : String}

/-- Before the first call nobody has a name. -/
theorem agrees_blank : Agrees [] {} where
  lawful := ⟨List.nodup_nil, by simp⟩
  entry := by simp [ofStatement?, tenure?]
  ordered := List.Pairwise.nil
  taken := by simp [tenure?]
  numbered := by simp [generatedNames]

/-- A call that is about another statement or changes nothing leaves the account of a statement. -/
theorem Agrees.entry_of_untold {call : NameCall × NameAnswer} (h : Agrees past r)
    (htenure : tenure? id (call :: past) = tenure? id past) (htold : toldBy? id call = none) :
    r.ofStatement? id =
      (tenure? id (call :: past)).map fun t => ⟨id, t.name, lastTold id (call :: past)⟩ := by
  rw [h.entry, htenure]
  cases hnamed : tenure? id past with
  | none => rfl
  | some t => simp [lastTold_cons_of_named hnamed, htold]

/-- A call that is refused, or registers the name that the statement has, changes nothing. -/
theorem Agrees.idle {call : NameCall × NameAnswer} (h : Agrees past r)
    (htenure : ∀ id, tenure? id (call :: past) = tenure? id past)
    (htold : ∀ id, toldBy? id call = none)
    (hgenerated : generatedNames (call :: past) = generatedNames past) :
    Agrees (call :: past) r where
  lawful := h.lawful
  entry id := h.entry_of_untold (htenure id) (htold id)
  ordered := by simpa only [htenure] using h.ordered
  taken id t ht := by
    rw [htenure] at ht
    exact Nat.lt_succ_of_lt (h.taken id t ht)
  numbered := by
    rw [hgenerated]
    exact h.numbered

/-- To publish a target changes what was told last. -/
theorem Agrees.publish (h : Agrees past r) (id : Nat) (target : PublishedTarget) :
    Agrees ((.publish id target, .done) :: past) (r.publish id target) where
  lawful := (adjusts_publish r id target).lawful h.lawful
  entry other := by
    by_cases hother : other = id
    · subst hother
      rw [ofStatement?_publish, h.entry]
      cases hnamed : tenure? other past with
      | none => simp [tenure?, hnamed]
      | some t => simp [tenure?, hnamed, lastTold_cons_of_named hnamed, toldBy?]
    · rw [(adjusts_publish r id target).others other hother]
      exact h.entry_of_untold rfl (toldBy?_of_ne (Ne.symm hother))
  ordered := by
    change (r.entries.map (placed id target)).Pairwise _
    rw [List.pairwise_map]
    simpa only [statement_placed, tenure?] using h.ordered
  taken other t ht := Nat.lt_succ_of_lt (h.taken other t ht)
  numbered := h.numbered

/-- The names of the other statements stand in their order, whatever becomes of one. -/
theorem Agrees.ordered_unregister {call : NameCall × NameAnswer} (h : Agrees past r)
    (hid : call.1.statement = id) :
    (r.unregister id).entries.Pairwise fun e e' => ∀ t t',
      tenure? e.statement (call :: past) = some t →
        tenure? e'.statement (call :: past) = some t' → t.since < t'.since := by
  have hother : ∀ e ∈ (r.unregister id).entries,
      tenure? e.statement (call :: past) = tenure? e.statement past := by
    intro e he
    apply tenure?_cons_of_ne
    rw [hid]
    exact (ne_of_mem_eraseP h.lawful.ids he).symm
  apply (h.ordered.sublist List.eraseP_sublist).imp_of_mem
  intro e e' he he' hbefore
  rw [hother e he, hother e' he']
  exact hbefore

/-- To give a name up ends the tenure. -/
theorem Agrees.unregister (h : Agrees past r) (id : Nat) :
    Agrees ((.unregister id, .done) :: past) (r.unregister id) where
  lawful := (adjusts_unregister r id).lawful h.lawful
  entry other := by
    by_cases hother : other = id
    · subst hother
      simp [ofStatement?_unregister h.lawful, tenure?]
    · rw [(adjusts_unregister r id).others other hother]
      have hne : id ≠ other := Ne.symm hother
      exact h.entry_of_untold (tenure?_cons_of_ne hne) (toldBy?_of_ne hne)
  ordered := h.ordered_unregister rfl
  taken other t ht := by
    by_cases hother : other = id
    · simp [hother, tenure?] at ht
    · rw [tenure?_cons_of_ne (Ne.symm hother)] at ht
      exact Nat.lt_succ_of_lt (h.taken other t ht)
  numbered := h.numbered

/-- A statement takes a name that is free. What it told of its row is kept if it had a name. -/
theorem Agrees.take {call : NameCall × NameAnswer} (h : Agrees past r)
    (hfree : r.holder? name = none) (hid : call.1.statement = id)
    (htenure : tenure? id (call :: past) = some ⟨past.length, name⟩)
    (htold : toldBy? id call = none)
    (hnumbered : ∀ name ∈ generatedNames (call :: past),
      ∃ n < r.generated, name = generatedName n) :
    Agrees (call :: past) (r.take id name) where
  lawful := (adjusts_take hfree id).lawful h.lawful
  entry other := by
    by_cases hother : other = id
    · subst hother
      rw [ofStatement?_take h.lawful, h.entry, htenure]
      cases hnamed : tenure? other past with
      | none => simp [lastTold_cons_of_nameless hnamed]
      | some t => simp [lastTold_cons_of_named hnamed, htold]
    · rw [(adjusts_take hfree id).others other hother]
      have hne : call.1.statement ≠ other := hid ▸ Ne.symm hother
      exact h.entry_of_untold (tenure?_cons_of_ne hne) (toldBy?_of_ne hne)
  ordered := by
    change ((r.unregister id).entries ++ [_]).Pairwise _
    rw [List.pairwise_append]
    refine ⟨h.ordered_unregister hid, List.pairwise_singleton _ _, ?_⟩
    -- Every other name was taken by an earlier call.
    intro e he e' he' t t' ht ht'
    rw [List.mem_singleton.mp he', htenure] at ht'
    have hne := ne_of_mem_eraseP h.lawful.ids he
    rw [tenure?_cons_of_ne (hid ▸ hne.symm)] at ht
    cases ht'
    exact h.taken _ t ht
  taken other t ht := by
    by_cases hother : other = id
    · rw [hother, htenure] at ht
      cases ht
      exact Nat.lt_succ_self _
    · rw [tenure?_cons_of_ne (hid ▸ Ne.symm hother)] at ht
      exact Nat.lt_succ_of_lt (h.taken other t ht)
  numbered := hnumbered

/-! ## Holders of names -/

/-- A statement finds its own entry. -/
theorem Lawful.ofStatement?_eq {e : NamedCursor} (h : r.Lawful) (he : e ∈ r.entries) :
    r.ofStatement? e.statement = some e := by
  cases hfound : r.ofStatement? e.statement with
  | none => simpa using List.find?_eq_none.mp hfound e he
  | some e' =>
      obtain ⟨hmem, hsame⟩ := mem_of_ofStatement? hfound
      rw [h.eq_of_statement hmem he hsame]

/-- Each entry belongs to a tenure that has not ended. -/
theorem Agrees.tenure?_of_mem {e : NamedCursor} (h : Agrees past r) (he : e ∈ r.entries) :
    ∃ t, tenure? e.statement past = some t ∧ t.name = e.name ∧
      e.target = lastTold e.statement past := by
  have hentry := h.entry e.statement
  rw [h.lawful.ofStatement?_eq he] at hentry
  obtain ⟨t, ht, heq⟩ := Option.map_eq_some_iff.mp hentry.symm
  exact ⟨t, ht, congrArg NamedCursor.name heq, (congrArg NamedCursor.target heq).symm⟩

/-- Who holds a name is found by it, with what was told last. -/
theorem Agrees.holder?_of_holds (h : Agrees past r) (hheld : Holds past id name) :
    ∃ e, r.holder? name = some e ∧ e.statement = id ∧ e.target = lastTold id past := by
  obtain ⟨t, ht, hname⟩ := hheld
  have hentry := h.entry id
  rw [ht] at hentry
  exact ⟨_, h.lawful.holder?_eq hentry (Text.sameName_symm hname), rfl, rfl⟩

/-- Who is found by a name holds it. -/
theorem Agrees.holds_of_holder? {e : NamedCursor} (h : Agrees past r)
    (hfound : r.holder? name = some e) : Holds past e.statement name := by
  rw [holder?] at hfound
  have hsame := List.find?_some hfound
  obtain ⟨t, ht, hname, -⟩ := h.tenure?_of_mem (List.mem_of_find?_eq_some hfound)
  refine ⟨t, ht, ?_⟩
  rwa [hname]

/-- Nobody is found by a name that nobody holds. -/
theorem Agrees.holder?_eq_none_iff (h : Agrees past r) :
    r.holder? name = none ↔ ∀ id, ¬ Holds past id name := by
  constructor
  · intro hnone id hheld
    obtain ⟨e, hfound, -⟩ := h.holder?_of_holds hheld
    rw [hnone] at hfound
    cases hfound
  · intro hnobody
    cases hfound : r.holder? name with
    | none => rfl
    | some e => exact absurd (h.holds_of_holder? hfound) (hnobody e.statement)

/-- No two statements hold one name. -/
theorem Agrees.eq_of_holds {other : Nat} (h : Agrees past r) (hheld : Holds past id name)
    (hother : Holds past other name) : id = other := by
  obtain ⟨e, hfound, hid, -⟩ := h.holder?_of_holds hheld
  obtain ⟨e', hfound', hid', -⟩ := h.holder?_of_holds hother
  rw [hfound] at hfound'
  cases hfound'
  exact hid.symm.trans hid'

/-- A name is refused, is the statement's own, or is free. -/
theorem Agrees.register_cases (h : Agrees past r) (id : Nat) (name : String) :
    (r.register id name = .error (.duplicateCursorName name) ∧
        ∃ other, other ≠ id ∧ Holds past other name) ∨
      (r.register id name = .ok r ∧ Holds past id name) ∨
      (r.register id name = .ok (r.take id name) ∧ r.holder? name = none) := by
  unfold register
  cases hfound : r.holder? name with
  | none => exact Or.inr (Or.inr ⟨rfl, rfl⟩)
  | some e =>
      have hheld := h.holds_of_holder? hfound
      by_cases hid : e.statement = id
      · rw [hid] at hheld
        exact Or.inr (Or.inl ⟨if_pos hid, hheld⟩)
      · exact Or.inl ⟨if_neg hid, e.statement, hid, hheld⟩

/-! ## Generated names -/

/-- The search for a free name does not go further than it may. -/
theorem le_firstFree (r : CursorNames) (more n : Nat) :
    n ≤ r.firstFree more n ∧ r.firstFree more n ≤ n + more := by
  induction more generalizing n with
  | zero => simp [firstFree]
  | succ more ih =>
      have hnext := ih (n + 1)
      unfold firstFree
      split
      · omega
      · omega

/-- The search passes over names that are taken only. -/
theorem holder?_of_lt_firstFree (r : CursorNames) (more n : Nat) :
    ∀ k, n ≤ k → k < r.firstFree more n → (r.holder? (generatedName k)).isSome = true := by
  induction more generalizing n with
  | zero =>
      intro k hle hlt
      rw [firstFree] at hlt
      omega
  | succ more ih =>
      intro k hle hlt
      unfold firstFree at hlt
      split at hlt
      next hheld =>
        by_cases hk : k = n
        · rwa [hk]
        · exact ih (n + 1) k (by omega) hlt
      next => omega

/-! ## Runs -/

/-- A registration is recorded as it was answered. -/
theorem Agrees.register (h : Agrees past r) (id : Nat) (name : String) :
    Agrees ((.register id name, (r.perform (.register id name)).1) :: past)
      (r.perform (.register id name)).2 := by
  obtain ⟨hrefused, -⟩ | ⟨hown, t, ht, hname⟩ | ⟨htaken, hfree⟩ := h.register_cases id name
  · simp only [perform, hrefused]
    exact h.idle (fun _ => rfl) (fun _ => rfl) rfl
  · simp only [perform, hown]
    refine h.idle (fun other => ?_) (fun _ => rfl) rfl
    by_cases hother : id = other
    · subst hother
      simp [tenure?, ht, Option.filter_some, hname]
    · exact tenure?_cons_of_ne hother
  · simp only [perform, htaken]
    refine h.take hfree rfl ?_ rfl h.numbered
    -- The name that the statement had, if any, is another one.
    have hnone : (tenure? id past).filter (sameName ·.name name) = none := by
      rw [Option.filter_eq_none_iff]
      intro t ht hname
      exact h.holder?_eq_none_iff.mp hfree id ⟨t, ht, hname⟩
    simp [tenure?, hnone]

/-- A generated name is recorded with its answer. -/
theorem Agrees.generate (h : Agrees past r) (id : Nat) :
    Agrees ((.generate id, .generated (r.generate id).1) :: past) (r.generate id).2 := by
  have hle := (r.le_firstFree r.entries.length r.generated).1
  have hcounted : Agrees past
      { r with generated := r.firstFree r.entries.length r.generated + 1 } := by
    refine ⟨⟨h.lawful.ids, h.lawful.names⟩, h.entry, h.ordered, h.taken, ?_⟩
    intro name hname
    obtain ⟨n, hn, rfl⟩ := h.numbered name hname
    exact ⟨n, Nat.lt_succ_of_lt (Nat.lt_of_lt_of_le hn hle), rfl⟩
  refine hcounted.take r.holder?_firstFree rfl ?_ rfl ?_
  · simp [tenure?, CursorNames.generate]
  · intro name hname
    rcases List.mem_cons.mp hname with rfl | hname
    · exact ⟨_, Nat.lt_succ_self _, rfl⟩
    · exact hcounted.numbered name hname

/-- Every call is recorded as it was answered. -/
theorem Agrees.perform (h : Agrees past r) (call : NameCall) :
    Agrees ((call, (r.perform call).1) :: past) (r.perform call).2 := by
  cases call with
  | register id name => exact h.register id name
  | generate id => exact h.generate id
  | publish id target => exact h.publish id target
  | unregister id => exact h.unregister id

/-- The names agree with the record of all calls. -/
theorem agrees_recorded (calls : List NameCall) :
    Agrees (recorded calls).1 (recorded calls).2 := by
  induction calls with
  | nil => exact agrees_blank
  | cons call before ih => exact ih.perform call

/-! ## What the names promise -/

/-- The laws of the names of a connection after the calls of a history. -/
structure Laws (past : NameHistory) (r : CursorNames) : Prop where
  /-- No two names are equal up to case. -/
  distinct : r.names.Pairwise fun a b => sameName a b = false
  /-- No statement has two names. -/
  one : (r.entries.map NamedCursor.statement).Nodup
  nameOf : ∀ id, r.nameOf? id = (tenure? id past).map Tenure.name
  /-- The names are those that are held, in the order in which they were taken. -/
  ordered : ∃ held : List (Nat × Tenure), held.map (fun h => h.2.name) = r.names ∧
    (∀ id t, (id, t) ∈ held ↔ tenure? id past = some t) ∧
      held.Pairwise fun a b => a.2.since < b.2.since
  /-- A name is refused to a statement exactly if another one has it. -/
  refused : ∀ id name e, r.register id name = .error e ↔
    e = .duplicateCursorName name ∧ ∃ other, other ≠ id ∧ Holds past other name
  unchanged : ∀ id name e, (r.perform (.register id name)).1 = .refused e →
    (r.perform (.register id name)).2 = r
  /-- A statement has the name that it has registered. -/
  registered : ∀ id name r', r.register id name = .ok r' →
    ∃ kept, r'.nameOf? id = some kept ∧ sameName kept name = true
  /-- What a statement told of its row is known by its new name as it was by the old one. -/
  renamed : ∀ id name r', r.register id name = .ok r' → (r.nameOf? id).isSome = true →
    r'.targetFor name = (lastTold id past).getD (.error (unknownCursor name))
  /-- What is known by a name is what its holder last told since it came to have a name. -/
  told : ∀ id name, Holds past id name →
    r.targetFor name = (lastTold id past).getD (.error (unknownCursor name))
  unheld : ∀ name, (∀ id, ¬ Holds past id name) →
    r.targetFor name = .error (unknownCursor name)
  state : ∀ name, (unknownCursor name).sqlstate = "34000"
  /-- The search for a name passes over numbers whose names are taken and ends at one whose name
  is free and new. -/
  generated : ∀ id, ∃ n, (r.generate id).1 = generatedName n ∧ r.generated ≤ n ∧
    n ≤ r.generated + r.names.length ∧
      (∀ k, r.generated ≤ k → k < n → ∃ other, Holds past other (generatedName k)) ∧
        (∀ other, ¬ Holds past other (generatedName n)) ∧
          ∀ earlier ∈ generatedNames past, sameName earlier (generatedName n) = false

/-- A statement has the name of its tenure. -/
theorem Agrees.nameOf?_eq (h : Agrees past r) (id : Nat) :
    r.nameOf? id = (tenure? id past).map Tenure.name := by
  rw [nameOf?, h.entry, Option.map_map]
  rfl

/-- The names are those held, in the order in which they were taken. -/
theorem Agrees.exists_held (h : Agrees past r) :
    ∃ held : List (Nat × Tenure), held.map (fun h => h.2.name) = r.names ∧
      (∀ id t, (id, t) ∈ held ↔ tenure? id past = some t) ∧
        held.Pairwise fun a b => a.2.since < b.2.since := by
  let tenureOf (e : NamedCursor) : Tenure := (tenure? e.statement past).getD ⟨0, e.name⟩
  have htenure : ∀ e ∈ r.entries,
      tenure? e.statement past = some (tenureOf e) ∧ (tenureOf e).name = e.name := by
    intro e he
    obtain ⟨t, ht, hname, -⟩ := h.tenure?_of_mem he
    simp [tenureOf, ht, hname]
  refine ⟨r.entries.map fun e => (e.statement, tenureOf e), ?_, ?_, ?_⟩
  · rw [List.map_map]
    exact List.map_congr_left fun e he => (htenure e he).2
  · intro id t
    constructor
    · intro hmem
      obtain ⟨e, he, heq⟩ := List.mem_map.mp hmem
      obtain ⟨rfl, rfl⟩ := Prod.mk.inj heq
      exact (htenure e he).1
    · intro ht
      have hentry := h.entry id
      rw [ht] at hentry
      obtain ⟨hmem, -⟩ := mem_of_ofStatement? hentry
      refine List.mem_map.mpr ⟨_, hmem, ?_⟩
      simp [tenureOf, ht]
  · rw [List.pairwise_map]
    apply h.ordered.imp_of_mem
    intro e e' he he' hbefore
    exact hbefore _ _ (htenure e he).1 (htenure e' he').1

/-- No two names differ in case only. -/
theorem Agrees.distinct (h : Agrees past r) :
    r.names.Pairwise fun a b => sameName a b = false := by
  rw [names, List.pairwise_map]
  have hids : r.entries.Pairwise fun e e' => e.statement ≠ e'.statement :=
    List.pairwise_map.mp h.lawful.ids
  apply hids.imp_of_mem
  intro e e' he he' hne
  by_contra hsame
  exact hne (h.lawful.names e he e' he' (Bool.not_eq_false _ ▸ hsame))

/-- A name leads to what its holder was told last. -/
theorem Agrees.targetFor_of_holds (h : Agrees past r) (hheld : Holds past id name) :
    r.targetFor name = (lastTold id past).getD (.error (unknownCursor name)) := by
  obtain ⟨e, hfound, -, htarget⟩ := h.holder?_of_holds hheld
  rw [targetFor, hfound, Option.bind_some, htarget]
  cases lastTold id past <;> rfl

/-- A name without a holder leads nowhere. -/
theorem Agrees.targetFor_of_unheld (h : Agrees past r) (hnobody : ∀ id, ¬ Holds past id name) :
    r.targetFor name = .error (unknownCursor name) := by
  rw [targetFor, h.holder?_eq_none_iff.mpr hnobody]
  rfl

/-- A registration is refused just if another statement holds the name. -/
theorem Agrees.register_eq_error_iff {e : Error} (h : Agrees past r) :
    r.register id name = .error e ↔
      e = .duplicateCursorName name ∧ ∃ other, other ≠ id ∧ Holds past other name := by
  obtain ⟨hrefused, hother⟩ | ⟨hown, hheld⟩ | ⟨htaken, hfree⟩ := h.register_cases id name
  · rw [hrefused]
    constructor
    · rintro ⟨⟩
      exact ⟨rfl, hother⟩
    · rintro ⟨rfl, -⟩
      rfl
  · rw [hown]
    refine iff_of_false (fun hok => by cases hok) ?_
    rintro ⟨-, other, hne, hother⟩
    exact hne (h.eq_of_holds hother hheld)
  · rw [htaken]
    refine iff_of_false (fun hok => by cases hok) ?_
    rintro ⟨-, other, -, hother⟩
    exact h.holder?_eq_none_iff.mp hfree other hother

theorem Agrees.of_registered (h : Agrees past r) (hok : r.register id name = .ok r') :
    Agrees ((.register id name, .done) :: past) r' := by
  have hnext := h.register id name
  simpa only [CursorNames.perform, hok] using hnext

/-- Who has registered a name has it, in one case or another. -/
theorem Agrees.nameOf?_registered (h : Agrees past r) (hok : r.register id name = .ok r') :
    ∃ kept, r'.nameOf? id = some kept ∧ sameName kept name = true := by
  obtain ⟨t, ht, hname⟩ := holds_registered past id name
  refine ⟨t.name, ?_, hname⟩
  rw [(h.of_registered hok).nameOf?_eq, ht]
  rfl

/-- To register anew keeps what was told last. -/
theorem Agrees.targetFor_registered (h : Agrees past r) (hok : r.register id name = .ok r')
    (hnamed : (r.nameOf? id).isSome = true) :
    r'.targetFor name = (lastTold id past).getD (.error (unknownCursor name)) := by
  have htarget := (h.of_registered hok).targetFor_of_holds (holds_registered past id name)
  rw [h.nameOf?_eq, Option.isSome_map, Option.isSome_iff_exists] at hnamed
  obtain ⟨t, ht⟩ := hnamed
  rwa [lastTold_cons_of_named ht] at htarget

/-- A refused registration changes nothing. -/
theorem Agrees.unchanged {e : Error} (h : Agrees past r)
    (hrefused : (r.perform (.register id name)).1 = .refused e) :
    (r.perform (.register id name)).2 = r := by
  obtain ⟨herror, -⟩ | ⟨hown, -⟩ | ⟨htaken, -⟩ := h.register_cases id name
  · simp [CursorNames.perform, herror]
  · simp [CursorNames.perform, hown]
  · simp [CursorNames.perform, htaken] at hrefused

/-- A generated name is the first free one from where the last search ended. -/
theorem Agrees.exists_generated (h : Agrees past r) (id : Nat) :
    ∃ n, (r.generate id).1 = generatedName n ∧ r.generated ≤ n ∧
      n ≤ r.generated + r.names.length ∧
        (∀ k, r.generated ≤ k → k < n → ∃ other, Holds past other (generatedName k)) ∧
          (∀ other, ¬ Holds past other (generatedName n)) ∧
            ∀ earlier ∈ generatedNames past, sameName earlier (generatedName n) = false := by
  obtain ⟨hlow, hhigh⟩ := r.le_firstFree r.entries.length r.generated
  refine ⟨r.firstFree r.entries.length r.generated, rfl, hlow, ?_, ?_, ?_, ?_⟩
  · simpa [names] using hhigh
  · intro k hk hlt
    obtain ⟨e, hfound⟩ := Option.isSome_iff_exists.mp
      (r.holder?_of_lt_firstFree r.entries.length r.generated k hk hlt)
    exact ⟨e.statement, h.holds_of_holder? hfound⟩
  · exact h.holder?_eq_none_iff.mp r.holder?_firstFree
  · -- Every name that was generated before has a smaller number.
    intro earlier hearlier
    obtain ⟨n, hn, rfl⟩ := h.numbered earlier hearlier
    by_contra hsame
    rw [Bool.not_eq_false] at hsame
    have heq := generatedName_inj (Text.sameName_iff.mp hsame)
    omega

/-- The names of a connection keep their laws in every run of calls. -/
theorem laws_recorded (calls : List NameCall) : Laws (recorded calls).1 (recorded calls).2 := by
  have h := agrees_recorded calls
  constructor
  case distinct => exact h.distinct
  case one => exact h.lawful.ids
  case nameOf => exact h.nameOf?_eq
  case ordered => exact h.exists_held
  case refused => exact fun id name e => h.register_eq_error_iff
  case unchanged => exact fun id name e => h.unchanged
  case registered => exact fun id name r' => h.nameOf?_registered
  case renamed => exact fun id name r' => h.targetFor_registered
  case told => exact fun id name => h.targetFor_of_holds
  case unheld => exact fun name => h.targetFor_of_unheld
  case state => exact fun name => rfl
  case generated => exact h.exists_generated

/-- A generated name passes over one that a statement has chosen in another case, and a statement
that takes a new name goes to the end. -/
example :
    (recorded [.register 1 "b", .generate 2, .register 1 "sql_cur0"]).2.names =
      ["SQL_CUR1", "b"] := by
  decide +kernel

end CursorNames

end ScrollCursor
