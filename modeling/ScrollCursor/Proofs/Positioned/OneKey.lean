import ScrollCursor.Proofs.Positioned.KeptByCalls
import ScrollCursor.Proofs.WriteBack.Assignments

/-! # One key for a cursor

A cursor asks for the key of its result when it is first needed. Whatever came of that is kept, so
metadata is not asked for again, and every predicate names the columns of that one key.
-/

namespace ScrollCursor

/-! ## Predicates -/

/-- The table that a predicate is for, and the columns that it compares with their types. -/
structure PredicateShape where
  table : TableRef
  columns : List (String × SqlType)
  deriving DecidableEq

def PredicateShape.ofTerms (table : TableRef) (terms : List ColumnValue) : PredicateShape :=
  ⟨table, terms.map fun t => (t.column, t.sqlType)⟩

namespace KeySet

/-- What all predicates of a key have in common. -/
def shape (key : KeySet) : PredicateShape :=
  ⟨key.table, key.columns.map fun c => (c.name, c.sqlType)⟩

variable {key : KeySet} {values : Record}

theorem eq_of_term {c : KeyColumn} {t : ColumnValue} (h : key.term values c = .ok t) :
    t.column = c.name ∧ t.sqlType = c.sqlType := by
  unfold term at h
  split at h
  · cases h
  · split at h
    · cases h
    · cases h
      exact ⟨rfl, rfl⟩

/-- Terms of a key have its shape. -/
theorem shape_ofTerms {terms : List ColumnValue} (h : key.terms values = .ok terms) :
    .ofTerms key.table terms = key.shape := by
  have hcolumns : List.Forall₂ Eq (key.columns.map fun c => (c.name, c.sqlType))
      (terms.map fun t => (t.column, t.sqlType)) := by
    rw [List.forall₂_map_left_iff, List.forall₂_map_right_iff]
    refine (Results.mapM_eq_ok.mp h).imp fun c t ht => ?_
    obtain ⟨hname, htype⟩ := eq_of_term ht
    rw [hname, htype]
  rw [List.forall₂_eq_eq_eq] at hcolumns
  rw [PredicateShape.ofTerms, shape, hcolumns]

end KeySet

/-- The predicate is of the key that was found. -/
def PredicateShape.IsOf (shape : PredicateShape) (key : Option (Except Error KeySet)) : Prop :=
  ∃ found, key = some (.ok found) ∧ found.shape = shape

namespace Plan

/-- The predicate of a planned statement. An insertion has none. -/
def predicate? : Plan → Option PredicateShape
  | .update table _ terms | .delete table terms | .selectByKey table _ terms _ =>
      some (.ofTerms table terms)
  | .insert _ _ => none

end Plan

namespace Event

/-- The predicate that the server was sent. -/
def predicate? : Event → Option PredicateShape
  | .query request | .execute request => request.plan.bind Plan.predicate?
  | .metadata _ | .pull => none

/-- The server was asked for metadata. -/
def isMetadata : Event → Bool
  | .metadata _ => true
  | _ => false

end Event

/-- The predicate of the row that a cursor was said to stand on. -/
def PublishedTarget.predicate? : PublishedTarget → Option PredicateShape
  | some (.ok target) => some (.ofTerms target.table target.terms)
  | _ => none

namespace Dialect

variable {s : Dialect} {key : KeySet} {d : ResultDescriptor} {image : Record} {request : Request}

/-- An update asks for a row by the key. -/
theorem predicate?_of_update {assignments : List (Nat × Value)}
    (h : s.update key d image assignments = .ok request) :
    request.plan.bind Plan.predicate? = some key.shape := by
  obtain ⟨values, terms, -, hplan, -, hterms, -⟩ := exists_plan_of_update h
  rw [hplan, Option.bind_some, Plan.predicate?, KeySet.shape_ofTerms hterms]

theorem predicate?_of_delete (h : s.delete key image = .ok request) :
    request.plan.bind Plan.predicate? = some key.shape := by
  obtain ⟨terms, -, hplan, hterms, -⟩ := plan_of_delete h
  rw [hplan, Option.bind_some, Plan.predicate?, KeySet.shape_ofTerms hterms]

/-- A query that reads a row again asks for it by the key. -/
theorem predicate?_of_selectByKey {forUpdate : Bool} {ordinals : List Nat}
    (h : s.selectByKey key d image forUpdate = .ok (request, ordinals)) :
    request.plan.bind Plan.predicate? = some key.shape := by
  obtain ⟨names, terms, hplan, hterms⟩ := plan_of_selectByKey h
  rw [hplan, Option.bind_some, Plan.predicate?, KeySet.shape_ofTerms hterms]

/-- An insertion asks for no row. -/
theorem predicate?_of_insert {table : TableRef} {values : List (Nat × Value)}
    (h : s.insert table d values = .ok request) : request.plan.bind Plan.predicate? = none := by
  unfold insert at h
  obtain ⟨targets, -, h⟩ := Results.bind_eq_ok.mp h
  obtain ⟨texts, -, h⟩ := Results.bind_eq_ok.mp h
  cases h
  rfl

end Dialect

/-! ## Traffic -/

/-- What went out for one cursor: the questions to the server and where the cursor was said to
stand. -/
structure Traffic where
  sent : List Event := []
  published : List PublishedTarget := []

namespace Traffic

/-- How often metadata was asked for. -/
def asked (t : Traffic) : Nat :=
  t.sent.countP Event.isMetadata

/-- The predicates that were sent or published. -/
def predicates (t : Traffic) : List PredicateShape :=
  t.sent.filterMap Event.predicate? ++ t.published.filterMap PublishedTarget.predicate?

def send (t : Traffic) (events : List Event) : Traffic :=
  { t with sent := t.sent ++ events }

def publish (t : Traffic) (target : PublishedTarget) : Traffic :=
  { t with published := t.published ++ [target] }

/-- Metadata was asked for only to find the key, and all predicates are the key's. -/
structure OneKey (t : Traffic) (key : Option (Except Error KeySet)) : Prop where
  asked : t.asked ≤ key.isSome.toNat
  predicates : ∀ shape ∈ t.predicates, shape.IsOf key

variable {t : Traffic} {key : Option (Except Error KeySet)} {events : List Event}
  {target : PublishedTarget} {shape : PredicateShape}

/-- The predicates of all traffic are those that were sent and those that were published. -/
theorem mem_predicates : shape ∈ t.predicates ↔
    (∃ event ∈ t.sent, event.predicate? = some shape) ∨
      ∃ target ∈ t.published, target.predicate? = some shape := by
  rw [predicates, List.mem_append, List.mem_filterMap, List.mem_filterMap]

theorem send_send (t : Traffic) (first second : List Event) :
    (t.send first).send second = t.send (first ++ second) := by
  rw [send, send, send, List.append_assoc]

/-- Events bring their own predicates and no others. -/
theorem mem_predicates_send : shape ∈ (t.send events).predicates ↔
    shape ∈ t.predicates ∨ ∃ event ∈ events, event.predicate? = some shape := by
  rw [mem_predicates, mem_predicates, send]
  simp only [List.mem_append, or_and_right, exists_or]
  rw [or_right_comm]

/-- A published target brings its own predicate and no other. -/
theorem mem_predicates_publish : shape ∈ (t.publish target).predicates ↔
    shape ∈ t.predicates ∨ target.predicate? = some shape := by
  rw [mem_predicates, mem_predicates, publish]
  simp only [List.mem_append, List.mem_singleton, or_and_right, exists_or, exists_eq_left, or_assoc]

theorem asked_send (t : Traffic) (events : List Event) :
    (t.send events).asked = t.asked + events.countP Event.isMetadata :=
  List.countP_append

namespace OneKey

/-- Without traffic no key has been used. -/
theorem empty (key : Option (Except Error KeySet)) : OneKey {} key :=
  ⟨Nat.zero_le _, nofun⟩

/-- Questions for rows go out with the predicate of the key or with none. -/
theorem send (h : t.OneKey key) (hasked : ∀ event ∈ events, event.isMetadata = false)
    (hshape : ∀ event ∈ events, ∀ shape, event.predicate? = some shape → shape.IsOf key) :
    (t.send events).OneKey key where
  asked := by
    have hnone : events.countP Event.isMetadata = 0 := by
      rw [List.countP_eq_zero]
      intro event hevent
      rw [hasked event hevent]
      exact Bool.false_ne_true
    rw [asked_send, hnone, Nat.add_zero]
    exact h.asked
  predicates := by
    intro shape hmem
    rcases mem_predicates_send.mp hmem with hold | ⟨event, hevent, hnew⟩
    · exact h.predicates shape hold
    · exact hshape event hevent shape hnew

/-- As long as no key was asked for there are no predicates. -/
theorem resolve (h : t.OneKey none) (hasked : events.countP Event.isMetadata ≤ 1)
    (hshape : ∀ event ∈ events, event.predicate? = none) (found : Except Error KeySet) :
    (t.send events).OneKey (some found) where
  asked := by
    have hnone : t.asked = 0 := Nat.le_zero.mp h.asked
    rw [asked_send, hnone, Nat.zero_add]
    exact hasked
  predicates := by
    intro shape hmem
    rcases mem_predicates_send.mp hmem with hold | ⟨event, hevent, hnew⟩
    · -- Without a key no predicate can have gone out.
      obtain ⟨_, hkey, -⟩ := h.predicates shape hold
      cases hkey
    · cases (hshape event hevent).symm.trans hnew

/-- A target of the key's shape can be published. -/
theorem publish (h : t.OneKey key)
    (hshape : ∀ shape, target.predicate? = some shape → shape.IsOf key) :
    (t.publish target).OneKey key where
  asked := h.asked
  predicates := by
    intro shape hmem
    rcases mem_predicates_publish.mp hmem with hold | hnew
    · exact h.predicates shape hold
    · exact hshape shape hnew

theorem of_publish (h : (t.publish target).OneKey key) : t.OneKey key where
  asked := h.asked
  predicates shape hmem := h.predicates shape (mem_predicates_publish.mpr (Or.inl hmem))

/-- The metadata have been asked for once at most. -/
theorem asked_le_one (h : t.OneKey key) : t.asked ≤ 1 :=
  h.asked.trans (Bool.toNat_le _)

/-- All predicates are of one shape. -/
theorem eq_of_mem (h : t.OneKey key) {other : PredicateShape} (hmem : shape ∈ t.predicates)
    (hother : other ∈ t.predicates) : shape = other := by
  obtain ⟨found, hkey, rfl⟩ := h.predicates shape hmem
  obtain ⟨found', hkey', rfl⟩ := h.predicates other hother
  cases hkey.symm.trans hkey'
  rfl

end OneKey

end Traffic

/-! ## Questions to the server -/

/-- Since the link had a record, what went over it together with earlier traffic kept to one key. -/
def Link.OnKey {σ : Type} (record : List Event) (earlier : Traffic)
    (key : Option (Except Error KeySet)) (l : Link σ) : Prop :=
  ∃ events, l.events = record ++ events ∧ (earlier.send events).OneKey key

namespace Link.OnKey

variable {σ : Type} {record : List Event} {earlier : Traffic} {key : Option (Except Error KeySet)}
  {l l' : Link σ} {request : Request}

/-- Events that ask for no metadata and use the key can be added. -/
theorem append {more : List Event} (h : l.OnKey record earlier key)
    (hevents : l'.events = l.events ++ more) (hasked : ∀ event ∈ more, event.isMetadata = false)
    (hshape : ∀ event ∈ more, ∀ shape, event.predicate? = some shape → shape.IsOf key) :
    l'.OnKey record earlier key := by
  obtain ⟨events, hsince, hone⟩ := h
  refine ⟨events ++ more, ?_, ?_⟩
  · rw [hevents, hsince, List.append_assoc]
  · rw [← Traffic.send_send]
    exact hone.send hasked hshape

/-- The metadata may be asked for once, while the key is not known. -/
theorem resolve {more : List Event} (h : l.OnKey record earlier none)
    (hevents : l'.events = l.events ++ more) (hasked : more.countP Event.isMetadata ≤ 1)
    (hshape : ∀ event ∈ more, event.predicate? = none) (found : Except Error KeySet) :
    l'.OnKey record earlier (some found) := by
  obtain ⟨events, hsince, hone⟩ := h
  refine ⟨events ++ more, ?_, ?_⟩
  · rw [hevents, hsince, List.append_assoc]
  · rw [← Traffic.send_send]
    exact hone.resolve hasked hshape found

theorem pulled (h : l.OnKey record earlier key) (count : Nat) :
    (l.pulled count).OnKey record earlier key := by
  have hpulls : (l.pulled count).events = l.events ++ List.replicate count .pull := rfl
  refine h.append hpulls ?_ ?_
  · intro event hevent
    rw [List.eq_of_mem_replicate hevent]
    rfl
  · intro event hevent shape hshape
    rw [List.eq_of_mem_replicate hevent] at hshape
    cases hshape

/-- A single request with no predicate or that of the key. -/
theorem ask (h : l.OnKey record earlier key) {event : Event}
    (hevents : l'.events = l.events ++ [event]) (hasked : event.isMetadata = false)
    (hshape : ∀ shape, event.predicate? = some shape → shape.IsOf key) :
    l'.OnKey record earlier key := by
  refine h.append hevents ?_ ?_
  · intro event' hevent
    rw [List.mem_singleton.mp hevent]
    exact hasked
  · intro event' hevent
    rw [List.mem_singleton.mp hevent]
    exact hshape

/-- A statement that uses the key can be sent. -/
theorem execute (h : l.OnKey record earlier key)
    (hshape : ∀ shape, request.plan.bind Plan.predicate? = some shape → shape.IsOf key) :
    (l.execute request).2.OnKey record earlier key := by
  have hsent : (l.execute request).2.events = l.events ++ [.execute request] := rfl
  exact h.ask hsent rfl hshape

theorem queryRow (h : l.OnKey record earlier key)
    (hshape : ∀ shape, request.plan.bind Plan.predicate? = some shape → shape.IsOf key) :
    (l.queryRow request).2.OnKey record earlier key := by
  have hsent : (l.query request).2.events = l.events ++ [.query request] := rfl
  have hasked : (l.query request).2.OnKey record earlier key := h.ask hsent rfl hshape
  unfold Link.queryRow
  generalize l.query request = answered at hasked ⊢
  obtain ⟨_ | result, after⟩ := answered
  · exact hasked
  · dsimp only
    split <;> exact hasked.pulled 1

end Link.OnKey

namespace Work

variable {σ : Type} {w : Work σ} {record : List Event} {earlier : Traffic} {key : KeySet}

/-- The cursor has kept to its key. -/
def OnKey (record : List Event) (earlier : Traffic) (w : Work σ) : Prop :=
  w.link.OnKey record earlier w.cursor.key

namespace OnKey

/-- What was sent decides, and not what became of the rows. -/
theorem of_link {w' : Work σ} (hkey : w'.cursor.key = w.cursor.key)
    (h : w'.link.OnKey record earlier w.cursor.key) : w'.OnKey record earlier := by
  rw [OnKey, hkey]
  exact h

/-- Metadata is asked for once at most, and then some key is known or an error. -/
theorem keySet (h : w.OnKey record earlier) : w.keySet.2.OnKey record earlier := by
  unfold Work.keySet
  split
  · exact h
  next hunknown =>
    have hnone : w.link.OnKey record earlier none := hunknown ▸ h
    change w.resolveKey.2.OnKey record earlier (some w.resolveKey.1)
    -- Whether or not the server has to be asked, what is found is the key from now on.
    refine resolveKey_of_metadata (L := Link.OnKey record earlier (some w.resolveKey.1)) ?_ ?_
    · exact hnone.resolve (List.append_nil _).symm (Nat.zero_le _) nofun _
    · intro table
      have hsent : (w.link.metadata table).2.events = w.link.events ++ [.metadata table] := rfl
      refine hnone.resolve hsent (Nat.le_refl 1) ?_ _
      intro event hevent
      rw [List.mem_singleton.mp hevent]
      rfl

/-- A request with the predicate of the key. -/
theorem isOf_of_request (hkey : w.cursor.key = some (.ok key)) {request : Request}
    (hrequest : request.plan.bind Plan.predicate? = some key.shape) (shape : PredicateShape)
    (hshape : request.plan.bind Plan.predicate? = some shape) : shape.IsOf w.cursor.key := by
  rw [hrequest, Option.some.injEq] at hshape
  exact ⟨key, hkey, hshape⟩

/-- To read a row again uses the key. -/
theorem rereadRow (h : w.OnKey record earlier) (hkey : w.cursor.key = some (.ok key)) (row : Nat) :
    (Work.rereadRow key w row).OnKey record earlier := by
  refine of_link (key_rereadRow key w row) (rereadRow_of_readByKey h (fun image => ?_) row)
  refine readByKey_of_queryRow h fun request ordinals hrequest => ?_
  exact h.queryRow (isOf_of_request hkey (Dialect.predicate?_of_selectByKey hrequest))

/-- To update a row uses the key. -/
theorem updateSlot (h : w.OnKey record earlier) (hkey : w.cursor.key = some (.ok key))
    (supplied : Supplied) (id : SlotId) (bindingRow : Nat) :
    (w.updateSlot key supplied id bindingRow).2.OnKey record earlier := by
  refine of_link (key_updateSlot ..) (updateSlot_of_execute h ?_ supplied id bindingRow)
  intro image assignments request hrequest
  exact h.execute (isOf_of_request hkey (Dialect.predicate?_of_update hrequest))

/-- To delete a row uses the key. -/
theorem deleteSlot (h : w.OnKey record earlier) (hkey : w.cursor.key = some (.ok key))
    (id : SlotId) : (w.deleteSlot key id).2.OnKey record earlier := by
  refine of_link (key_deleteSlot ..) (deleteSlot_of_execute h ?_ id)
  intro image request hrequest
  exact h.execute (isOf_of_request hkey (Dialect.predicate?_of_delete hrequest))

/-- An insertion says nothing of rows that there are. -/
theorem addOne (h : w.OnKey record earlier) (supplied : Supplied) (table : TableRef)
    (numbered : Option Nat) (row : Nat) :
    (Work.addOne supplied table numbered w row).2.2.OnKey record earlier := by
  refine of_link (key_addOne ..) (addOne_of_execute h ?_ supplied numbered row)
  intro values request hrequest
  refine h.execute fun shape hshape => ?_
  cases (Dialect.predicate?_of_insert hrequest).symm.trans hshape

end OnKey

/-- Every call uses the one key. -/
theorem keptByCalls_onKey (record : List Event) (earlier : Traffic) :
    KeptByCalls (σ := σ) (OnKey record earlier) where
  same h hsame := .of_link hsame.key (hsame.link ▸ h)
  dropBehind position h := by
    refine .of_link ?_ h
    dsimp only [onCursor, Cursor.dropBehind]
    split <;> rfl
  pull demand h := h.pulled _
  keySet h := h.keySet
  rereadRow key row h hkey := h.rereadRow hkey row
  updateSlot key supplied id bindingRow h hkey := h.updateSlot hkey supplied id bindingRow
  deleteSlot key id h hkey := h.deleteSlot hkey id
  addOne supplied table numbered row h := h.addOne supplied table numbered row

/-- What is told of the current row is put in terms of the key. -/
theorem predicate?_currentTarget (w : Work σ) (shape : PredicateShape)
    (h : w.currentTarget.1.predicate? = some shape) :
    shape.IsOf w.currentTarget.2.cursor.key := by
  have hkey := w.key_keySet
  unfold currentTarget at h ⊢
  split at h
  · cases h
  next image _ =>
    generalize w.keySet = found at h hkey ⊢
    obtain ⟨_ | key, after⟩ := found
    · cases h
    · dsimp only at h hkey ⊢
      cases hterms : key.terms image with
      | error e =>
          rw [hterms] at h
          cases h
      | ok terms =>
          rw [hterms] at h
          cases h
          exact ⟨key, hkey, (KeySet.shape_ofTerms hterms).symm⟩

end Work

end ScrollCursor
