import ScrollCursor.Proofs.Cursor.Fetching

/-! # The rest of a result

Only pulling looks at what is left of a result. Once the rows of a rowset are there, they are
brought up to date and shown in the same way whatever may follow them, and whatever went over the
link before; what then goes over it begins with a question of its own.
-/

namespace ScrollCursor

/-- The first thing asked for is not the next row of a result that is open already. -/
def Event.Asking (events : List Event) : Prop :=
  events.head? ≠ some .pull

namespace Event.Asking

variable {first second : List Event}

theorem nil : Asking [] :=
  nofun

theorem append (h : Asking first) (h' : Asking second) : Asking (first ++ second) := by
  cases first with
  | nil => exact h'
  | cons event rest => exact h

end Event.Asking

namespace Link

variable {σ : Type}

/-- The same link with another record of what went over it. -/
def recording (l : Link σ) (events : List Event) : Link σ :=
  { l with events := events }

theorem queryRow_recording (l : Link σ) (request : Request) :
    ∃ more, Event.Asking more ∧ ∀ events,
      (l.recording events).queryRow request =
        ((l.queryRow request).1, (l.queryRow request).2.recording (events ++ more)) := by
  unfold queryRow
  have hquery (events : List Event) : (l.recording events).query request =
      ((l.query request).1, (l.query request).2.recording (events ++ [.query request])) := rfl
  rcases hanswer : l.query request with ⟨e | result, after⟩
  · refine ⟨[.query request], nofun, fun events => ?_⟩
    rw [hquery, hanswer]
  · refine ⟨[.query request, .pull], nofun, fun events => ?_⟩
    have hpulled : (after.recording (events ++ [.query request])).pulled 1 =
        (after.pulled 1).recording (events ++ [.query request, .pull]) := by
      simp [recording, pulled]
    rw [hquery, hanswer]
    dsimp only
    rw [hpulled]
    split <;> rfl

end Link

namespace Work

open Event (Asking)

variable {σ : Type}

/-- The same work with another rest of the result and another record of the link. -/
def withRest (stream : RowStream) (events : List Event) (w : Work σ) : Work σ :=
  { w with
    cursor := { w.cursor with stream := stream }
    link := w.link.recording events }

theorem keySet_withRest (w : Work σ) :
    ∃ more, Asking more ∧ ∀ stream events,
      (w.withRest stream events).keySet =
        (w.keySet.1, w.keySet.2.withRest stream (events ++ more)) := by
  unfold keySet
  have hkey (stream : RowStream) (events : List Event) :
      (w.withRest stream events).cursor.key = w.cursor.key := rfl
  cases hcached : w.cursor.key with
  | some key =>
      refine ⟨[], .nil, fun stream events => ?_⟩
      rw [hkey, hcached, List.append_nil]
  | none =>
      obtain ⟨more, hmore, hresolve⟩ : ∃ more, Asking more ∧ ∀ stream events,
          (w.withRest stream events).resolveKey =
            (w.resolveKey.1, w.resolveKey.2.recording (events ++ more)) := by
        unfold resolveKey
        have hdescriptor (stream : RowStream) (events : List Event) :
            (w.withRest stream events).cursor.descriptor = w.cursor.descriptor := rfl
        cases htable : w.cursor.descriptor.singleTable with
        | error e =>
            refine ⟨[], .nil, fun stream events => ?_⟩
            rw [hdescriptor, htable, List.append_nil]
            rfl
        | ok table =>
            refine ⟨[.metadata table], nofun, fun stream events => ?_⟩
            have hmetadata : (w.withRest stream events).link.metadata table =
                ((w.link.metadata table).1,
                  (w.link.metadata table).2.recording (events ++ [.metadata table])) := rfl
            rw [hdescriptor, htable]
            dsimp only
            rw [hmetadata]
            rcases w.link.metadata table with ⟨_ | _, _⟩ <;> rfl
      refine ⟨more, hmore, fun stream events => ?_⟩
      rw [hkey, hcached]
      dsimp only
      rw [hresolve]
      rfl

theorem readByKey_withRest (w : Work σ) (key : KeySet) (image : Record) :
    ∃ more, Asking more ∧ ∀ stream events,
      (w.withRest stream events).readByKey key image =
        ((w.readByKey key image).1, (w.readByKey key image).2.recording (events ++ more)) := by
  unfold readByKey
  have hselect (stream : RowStream) (events : List Event) :
      (w.withRest stream events).cursor.dialect.selectByKey key
          (w.withRest stream events).cursor.descriptor image
          ((w.withRest stream events).cursor.options.concurrency == .lock) =
        w.cursor.dialect.selectByKey key w.cursor.descriptor image
          (w.cursor.options.concurrency == .lock) := rfl
  cases hrequest : w.cursor.dialect.selectByKey key w.cursor.descriptor image
      (w.cursor.options.concurrency == .lock) with
  | error e =>
      refine ⟨[], .nil, fun stream events => ?_⟩
      dsimp only
      rw [hselect, hrequest, List.append_nil]
      rfl
  | ok found =>
      obtain ⟨request, ordinals⟩ := found
      obtain ⟨more, hmore, hquery⟩ := w.link.queryRow_recording request
      refine ⟨more, hmore, fun stream events => ?_⟩
      have hlink : (w.withRest stream events).link.queryRow request =
          ((w.link.queryRow request).1, (w.link.queryRow request).2.recording (events ++ more)) :=
        hquery events
      dsimp only
      rw [hselect, hrequest]
      dsimp only
      rw [hlink]
      rcases w.link.queryRow request with ⟨_ | _, _⟩ <;> rfl

theorem rereadRow_withRest (key : KeySet) (w : Work σ) (row : Nat) :
    ∃ more, Asking more ∧ ∀ stream events,
      rereadRow key (w.withRest stream events) row =
        (rereadRow key w row).withRest stream (events ++ more) := by
  unfold rereadRow
  have hslotOf (stream : RowStream) (events : List Event) :
      (w.withRest stream events).cursor.slotOf? row = w.cursor.slotOf? row := rfl
  have hbuffer (stream : RowStream) (events : List Event) :
      (w.withRest stream events).cursor.buffer = w.cursor.buffer := rfl
  cases hid : w.cursor.slotOf? row with
  | none =>
      refine ⟨[], .nil, fun stream events => ?_⟩
      rw [hslotOf, hid, List.append_nil]
  | some id =>
      cases hslot : w.cursor.buffer.slot? id with
      | none =>
          refine ⟨[], .nil, fun stream events => ?_⟩
          rw [hslotOf, hid]
          dsimp only
          rw [hbuffer, hslot, List.append_nil]
      | some slot =>
          cases hdeleted : slot.isDeleted with
          | true =>
              refine ⟨[], .nil, fun stream events => ?_⟩
              rw [hslotOf, hid]
              dsimp only
              rw [hbuffer, hslot, List.append_nil]
              simp only [hdeleted, if_true]
          | false =>
              obtain ⟨more, hmore, hread⟩ := w.readByKey_withRest key slot.image
              refine ⟨more, hmore, fun stream events => ?_⟩
              rw [hslotOf, hid]
              dsimp only
              rw [hbuffer, hslot]
              simp only [hdeleted, Bool.false_eq_true, if_false]
              rw [hread]
              rcases w.readByKey key slot.image with ⟨_ | _ | _, _⟩ <;> rfl

theorem foldl_rereadRow_withRest (key : KeySet) (w : Work σ) (rows : List Nat) :
    ∃ more, Asking more ∧ ∀ stream events,
      rows.foldl (rereadRow key) (w.withRest stream events) =
        (rows.foldl (rereadRow key) w).withRest stream (events ++ more) := by
  induction rows generalizing w with
  | nil => exact ⟨[], .nil, fun stream events => by rw [List.append_nil]; rfl⟩
  | cons row rows ih =>
      obtain ⟨first, hfirst, hrow⟩ := rereadRow_withRest key w row
      obtain ⟨rest, hrest, hrows⟩ := ih (rereadRow key w row)
      refine ⟨first ++ rest, hfirst.append hrest, fun stream events => ?_⟩
      rw [List.foldl_cons, List.foldl_cons, hrow, hrows, List.append_assoc]

theorem reread_withRest (w : Work σ) (rows : List Nat) :
    ∃ more, Asking more ∧ ∀ stream events,
      (w.withRest stream events).reread rows =
        (w.reread rows).withRest stream (events ++ more) := by
  obtain ⟨asked, hasked, hkeySet⟩ := w.keySet_withRest
  unfold reread
  rcases hkey : w.keySet with ⟨e | key, after⟩
  · refine ⟨asked, hasked, fun stream events => ?_⟩
    rw [hkeySet, hkey]
  · obtain ⟨read, hread, hrows⟩ := foldl_rereadRow_withRest key after rows
    refine ⟨asked ++ read, hasked.append hread, fun stream events => ?_⟩
    rw [hkeySet, hkey]
    dsimp only
    rw [hrows, List.append_assoc]

/-- What is shown of a rowset that has been placed depends on nothing that may still come. -/
theorem showRowset_withRest (w : Work σ) :
    ∃ more, Asking more ∧ ∀ stream events,
      (w.withRest stream events).showRowset =
        (w.showRowset.1, w.showRowset.2.withRest stream (events ++ more)) := by
  unfold showRowset
  have hkind (stream : RowStream) (events : List Event) :
      (w.withRest stream events).cursor.kind = w.cursor.kind := rfl
  have hrowset (stream : RowStream) (events : List Event) :
      (w.withRest stream events).cursor.rowset = w.cursor.rowset := rfl
  cases hrereads : w.cursor.kind.rereads with
  | true =>
      obtain ⟨more, hmore, hreread⟩ := w.reread_withRest (List.range' 1 w.cursor.rowset.length)
      refine ⟨more, hmore, fun stream events => ?_⟩
      dsimp only
      rw [hkind, hrowset, hrereads, if_pos rfl, if_pos rfl, hreread]
      rfl
  | false =>
      refine ⟨[], .nil, fun stream events => ?_⟩
      dsimp only
      rw [hkind, hrereads, if_neg Bool.false_ne_true, if_neg Bool.false_ne_true, List.append_nil]
      rfl

end Work

end ScrollCursor
