import Mathlib.Data.Finmap
import ScrollCursor.Proofs.Buffer.Bookmarks

/-! # The history of bookmarks

What the bookmarks of a cursor name is told by the calls that were made on them. A slot has the
bookmark that was last minted for it, unless it was retired or everything was forgotten since. The
bookmarks agree with their history after every run of calls, as long as the numbers fit into eight
bytes.

The same bookmarks can be kept in three maps that are changed separately: from a live bookmark to
its slot, from a slot to its live bookmark, and from a retired bookmark to its slot. The first two
stay inverse to each other, and every answer is the same.
-/

namespace ScrollCursor

/-- A call on the bookmarks of a cursor. -/
inductive BookmarkCall where
  | mint (slot : SlotId)
  | retire (slot : SlotId)
  | forgetAll

def BookmarkCall.isMint : BookmarkCall → Bool
  | .mint _ => true
  | _ => false

/-- A call that was made, with the bookmark that was given out. -/
inductive BookmarkEvent where
  | minted (slot : SlotId) (b : Bookmark)
  | retired (slot : SlotId)
  | forgotten

/-- Calls that were made, the last one first. -/
abbrev BookmarkHistory := List BookmarkEvent

namespace BookmarkHistory

/-- The live bookmark of a slot. -/
def liveOf? (slot : SlotId) : BookmarkHistory → Option Bookmark
  | [] | .forgotten :: _ => none
  | .minted i b :: past => if i = slot then some b else liveOf? slot past
  | .retired i :: past => if i = slot then none else liveOf? slot past

/-- The slot whose bookmark this was until it was retired. -/
def retiredFrom? (b : Bookmark) : BookmarkHistory → Option SlotId
  | [] | .forgotten :: _ => none
  | .minted _ _ :: past => retiredFrom? b past
  | .retired i :: past => if liveOf? i past = some b then some i else retiredFrom? b past

/-- The bookmarks that were given out, with the slots they were minted for. -/
def minted (past : BookmarkHistory) : List (Bookmark × SlotId) :=
  past.filterMap fun
    | .minted slot b => some (b, slot)
    | _ => none

end BookmarkHistory

namespace Bookmarks

open BookmarkHistory

def perform (m : Bookmarks) : BookmarkCall → BookmarkEvent × Bookmarks
  | .mint slot => (.minted slot (m.mint slot).1, (m.mint slot).2)
  | .retire slot => (.retired slot, m.retire slot)
  | .forgetAll => (.forgotten, m.forgetAll)

/-- The history of some calls, the last one first, with the bookmarks after them. -/
def recorded : List BookmarkCall → BookmarkHistory × Bookmarks
  | [] => ([], {})
  | call :: before =>
      let (past, m) := recorded before
      ((m.perform call).1 :: past, (m.perform call).2)

/-! ## Agreement with the history -/

/-- The bookmarks are those that the history tells of. -/
structure Agrees (past : BookmarkHistory) (m : Bookmarks) : Prop where
  live : ∀ b slot, (b, slot) ∈ m.live ↔ liveOf? slot past = some b
  retired : ∀ b slot, (b, slot) ∈ m.retired ↔ retiredFrom? b past = some slot
  bookmarks : (m.entries.map Prod.fst).Nodup
  minted : ∀ entry ∈ m.entries, entry ∈ minted past
  numbered : ∀ entry ∈ BookmarkHistory.minted past, ∃ n ≤ m.issued, entry.1 = .ofNumber n
  /-- No bookmark was given out for two slots. -/
  single : ∀ entry ∈ BookmarkHistory.minted past, ∀ other ∈ BookmarkHistory.minted past,
    entry.1 = other.1 → entry.2 = other.2

variable {past : BookmarkHistory} {m : Bookmarks} {b : Bookmark} {slot : SlotId}

/-- Before the first call there are no bookmarks. -/
theorem agrees_blank : Agrees [] {} where
  live := by simp [liveOf?]
  retired := by simp [retiredFrom?]
  bookmarks := List.nodup_nil
  minted := by simp [entries]
  numbered := by simp [BookmarkHistory.minted]
  single := by simp [BookmarkHistory.minted]

namespace Agrees

/-- A slot has the bookmark that it was given last, unless that was retired. -/
theorem ofSlot?_eq (h : Agrees past m) (slot : SlotId) : m.ofSlot? slot = liveOf? slot past := by
  cases hfound : m.ofSlot? slot with
  | some b => exact ((h.live b slot).mp (mem_live_of_ofSlot? hfound)).symm
  | none =>
      cases hlive : liveOf? slot past with
      | none => rfl
      | some b => exact absurd rfl (ofSlot?_eq_none hfound _ ((h.live b slot).mpr hlive))

/-- Entries of one bookmark are one entry, whether it is live or retired. -/
theorem eq_of_bookmark (h : Agrees past m) {id id' : SlotId} (hmem : (b, id) ∈ m.entries)
    (hmem' : (b, id') ∈ m.entries) : id = id' :=
  (Prod.mk.inj (List.inj_on_of_nodup_map h.bookmarks hmem hmem' rfl)).2

/-- No bookmark is live twice. -/
theorem nodup_live (h : Agrees past m) : (m.live.map Prod.fst).Nodup :=
  h.bookmarks.sublist ((List.sublist_append_left _ _).map Prod.fst)

/-- No bookmark is retired twice. -/
theorem nodup_retired (h : Agrees past m) : (m.retired.map Prod.fst).Nodup :=
  h.bookmarks.sublist ((List.sublist_append_right _ _).map Prod.fst)

/-- No live bookmark is retired. -/
theorem not_retired (h : Agrees past m) (hlive : (b, slot) ∈ m.live) (id : SlotId) :
    (b, id) ∉ m.retired := by
  intro hretired
  have hnodup := h.bookmarks
  rw [entries, List.map_append] at hnodup
  exact List.disjoint_of_nodup_append hnodup (List.mem_map_of_mem hlive)
    (List.mem_map.mpr ⟨_, hretired, rfl⟩)

/-- No slot has two live bookmarks. -/
theorem slots (h : Agrees past m) : (m.live.map Prod.snd).Nodup := by
  refine List.Nodup.map_on ?_ h.nodup_live.of_map
  rintro ⟨b, slot⟩ hmem ⟨b', slot'⟩ hmem' hslot
  obtain rfl : slot = slot' := hslot
  have hsame := ((h.live b slot).mp hmem).symm.trans ((h.live b' slot).mp hmem')
  rw [Option.some.inj hsame]

/-- A bookmark leads to the slot that it is the live one of. -/
theorem resolve?_eq_some (h : Agrees past m) :
    m.resolve? b = some slot ↔ liveOf? slot past = some b :=
  (lookup_eq_some_iff_mem h.nodup_live).trans (h.live b slot)

/-- A bookmark can be located when it is live and when it is retired. -/
theorem locate?_eq_some (h : Agrees past m) :
    m.locate? b = some slot ↔
      liveOf? slot past = some b ∨ retiredFrom? b past = some slot := by
  rw [← h.live, ← h.retired, ← List.mem_append]
  exact locate?_eq_some_iff h.bookmarks

/-! ## What the calls keep -/

/-- A slot that has a live bookmark gets it once more. -/
theorem mint_of_live (h : Agrees past m) (hlive : liveOf? slot past = some b) :
    Agrees (.minted slot b :: past) m where
  live b' id := by
    rw [h.live, liveOf?]
    split
    next hid => rw [← hid, hlive]
    · rfl
  retired := h.retired
  bookmarks := h.bookmarks
  minted entry hentry := List.mem_cons_of_mem _ (h.minted entry hentry)
  numbered := by
    have hold := h.minted _ (List.mem_append_left _ ((h.live b slot).mpr hlive))
    exact List.forall_mem_cons.mpr ⟨h.numbered _ hold, h.numbered⟩
  single := by
    have hold := h.minted _ (List.mem_append_left _ ((h.live b slot).mpr hlive))
    have hnew : ∀ entry ∈ (b, slot) :: BookmarkHistory.minted past,
        entry ∈ BookmarkHistory.minted past :=
      List.forall_mem_cons.mpr ⟨hold, fun _ hentry => hentry⟩
    exact fun entry hentry other hother => h.single entry (hnew _ hentry) other (hnew _ hother)

/-- The next number has not been given out. -/
theorem fresh (h : Agrees past m) (hissued : m.issued + 1 < 2 ^ 64) (id : SlotId) :
    (Bookmark.ofNumber (m.issued + 1), id) ∉ BookmarkHistory.minted past := by
  intro hold
  obtain ⟨n, hn, heq⟩ := h.numbered _ hold
  have hsame := Bookmark.ofNumber_inj hissued (lt_of_le_of_lt hn (Nat.lt_of_succ_lt hissued)) heq
  omega

/-- A slot without a live bookmark gets the next number. -/
theorem mint_of_blank (h : Agrees past m) (hissued : m.issued + 1 < 2 ^ 64)
    (hblank : liveOf? slot past = none) :
    Agrees (.minted slot (.ofNumber (m.issued + 1)) :: past)
      { m with
        issued := m.issued + 1, live := m.live ++ [(.ofNumber (m.issued + 1), slot)] } where
  live b id := by
    rw [List.mem_append, List.mem_singleton, Prod.mk.injEq, h.live, liveOf?]
    split
    next hid =>
      subst hid
      simp [hblank, eq_comm]
    next hid =>
      exact or_iff_left fun heq => hid heq.2.symm
  retired := h.retired
  bookmarks := by
    have hperm : (m.live ++ [(Bookmark.ofNumber (m.issued + 1), slot)] ++ m.retired).Perm
        ((Bookmark.ofNumber (m.issued + 1), slot) :: m.entries) := by
      rw [List.append_assoc]
      exact List.perm_middle
    refine ((hperm.map Prod.fst).nodup_iff).mpr (List.nodup_cons.mpr ⟨fun hmem => ?_, h.bookmarks⟩)
    obtain ⟨⟨b, id⟩, hentry, hsame⟩ := List.mem_map.mp hmem
    obtain rfl : b = _ := hsame
    exact h.fresh hissued id (h.minted _ hentry)
  minted entry hentry := by
    rcases List.mem_append.mp hentry with hentry | hentry
    · rcases List.mem_append.mp hentry with hentry | hentry
      · exact List.mem_cons_of_mem _ (h.minted _ (List.mem_append_left _ hentry))
      · rw [List.mem_singleton.mp hentry]
        exact List.mem_cons_self
    · exact List.mem_cons_of_mem _ (h.minted _ (List.mem_append_right _ hentry))
  numbered := by
    refine List.forall_mem_cons.mpr ⟨⟨_, le_rfl, rfl⟩, fun entry hentry => ?_⟩
    obtain ⟨n, hn, heq⟩ := h.numbered entry hentry
    exact ⟨n, Nat.le_succ_of_le hn, heq⟩
  single := by
    have hnew : ∀ entry ∈ BookmarkHistory.minted past,
        entry.1 ≠ Bookmark.ofNumber (m.issued + 1) := by
      rintro ⟨b, id⟩ hentry rfl
      exact h.fresh hissued id hentry
    refine List.forall_mem_cons.mpr ⟨List.forall_mem_cons.mpr ⟨fun _ => rfl, ?_⟩, ?_⟩
    · exact fun other hother hsame => absurd hsame.symm (hnew other hother)
    · intro entry hentry
      exact List.forall_mem_cons.mpr
        ⟨fun hsame => absurd hsame (hnew entry hentry), h.single entry hentry⟩

/-- A bookmark that is asked for is recorded as it was given. -/
theorem mint (h : Agrees past m) (hissued : m.issued + 1 < 2 ^ 64) (slot : SlotId) :
    Agrees (.minted slot (m.mint slot).1 :: past) (m.mint slot).2 := by
  unfold Bookmarks.mint
  have hlive := h.ofSlot?_eq slot
  cases hfound : m.ofSlot? slot with
  | some b => exact h.mint_of_live (hlive.symm.trans hfound)
  | none => exact h.mint_of_blank hissued (hlive.symm.trans hfound)

/-- A slot without a live bookmark has none to retire. -/
theorem retire_of_blank (h : Agrees past m) (hblank : liveOf? slot past = none) :
    Agrees (.retired slot :: past) m where
  live b id := by
    rw [h.live, liveOf?]
    split
    next hid => rw [← hid, hblank]
    · rfl
  retired b id := by
    rw [h.retired, retiredFrom?, hblank, if_neg (by simp)]
  bookmarks := h.bookmarks
  minted := h.minted
  numbered := h.numbered
  single := h.single

/-- The live bookmark of the slot is among the retired ones from now on. -/
theorem retire_of_live (h : Agrees past m) (hlive : liveOf? slot past = some b) :
    Agrees (.retired slot :: past)
      { m with
        live := m.live.filter fun entry => entry.1 != b
        retired := m.retired ++ [(b, slot)] } := by
  have hmem := (h.live b slot).mpr hlive
  have hretire : m.retire slot =
      { m with
        live := m.live.filter fun entry => entry.1 != b
        retired := m.retired ++ [(b, slot)] } := by
    rw [Bookmarks.retire, (h.ofSlot?_eq slot).trans hlive]
  -- No entry comes or goes, so what holds of all entries is as before.
  have hperm := perm_retire h.bookmarks slot
  rw [hretire] at hperm
  constructor
  · intro b' id
    rw [List.mem_filter, h.live, liveOf?, bne_iff_ne]
    split
    next hid =>
      subst hid
      simp [hlive, eq_comm]
    next hid =>
      refine and_iff_left_of_imp fun hother hsame => hid ?_
      subst hsame
      exact h.eq_of_bookmark (List.mem_append_left _ hmem)
        (List.mem_append_left _ ((h.live _ _).mpr hother))
  · intro b' id
    rw [List.mem_append, List.mem_singleton, Prod.mk.injEq, retiredFrom?, hlive]
    split
    next hsame =>
      cases hsame
      simp [h.not_retired hmem id, eq_comm]
    next hother =>
      rw [h.retired]
      exact or_iff_left fun hsame => hother (by rw [hsame.1])
  · exact ((hperm.map Prod.fst).nodup_iff).mpr h.bookmarks
  · exact fun entry hentry => h.minted entry (hperm.mem_iff.mp hentry)
  · exact h.numbered
  · exact h.single

/-- A bookmark that is retired is recorded as such. -/
theorem retire (h : Agrees past m) (slot : SlotId) :
    Agrees (.retired slot :: past) (m.retire slot) := by
  unfold Bookmarks.retire
  have hlive := h.ofSlot?_eq slot
  cases hfound : m.ofSlot? slot with
  | none => exact h.retire_of_blank (hlive.symm.trans hfound)
  | some b => exact h.retire_of_live (hlive.symm.trans hfound)

/-- To forget all bookmarks is recorded. -/
theorem forgetAll (h : Agrees past m) : Agrees (.forgotten :: past) m.forgetAll where
  live := by simp [Bookmarks.forgetAll, liveOf?]
  retired := by simp [Bookmarks.forgetAll, retiredFrom?]
  bookmarks := List.nodup_nil
  minted := by simp [Bookmarks.forgetAll, entries]
  numbered := h.numbered
  single := h.single

end Agrees

/-- The numbers given out are no more than the calls that ask for one. -/
theorem issued_recorded_le (calls : List BookmarkCall) :
    (recorded calls).2.issued ≤ calls.countP BookmarkCall.isMint := by
  induction calls with
  | nil => exact le_rfl
  | cons call before ih =>
      cases call with
      | mint slot =>
          rw [List.countP_cons_of_pos rfl]
          change ((recorded before).2.mint slot).2.issued ≤ _
          unfold Bookmarks.mint
          split
          · exact Nat.le_succ_of_le ih
          · exact Nat.succ_le_succ ih
      | retire slot =>
          rw [List.countP_cons_of_neg (by simp [BookmarkCall.isMint])]
          change ((recorded before).2.retire slot).issued ≤ _
          unfold Bookmarks.retire
          split
          · exact ih
          · exact ih
      | forgetAll =>
          rw [List.countP_cons_of_neg (by simp [BookmarkCall.isMint])]
          exact ih

/-- There is a number left for the call that mints next. -/
theorem issued_recorded_lt {before : List BookmarkCall} {slot : SlotId}
    (hmints : (BookmarkCall.mint slot :: before).countP BookmarkCall.isMint < 2 ^ 64) :
    (recorded before).2.issued + 1 < 2 ^ 64 := by
  rw [List.countP_cons_of_pos rfl] at hmints
  exact lt_of_le_of_lt (Nat.succ_le_succ (issued_recorded_le before)) hmints

/-- The bookmarks agree with the record of all calls, as long as their numbers last. -/
theorem agrees_recorded (calls : List BookmarkCall)
    (hmints : calls.countP BookmarkCall.isMint < 2 ^ 64) :
    Agrees (recorded calls).1 (recorded calls).2 := by
  induction calls with
  | nil => exact agrees_blank
  | cons call before ih =>
      have hbefore := ih (lt_of_le_of_lt (List.sublist_cons_self _ _).countP_le hmints)
      cases call with
      | mint slot => exact hbefore.mint (issued_recorded_lt hmints) slot
      | retire slot => exact hbefore.retire slot
      | forgetAll => exact hbefore.forgetAll

end Bookmarks

/-! ## Bookmarks in three maps -/

namespace Finmaps

variable {α β : Type} [DecidableEq α] {map : Finmap fun _ : α => β} {a a' : α} {b b' : β}

/-- A new key is found with its value, and the others with theirs. -/
theorem lookup_insert_eq_some_iff (hnew : map.lookup a = none) :
    (map.insert a b).lookup a' = some b' ↔ map.lookup a' = some b' ∨ a' = a ∧ b' = b := by
  by_cases hsame : a' = a
  · subst hsame
    simp [Finmap.lookup_insert, hnew, eq_comm]
  · rw [Finmap.lookup_insert_of_ne _ hsame]
    exact (or_iff_left fun heq => hsame heq.1).symm

/-- All keys but the erased one are found. -/
theorem lookup_erase_eq_some_iff :
    (map.erase a).lookup a' = some b' ↔ map.lookup a' = some b' ∧ a' ≠ a := by
  by_cases hsame : a' = a
  · subst hsame
    simp [Finmap.lookup_erase]
  · rw [Finmap.lookup_erase_ne hsame]
    exact (and_iff_left hsame).symm

end Finmaps

/-- The bookmarks of a cursor with a map for each way in which they are looked up. -/
structure BookmarkMaps where
  /-- The last number given out. -/
  issued : Nat := 0
  live : Finmap fun _ : Bookmark => SlotId := ∅
  bySlot : Finmap fun _ : SlotId => Bookmark := ∅
  retired : Finmap fun _ : Bookmark => SlotId := ∅

namespace BookmarkMaps

def mint (maps : BookmarkMaps) (slot : SlotId) : Bookmark × BookmarkMaps :=
  match maps.bySlot.lookup slot with
  | some b => (b, maps)
  | none =>
      let b := Bookmark.ofNumber (maps.issued + 1)
      (b,
        { maps with
          issued := maps.issued + 1
          live := maps.live.insert b slot
          bySlot := maps.bySlot.insert slot b })

/-- Bytes of another length than a bookmark has name nothing. -/
def resolve? (maps : BookmarkMaps) (b : Bookmark) : Option SlotId :=
  if b.length = 8 then maps.live.lookup b else none

def locate? (maps : BookmarkMaps) (b : Bookmark) : Option SlotId :=
  (maps.resolve? b).or (maps.retired.lookup b)

def retire (maps : BookmarkMaps) (slot : SlotId) : BookmarkMaps :=
  match maps.bySlot.lookup slot with
  | none => maps
  | some b =>
      { maps with
        live := maps.live.erase b
        bySlot := maps.bySlot.erase slot
        retired := maps.retired.insert b slot }

def forgetAll (maps : BookmarkMaps) : BookmarkMaps :=
  { maps with live := ∅, bySlot := ∅, retired := ∅ }

def perform (maps : BookmarkMaps) : BookmarkCall → BookmarkEvent × BookmarkMaps
  | .mint slot => (.minted slot (maps.mint slot).1, (maps.mint slot).2)
  | .retire slot => (.retired slot, maps.retire slot)
  | .forgetAll => (.forgotten, maps.forgetAll)

/-- The history of some calls, the last one first, with the maps after them. -/
def recorded : List BookmarkCall → BookmarkHistory × BookmarkMaps
  | [] => ([], {})
  | call :: before =>
      let (past, maps) := recorded before
      ((maps.perform call).1 :: past, (maps.perform call).2)

/-- The maps hold what the bookmarks list. -/
structure Holds (maps : BookmarkMaps) (m : Bookmarks) : Prop where
  issued : maps.issued = m.issued
  live : ∀ b slot, maps.live.lookup b = some slot ↔ (b, slot) ∈ m.live
  bySlot : ∀ b slot, maps.bySlot.lookup slot = some b ↔ (b, slot) ∈ m.live
  retired : ∀ b slot, maps.retired.lookup b = some slot ↔ (b, slot) ∈ m.retired

open BookmarkHistory Bookmarks

variable {past : BookmarkHistory} {maps : BookmarkMaps} {m : Bookmarks} {b : Bookmark}
  {slot : SlotId}

/-- Three empty maps hold no bookmarks. -/
theorem holds_blank : Holds {} {} where
  issued := rfl
  live := by simp
  bySlot := by simp
  retired := by simp

namespace Holds

/-- The map by slots finds the bookmark of a slot. -/
theorem bySlot_eq (h : maps.Holds m) (hm : Agrees past m) (slot : SlotId) :
    maps.bySlot.lookup slot = m.ofSlot? slot := by
  rw [hm.ofSlot?_eq]
  exact Option.ext fun b => (h.bySlot b slot).trans (hm.live b slot)

/-- Only bytes of a bookmark's length are looked up, and no others are live. -/
theorem resolve?_eq (h : maps.Holds m) (hm : Agrees past m) (b : Bookmark) :
    maps.resolve? b = m.resolve? b := by
  refine Option.ext fun slot => ?_
  rw [Bookmarks.resolve?, lookup_eq_some_iff_mem hm.nodup_live, BookmarkMaps.resolve?]
  split
  · exact h.live b slot
  next hlength =>
    refine iff_of_false (by simp) fun hmem => hlength ?_
    obtain ⟨n, -, heq⟩ := hm.numbered _ (hm.minted _ (List.mem_append_left _ hmem))
    rw [show b = .ofNumber n from heq]
    exact Bookmark.length_ofNumber n

/-- The two maps by bookmarks find what a bookmark can be located at. -/
theorem locate?_eq (h : maps.Holds m) (hm : Agrees past m) (b : Bookmark) :
    maps.locate? b = m.locate? b := by
  have hretired : maps.retired.lookup b = m.retired.lookup b := by
    refine Option.ext fun slot => ?_
    rw [lookup_eq_some_iff_mem hm.nodup_retired, h.retired]
  rw [BookmarkMaps.locate?, Bookmarks.locate?, h.resolve?_eq hm, hretired]

/-- The three maps give out the same bookmark, and hold it afterwards. -/
theorem mint (h : maps.Holds m) (hm : Agrees past m) (hissued : m.issued + 1 < 2 ^ 64)
    (slot : SlotId) :
    (maps.mint slot).1 = (m.mint slot).1 ∧ (maps.mint slot).2.Holds (m.mint slot).2 := by
  unfold BookmarkMaps.mint Bookmarks.mint
  rw [h.bySlot_eq hm]
  cases hfound : m.ofSlot? slot with
  | some b => exact ⟨rfl, h⟩
  | none =>
      have hblank : maps.bySlot.lookup slot = none := (h.bySlot_eq hm slot).trans hfound
      have hfresh : maps.live.lookup (.ofNumber (m.issued + 1)) = none := by
        refine Option.eq_none_iff_forall_ne_some.mpr fun id hid => ?_
        exact hm.fresh hissued id (hm.minted _ (List.mem_append_left _ ((h.live _ id).mp hid)))
      dsimp only
      rw [h.issued]
      refine ⟨rfl, rfl, fun b id => ?_, fun b id => ?_, h.retired⟩
      · rw [Finmaps.lookup_insert_eq_some_iff hfresh, h.live, List.mem_append, List.mem_singleton,
          Prod.mk.injEq]
      · rw [Finmaps.lookup_insert_eq_some_iff hblank, h.bySlot, List.mem_append,
          List.mem_singleton, Prod.mk.injEq, and_comm (a := id = slot)]

/-- The three maps retire the same bookmark. -/
theorem retire (h : maps.Holds m) (hm : Agrees past m) (slot : SlotId) :
    (maps.retire slot).Holds (m.retire slot) := by
  unfold BookmarkMaps.retire Bookmarks.retire
  rw [h.bySlot_eq hm]
  cases hfound : m.ofSlot? slot with
  | none => exact h
  | some b =>
      have hmem := mem_live_of_ofSlot? hfound
      -- What is taken out under the bookmark is what is taken out under the slot.
      have hsame {b' : Bookmark} {id : SlotId} (hmem' : (b', id) ∈ m.live) :
          b' = b ↔ id = slot := by
        refine ⟨?_, ?_⟩
        · rintro rfl
          exact hm.eq_of_bookmark (List.mem_append_left _ hmem') (List.mem_append_left _ hmem)
        · rintro rfl
          exact (Prod.mk.inj (List.inj_on_of_nodup_map hm.slots hmem' hmem rfl)).1
      have hlive : maps.retired.lookup b = none := by
        refine Option.eq_none_iff_forall_ne_some.mpr fun id hid => ?_
        exact hm.not_retired hmem id ((h.retired b id).mp hid)
      refine ⟨h.issued, fun b' id => ?_, fun b' id => ?_, fun b' id => ?_⟩
      · rw [Finmaps.lookup_erase_eq_some_iff, h.live, List.mem_filter, bne_iff_ne]
      · rw [Finmaps.lookup_erase_eq_some_iff, h.bySlot, List.mem_filter, bne_iff_ne]
        exact and_congr_right fun hmem' => not_congr (hsame hmem').symm
      · rw [Finmaps.lookup_insert_eq_some_iff hlive, h.retired, List.mem_append,
          List.mem_singleton, Prod.mk.injEq]

theorem forgetAll (h : maps.Holds m) : maps.forgetAll.Holds m.forgetAll where
  issued := h.issued
  live := by simp [BookmarkMaps.forgetAll, Bookmarks.forgetAll]
  bySlot := by simp [BookmarkMaps.forgetAll, Bookmarks.forgetAll]
  retired := by simp [BookmarkMaps.forgetAll, Bookmarks.forgetAll]

end Holds

/-- The maps give the same bookmarks out and hold the same afterwards. -/
theorem holds_recorded (calls : List BookmarkCall)
    (hmints : calls.countP BookmarkCall.isMint < 2 ^ 64) :
    (recorded calls).1 = (Bookmarks.recorded calls).1 ∧
      (recorded calls).2.Holds (Bookmarks.recorded calls).2 := by
  induction calls with
  | nil => exact ⟨rfl, holds_blank⟩
  | cons call before ih =>
      have hfewer := lt_of_le_of_lt (List.sublist_cons_self call before).countP_le hmints
      have hm := agrees_recorded before hfewer
      obtain ⟨hpast, hmaps⟩ := ih hfewer
      cases call with
      | mint slot =>
          obtain ⟨hgiven, hafter⟩ := hmaps.mint hm (issued_recorded_lt hmints) slot
          refine ⟨?_, hafter⟩
          change BookmarkEvent.minted slot _ :: _ = .minted slot _ :: _
          rw [hgiven, hpast]
      | retire slot =>
          refine ⟨?_, hmaps.retire hm slot⟩
          change BookmarkEvent.retired slot :: _ = .retired slot :: _
          rw [hpast]
      | forgetAll =>
          refine ⟨?_, hmaps.forgetAll⟩
          change BookmarkEvent.forgotten :: _ = .forgotten :: _
          rw [hpast]

end BookmarkMaps

/-! ## What the bookmarks name -/

/-- What holds of the bookmarks after their history, whether they are listed or kept in maps. -/
structure BookmarkLaws (past : BookmarkHistory) (m : Bookmarks) (maps : BookmarkMaps) : Prop where
  inverse : ∀ b slot, maps.live.lookup b = some slot ↔ maps.bySlot.lookup slot = some b
  disjoint : maps.live.Disjoint maps.retired
  ofSlot : ∀ slot, m.ofSlot? slot = past.liveOf? slot ∧ maps.bySlot.lookup slot = past.liveOf? slot
  kept : ∀ slot b, past.liveOf? slot = some b →
    m.mint slot = (b, m) ∧ maps.mint slot = (b, maps)
  /-- A call that mints gives out the live bookmark of its slot, or else one that no call has given
  out before. -/
  given : ∀ slot b, ∀ earlier : BookmarkHistory, .minted slot b :: earlier <:+ past →
    (∀ b', earlier.liveOf? slot = some b' → b = b') ∧
      (earlier.liveOf? slot = none → ∀ id, (b, id) ∉ earlier.minted)
  /-- Bytes lead to a slot exactly if they are its live bookmark. -/
  resolved : ∀ b slot, m.resolve? b = some slot ↔ past.liveOf? slot = some b
  located : ∀ b slot, m.locate? b = some slot ↔
    past.liveOf? slot = some b ∨ past.retiredFrom? b = some slot
  /-- The slot that is found is the one that the bookmark was minted for. -/
  mintedFor : ∀ b slot, m.locate? b = some slot →
    (b, slot) ∈ past.minted ∧ ∀ id, (b, id) ∈ past.minted → id = slot
  size : m.live.length = maps.live.keys.card ∧ m.live.length = maps.bySlot.keys.card
  withBookmark : ∀ slot, slot ∈ maps.bySlot.keys ↔ (past.liveOf? slot).isSome
  alike : maps.issued = m.issued ∧
    ∀ b, maps.resolve? b = m.resolve? b ∧ maps.locate? b = m.locate? b

namespace Bookmarks

open BookmarkHistory

/-- What is given to a slot is its live bookmark, or one that was never given before. -/
theorem given_recorded (calls : List BookmarkCall)
    (hmints : calls.countP BookmarkCall.isMint < 2 ^ 64) {slot : SlotId} {b : Bookmark}
    {earlier : BookmarkHistory} (hgiven : .minted slot b :: earlier <:+ (recorded calls).1) :
    (∀ b', liveOf? slot earlier = some b' → b = b') ∧
      (liveOf? slot earlier = none → ∀ id, (b, id) ∉ minted earlier) := by
  induction calls with
  | nil => simp [recorded] at hgiven
  | cons call before ih =>
      have hfewer := lt_of_le_of_lt (List.sublist_cons_self call before).countP_le hmints
      rcases List.suffix_cons_iff.mp hgiven with heq | hbefore
      · obtain ⟨hevent, rfl⟩ := List.cons.inj heq
        have hm := agrees_recorded before hfewer
        cases call with
        | mint id =>
            obtain ⟨rfl, rfl⟩ := BookmarkEvent.minted.inj hevent
            rw [← hm.ofSlot?_eq, Bookmarks.mint]
            cases hfound : (recorded before).2.ofSlot? slot with
            | some b' => exact ⟨fun _ hsame => Option.some.inj hsame, by simp⟩
            | none => exact ⟨by simp, fun _ => hm.fresh (issued_recorded_lt hmints)⟩
        | retire id => cases hevent
        | forgetAll => cases hevent
      · exact ih hfewer hbefore

/-- After every run of calls that mints less than `2 ^ 64` times, the bookmarks name what their
history tells, and three maps that are changed by the same calls give the same bookmarks out and
name the same slots. -/
theorem laws_of_calls (calls : List BookmarkCall)
    (hmints : calls.countP BookmarkCall.isMint < 2 ^ 64) :
    (BookmarkMaps.recorded calls).1 = (recorded calls).1 ∧
      BookmarkLaws (recorded calls).1 (recorded calls).2 (BookmarkMaps.recorded calls).2 := by
  have hm := agrees_recorded calls hmints
  obtain ⟨hpast, hmaps⟩ := BookmarkMaps.holds_recorded calls hmints
  have hinverse (b : Bookmark) (slot : SlotId) :=
    (hmaps.live b slot).trans (hmaps.bySlot b slot).symm
  have hbySlot (slot : SlotId) := (hmaps.bySlot_eq hm slot).trans (hm.ofSlot?_eq slot)
  have hkeys (slot : SlotId) : slot ∈ (BookmarkMaps.recorded calls).2.bySlot.keys ↔
      (liveOf? slot (recorded calls).1).isSome := by
    rw [Finmap.mem_keys, ← Finmap.lookup_isSome, hbySlot]
  refine ⟨hpast, hinverse, ?_, fun slot => ⟨hm.ofSlot?_eq slot, hbySlot slot⟩, ?_,
    fun slot b earlier => given_recorded calls hmints, fun b slot => hm.resolve?_eq_some,
    fun b slot => hm.locate?_eq_some, ?_, ⟨?_, ?_⟩, hkeys, hmaps.issued,
    fun b => ⟨hmaps.resolve?_eq hm b, hmaps.locate?_eq hm b⟩⟩
  · intro b hlive hretired
    obtain ⟨slot, hslot⟩ := Finmap.mem_iff.mp hlive
    obtain ⟨id, hid⟩ := Finmap.mem_iff.mp hretired
    exact hm.not_retired ((hmaps.live b slot).mp hslot) id ((hmaps.retired b id).mp hid)
  · intro slot b hlive
    rw [Bookmarks.mint, BookmarkMaps.mint, hm.ofSlot?_eq, hbySlot, hlive]
    exact ⟨rfl, rfl⟩
  · intro b slot hlocate
    have hminted := hm.minted _ ((locate?_eq_some_iff hm.bookmarks).mp hlocate)
    exact ⟨hminted, fun id hid => hm.single _ hid _ hminted rfl⟩
  · have hset : (BookmarkMaps.recorded calls).2.live.keys =
        ((recorded calls).2.live.map Prod.fst).toFinset := by
      ext b
      simp [Finmap.mem_keys, Finmap.mem_iff, hmaps.live]
    rw [hset, List.toFinset_card_of_nodup hm.nodup_live, List.length_map]
  · have hset : (BookmarkMaps.recorded calls).2.bySlot.keys =
        ((recorded calls).2.live.map Prod.snd).toFinset := by
      ext slot
      simp [Finmap.mem_keys, Finmap.mem_iff, hmaps.bySlot]
    rw [hset, List.toFinset_card_of_nodup hm.slots, List.length_map]

/-- A slot whose bookmark was retired gets another one, which leads to it while the first one
still leads to its place. -/
theorem laws_of_calls_remint :
    let calls : List BookmarkCall := [.mint 3, .mint 5, .retire 3, .mint 3]
    calls.countP BookmarkCall.isMint < 2 ^ 64 ∧
      (BookmarkMaps.recorded calls).1 = (recorded calls).1 ∧
      BookmarkLaws (recorded calls).1 (recorded calls).2 (BookmarkMaps.recorded calls).2 ∧
      (recorded calls).2.resolve? (.ofNumber 1) = none ∧
      (recorded calls).2.locate? (.ofNumber 1) = some 3 ∧
      (recorded calls).2.resolve? (.ofNumber 3) = some 3 := by
  have hlaws := laws_of_calls [.mint 3, .mint 5, .retire 3, .mint 3] (by decide)
  exact ⟨by decide, hlaws.1, hlaws.2, by decide, by decide, by decide⟩

end Bookmarks

end ScrollCursor
