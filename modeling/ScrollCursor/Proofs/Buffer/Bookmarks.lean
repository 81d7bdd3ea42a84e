import Mathlib.Data.List.Nodup
import Mathlib.Data.List.Perm.Subperm
import ScrollCursor.Buffer.Bookmarks

/-! # Bookmarks given out

The bookmarks that name or named a row are accounted for: they are the numbers given out so far,
each for a row of its own. Minting and retiring keep the account, so a bookmark leads to one row
only, for as long as the numbers fit into eight bytes.
-/

namespace ScrollCursor

theorem Bookmark.length_ofNumber (n : Nat) : (ofNumber n).length = 8 := by
  rw [ofNumber, List.length_map, List.length_range]

/-- Numbers of eight bytes have different bookmarks. -/
theorem Bookmark.ofNumber_inj {m n : Nat} (hm : m < 1 <<< 64) (hn : n < 1 <<< 64)
    (h : ofNumber m = ofNumber n) : m = n := by
  have hbyte {i : Nat} (hi : i < 8) :
      m / 2 ^ (8 * (7 - i)) % 256 = n / 2 ^ (8 * (7 - i)) % 256 := by
    have hget := congrArg (fun b : Bookmark => b[i]?) h
    simp only [ofNumber, List.getElem?_map, List.getElem?_range hi, Option.map_some,
      Option.some.injEq] at hget
    have hnat := congrArg UInt8.toNat hget
    simpa only [UInt8.toNat_ofNat', Nat.shiftRight_eq_div_pow] using hnat
  -- The numbers are equal as far as their first bytes go, however many of these are taken.
  have hfirst {k : Nat} (hk : k ≤ 8) : m / 2 ^ (8 * (8 - k)) = n / 2 ^ (8 * (8 - k)) := by
    induction k with
    | zero => exact (Nat.div_eq_of_lt hm).trans (Nat.div_eq_of_lt hn).symm
    | succ k ih =>
        have hsplit : 2 ^ (8 * (8 - k)) = 2 ^ (8 * (8 - (k + 1))) * 256 := by
          rw [show 8 * (8 - k) = 8 * (8 - (k + 1)) + 8 by omega, Nat.pow_add]
        have hdiv := ih (Nat.le_of_succ_le hk)
        rw [hsplit, ← Nat.div_div_eq_div_mul, ← Nat.div_div_eq_div_mul] at hdiv
        have hmod := hbyte (Nat.lt_of_succ_le hk)
        rw [show 7 - k = 8 - (k + 1) by omega] at hmod
        rw [← Nat.div_add_mod (m / 2 ^ (8 * (8 - (k + 1)))) 256, hdiv, hmod, Nat.div_add_mod]
  simpa using hfirst (Nat.le_refl 8)

namespace Bookmarks

/-- The bookmarks that name a row or named one before they were retired. -/
def entries (m : Bookmarks) : List (Bookmark × SlotId) :=
  m.live ++ m.retired

/-- No row has two bookmarks, and the bookmarks are the numbers given out. -/
structure Accounted (m : Bookmarks) : Prop where
  slots : (m.entries.map Prod.snd).Nodup
  numbers : (m.entries.map Prod.fst).Perm ((List.range' 1 m.issued).map Bookmark.ofNumber)

variable {m : Bookmarks} {slot id : SlotId} {b : Bookmark}

theorem mem_of_lookup {entries : List (Bookmark × SlotId)} (h : entries.lookup b = some slot) :
    (b, slot) ∈ entries := by
  obtain ⟨before, after, heq, -⟩ := List.lookup_eq_some_iff.mp h
  rw [heq]
  simp

/-- Among entries of different bookmarks, a lookup finds what is there. -/
theorem lookup_eq_some_iff_mem {entries : List (Bookmark × SlotId)}
    (h : (entries.map Prod.fst).Nodup) : entries.lookup b = some slot ↔ (b, slot) ∈ entries := by
  refine ⟨mem_of_lookup, fun hmem => ?_⟩
  cases hfound : entries.lookup b with
  | none => exact absurd (List.lookup_eq_none_iff.mp hfound _ hmem) (by simp)
  | some other =>
      have hsame := List.inj_on_of_nodup_map h (mem_of_lookup hfound) hmem rfl
      rw [(Prod.mk.inj hsame).2]

/-- A bookmark leads to the row of its entry, live or retired. -/
theorem locate?_eq_some_iff (h : (m.entries.map Prod.fst).Nodup) :
    m.locate? b = some slot ↔ (b, slot) ∈ m.entries := by
  rw [← lookup_eq_some_iff_mem h, entries, List.lookup_append]
  rfl

theorem ofSlot?_eq_none (h : m.ofSlot? slot = none) : ∀ entry ∈ m.live, entry.2 ≠ slot := by
  intro entry hentry hslot
  have hfind := List.find?_eq_none.mp (Option.map_eq_none_iff.mp h) entry hentry
  exact hfind (beq_iff_eq.mpr hslot)

theorem mem_live_of_ofSlot? (h : m.ofSlot? slot = some b) : (b, slot) ∈ m.live := by
  obtain ⟨entry, hfind, rfl⟩ := Option.map_eq_some_iff.mp h
  have hslot : (entry.2 == slot) = true :=
    List.find?_some (p := fun entry : Bookmark × SlotId => entry.2 == slot) hfind
  rw [← beq_iff_eq.mp hslot]
  exact List.mem_of_find?_eq_some hfind

/-- A retired bookmark moves to the others. -/
theorem perm_retire (h : (m.entries.map Prod.fst).Nodup) (slot : SlotId) :
    (m.retire slot).entries.Perm m.entries := by
  unfold retire
  split
  · exact .refl _
  next b hb =>
    have hmem := mem_live_of_ofSlot? hb
    obtain ⟨before, after, hlive⟩ := List.append_of_mem hmem
    have hothers : ∀ entry ∈ before ++ after, (entry.1 != b) = true := by
      intro entry hentry
      have hperm : (m.entries.map Prod.fst).Perm
          (b :: ((before ++ after ++ m.retired).map Prod.fst)) := by
        rw [entries, hlive, List.append_assoc, List.cons_append]
        have hmiddle : (before ++ (b, slot) :: (after ++ m.retired)).Perm
            ((b, slot) :: (before ++ (after ++ m.retired))) := List.perm_middle
        rw [← List.append_assoc before after] at hmiddle
        exact hmiddle.map Prod.fst
      have hfresh := (List.nodup_cons.mp (hperm.nodup_iff.mp h)).1
      rw [bne_iff_ne]
      rintro rfl
      exact hfresh (List.mem_map_of_mem (List.mem_append_left _ hentry))
    have hfilter : m.live.filter (fun entry => entry.1 != b) = before ++ after := by
      rw [hlive, List.filter_append, List.filter_cons_of_neg (by simp), ← List.filter_append,
        List.filter_eq_self.mpr hothers]
    change ((m.live.filter fun entry => entry.1 != b) ++ (m.retired ++ [(b, slot)])).Perm
      (m.live ++ m.retired)
    have hmiddle : ((b, slot) :: (before ++ after ++ m.retired)).Perm (m.live ++ m.retired) := by
      rw [hlive, List.append_assoc, List.append_assoc, List.cons_append]
      exact List.perm_middle.symm
    rw [hfilter, ← List.append_assoc]
    exact (List.perm_append_singleton _ _).trans hmiddle

/-- A row that has no bookmark yet takes the one that is minted, and the others keep theirs. -/
theorem ofSlot?_mint_eq (m : Bookmarks) (slot id : SlotId) :
    (m.mint slot).2.ofSlot? id =
      (m.ofSlot? id).or (if slot = id then some (m.mint slot).1 else none) := by
  unfold mint
  cases hfound : m.ofSlot? slot with
  | some b =>
      by_cases hslot : slot = id
      · subst hslot
        rw [hfound]
        rfl
      · rw [if_neg hslot, Option.or_none]
  | none =>
      dsimp only
      rw [ofSlot?, ofSlot?, List.find?_append, List.find?_singleton, Option.map_or]
      by_cases hslot : slot = id
      · simp [hslot]
      · simp [hslot]

theorem ofSlot?_mint_of_some {slot' : SlotId} (h : m.ofSlot? slot = some b) :
    (m.mint slot').2.ofSlot? slot = some b := by
  rw [ofSlot?_mint_eq, h]
  rfl

/-- A row has the bookmark that was minted for it. -/
theorem ofSlot?_mint (m : Bookmarks) (slot : SlotId) :
    (m.mint slot).2.ofSlot? slot = some (m.mint slot).1 := by
  rw [ofSlot?_mint_eq, if_pos rfl]
  cases hfound : m.ofSlot? slot with
  | some b => rw [mint, hfound]; rfl
  | none => rfl

namespace Accounted

theorem opened : Accounted {} where
  slots := List.nodup_nil
  numbers := .refl _

theorem eq_of_slot (h : m.Accounted) {first second : Bookmark × SlotId}
    (hfirst : first ∈ m.entries) (hsecond : second ∈ m.entries) (hslot : first.2 = second.2) :
    first = second :=
  List.inj_on_of_nodup_map h.slots hfirst hsecond hslot

theorem length_eq (h : m.Accounted) : m.entries.length = m.issued := by
  have hlength := h.numbers.length_eq
  rwa [List.length_map, List.length_map, List.length_range'] at hlength

/-- There are no more numbers than rows. -/
theorem issued_le (h : m.Accounted) {bound : Nat} (hbound : ∀ entry ∈ m.entries, entry.2 < bound) :
    m.issued ≤ bound := by
  have hsubset : m.entries.map Prod.snd ⊆ List.range bound := by
    intro id hid
    obtain ⟨entry, hentry, rfl⟩ := List.mem_map.mp hid
    exact List.mem_range.mpr (hbound entry hentry)
  have hlength := (List.subperm_of_subset h.slots hsubset).length_le
  rwa [List.length_map, List.length_range, h.length_eq] at hlength

theorem nodup_bookmarks (h : m.Accounted) (hissued : m.issued < 1 <<< 64) :
    (m.entries.map Prod.fst).Nodup := by
  rw [h.numbers.nodup_iff]
  refine List.Nodup.map_on (fun i hi j hj hij => ?_) List.nodup_range'
  have hi' := (List.mem_range'_1.mp hi).2
  have hj' := (List.mem_range'_1.mp hj).2
  exact Bookmark.ofNumber_inj (by omega) (by omega) hij

theorem eq_of_bookmark (h : m.Accounted) (hissued : m.issued < 1 <<< 64)
    {first second : Bookmark × SlotId} (hfirst : first ∈ m.entries) (hsecond : second ∈ m.entries)
    (hbookmark : first.1 = second.1) : first = second :=
  List.inj_on_of_nodup_map (h.nodup_bookmarks hissued) hfirst hsecond hbookmark

theorem ofSlot?_eq_some (h : m.Accounted) (hlive : (b, slot) ∈ m.live) :
    m.ofSlot? slot = some b := by
  cases hfound : m.ofSlot? slot with
  | none => exact absurd rfl (ofSlot?_eq_none hfound _ hlive)
  | some b' =>
      have hmem := mem_live_of_ofSlot? hfound
      have heq := h.eq_of_slot (List.mem_append_left _ hmem) (List.mem_append_left _ hlive) rfl
      rw [(Prod.mk.inj heq).1]

theorem mint (h : m.Accounted) (hretired : ∀ entry ∈ m.retired, entry.2 ≠ slot) :
    (m.mint slot).2.Accounted := by
  unfold Bookmarks.mint
  split
  · exact h
  next hnone =>
    have hlive := ofSlot?_eq_none hnone
    have hperm : (m.live ++ [(Bookmark.ofNumber (m.issued + 1), slot)] ++ m.retired).Perm
        ((Bookmark.ofNumber (m.issued + 1), slot) :: m.entries) := by
      rw [List.append_assoc]
      exact List.perm_middle
    constructor
    · refine ((hperm.map Prod.snd).nodup_iff).mpr (List.nodup_cons.mpr ⟨fun hmem => ?_, h.slots⟩)
      obtain ⟨entry, hentry, hslot⟩ := List.mem_map.mp hmem
      rcases List.mem_append.mp hentry with hentry | hentry
      · exact hlive entry hentry hslot
      · exact hretired entry hentry hslot
    · refine (hperm.map Prod.fst).trans ?_
      change (Bookmark.ofNumber (m.issued + 1) :: m.entries.map Prod.fst).Perm
        ((List.range' 1 (m.issued + 1)).map Bookmark.ofNumber)
      rw [List.range'_1_concat, List.map_append, Nat.add_comm 1]
      exact (h.numbers.cons _).trans (List.perm_append_singleton _ _).symm

theorem retire (h : m.Accounted) (hissued : m.issued < 1 <<< 64) (slot : SlotId) :
    (m.retire slot).Accounted := by
  have hperm := perm_retire (h.nodup_bookmarks hissued) slot
  have hsame : (m.retire slot).issued = m.issued := by
    unfold Bookmarks.retire
    split <;> rfl
  constructor
  · exact ((hperm.map Prod.snd).nodup_iff).mpr h.slots
  · rw [hsame]
    exact (hperm.map Prod.fst).trans h.numbers

theorem distinct (h : m.Accounted) : (m.live.map Prod.snd).Nodup :=
  h.slots.sublist ((List.sublist_append_left _ _).map Prod.snd)

/-- A bookmark leads to the row that it names or named. -/
theorem locate?_eq_some (h : m.Accounted) (hissued : m.issued < 1 <<< 64)
    (hmem : (b, slot) ∈ m.entries) : m.locate? b = some slot :=
  (locate?_eq_some_iff (h.nodup_bookmarks hissued)).mpr hmem

end Accounted

/-- The row of a retired bookmark has no other one. -/
theorem ne_of_mem_retire (h : (m.live.map Prod.snd).Nodup) {entry : Bookmark × SlotId}
    (hentry : entry ∈ (m.retire slot).live) : entry ∈ m.live ∧ entry.2 ≠ slot := by
  unfold retire at hentry
  split at hentry
  next hnone => exact ⟨hentry, ofSlot?_eq_none hnone entry hentry⟩
  next b hb =>
    obtain ⟨hlive, hother⟩ := List.mem_filter.mp hentry
    refine ⟨hlive, ?_⟩
    rintro rfl
    have hsame := List.inj_on_of_nodup_map h hlive (mem_live_of_ofSlot? hb) rfl
    rw [hsame] at hother
    simp at hother

theorem mem_retired_of_retire {entry : Bookmark × SlotId}
    (h : entry ∈ (m.retire slot).retired) :
    entry ∈ m.retired ∨ entry ∈ m.live ∧ entry.2 = slot := by
  unfold retire at h
  split at h
  · exact Or.inl h
  next b hb =>
    rcases List.mem_append.mp h with h | h
    · exact Or.inl h
    · rw [List.mem_singleton.mp h]
      exact Or.inr ⟨mem_live_of_ofSlot? hb, rfl⟩

/-- An entry is never lost to a new one. -/
theorem mem_entries_mint {entry : Bookmark × SlotId} (h : entry ∈ m.entries) (slot : SlotId) :
    entry ∈ (m.mint slot).2.entries := by
  unfold mint
  split
  · exact h
  · rcases List.mem_append.mp h with h | h
    · exact List.mem_append_left _ (List.mem_append_left _ h)
    · exact List.mem_append_right _ h

end Bookmarks

end ScrollCursor
