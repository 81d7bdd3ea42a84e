import Mathlib.Data.List.Nodup
import ScrollCursor.Names

/-! # Cursor names of a connection

No two names of a connection are equal up to case and no statement has two. A statement that takes
a name, or tells where its cursor stands, leaves the names of the other statements and what is known
of their rows alone.
-/

namespace ScrollCursor

namespace Text

theorem upper_append (a b : String) : upper (a ++ b) = upper a ++ upper b := by
  simp [upper, String.ofList_append]

/-- Digits have no case. -/
theorem toUpper_of_isDigit {c : Char} (h : c.isDigit = true) : c.toUpper = c := by
  have hle : c.val ≤ 57 := by
    simp only [Char.isDigit, Bool.and_eq_true, decide_eq_true_eq] at h
    exact h.2
  unfold Char.toUpper
  apply dif_neg
  rintro ⟨hlower, -⟩
  exact absurd (UInt32.le_trans hlower hle) (by decide)

theorem upper_repr (n : Nat) : upper n.repr = n.repr := by
  have hdigits : n.repr.toList.map Char.toUpper = n.repr.toList := by
    rw [Nat.toList_repr]
    conv_rhs => rw [← List.map_id (Nat.toDigits 10 n)]
    refine List.map_congr_left fun c hc => ?_
    exact toUpper_of_isDigit (Nat.isDigit_of_mem_toDigits (by decide) (by decide) hc)
  rw [upper, hdigits, String.ofList_toList]

end Text

namespace CursorNames

open Text (sameName)

variable {r r' : CursorNames} {id other : Nat} {name : String} {e e' : NamedCursor}

/-! ## Entries -/

/-- A statement has one name at most and a name one statement. -/
structure Lawful (r : CursorNames) : Prop where
  ids : (r.entries.map NamedCursor.statement).Nodup
  names : ∀ e ∈ r.entries, ∀ e' ∈ r.entries, sameName e.name e'.name = true →
    e.statement = e'.statement

theorem mem_of_ofStatement? (h : r.ofStatement? id = some e) :
    e ∈ r.entries ∧ e.statement = id :=
  ⟨List.mem_of_find?_eq_some h, by simpa using List.find?_some h⟩

namespace Lawful

theorem eq_of_statement (h : r.Lawful) (he : e ∈ r.entries) (he' : e' ∈ r.entries)
    (hsame : e.statement = e'.statement) : e = e' :=
  List.inj_on_of_nodup_map h.ids he he' hsame

/-- A name, in whatever case, leads to the entry of the statement that has it. -/
theorem holder?_eq (h : r.Lawful) (he : r.ofStatement? id = some e)
    (hname : sameName name e.name = true) : r.holder? name = some e := by
  obtain ⟨hmem, -⟩ := mem_of_ofStatement? he
  cases hfound : r.holder? name with
  | none =>
      have hnone := List.find?_eq_none.mp hfound e hmem
      rw [Text.sameName_symm hname] at hnone
      exact absurd rfl hnone
  | some e' =>
      rw [holder?] at hfound
      have hmem' := List.mem_of_find?_eq_some hfound
      have hname' := List.find?_some hfound
      have hsame := h.names e' hmem' e hmem (Text.sameName_trans hname' hname)
      rw [h.eq_of_statement hmem' hmem hsame]

end Lawful

/-! ## Changes to one statement's entry -/

/-- The names are as lawful as before, and nothing has changed for the other statements. -/
structure Adjusts (id : Nat) (r r' : CursorNames) : Prop where
  lawful : r.Lawful → r'.Lawful
  others : ∀ other, other ≠ id → r'.ofStatement? other = r.ofStatement? other

namespace Adjusts

theorem refl (id : Nat) (r : CursorNames) : Adjusts id r r :=
  ⟨fun h => h, fun _ _ => rfl⟩

theorem trans {r'' : CursorNames} (h : Adjusts id r r') (h' : Adjusts id r' r'') :
    Adjusts id r r'' :=
  ⟨fun hr => h'.lawful (h.lawful hr),
    fun other hother => (h'.others other hother).trans (h.others other hother)⟩

/-- A name is of a statement that had one before, or of the one that the change is about. -/
theorem known (h : Adjusts id r r') (he : e ∈ r'.entries) :
    e.statement = id ∨ ∃ e' ∈ r.entries, e'.statement = e.statement := by
  by_cases hid : e.statement = id
  · exact Or.inl hid
  · have hsome : (r'.ofStatement? e.statement).isSome = true :=
      List.find?_isSome.mpr ⟨e, he, beq_self_eq_true _⟩
    rw [h.others _ hid, Option.isSome_iff_exists] at hsome
    obtain ⟨e', he'⟩ := hsome
    exact Or.inr ⟨e', mem_of_ofStatement? he'⟩

end Adjusts

/-- Where a cursor stands is no matter of names. -/
def placed (id : Nat) (target : PublishedTarget) (e : NamedCursor) : NamedCursor :=
  if e.statement = id then { e with target := target } else e

theorem statement_placed (id : Nat) (target : PublishedTarget) (e : NamedCursor) :
    (placed id target e).statement = e.statement := by
  unfold placed
  split <;> rfl

theorem name_placed (id : Nat) (target : PublishedTarget) (e : NamedCursor) :
    (placed id target e).name = e.name := by
  unfold placed
  split <;> rfl

theorem ofStatement?_publish_eq (r : CursorNames) (id other : Nat) (target : PublishedTarget) :
    (r.publish id target).ofStatement? other = (r.ofStatement? other).map (placed id target) := by
  have hsame : (fun e : NamedCursor => e.statement == other) ∘ placed id target =
      fun e => e.statement == other := by
    funext e
    rw [Function.comp_apply, statement_placed]
  change (r.entries.map (placed id target)).find? _ = _
  rw [List.find?_map, hsame]
  rfl

theorem ofStatement?_publish (r : CursorNames) (id : Nat) (target : PublishedTarget) :
    (r.publish id target).ofStatement? id =
      (r.ofStatement? id).map fun e => { e with target := target } := by
  rw [ofStatement?_publish_eq]
  cases hfound : r.ofStatement? id with
  | none => rfl
  | some e => rw [Option.map_some, Option.map_some, placed, if_pos (mem_of_ofStatement? hfound).2]

theorem adjusts_publish (r : CursorNames) (id : Nat) (target : PublishedTarget) :
    Adjusts id r (r.publish id target) := by
  have hentries : (r.publish id target).entries = r.entries.map (placed id target) := rfl
  constructor
  · intro h
    constructor
    · rw [hentries, List.map_map, show NamedCursor.statement ∘ placed id target =
        NamedCursor.statement from funext (statement_placed id target)]
      exact h.ids
    · intro e he e' he' hname
      rw [hentries] at he he'
      obtain ⟨d, hd, rfl⟩ := List.mem_map.mp he
      obtain ⟨d', hd', rfl⟩ := List.mem_map.mp he'
      rw [name_placed, name_placed] at hname
      rw [statement_placed, statement_placed]
      exact h.names d hd d' hd' hname
  · intro other hother
    rw [ofStatement?_publish_eq]
    cases hfound : r.ofStatement? other with
    | none => rfl
    | some e =>
        have hne : e.statement ≠ id := (mem_of_ofStatement? hfound).2 ▸ hother
        rw [Option.map_some, placed, if_neg hne]

theorem find?_eraseP_of_ne {entries : List NamedCursor} (hne : other ≠ id) :
    (entries.eraseP fun e => e.statement == id).find? (fun e => e.statement == other) =
      entries.find? fun e => e.statement == other := by
  induction entries with
  | nil => rfl
  | cons e entries ih =>
      by_cases hid : e.statement = id
      · have helsewhere : (e.statement == other) = false :=
          beq_false_of_ne fun heq => hne (heq.symm.trans hid)
        rw [List.eraseP_cons_of_pos (by simpa using hid), List.find?_cons, helsewhere]
      · rw [List.eraseP_cons_of_neg (by simpa using hid), List.find?_cons, List.find?_cons, ih]

theorem ne_of_mem_eraseP {entries : List NamedCursor}
    (hids : (entries.map NamedCursor.statement).Nodup)
    (he : e ∈ entries.eraseP fun e => e.statement == id) : e.statement ≠ id := by
  induction entries with
  | nil => cases he
  | cons first entries ih =>
      obtain ⟨hnotin, hrest⟩ := List.nodup_cons.mp hids
      by_cases hid : first.statement = id
      · rw [List.eraseP_cons_of_pos (by simpa using hid)] at he
        intro heq
        exact hnotin (List.mem_map.mpr ⟨e, he, heq.trans hid.symm⟩)
      · rw [List.eraseP_cons_of_neg (by simpa using hid)] at he
        rcases List.mem_cons.mp he with rfl | he
        · exact hid
        · exact ih hrest he

/-- A statement that has given its name up has none. -/
theorem ofStatement?_unregister (h : r.Lawful) (id : Nat) :
    (r.unregister id).ofStatement? id = none := by
  rw [ofStatement?, List.find?_eq_none]
  intro e he
  have hne := ne_of_mem_eraseP h.ids he
  simpa using hne

theorem adjusts_unregister (r : CursorNames) (id : Nat) : Adjusts id r (r.unregister id) := by
  have hsub : ∀ e ∈ (r.unregister id).entries, e ∈ r.entries := fun e he =>
    List.mem_of_mem_eraseP he
  constructor
  · intro h
    refine ⟨?_, fun e he e' he' => h.names e (hsub e he) e' (hsub e' he')⟩
    exact h.ids.sublist (List.eraseP_sublist.map _)
  · intro other hother
    exact find?_eraseP_of_ne hother

/-- The name that a statement takes is its name. -/
theorem ofStatement?_take (h : r.Lawful) (id : Nat) (name : String) :
    (r.take id name).ofStatement? id =
      some ⟨id, name, (r.ofStatement? id).bind NamedCursor.target⟩ := by
  have hnone := ofStatement?_unregister h id
  rw [ofStatement?, take, List.find?_append]
  change ((r.unregister id).ofStatement? id).or _ = _
  rw [hnone]
  simp

/-- A statement takes a name that nobody has. -/
theorem adjusts_take (hfree : r.holder? name = none) (id : Nat) :
    Adjusts id r (r.take id name) := by
  have hrest := adjusts_unregister r id
  have hentries : (r.take id name).entries = (r.unregister id).entries ++
      [⟨id, name, (r.ofStatement? id).bind NamedCursor.target⟩] := rfl
  -- Nobody else has the name, up to case.
  have hnobody : ∀ e ∈ (r.unregister id).entries, sameName e.name name = false := by
    intro e he
    have hnone := List.find?_eq_none.mp hfree e (List.mem_of_mem_eraseP he)
    simpa using hnone
  constructor
  · intro h
    have hlawful := hrest.lawful h
    constructor
    · rw [hentries, List.map_append, List.nodup_append]
      refine ⟨hlawful.ids, List.nodup_singleton _, ?_⟩
      intro a ha b hb
      obtain ⟨e, he, rfl⟩ := List.mem_map.mp ha
      rw [List.mem_singleton.mp hb]
      exact ne_of_mem_eraseP h.ids he
    · intro e he e' he' hname
      rw [hentries] at he he'
      rcases List.mem_append.mp he with he | he <;> rcases List.mem_append.mp he' with he' | he'
      · exact hlawful.names e he e' he' hname
      · rw [List.mem_singleton.mp he'] at hname
        exact absurd (hname.symm.trans (hnobody e he)) Bool.noConfusion
      · rw [List.mem_singleton.mp he] at hname
        exact absurd ((Text.sameName_symm hname).symm.trans (hnobody e' he')) Bool.noConfusion
      · rw [List.mem_singleton.mp he, List.mem_singleton.mp he']
  · intro other hother
    have helsewhere : (id == other) = false := beq_false_of_ne hother.symm
    rw [ofStatement?, hentries, List.find?_append, List.find?_singleton, helsewhere]
    exact (Option.or_none).trans (hrest.others other hother)

/-! ## Chosen and generated names -/

/-- A name is refused, is that of the statement already, or nobody has it. -/
theorem register_eq_ok (h : r.register id name = .ok r') :
    (r' = r ∧ (r.ofStatement? id).isSome = true) ∨
      (r' = r.take id name ∧ r.holder? name = none) := by
  unfold register at h
  split at h
  next e he =>
    split at h
    next hid =>
      cases h
      refine Or.inl ⟨rfl, List.find?_isSome.mpr ⟨e, List.mem_of_find?_eq_some he, ?_⟩⟩
      simpa using hid
    next => cases h
  next hnone =>
    cases h
    exact Or.inr ⟨rfl, hnone⟩

theorem generatedName_inj {m n : Nat}
    (h : Text.upper (generatedName m) = Text.upper (generatedName n)) : m = n := by
  have hname (k : Nat) : Text.upper (generatedName k) = "SQL_CUR" ++ k.repr := by
    change Text.upper ("SQL_CUR" ++ k.repr) = _
    rw [Text.upper_append, Text.upper_repr]
    rfl
  rw [hname, hname] at h
  have hdigits := congrArg String.toList h
  rw [String.toList_append, String.toList_append, List.append_cancel_left_eq, Nat.toList_repr,
    Nat.toList_repr] at hdigits
  rw [← Nat.ofDigitChars_toDigits (b := 10) (n := m) (by decide) (by decide), hdigits,
    Nat.ofDigitChars_toDigits (by decide) (by decide)]

/-- If the number that is found is not free, none of those before it is. -/
theorem holder?_of_firstFree (r : CursorNames) (more n : Nat)
    (h : (r.holder? (generatedName (r.firstFree more n))).isSome = true) :
    ∀ k ≤ more, (r.holder? (generatedName (n + k))).isSome = true := by
  induction more generalizing n with
  | zero =>
      intro k hk
      rw [Nat.le_zero.mp hk]
      exact h
  | succ more ih =>
      unfold firstFree at h
      split at h
      next hheld =>
        intro k hk
        cases k with
        | zero => exact hheld
        | succ k =>
            rw [← Nat.add_assoc, Nat.add_right_comm]
            exact ih (n + 1) h k (Nat.le_of_succ_le_succ hk)
      next hfree => exact absurd h hfree

/-- Nobody has the generated name: there are more numbers to choose from than names. -/
theorem holder?_firstFree (r : CursorNames) :
    r.holder? (generatedName (r.firstFree r.entries.length r.generated)) = none := by
  by_contra hheld
  have hall := r.holder?_of_firstFree _ _ (Option.isSome_iff_ne_none.mpr hheld)
  have hnodup : ((List.range (r.entries.length + 1)).map fun k =>
      Text.upper (generatedName (r.generated + k))).Nodup :=
    List.nodup_range.map fun a b hab => Nat.add_left_cancel (generatedName_inj hab)
  have hsub : ((List.range (r.entries.length + 1)).map fun k =>
      Text.upper (generatedName (r.generated + k))) ⊆
        r.entries.map fun e => Text.upper e.name := by
    intro name hname
    obtain ⟨k, hk, rfl⟩ := List.mem_map.mp hname
    obtain ⟨e, he⟩ := Option.isSome_iff_exists.mp
      (hall k (Nat.le_of_lt_succ (List.mem_range.mp hk)))
    rw [holder?] at he
    have hsame := List.find?_some he
    exact List.mem_map.mpr ⟨e, List.mem_of_find?_eq_some he, Text.sameName_iff.mp hsame⟩
  have hlength := hnodup.length_le_of_subset hsub
  rw [List.length_map, List.length_map, List.length_range] at hlength
  exact Nat.not_succ_le_self _ hlength

theorem adjusts_generate (r : CursorNames) (id : Nat) : Adjusts id r (r.generate id).2 := by
  have hfree : { r with generated := r.firstFree r.entries.length r.generated + 1 }.holder?
      (generatedName (r.firstFree r.entries.length r.generated)) = none := r.holder?_firstFree
  have htaken := adjusts_take hfree id
  exact ⟨fun h => htaken.lawful ⟨h.ids, h.names⟩, htaken.others⟩

theorem ofStatement?_generate (h : r.Lawful) (id : Nat) :
    (r.generate id).2.ofStatement? id =
      some ⟨id, (r.generate id).1, (r.ofStatement? id).bind NamedCursor.target⟩ :=
  ofStatement?_take (r := { r with generated := _ }) ⟨h.ids, h.names⟩ id _

end CursorNames

end ScrollCursor
