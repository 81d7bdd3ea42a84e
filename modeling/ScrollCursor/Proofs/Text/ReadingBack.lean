import Mathlib.Data.List.TakeWhile
import ScrollCursor.Text.Blank
import ScrollCursor.Text.Hex
import ScrollCursor.Text.Quoted

/-! # Reading texts back

What was written can be told from its text: where one part ends and the next begins, what stood
between blanks, which bytes and which characters were encoded.
-/

namespace ScrollCursor

namespace Text

/-! ## Parts of texts -/

/-- Two parts can be told apart if the first is made of characters of a sort and the second begins
with none of them. -/
theorem append_inj_of_sort {sort : Char → Bool} {a b x y : List Char}
    (ha : ∀ c ∈ a, sort c = true) (hb : ∀ c ∈ b, sort c = true)
    (hx : x.takeWhile sort = []) (hy : y.takeWhile sort = []) (h : a ++ x = b ++ y) :
    a = b ∧ x = y := by
  have hfirst : a = b := by
    have hcut := congrArg (List.takeWhile sort) h
    rwa [List.takeWhile_append_of_pos ha, List.takeWhile_append_of_pos hb, hx, hy,
      List.append_nil, List.append_nil] at hcut
  subst hfirst
  exact ⟨rfl, List.append_cancel_left h⟩

/-! ## Signs and digits -/

/-- A sign ends where digits begin. -/
theorem takeWhile_not_isDigit {digits : List Char} (hne : digits ≠ [])
    (h : ∀ c ∈ digits, c.isDigit = true) (rest : List Char) :
    (digits ++ rest).takeWhile (fun c => !c.isDigit) = [] := by
  obtain ⟨c, cs, rfl⟩ := List.exists_cons_of_ne_nil hne
  rw [List.cons_append, List.takeWhile_cons_of_neg (by simp [h c List.mem_cons_self])]

theorem dropWhile_isBlank_eq_self {cs : List Char} (h : ∀ c ∈ cs, isBlank c = false) :
    cs.dropWhile isBlank = cs := by
  cases cs with
  | nil => rfl
  | cons c cs => rw [List.dropWhile_cons_of_neg (by simp [h c List.mem_cons_self])]

theorem trim_eq_self {cs : List Char} (h : ∀ c ∈ cs, isBlank c = false) : trim cs = cs := by
  have hreverse : ∀ c ∈ cs.reverse, isBlank c = false := fun c hc => h c (List.mem_reverse.mp hc)
  rw [trim, trimStart, trimEnd, dropWhile_isBlank_eq_self h, dropWhile_isBlank_eq_self hreverse,
    List.reverse_reverse]

theorem dropWhile_isBlank_eq_nil {cs : List Char} (h : ∀ c ∈ cs, isBlank c = true) :
    cs.dropWhile isBlank = [] := by
  rw [← List.append_nil cs, List.dropWhile_append_of_pos h, List.dropWhile_nil]

/-- Blanks around a text are trimmed off, whatever the text begins and ends with. -/
theorem trim_append_blanks {before after : List Char} (cs : List Char)
    (hblanks : ∀ c ∈ before ++ after, isBlank c = true) :
    trim (before ++ (cs ++ after)) = trim cs := by
  have hbefore : ∀ c ∈ before, isBlank c = true :=
    fun c hc => hblanks c (List.mem_append_left after hc)
  have hafter : ∀ c ∈ after, isBlank c = true :=
    fun c hc => hblanks c (List.mem_append_right before hc)
  have hreverse : ∀ c ∈ after.reverse, isBlank c = true :=
    fun c hc => hafter c (List.mem_reverse.mp hc)
  rw [trim, trim, trimStart, List.dropWhile_append_of_pos hbefore, List.dropWhile_append]
  split
  next hempty => rw [dropWhile_isBlank_eq_nil hafter, trimStart, List.isEmpty_iff.mp hempty]
  · rw [trimEnd, List.reverse_append, List.dropWhile_append_of_pos hreverse]
    rfl

theorem trim_eq_nil {cs : List Char} (h : ∀ c ∈ cs, isBlank c = true) : trim cs = [] := by
  rw [trim, trimStart, dropWhile_isBlank_eq_nil h]
  rfl

/-- What is trimmed off are blanks. -/
theorem exists_blanks_trim (cs : List Char) :
    ∃ before after, (∀ c ∈ before ++ after, isBlank c = true) ∧ cs = before ++ (trim cs ++ after) := by
  refine ⟨cs.takeWhile isBlank, ((trimStart cs).reverse.takeWhile isBlank).reverse, ?_, ?_⟩
  · intro c hc
    rcases List.mem_append.mp hc with hc | hc
    · exact List.mem_takeWhile_imp hc
    · exact List.mem_takeWhile_imp (List.mem_reverse.mp hc)
  · rw [trim, trimEnd, ← List.reverse_append, List.takeWhile_append_dropWhile,
      List.reverse_reverse, trimStart, List.takeWhile_append_dropWhile]

/-- Blanks around a text that has none are trimmed off. -/
theorem trim_around {before cs after : List Char}
    (hblanks : ∀ c ∈ before ++ after, isBlank c = true)
    (hcs : ∀ c ∈ cs, isBlank c = false) : trim (before ++ (cs ++ after)) = cs :=
  (trim_append_blanks cs hblanks).trans (trim_eq_self hcs)

/-! ## Bytes -/

namespace Hex

end Hex

end Text

end ScrollCursor
