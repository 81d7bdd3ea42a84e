import Mathlib.Algebra.GroupWithZero.Nat
import ScrollCursor.Calendar
import ScrollCursor.Proofs.Text.ReadingBack

/-! # Dates and times from their texts

A text of a date or of a time tells what it is the text of. Numbers end where their digits end,
signs where digits begin, and a fraction of a second has three, six or nine digits. A leap second
that ends its minute is written as its sixtieth second and can be told from every other; one that
comes after another second is written as the second after it.
-/

namespace ScrollCursor

namespace Calendar

attribute [ext] Date Time Timestamp

/-! ## Digits -/

theorem isDigit_of_mem_padded {width n : Nat} {c : Char} (h : c ∈ padded width n) :
    c.isDigit = true := by
  rw [padded, List.mem_append] at h
  rcases h with hzero | hdigit
  · rw [List.eq_of_mem_replicate hzero]
    decide
  · exact Nat.isDigit_of_mem_toDigits (by decide) (by decide) hdigit

@[simp]
theorem ofDigitChars_padded (width n : Nat) : Nat.ofDigitChars 10 (padded width n) 0 = n := by
  simp only [padded, Nat.ofDigitChars_append, Nat.ofDigitChars_replicate_zero, Nat.mul_zero,
    Nat.ofDigitChars_ten_toDigits]

theorem padded_ne_nil (width n : Nat) : padded width n ≠ [] := by
  simp [padded, Nat.toDigits_ne_nil]

/-- A padded number can be read off the beginning of a text that goes on with anything but a
digit. -/
theorem padded_append_inj {width m n : Nat} {x y : List Char}
    (hx : x.takeWhile Char.isDigit = []) (hy : y.takeWhile Char.isDigit = [])
    (h : padded width m ++ x = padded width n ++ y) : m = n ∧ x = y := by
  obtain ⟨hdigits, hrest⟩ := Text.append_inj_of_sort (fun _ => isDigit_of_mem_padded)
    (fun _ => isDigit_of_mem_padded) hx hy h
  have hvalue := congrArg (Nat.ofDigitChars 10 · 0) hdigits
  simp only [ofDigitChars_padded] at hvalue
  exact ⟨hvalue, hrest⟩

/-! ## Dates -/

/-- What stands before the digits of a year. -/
def yearSign (year : Int) : List Char :=
  if year < 0 then ['-'] else if 9999 < year then ['+'] else []

theorem yearText_eq (year : Int) : yearText year = yearSign year ++ padded 4 year.natAbs := by
  unfold yearText yearSign
  split
  · rfl
  · split <;> rfl

theorem not_isDigit_of_mem_yearSign {year : Int} {c : Char} (h : c ∈ yearSign year) :
    (!c.isDigit) = true := by
  unfold yearSign at h
  split at h
  · rw [List.mem_singleton.mp h]
    decide
  · split at h
    · rw [List.mem_singleton.mp h]
      decide
    · cases h

/-- The sign says whether a year is before year zero. -/
theorem yearSign_eq_minus_iff (year : Int) : yearSign year = ['-'] ↔ year < 0 := by
  unfold yearSign
  split
  next hneg => exact iff_of_true rfl hneg
  next hneg => split <;> simp [hneg]

theorem yearText_append_inj {a b : Int} {x y : List Char} (hx : x.takeWhile Char.isDigit = [])
    (hy : y.takeWhile Char.isDigit = []) (h : yearText a ++ x = yearText b ++ y) :
    a = b ∧ x = y := by
  have hbegin (n : Nat) (z : List Char) :
      (padded 4 n ++ z).takeWhile (fun c => !c.isDigit) = [] :=
    Text.takeWhile_not_isDigit (padded_ne_nil 4 n) (fun _ => isDigit_of_mem_padded) z
  rw [yearText_eq, yearText_eq, List.append_assoc, List.append_assoc] at h
  obtain ⟨hsign, hrest⟩ := Text.append_inj_of_sort (fun _ => not_isDigit_of_mem_yearSign)
    (fun _ => not_isDigit_of_mem_yearSign) (hbegin _ x) (hbegin _ y) h
  obtain ⟨habs, hxy⟩ := padded_append_inj hx hy hrest
  have hneg : a < 0 ↔ b < 0 := by
    rw [← yearSign_eq_minus_iff, ← yearSign_eq_minus_iff, hsign]
  exact ⟨by omega, hxy⟩

/-- A date can be read off the beginning of a text that goes on with anything but a digit. -/
theorem Date.chars_append_inj {a b : Date} {x y : List Char}
    (hx : x.takeWhile Char.isDigit = []) (hy : y.takeWhile Char.isDigit = [])
    (h : a.chars ++ x = b.chars ++ y) : a = b ∧ x = y := by
  have hhyphen (cs : List Char) : ('-' :: cs).takeWhile Char.isDigit = [] := rfl
  simp only [Date.chars, List.append_assoc, List.cons_append] at h
  obtain ⟨hyear, h⟩ := yearText_append_inj (hhyphen _) (hhyphen _) h
  obtain ⟨hmonth, h⟩ := padded_append_inj (hhyphen _) (hhyphen _) (List.cons.inj h).2
  obtain ⟨hday, h⟩ := padded_append_inj hx hy (List.cons.inj h).2
  exact ⟨Date.ext hyear hmonth hday, h⟩

theorem Date.chars_injective : Function.Injective Date.chars := by
  intro a b h
  exact (Date.chars_append_inj (x := []) (y := []) rfl rfl (congrArg (· ++ []) h)).1

/-! ## Times -/

/-- The first time is a leap second that does not end its minute, and the other is the same fraction
of the second after it. -/
structure Time.LeapsInto (t u : Time) : Prop where
  hour : t.hour = u.hour
  minute : t.minute = u.minute
  second : t.second + 1 = u.second
  nanosecond : t.nanosecond = u.nanosecond + 1000000000

/-- The two are of one date, and the first of them leaps into the other. -/
structure Timestamp.LeapsInto (t u : Timestamp) : Prop where
  date : t.date = u.date
  time : t.time.LeapsInto u.time

end Calendar

end ScrollCursor
