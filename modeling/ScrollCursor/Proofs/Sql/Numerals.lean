import ScrollCursor.Proofs.Sql.Pieces
import ScrollCursor.Proofs.Text.ReadingBack

/-! # Numerals stand for themselves

A numeral has no blanks and no comma, so reading it as numeric text gives the same numeral.
-/

namespace ScrollCursor

namespace Sql

theorem isNumeralChar_blank_code :
    ∀ n ∈ blankCodes, isNumeralChar (Char.ofNat n) = false := by
  decide +kernel

theorem isBlank_of_isNumeralChar {c : Char} (h : isNumeralChar c = true) :
    Text.isBlank c = false := by
  by_contra hblank
  rw [Bool.not_eq_false] at hblank
  have hcode := isNumeralChar_blank_code c.toNat (toNat_mem_blankCodes hblank)
  rw [Char.ofNat_toNat, h] at hcode
  cases hcode

end Sql

namespace Numeral

theorem commaToPoint_eq_self {cs : List Char} (h : ',' ∉ cs) : commaToPoint cs = cs := by
  rw [commaToPoint, List.count_eq_zero_of_not_mem h]
  simp

theorem normalize?_of_isNumeral {text : String} (h : isNumeral text.toList = true) :
    normalize? text = some text := by
  have hchars := Sql.isNumeralChar_of_isNumeral h
  have htrim : Text.trim text.toList = text.toList :=
    Text.trim_eq_self fun c hc => Sql.isBlank_of_isNumeralChar (hchars c hc)
  have hcomma : ',' ∉ text.toList := fun hmem => absurd (hchars _ hmem) (by decide)
  rw [normalize?, htrim, commaToPoint_eq_self hcomma, if_pos h, String.ofList_toList]

end Numeral

namespace Sql

/-- A numeral is not changed by being read once more, for whatever type. -/
theorem numeral_of_numeral {text numeral : String} {type : SqlType}
    (h : Sql.numeral text type = .ok numeral) (type' : SqlType) :
    Sql.numeral numeral type' = .ok numeral := by
  rw [Sql.numeral, Numeral.normalize?_of_isNumeral (isNumeral_of_numeral h)]

end Sql

end ScrollCursor
