/-! # Letter case

Names, keywords and option words are compared without regard to the case of the
26 Latin letters; every other character stands for itself.
-/

namespace ScrollCursor

namespace Text

/-- The text with its ASCII letters in upper case. -/
def upper (s : String) : String :=
  String.ofList (s.toList.map Char.toUpper)

/-- The text with its ASCII letters in lower case. -/
def lower (s : String) : String :=
  String.ofList (s.toList.map Char.toLower)

/-- Equality up to the case of ASCII letters. -/
def sameName (a b : String) : Bool :=
  upper a == upper b

theorem sameName_iff {a b : String} : sameName a b = true ↔ upper a = upper b := by
  simp [sameName]

theorem sameName_refl (a : String) : sameName a a = true := by
  simp [sameName]

theorem sameName_symm {a b : String} (h : sameName a b = true) : sameName b a = true := by
  simp_all [sameName]

theorem sameName_trans {a b c : String} (hab : sameName a b = true)
    (hbc : sameName b c = true) : sameName a c = true := by
  simp_all [sameName]

end Text

end ScrollCursor
