import Mathlib.Algebra.Field.Rat
import ScrollCursor.Proofs.Sql.Rendering
import ScrollCursor.Proofs.Text.ReadingBack

/-! # The grammar of numerals

A numeral is made of a sign or none, of digits with or without a point among them, and perhaps of
an exponent. The characters of a numeral tell its parts, also where a comma stands for the point,
so that they stand for one number only. What is recognised as a numeral is exactly what has such
parts.
-/

namespace ScrollCursor

namespace Numeral

/-! ## The parts of a numeral -/

/-- What stands in front of digits. -/
inductive Sign where
  | absent
  | plus
  | minus
  deriving DecidableEq

namespace Sign

def chars : Sign → List Char
  | .absent => []
  | .plus => ['+']
  | .minus => ['-']

/-- The number with the sign in front of it. -/
def apply : Sign → Nat → Int
  | .minus, n => -n
  | _, n => n

end Sign

/-- The number that digits stand for. -/
def digitsValue (digits : List Char) : Nat :=
  Nat.ofDigitChars 10 digits 0

@[ext]
structure Exponent where
  mark : Char
  sign : Sign
  digits : List Char
  mark_eq : mark = 'e' ∨ mark = 'E'
  ne_nil : digits ≠ []
  isDigit : ∀ c ∈ digits, c.isDigit = true

namespace Exponent

def chars (e : Exponent) : List Char :=
  e.mark :: (e.sign.chars ++ e.digits)

def value (e : Exponent) : Int :=
  e.sign.apply (digitsValue e.digits)

end Exponent

/-- The parts of a numeral. The fraction is what stands after the point, if there is one; one of
the two sides of the point may be empty. -/
@[ext]
structure Form where
  sign : Sign
  whole : List Char
  fraction? : Option (List Char)
  exponent? : Option Exponent
  ne_nil : whole ++ fraction?.getD [] ≠ []
  isDigit : ∀ c ∈ whole ++ fraction?.getD [], c.isDigit = true

/-- The digits of a numeral with the given character as its point. -/
def mantissaChars (point : Char) (whole : List Char) (fraction? : Option (List Char)) :
    List Char :=
  whole ++ (fraction?.map (point :: ·)).getD []

namespace Form

def exponentChars (n : Form) : List Char :=
  (n.exponent?.map Exponent.chars).getD []

/-- The text of a numeral with the given character as its point. -/
def chars (point : Char) (n : Form) : List Char :=
  n.sign.chars ++ (mantissaChars point n.whole n.fraction? ++ n.exponentChars)

/-- The number that a numeral stands for. -/
def value (n : Form) : ℚ :=
  n.sign.apply (digitsValue (n.whole ++ n.fraction?.getD [])) *
    10 ^ ((n.exponent?.map Exponent.value).getD 0 - ((n.fraction?.getD []).length : ℤ))

end Form

/-! ## Signs -/

def isSign (c : Char) : Bool :=
  c == '+' || c == '-'

theorem isSign_of_isDigit {c : Char} (h : c.isDigit = true) : isSign c = false := by
  rw [isSign, Bool.or_eq_false_iff, beq_eq_false_iff_ne, beq_eq_false_iff_ne]
  constructor <;> rintro rfl <;> exact absurd h (by decide)

namespace Sign

theorem isSign_of_mem_chars {s : Sign} : ∀ c ∈ s.chars, isSign c = true := by
  refine List.all_eq_true.mp ?_
  cases s <;> rfl

/-- A sign is told by its character, or by there being none. -/
theorem chars_injective : Function.Injective chars := by
  intro s t h
  cases s <;> cases t <;> first | rfl | cases h

/-- A sign can be read off the beginning of a text that goes on with anything but a sign. -/
theorem chars_append_inj {s t : Sign} {x y : List Char} (hx : x.takeWhile isSign = [])
    (hy : y.takeWhile isSign = []) (h : s.chars ++ x = t.chars ++ y) : s = t ∧ x = y := by
  obtain ⟨hsign, hrest⟩ := Text.append_inj_of_sort isSign_of_mem_chars isSign_of_mem_chars hx hy h
  exact ⟨chars_injective hsign, hrest⟩

/-- A text is a sign and what is left without it. -/
theorem exists_eq_append_dropSign (cs : List Char) : ∃ s : Sign, cs = s.chars ++ dropSign cs := by
  obtain ⟨sign, hcs, rfl | rfl | rfl⟩ := Sql.eq_append_dropSign cs
  · exact ⟨.absent, hcs⟩
  · exact ⟨.minus, hcs⟩
  · exact ⟨.plus, hcs⟩

/-- A sign is taken off what begins with none. -/
theorem dropSign_append (s : Sign) {cs : List Char} (h : cs.takeWhile isSign = []) :
    dropSign (s.chars ++ cs) = cs := by
  cases s with
  | plus | minus => rfl
  | absent =>
      change dropSign cs = cs
      unfold dropSign
      split
      · cases h
      · cases h
      · rfl

end Sign

theorem takeWhile_isSign_of_isDigit {cs : List Char} (h : ∀ c ∈ cs, c.isDigit = true) :
    cs.takeWhile isSign = [] := by
  cases cs with
  | nil => rfl
  | cons c cs =>
      have hsign := isSign_of_isDigit (h c List.mem_cons_self)
      rw [List.takeWhile_cons_of_neg (by simp [hsign])]

/-! ## Exponents -/

/-- An exponent is a sign and digits. -/
theorem isExponent_iff {cs : List Char} :
    isExponent cs = true ↔
      ∃ (sign : Sign) (digits : List Char), digits ≠ [] ∧ (∀ c ∈ digits, c.isDigit = true) ∧
        cs = sign.chars ++ digits := by
  simp only [isExponent, Bool.and_eq_true, Bool.not_eq_true', List.isEmpty_eq_false_iff,
    List.all_eq_true]
  constructor
  · rintro ⟨hne, hdigits⟩
    obtain ⟨sign, hcs⟩ := Sign.exists_eq_append_dropSign cs
    exact ⟨sign, _, hne, hdigits, hcs⟩
  · rintro ⟨sign, digits, hne, hdigits, rfl⟩
    rw [sign.dropSign_append (takeWhile_isSign_of_isDigit hdigits)]
    exact ⟨hne, hdigits⟩

/-- An exponent is told by its text. -/
theorem Exponent.chars_injective : Function.Injective Exponent.chars := by
  intro d e h
  obtain ⟨hmark, h⟩ := List.cons.inj h
  obtain ⟨hsign, hdigits⟩ := Sign.chars_append_inj (takeWhile_isSign_of_isDigit d.isDigit)
    (takeWhile_isSign_of_isDigit e.isDigit) h
  exact Exponent.ext hmark hsign hdigits

/-! ## Digits with a point -/

section Mantissa

variable {whole : List Char} {fraction? : Option (List Char)} {point : Char}

/-- A mantissa is written with digits and a point. -/
theorem mem_mantissaChars {c : Char} (h : c ∈ mantissaChars point whole fraction?) :
    c ∈ whole ++ fraction?.getD [] ∨ c = point := by
  cases fraction? with
  | none => exact .inl h
  | some ds =>
      rcases List.mem_append.mp h with h | h
      · exact .inl (List.mem_append_left _ h)
      · rcases List.mem_cons.mp h with rfl | h
        · exact .inr rfl
        · exact .inl (List.mem_append_right _ h)

theorem mem_mantissaChars_of_mem {c : Char} (h : c ∈ whole ++ fraction?.getD []) :
    c ∈ mantissaChars point whole fraction? := by
  cases fraction? with
  | none => exact h
  | some ds =>
      rcases List.mem_append.mp h with h | h
      · exact List.mem_append_left _ h
      · exact List.mem_append_right _ (List.mem_cons_of_mem _ h)

theorem mantissaChars_ne_nil (point : Char) (h : whole ++ fraction?.getD [] ≠ []) :
    mantissaChars point whole fraction? ≠ [] := by
  cases fraction? with
  | none => exact h
  | some ds => exact List.append_ne_nil_of_right_ne_nil _ (List.cons_ne_nil _ _)

theorem count_point_eq_zero {digits : List Char} (h : ∀ c ∈ digits, c.isDigit = true) :
    digits.count '.' = 0 :=
  List.count_eq_zero.mpr fun hmem => absurd (h _ hmem) (by decide)

/-- A text is its leading digits and a rest that begins with none. -/
theorem exists_digits_append (cs : List Char) :
    ∃ digits rest, cs = digits ++ rest ∧ (∀ c ∈ digits, c.isDigit = true) ∧
      ∀ c ∈ rest.head?, c.isDigit = false := by
  refine ⟨cs.takeWhile Char.isDigit, cs.dropWhile Char.isDigit,
    List.takeWhile_append_dropWhile.symm, fun c hc => List.mem_takeWhile_imp hc, ?_⟩
  intro c hc
  have hhead := List.head?_dropWhile_not Char.isDigit cs
  rw [Option.mem_def.mp hc] at hhead
  simpa using hhead

/-- Digits and points with no more than one point among them. -/
theorem exists_fraction {cs : List Char} (hchars : ∀ c ∈ cs, c.isDigit = true ∨ c = '.')
    (hcount : cs.count '.' ≤ 1) :
    ∃ (whole : List Char) (fraction? : Option (List Char)),
      (∀ c ∈ whole ++ fraction?.getD [], c.isDigit = true) ∧
        cs = mantissaChars '.' whole fraction? := by
  obtain ⟨whole, rest, rfl, hwhole, hhead⟩ := exists_digits_append cs
  cases rest with
  | nil => exact ⟨whole, none, by simpa using hwhole, rfl⟩
  | cons c ds =>
      have hpoint : c = '.' := by
        rcases hchars c (List.mem_append_right _ List.mem_cons_self) with hc | hc
        · rw [hhead c rfl] at hc
          cases hc
        · exact hc
      subst hpoint
      -- The one point is used up, so what follows it are digits.
      have hnone : '.' ∉ ds := by
        rw [List.count_append, List.count_cons_self] at hcount
        rw [← List.count_eq_zero]
        omega
      have hds : ∀ c ∈ ds, c.isDigit = true := by
        intro c hc
        rcases hchars c (List.mem_append_right _ (List.mem_cons_of_mem _ hc)) with hdigit | rfl
        · exact hdigit
        · exact absurd hc hnone
      exact ⟨whole, some ds, List.forall_mem_append.mpr ⟨hwhole, hds⟩, rfl⟩

/-- A mantissa is digits, and a point at most once, with a digit before or after it. -/
theorem isMantissa_iff {cs : List Char} :
    isMantissa cs = true ↔
      ∃ (whole : List Char) (fraction? : Option (List Char)),
        whole ++ fraction?.getD [] ≠ [] ∧ (∀ c ∈ whole ++ fraction?.getD [], c.isDigit = true) ∧
          cs = mantissaChars '.' whole fraction? := by
  simp only [isMantissa, Bool.and_eq_true, List.all_eq_true, List.any_eq_true, Bool.or_eq_true,
    beq_iff_eq, decide_eq_true_eq]
  constructor
  · rintro ⟨⟨hchars, d, hd, hdigit⟩, hcount⟩
    obtain ⟨whole, fraction?, hdigits, rfl⟩ := exists_fraction hchars hcount
    refine ⟨whole, fraction?, ?_, hdigits, rfl⟩
    rcases mem_mantissaChars hd with hd | rfl
    · exact List.ne_nil_of_mem hd
    · exact absurd hdigit (by decide)
  · rintro ⟨whole, fraction?, hne, hdigits, rfl⟩
    refine ⟨⟨fun c hc => (mem_mantissaChars hc).imp_left (hdigits c), ?_⟩, ?_⟩
    · obtain ⟨d, hd⟩ := List.exists_mem_of_ne_nil _ hne
      exact ⟨d, mem_mantissaChars_of_mem hd, hdigits d hd⟩
    · obtain ⟨hwhole, hfraction⟩ := List.forall_mem_append.mp hdigits
      rw [mantissaChars, List.count_append, count_point_eq_zero hwhole, Nat.zero_add]
      cases fraction? with
      | none => exact Nat.zero_le 1
      | some ds =>
          have hds : ds.count '.' = 0 := count_point_eq_zero hfraction
          change ('.' :: ds).count '.' ≤ 1
          rw [List.count_cons_self, hds]

end Mantissa

/-! ## Texts of numerals -/

/-- The two characters that may stand between whole digits and a fraction. -/
def IsPoint (c : Char) : Prop :=
  c = '.' ∨ c = ','

namespace IsPoint

variable {point : Char}

theorem not_isDigit (h : IsPoint point) : point.isDigit = false := by
  rcases h with rfl | rfl <;> rfl

theorem not_isSign (h : IsPoint point) : isSign point = false := by
  rcases h with rfl | rfl <;> rfl

theorem notExponentMark (h : IsPoint point) : notExponentMark point = true := by
  rcases h with rfl | rfl <;> rfl

end IsPoint

theorem notExponentMark_of_isDigit {c : Char} (h : c.isDigit = true) :
    notExponentMark c = true := by
  rw [notExponentMark, Bool.and_eq_true, bne_iff_ne, bne_iff_ne]
  constructor <;> rintro rfl <;> exact absurd h (by decide)

/-- The digits before and after the point are told by a mantissa, whichever its point is. -/
theorem mantissaChars_inj {p q : Char} {v w : List Char} {f g : Option (List Char)}
    (hp : IsPoint p) (hq : IsPoint q) (hv : ∀ c ∈ v, c.isDigit = true)
    (hw : ∀ c ∈ w, c.isDigit = true) (h : mantissaChars p v f = mantissaChars q w g) :
    v = w ∧ f = g := by
  have hrest {point : Char} (hpoint : IsPoint point) (k : Option (List Char)) :
      ((k.map (point :: ·)).getD []).takeWhile Char.isDigit = [] := by
    cases k with
    | none => rfl
    | some ds => exact List.takeWhile_cons_of_neg (by simp [hpoint.not_isDigit])
  obtain ⟨hwhole, hfraction⟩ := Text.append_inj_of_sort hv hw (hrest hp f) (hrest hq g) h
  refine ⟨hwhole, ?_⟩
  cases f <;> cases g
  · rfl
  · cases hfraction
  · cases hfraction
  · exact congrArg some (List.cons.inj hfraction).2

namespace Form

variable {point : Char} (n : Form)

theorem takeWhile_exponentChars : n.exponentChars.takeWhile Numeral.notExponentMark = [] := by
  unfold exponentChars
  cases n.exponent? with
  | none => rfl
  | some e =>
      refine List.takeWhile_cons_of_neg ?_
      rcases e.mark_eq with hmark | hmark <;> rw [hmark] <;> decide

theorem dropWhile_exponentChars :
    n.exponentChars.dropWhile Numeral.notExponentMark = n.exponentChars := by
  have hsplit := List.takeWhile_append_dropWhile (p := Numeral.notExponentMark)
    (l := n.exponentChars)
  rwa [n.takeWhile_exponentChars] at hsplit

/-- A mantissa has no mark of an exponent in it. -/
theorem notExponentMark_of_mem (hpoint : IsPoint point) :
    ∀ c ∈ mantissaChars point n.whole n.fraction?, Numeral.notExponentMark c = true := by
  intro c hc
  rcases mem_mantissaChars hc with hc | rfl
  · exact notExponentMark_of_isDigit (n.isDigit c hc)
  · exact hpoint.notExponentMark

/-- A number without its sign does not begin with one. -/
theorem takeWhile_isSign (hpoint : IsPoint point) :
    (mantissaChars point n.whole n.fraction? ++ n.exponentChars).takeWhile isSign = [] := by
  obtain ⟨c, cs, hcs⟩ :=
    List.exists_cons_of_ne_nil (mantissaChars_ne_nil point n.ne_nil)
  have hsign : isSign c = false := by
    rcases mem_mantissaChars (hcs ▸ List.mem_cons_self) with hc | rfl
    · exact isSign_of_isDigit (n.isDigit c hc)
    · exact hpoint.not_isSign
  rw [hcs, List.cons_append, List.takeWhile_cons_of_neg (by simp [hsign])]

/-- A text is the text of no more than one numeral, whichever point it has. -/
theorem eq_of_chars_eq {m n : Form} {p q : Char} (hp : IsPoint p) (hq : IsPoint q)
    (h : m.chars p = n.chars q) : m = n := by
  obtain ⟨hsign, h⟩ := Sign.chars_append_inj (m.takeWhile_isSign hp) (n.takeWhile_isSign hq) h
  obtain ⟨hmantissa, hexponent⟩ := Text.append_inj_of_sort (m.notExponentMark_of_mem hp)
    (n.notExponentMark_of_mem hq) m.takeWhile_exponentChars n.takeWhile_exponentChars h
  obtain ⟨hwhole, hfraction⟩ := mantissaChars_inj hp hq
    (fun c hc => m.isDigit c (List.mem_append_left _ hc))
    (fun c hc => n.isDigit c (List.mem_append_left _ hc)) hmantissa
  refine Form.ext hsign hwhole hfraction ?_
  unfold exponentChars at hexponent
  cases hm : m.exponent? <;> cases hn : n.exponent? <;> rw [hm, hn] at hexponent
  · cases hexponent
  · cases hexponent
  · exact congrArg some (Exponent.chars_injective hexponent)

end Form

/-- What is recognised as a numeral is the text of one. -/
theorem isNumeral_iff {cs : List Char} :
    isNumeral cs = true ↔ ∃ n : Form, n.chars '.' = cs := by
  rw [isNumeral, Bool.and_eq_true]
  constructor
  · rintro ⟨hmantissa, hexponent⟩
    obtain ⟨sign, hsign⟩ := Sign.exists_eq_append_dropSign cs
    obtain ⟨whole, fraction?, hne, hdigits, hwhole⟩ := isMantissa_iff.mp hmantissa
    have hbody := List.takeWhile_append_dropWhile (p := notExponentMark) (l := dropSign cs)
    rw [hwhole] at hbody
    split at hexponent
    next hrest =>
      rw [hrest] at hbody
      refine ⟨⟨sign, whole, fraction?, none, hne, hdigits⟩, ?_⟩
      rw [hsign, ← hbody]
      rfl
    next mark exponent hrest =>
      obtain ⟨sign', digits, hne', hdigits', rfl⟩ := isExponent_iff.mp hexponent
      have hmark := Sql.eq_exponentMark hrest
      rw [hrest] at hbody
      refine ⟨⟨sign, whole, fraction?, some ⟨mark, sign', digits, hmark, hne', hdigits'⟩, hne,
        hdigits⟩, ?_⟩
      rw [hsign, ← hbody]
      rfl
  · rintro ⟨n, rfl⟩
    have hpoint : IsPoint '.' := .inl rfl
    have hbody : dropSign (n.chars '.') = mantissaChars '.' n.whole n.fraction? ++
        n.exponentChars := n.sign.dropSign_append (n.takeWhile_isSign hpoint)
    -- The first exponent mark, if there is one, is where the digits and the point end.
    have hchars := n.notExponentMark_of_mem hpoint
    rw [hbody, List.takeWhile_append_of_pos hchars, n.takeWhile_exponentChars, List.append_nil,
      List.dropWhile_append_of_pos hchars]
    refine ⟨isMantissa_iff.mpr ⟨n.whole, n.fraction?, n.ne_nil, n.isDigit, rfl⟩, ?_⟩
    rw [n.dropWhile_exponentChars, Form.exponentChars]
    cases n.exponent? with
    | none => rfl
    | some e => exact isExponent_iff.mpr ⟨e.sign, e.digits, e.ne_nil, e.isDigit, rfl⟩

end Numeral

end ScrollCursor
