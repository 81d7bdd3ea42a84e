/-! # Double-precision numbers

A binary floating-point number is its 64 bits. A finite one has the exact value
`mantissa · 2 ^ exponent`, up to its sign; equality is that of the numbers, so the two
zeros are equal and a NaN is unequal to itself.
-/

namespace ScrollCursor

/-- A double-precision number, given by its bits. -/
structure Binary64 where
  bits : UInt64
  deriving DecidableEq, Inhabited

namespace Binary64

/-- The first bit is set: the number is written with a minus sign. -/
def isNegative (x : Binary64) : Bool :=
  x.bits.toNat >>> 63 == 1

/-- The eleven exponent bits. -/
def exponentField (x : Binary64) : Nat :=
  (x.bits.toNat >>> 52) % 2048

/-- The fifty-two fraction bits. -/
def fractionField (x : Binary64) : Nat :=
  x.bits.toNat % (1 <<< 52)

def isFinite (x : Binary64) : Bool :=
  x.exponentField != 2047

def isNaN (x : Binary64) : Bool :=
  x.exponentField == 2047 && x.fractionField != 0

/-- Both zeros. -/
def isZero (x : Binary64) : Bool :=
  x.exponentField == 0 && x.fractionField == 0

/-- The integer part of a finite value `mantissa · 2 ^ exponent`. -/
def mantissa (x : Binary64) : Nat :=
  if x.exponentField = 0 then x.fractionField else x.fractionField + (1 <<< 52)

/-- The power of two of a finite value `mantissa · 2 ^ exponent`. -/
def exponent (x : Binary64) : Int :=
  if x.exponentField = 0 then -1074 else (x.exponentField : Int) - 1075

/-- Equality as numbers. -/
def sameNumber (x y : Binary64) : Bool :=
  !x.isNaN && !y.isNaN && (x.bits == y.bits || (x.isZero && y.isZero))

instance : BEq Binary64 := ⟨sameNumber⟩

/-- A sign bit in front of the bits of a magnitude. -/
def ofMagnitude (negative : Bool) (bits : Nat) : Binary64 :=
  ⟨UInt64.ofNat ((if negative then 1 <<< 63 else 0) + bits)⟩

/-- The quotient rounded to the nearest integer, a half to the even one. -/
def roundQuotient (num den : Nat) : Nat :=
  let whole := num / den
  let rest := num % den
  if 2 * rest < den then whole
  else if den < 2 * rest then whole + 1
  else if whole % 2 = 0 then whole else whole + 1

/-- The bits of the double nearest to the positive quotient `num / den`, a tie going to the
even one; a quotient beyond the largest double has none.

The mantissa is sought with 53 bits, or with fewer where the exponent cannot go lower. A
mantissa rounded up to `2 ^ 53` runs over into the exponent field, which is as it should be. -/
def magnitudeOfQuotient? (num den : Nat) : Option Nat :=
  let guess : Int := (Nat.log2 num : Int) - (Nat.log2 den : Int)
  let floorLog : Int :=
    if num <<< (-guess).toNat < den <<< guess.toNat then guess - 1 else guess
  let q : Int := max (floorLog - 52) (-1074)
  let m := roundQuotient (num <<< (-q).toNat) (den <<< q.toNat)
  let bits := ((q + 1074).toNat <<< 52) + m
  if bits < 2047 <<< 52 then some bits else none

end Binary64

end ScrollCursor
