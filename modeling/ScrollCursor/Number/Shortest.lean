import ScrollCursor.Number.Binary64

/-! # Shortest decimal texts

The digits of a double are the fewest that read back to it; of two such numbers with equally
many digits the nearer one is taken. Everything is exact arithmetic on natural numbers: the
value, the ends of the interval of numbers that round to it and the candidates are compared
over one common denominator.
-/

namespace ScrollCursor

/-- A positive decimal number `0.d₁d₂… · 10 ^ (lead + 1)`: its digits without zeros at
either end, and the power of ten of the first one. -/
structure Digits where
  digits : List Char
  lead : Int
  deriving DecidableEq, Inhabited

namespace Digits

/-- The decimal digits of a natural number, `0` for zero. -/
def ofNat (n : Nat) : List Char :=
  Nat.toDigits 10 n

/-- The largest power of ten that is at most the positive quotient `num / den`. -/
def leadOf (num den : Nat) : Int :=
  if den ≤ num then ((ofNat (num / den)).length : Int) - 1
  else
    let places := (ofNat (den / num)).length
    if den = num * Nat.pow 10 (places - 1) then 1 - (places : Int) else -(places : Int)

/-- The digits of `count · 10 ^ scale`. -/
def ofScaled (count : Nat) (scale : Int) : Digits :=
  let all := ofNat count
  let kept := (all.reverse.dropWhile (· == '0')).reverse
  ⟨kept, scale + (all.length : Int) - 1⟩

/-- Which way a value half-way between two candidates goes. -/
inductive Tie where
  | up
  | toEven
  deriving DecidableEq

/-- The value and its interval over one common denominator. -/
structure Neighbourhood where
  value : Nat
  low : Nat
  high : Nat
  closed : Bool
  den : Nat

namespace Neighbourhood

/-- The number `count` of units lies in the interval. -/
def holds (near : Neighbourhood) (unitNum unitDen count : Nat) : Bool :=
  let left := near.low * unitDen
  let right := near.high * unitDen
  let here := count * unitNum * near.den
  if near.closed then left ≤ here && here ≤ right else left < here && here < right

/-- Of the two multiples of the unit around the value the one that lies in the interval, the
nearer one if both do. -/
def candidate? (near : Neighbourhood) (tie : Tie) (unitNum unitDen : Nat) : Option Nat :=
  let below := near.value * unitDen / (unitNum * near.den)
  let above := below + 1
  match near.holds unitNum unitDen below, near.holds unitNum unitDen above with
  | false, false => none
  | true, false => some below
  | false, true => some above
  | true, true =>
      let doubled := 2 * near.value * unitDen
      let middle := (below + above) * unitNum * near.den
      if doubled < middle then some below
      else if middle < doubled then some above
      else
        match tie with
        | .up => some above
        | .toEven => if below % 2 = 0 then some below else some above

/-- The coarsest grid of powers of ten from `scale` downwards with a candidate; the last
one tried answers with the number nearest to the value in any case. -/
def search (near : Neighbourhood) (tie : Tie) : Nat → Int → Digits
  | 0, scale =>
      ofScaled (near.value * Nat.pow 10 (-scale).toNat / (near.den * Nat.pow 10 scale.toNat)) scale
  | more + 1, scale =>
      match near.candidate? tie (Nat.pow 10 scale.toNat) (Nat.pow 10 (-scale).toNat) with
      | some count => ofScaled count scale
      | none => near.search tie more (scale - 1)

end Neighbourhood

/-- The neighbourhood of a finite positive double: an end of the interval is half-way to
the next double, which below a power of two is half as far away. -/
def neighbourhood (x : Binary64) : Neighbourhood :=
  let quarter := x.exponent - 2
  let up := 1 <<< quarter.toNat
  let lowGap := if x.fractionField = 0 ∧ 1 < x.exponentField then 1 else 2
  { value := 4 * x.mantissa * up
    low := (4 * x.mantissa - lowGap) * up
    high := (4 * x.mantissa + 2) * up
    closed := x.mantissa % 2 == 0
    den := 1 <<< (-quarter).toNat }

/-- The shortest digits of a finite double other than zero, the sign left out. Seventeen
digits always suffice. -/
def shortest (tie : Tie) (x : Binary64) : Digits :=
  let near := neighbourhood x
  near.search tie 17 (leadOf near.value near.den)

end Digits

end ScrollCursor
