import ScrollCursor.Number.Shortest

/-! # Layouts of floating-point numbers

Two ways to write a double with its shortest digits. The plain layout never uses an
exponent and writes whole numbers without a point; it serves texts and literals. The
document layout always shows a fraction and goes over to an exponent for very large and
very small numbers; it serves documents.
-/

namespace ScrollCursor

namespace Digits

def zeros (n : Nat) : List Char :=
  List.replicate n '0'

/-- Digits in positional notation; whole numbers have no point. -/
def positional (d : Digits) : List Char :=
  if d.lead < 0 then
    '0' :: '.' :: zeros (-d.lead - 1).toNat ++ d.digits
  else
    let whole := d.lead.toNat + 1
    if d.digits.length ≤ whole then
      d.digits ++ zeros (whole - d.digits.length)
    else
      d.digits.take whole ++ '.' :: d.digits.drop whole

/-- Digits with a point after the first one and a signed exponent. -/
def scientific (d : Digits) : List Char :=
  let sign := if d.lead < 0 then '-' else '+'
  let tail := 'e' :: sign :: ofNat d.lead.natAbs
  match d.digits with
  | [] => tail
  | [first] => first :: tail
  | first :: more => first :: '.' :: more ++ tail

end Digits

namespace Binary64

/-- A minus sign in front of the digits of a negative number. -/
def signed (x : Binary64) (body : List Char) : String :=
  String.ofList (if x.isNegative then '-' :: body else body)

/-- Plain text: `1.5`, `-0`, `0.0000001`, `NaN`, `inf`. -/
def plainText (x : Binary64) : String :=
  if x.isNaN then "NaN"
  else if !x.isFinite then x.signed ['i', 'n', 'f']
  else if x.isZero then x.signed ['0']
  else x.signed (Digits.shortest .up x).positional

/-- Document text: `1.5`, `-0.0`, `1e-6`, `1.5e+17`. Positional notation is used when the
first digit stands between the places `10 ^ (-5)` and `10 ^ 15`. -/
def documentText (x : Binary64) : String :=
  if !x.isFinite then "null"
  else if x.isZero then x.signed ['0', '.', '0']
  else
    let d := Digits.shortest .toEven x
    if -5 ≤ d.lead ∧ d.lead ≤ 15 then
      let text := d.positional
      x.signed (if text.contains '.' then text else text ++ ['.', '0'])
    else x.signed d.scientific

example : plainText ⟨0x3FF8000000000000⟩ = "1.5" := by decide +kernel

example : plainText ⟨0x3E7AD7F29ABCAF48⟩ = "0.0000001" := by decide +kernel

example : documentText ⟨0x4059000000000000⟩ = "100.0" := by decide +kernel

example : documentText ⟨0x3EB0C6F7A0B5ED8D⟩ = "1e-6" := by decide +kernel

end Binary64

end ScrollCursor
