import ScrollCursor.Text.Blank

/-! # Numerals

Numeric text as a statement may hold it: a sign, digits with at most one point, an
exponent. Texts from outside may have blanks around the numeral and, where no point
stands, one comma in its place.
-/

namespace ScrollCursor

namespace Numeral

/-- Without one leading sign. -/
def dropSign : List Char → List Char
  | '-' :: rest => rest
  | '+' :: rest => rest
  | cs => cs

/-- Neither of the two exponent marks. -/
def notExponentMark (c : Char) : Bool :=
  c != 'e' && c != 'E'

/-- Digits with at most one point and at least one digit. -/
def isMantissa (cs : List Char) : Bool :=
  cs.all (fun c => c.isDigit || c == '.') && cs.any Char.isDigit && cs.count '.' ≤ 1

/-- A sign or none, and at least one digit. -/
def isExponent (cs : List Char) : Bool :=
  let digits := dropSign cs
  !digits.isEmpty && digits.all Char.isDigit

/-- A signed mantissa with an exponent after the first exponent mark, if there is one. -/
def isNumeral (cs : List Char) : Bool :=
  let body := dropSign cs
  isMantissa (body.takeWhile notExponentMark) &&
    match body.dropWhile notExponentMark with
    | [] => true
    | _ :: exponent => isExponent exponent

/-- A single comma in a text without points becomes a point. -/
def commaToPoint (cs : List Char) : List Char :=
  if !cs.contains '.' && cs.count ',' == 1 then
    cs.map fun c => if c = ',' then '.' else c
  else cs

/-- The numeral that a text holds, if it holds one. -/
def normalize? (text : String) : Option String :=
  let cs := commaToPoint (Text.trim text.toList)
  if isNumeral cs then some (String.ofList cs) else none

end Numeral

end ScrollCursor
