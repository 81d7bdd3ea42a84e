import ScrollCursor.Document.Basic
import ScrollCursor.Text.Hex

/-! # Reading documents

A reader for document text. Each reader takes the characters that are left and returns
what it read with the rest. A number without point and exponent that fits 64 bits is
whole, except for a zero with a minus sign; every other one is the nearest double.
-/

namespace ScrollCursor

namespace Document

namespace Parser

/-- Blanks between the parts of a document. -/
def skipBlanks (cs : List Char) : List Char :=
  cs.dropWhile fun c => c == ' ' || c == '\t' || c == '\n' || c == '\r'

/-- The number written by four hexadecimal digits. -/
def hex4? : List Char → Option (Nat × List Char)
  | a :: b :: c :: d :: rest => do
      let w ← Text.Hex.digit? a
      let x ← Text.Hex.digit? b
      let y ← Text.Hex.digit? c
      let z ← Text.Hex.digit? d
      some (4096 * w + 256 * x + 16 * y + z, rest)
  | _ => none

/-- The character of an escape by code units, which may take two of them. -/
def unicodeEscape? (cs : List Char) : Option (Char × List Char) := do
  let (high, rest) ← hex4? cs
  if 0xD800 ≤ high ∧ high < 0xDC00 then
    match rest with
    | '\\' :: 'u' :: more =>
        let (low, rest) ← hex4? more
        if 0xDC00 ≤ low ∧ low < 0xE000 then
          some (Char.ofNat (0x10000 + (high - 0xD800) * 0x400 + (low - 0xDC00)), rest)
        else none
    | _ => none
  else if 0xDC00 ≤ high ∧ high < 0xE000 then none
  else some (Char.ofNat high, rest)

/-- The characters of a string up to its closing quote. The first argument bounds the
number of steps. -/
def stringBody? : Nat → List Char → Option (List Char × List Char)
  | 0, _ => none
  | steps + 1, cs =>
      match cs with
      | [] => none
      | '"' :: rest => some ([], rest)
      | '\\' :: letter :: rest => do
          let (c, rest) ←
            match letter with
            | '"' => some ('"', rest)
            | '\\' => some ('\\', rest)
            | '/' => some ('/', rest)
            | 'b' => some ('\x08', rest)
            | 'f' => some ('\x0c', rest)
            | 'n' => some ('\n', rest)
            | 'r' => some ('\r', rest)
            | 't' => some ('\t', rest)
            | 'u' => unicodeEscape? rest
            | _ => none
          let (body, rest) ← stringBody? steps rest
          some (c :: body, rest)
      | c :: rest =>
          if c.toNat < 32 ∨ c = '\\' then none
          else do
            let (body, rest) ← stringBody? steps rest
            some (c :: body, rest)

/-- The number that decimal digits stand for. -/
def natOf (digits : List Char) : Nat :=
  digits.foldl (fun n c => 10 * n + (c.toNat - 48)) 0

/-- The double nearest to `digits · 10 ^ exponent`. Exponents far outside the range of
doubles are decided without computing the power. -/
def nearest? (negative : Bool) (digits : Nat) (exponent : Int) : Option Binary64 :=
  let lead : Int := exponent + (Nat.toDigits 10 digits).length
  if digits = 0 ∨ lead < -400 then some (Binary64.ofMagnitude negative 0)
  else if 400 < lead then none
  else
    (Binary64.magnitudeOfQuotient? (digits * Nat.pow 10 exponent.toNat)
        (Nat.pow 10 (-exponent).toNat)).map
      (Binary64.ofMagnitude negative)

/-- The fraction digits after a point, none where there is no point. -/
def fraction? : List Char → Option (List Char × List Char)
  | '.' :: rest =>
      let digits := rest.takeWhile Char.isDigit
      if digits.isEmpty then none else some (digits, rest.dropWhile Char.isDigit)
  | cs => some ([], cs)

/-- The exponent after an exponent mark, if there is a mark. -/
def exponent? (cs : List Char) : Option (Option Int × List Char) :=
  let read (negative : Bool) (cs : List Char) : Option (Option Int × List Char) :=
    let digits := cs.takeWhile Char.isDigit
    if digits.isEmpty then none
    else
      let n : Int := natOf digits
      some (some (if negative then -n else n), cs.dropWhile Char.isDigit)
  let signed (cs : List Char) : Option (Option Int × List Char) :=
    match cs with
    | '-' :: rest => read true rest
    | '+' :: rest => read false rest
    | _ => read false cs
  match cs with
  | 'e' :: rest => signed rest
  | 'E' :: rest => signed rest
  | _ => some (none, cs)

/-- A number that starts with a digit or a minus sign. -/
def number? (cs : List Char) : Option (DocumentNumber × List Char) := do
  let (negative, cs) :=
    match cs with
    | '-' :: rest => (true, rest)
    | _ => (false, cs)
  let whole := cs.takeWhile Char.isDigit
  if whole.isEmpty ∨ (whole.head? = some '0' ∧ 1 < whole.length) then none
  else
    let afterWhole := cs.dropWhile Char.isDigit
    let (places, rest) ← fraction? afterWhole
    let (exponent, rest) ← exponent? rest
    let n := natOf whole
    if places.isEmpty ∧ exponent.isNone ∧ (negative → n ≠ 0) ∧
        n ≤ (if negative then 1 <<< 63 else (1 <<< 64) - 1) then
      some (.whole (if negative then -(n : Int) else n), rest)
    else
      let x ← nearest? negative (natOf (whole ++ places))
        (exponent.getD 0 - (places.length : Int))
      some (.floating x, rest)

mutual

/-- A document and what follows it. The first argument bounds the depth of the reading;
twice the length of the text is always enough. -/
def value? : Nat → List Char → Option (Document × List Char)
  | 0, _ => none
  | steps + 1, cs =>
      match skipBlanks cs with
      | 'n' :: 'u' :: 'l' :: 'l' :: rest => some (.null, rest)
      | 't' :: 'r' :: 'u' :: 'e' :: rest => some (.bool true, rest)
      | 'f' :: 'a' :: 'l' :: 's' :: 'e' :: rest => some (.bool false, rest)
      | '"' :: rest => do
          let (body, rest) ← stringBody? (rest.length + 1) rest
          some (.text (String.ofList body), rest)
      | '[' :: rest =>
          match skipBlanks rest with
          | ']' :: rest => some (.list [], rest)
          | rest => do
              let (items, rest) ← items? steps rest
              some (.list items, rest)
      | '\x7b' :: rest =>
          match skipBlanks rest with
          | '\x7d' :: rest => some (.object [], rest)
          | rest => fields? steps [] rest
      | cs => (number? cs).map fun (n, rest) => (.number n, rest)

/-- The items of a list that is not empty, up to its closing bracket. -/
def items? : Nat → List Char → Option (List Document × List Char)
  | 0, _ => none
  | steps + 1, cs => do
      let (item, rest) ← value? steps cs
      match skipBlanks rest with
      | ',' :: rest =>
          let (items, rest) ← items? steps rest
          some (item :: items, rest)
      | ']' :: rest => some ([item], rest)
      | _ => none

/-- The fields of an object that is not empty, added to those already read. -/
def fields? : Nat → List (String × Document) → List Char → Option (Document × List Char)
  | 0, _, _ => none
  | steps + 1, done, cs =>
      match skipBlanks cs with
      | '"' :: rest => do
          let (key, rest) ← stringBody? (rest.length + 1) rest
          match skipBlanks rest with
          | ':' :: rest =>
              let (value, rest) ← value? steps rest
              let done := insertField (String.ofList key) value done
              match skipBlanks rest with
              | ',' :: rest => fields? steps done rest
              | '\x7d' :: rest => some (.object done, rest)
              | _ => none
          | _ => none
      | _ => none

end

end Parser

/-- The document that a text holds, with nothing but blanks around it. -/
def parse? (text : String) : Option Document := do
  let cs := text.toList
  let (d, rest) ← Parser.value? (2 * cs.length + 2) cs
  if (Parser.skipBlanks rest).isEmpty then some d else none

end Document

end ScrollCursor
