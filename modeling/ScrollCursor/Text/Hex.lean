/-! # Hexadecimal text

Bytes are written as two digits each, in lower case for display and in upper case
for literals. Reading takes digits of either case.
-/

namespace ScrollCursor

namespace Text

/-- A sequence of bytes. -/
abbrev Bytes := List UInt8

/-- The UTF-8 bytes of a text. -/
def utf8 (s : String) : Bytes :=
  s.toUTF8.data.toList

namespace Hex

/-- The digit for a number below sixteen, in lower case. -/
def digit (n : Nat) : Char :=
  if n < 10 then Char.ofNat (48 + n) else Char.ofNat (87 + n)

/-- The number that a digit of either case stands for. -/
def digit? (c : Char) : Option Nat :=
  if '0' ≤ c ∧ c ≤ '9' then some (c.toNat - 48)
  else if 'a' ≤ c ∧ c ≤ 'f' then some (c.toNat - 87)
  else if 'A' ≤ c ∧ c ≤ 'F' then some (c.toNat - 55)
  else none

/-- Two lower-case digits for each byte. -/
def encode (bytes : Bytes) : List Char :=
  bytes.flatMap fun b => [digit (b.toNat / 16), digit (b.toNat % 16)]

/-- The bytes written by pairs of digits. -/
def decode? : List Char → Option Bytes
  | [] => some []
  | [_] => none
  | h :: l :: rest => do
      let high ← digit? h
      let low ← digit? l
      let bytes ← decode? rest
      some (UInt8.ofNat (16 * high + low) :: bytes)

/-- Lower-case text of some bytes. -/
def lower (bytes : Bytes) : String :=
  String.ofList (encode bytes)

/-- Upper-case text of some bytes. -/
def upper (bytes : Bytes) : String :=
  String.ofList ((encode bytes).map Char.toUpper)

end Hex

end Text

end ScrollCursor
