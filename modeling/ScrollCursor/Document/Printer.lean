import ScrollCursor.Document.Basic
import ScrollCursor.Number.Layout
import ScrollCursor.Text.Hex

/-! # Texts of documents

A document is written without spaces. In its strings only quotes, backslashes and
control characters are escaped.
-/

namespace ScrollCursor

namespace Document

/-- One character inside a string of a document. -/
def escapeChar (c : Char) : List Char :=
  match c with
  | '"' => ['\\', '"']
  | '\\' => ['\\', '\\']
  | '\x08' => ['\\', 'b']
  | '\x0c' => ['\\', 'f']
  | '\n' => ['\\', 'n']
  | '\r' => ['\\', 'r']
  | '\t' => ['\\', 't']
  | c =>
      if c.toNat < 32 then
        ['\\', 'u', '0', '0', Text.Hex.digit (c.toNat / 16), Text.Hex.digit (c.toNat % 16)]
      else [c]

def quoted (s : String) : String :=
  String.ofList ('"' :: s.toList.flatMap escapeChar ++ ['"'])

def numberText : DocumentNumber → String
  | .whole n => toString n
  | .floating x => x.documentText

mutual

/-- The text of a document. -/
def print : Document → String
  | .null => "null"
  | .bool b => if b then "true" else "false"
  | .number n => numberText n
  | .text s => quoted s
  | .list items => "[" ++ ",".intercalate (printItems items) ++ "]"
  | .object fields => "\x7b" ++ ",".intercalate (printFields fields) ++ "\x7d"

def printItems : List Document → List String
  | [] => []
  | item :: rest => print item :: printItems rest

def printFields : List (String × Document) → List String
  | [] => []
  | (key, value) :: rest => (quoted key ++ ":" ++ print value) :: printFields rest

end

end Document

end ScrollCursor
