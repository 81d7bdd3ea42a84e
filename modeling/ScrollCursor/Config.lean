import ScrollCursor.Cursor.Kind
import ScrollCursor.Error
import ScrollCursor.Text.Case
import ScrollCursor.Text.Integer

/-! # Connection and statement options

Connection options come as text: `KEY=value` parts separated by semicolons. Unknown keys
are ignored, a repeated key takes its last value. Statement options are given for each
statement and cannot change while its cursor is open.
-/

namespace ScrollCursor

inductive IdentifierQuote where
  | backtick
  | doubleQuote
  deriving DecidableEq, Inhabited

namespace IdentifierQuote

def all : List IdentifierQuote :=
  [.backtick, .doubleQuote]

def name : IdentifierQuote → String
  | .backtick => "Backtick"
  | .doubleQuote => "DoubleQuote"

def char : IdentifierQuote → Char
  | .backtick => '\x60'
  | .doubleQuote => '"'

/-- The option value that selects a quote. -/
def option : IdentifierQuote → String
  | .backtick => "backtick"
  | .doubleQuote => "double"

def ofOption? (value : String) : Option IdentifierQuote :=
  if value = "backtick" ∨ value = "\x60" then some .backtick
  else if value = "double" ∨ value = "\"" ∨ value = "ansi" then some .doubleQuote
  else none

end IdentifierQuote

/-- Values are written into the text of a statement or sent beside it. -/
inductive BindMode where
  | inlined
  | parameters
  deriving DecidableEq, Inhabited

namespace BindMode

def all : List BindMode :=
  [.inlined, .parameters]

def name : BindMode → String
  | .inlined => "Inline"
  | .parameters => "Parameters"

/-- The option value that selects a mode. -/
def option : BindMode → String
  | .inlined => "inline"
  | .parameters => "parameters"

def ofOption? (value : String) : Option BindMode :=
  if value = "inline" then some .inlined
  else if value = "parameters" ∨ value = "params" then some .parameters
  else none

end BindMode

structure Config where
  identifierQuote : IdentifierQuote := .backtick
  bindMode : BindMode := .inlined
  dynamicCursor : Bool := false
  forwardOnly : Bool := false
  rowArraySize : Nat := 1
  deriving DecidableEq, Inhabited

/-- The options that a connection knows. -/
inductive OptionKey where
  | identifierQuote
  | bindMode
  | dynamicCursor
  | forwardCursor
  | rowArraySize
  deriving DecidableEq

namespace OptionKey

def all : List OptionKey :=
  [.identifierQuote, .bindMode, .dynamicCursor, .forwardCursor, .rowArraySize]

def text : OptionKey → String
  | .identifierQuote => "IDENTIFIER_QUOTE"
  | .bindMode => "BIND_MODE"
  | .dynamicCursor => "DYNAMIC_CURSOR"
  | .forwardCursor => "FORWARD_CURSOR"
  | .rowArraySize => "ROW_ARRAY_SIZE"

/-- The option with the given key, in upper case. -/
def ofText? (key : String) : Option OptionKey :=
  all.find? fun k => k.text == key

end OptionKey

namespace Config

def withRowArraySize (c : Config) (size : Nat) : Config :=
  { c with rowArraySize := max size 1 }

/-- The cursor kind that a request for a kind gets. -/
def effective (c : Config) (requested : CursorKind) : CursorKind :=
  if c.forwardOnly then .forwardOnly
  else
    match requested with
    | .forwardOnly => .forwardOnly
    | .static => .static
    | .dynamic => if c.dynamicCursor then .dynamic else .static
    | .keysetDriven => .static

/-- A switch: `1`, `0` or a word for yes or no. -/
def flag (key : OptionKey) (value : String) : Except Error Bool :=
  if value = "1" ∨ Text.sameName value "true" ∨ Text.sameName value "yes" then .ok true
  else if value = "0" ∨ Text.sameName value "false" ∨ Text.sameName value "no" then .ok false
  else .error (.attribute (key.text ++ " expects 0 or 1, got '" ++ value ++ "'"))

/-- The options with one of them set from its text. -/
def set (c : Config) (key : OptionKey) (value : String) : Except Error Config :=
  match key with
  | .identifierQuote =>
      match IdentifierQuote.ofOption? (Text.lower value) with
      | some quote => .ok { c with identifierQuote := quote }
      | none => .error (.attribute ("unknown identifier quote '" ++ Text.lower value ++ "'"))
  | .bindMode =>
      match BindMode.ofOption? (Text.lower value) with
      | some mode => .ok { c with bindMode := mode }
      | none => .error (.attribute ("unknown bind mode '" ++ Text.lower value ++ "'"))
  | .dynamicCursor => do
      let on ← flag key value
      return { c with dynamicCursor := on }
  | .forwardCursor => do
      let on ← flag key value
      return { c with forwardOnly := on }
  | .rowArraySize =>
      match Text.size? value.toList with
      | some size => .ok (c.withRowArraySize size)
      | none => .error (.attribute ("invalid row array size '" ++ value ++ "'"))

/-- The options after one part of an option text. Blank parts and unknown keys change
nothing. -/
def setPart (c : Config) (part : List Char) : Except Error Config :=
  let part := Text.trim part
  if part.isEmpty then .ok c
  else
    match Text.splitFirst? '=' part with
    | none => .error (.attribute ("option '" ++ String.ofList part ++ "' has no value"))
    | some (key, value) =>
        match OptionKey.ofText? (Text.upper (String.ofList (Text.trim key))) with
        | none => .ok c
        | some key => c.set key (String.ofList (Text.trim value))

/-- The options that a text gives, everything else being as by default. -/
def parse (text : String) : Except Error Config :=
  (Text.parts ';' text.toList).foldlM setPart {}

private def digit (b : Bool) : String :=
  if b then "1" else "0"

/-- The text that gives exactly these options. -/
def text (c : Config) : String :=
  "IDENTIFIER_QUOTE=" ++ c.identifierQuote.option ++ ";BIND_MODE=" ++ c.bindMode.option ++
    ";DYNAMIC_CURSOR=" ++ digit c.dynamicCursor ++ ";FORWARD_CURSOR=" ++ digit c.forwardOnly ++
    ";ROW_ARRAY_SIZE=" ++ toString c.rowArraySize

end Config

structure StatementOptions where
  cursorKind : CursorKind := .forwardOnly
  concurrency : Concurrency := .values
  rowArraySize : Nat := 1
  useBookmarks : Bool := false
  retrieveData : Bool := true
  maxRows : Option Nat := none
  deriving DecidableEq, Inhabited

namespace StatementOptions

/-- At most so many rows; zero lifts the limit. -/
def withMaxRows (o : StatementOptions) (n : Nat) : StatementOptions :=
  { o with maxRows := if n = 0 then none else some n }

def validate (o : StatementOptions) : Except Error Unit :=
  if o.rowArraySize = 0 then .error (.attribute "row array size must be at least 1") else .ok ()

end StatementOptions

end ScrollCursor
