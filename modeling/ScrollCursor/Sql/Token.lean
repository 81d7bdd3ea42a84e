import ScrollCursor.Text.Alphanumeric
import ScrollCursor.Text.Blank
import ScrollCursor.Text.Case

/-! # Tokens of statement text

A statement is read one character at a time. The mode says what the character stands in:
plain text, a word, a quoted name, a literal or a comment; only words, quoted names and
single symbols of plain text become tokens. A mode with one character held back waits for
the next one to decide what the first began.
-/

namespace ScrollCursor

namespace Sql

/-- A word, quoted name or symbol, with the byte offset at which it starts. -/
structure Token where
  text : String
  start : Nat
  quoted : Bool
  deriving DecidableEq, Inhabited

/-- The characters of words. -/
def isWordChar (c : Char) : Bool :=
  Text.isAlphanumeric c || c == '_' || c == '$'

namespace Token

/-- An unquoted token spelled like the keyword, in either case. -/
def isKeyword (t : Token) (keyword : String) : Bool :=
  !t.quoted && Text.sameName t.text keyword

/-- A quoted name or a word. -/
def isWord (t : Token) : Bool :=
  t.quoted || (t.text.toList.head?.map isWordChar).getD false

def isSymbol (t : Token) (symbol : String) : Bool :=
  !t.quoted && t.text == symbol

end Token

/-- What the next character stands in. Words and quoted names carry their start and their
characters so far. -/
inductive Mode where
  | plain
  | word (start : Nat) (chars : List Char)
  /-- A quoted name. -/
  | name (start : Nat) (chars : List Char)
  /-- A quoted name after a quote, which ends it unless another one follows. -/
  | nameQuote (start : Nat) (chars : List Char)
  /-- After a hyphen. -/
  | hyphen (start : Nat)
  /-- After a slash. -/
  | slash (start : Nat)
  /-- A literal in the given quotes. -/
  | literal (quote : Char)
  /-- A literal after a backslash. -/
  | literalEscape (quote : Char)
  | lineComment
  | blockComment
  /-- A block comment after an asterisk. -/
  | blockStar
  deriving DecidableEq, Inhabited

namespace Mode

/-- A token of one or more plain characters. -/
def plainToken (start : Nat) (chars : List Char) : Token :=
  ⟨String.ofList chars, start, false⟩

def nameToken (start : Nat) (chars : List Char) : Token :=
  ⟨String.ofList chars, start, true⟩

/-- The mode after a character of plain text at an offset, and the token it makes. -/
def ofPlain (offset : Nat) (c : Char) : Mode × List Token :=
  if c = '\'' ∨ c = '"' then (.literal c, [])
  else if c = '\x60' then (.name offset [], [])
  else if c = '#' then (.lineComment, [])
  else if c = '-' then (.hyphen offset, [])
  else if c = '/' then (.slash offset, [])
  else if Text.isBlank c then (.plain, [])
  else if isWordChar c then (.word offset [c], [])
  else (.plain, [plainToken offset [c]])

/-- The tokens that stand complete when the text ends in a mode. -/
def finish : Mode → List Token
  | .word start chars => [plainToken start chars]
  | .name start chars => [nameToken start chars]
  | .nameQuote start chars => [nameToken start chars]
  | .hyphen start => [plainToken start ['-']]
  | .slash start => [plainToken start ['/']]
  | _ => []

/-- The mode after a character at an offset, and the tokens that it completes. -/
def step (offset : Nat) (mode : Mode) (c : Char) : Mode × List Token :=
  /- The held-back token is complete, and the character stands in plain text. -/
  let flush : Mode × List Token :=
    let next := ofPlain offset c
    (next.1, mode.finish ++ next.2)
  match mode with
  | .plain => ofPlain offset c
  | .word start chars => if isWordChar c then (.word start (chars ++ [c]), []) else flush
  | .name start chars =>
      if c = '\x60' then (.nameQuote start chars, []) else (.name start (chars ++ [c]), [])
  | .nameQuote start chars => if c = '\x60' then (.name start (chars ++ [c]), []) else flush
  | .hyphen _ => if c = '-' then (.lineComment, []) else flush
  | .slash _ => if c = '*' then (.blockComment, []) else flush
  | .literal quote =>
      if c = quote then (.plain, [])
      else if c = '\\' then (.literalEscape quote, [])
      else (.literal quote, [])
  | .literalEscape quote => (.literal quote, [])
  | .lineComment => if c = '\n' then (.plain, []) else (.lineComment, [])
  | .blockComment => if c = '*' then (.blockStar, []) else (.blockComment, [])
  | .blockStar =>
      if c = '/' then (.plain, [])
      else if c = '*' then (.blockStar, [])
      else (.blockComment, [])

/-- A character in this mode begins a token, a literal or a comment of its own. -/
def isOpen : Mode → Bool
  | .plain | .word _ _ | .nameQuote _ _ | .hyphen _ | .slash _ => true
  | _ => false

end Mode

/-- The number of bytes that characters take. -/
def byteSize (cs : List Char) : Nat :=
  cs.foldr (fun c n => c.utf8Size + n) 0

theorem byteSize_cons (c : Char) (cs : List Char) :
    byteSize (c :: cs) = c.utf8Size + byteSize cs :=
  rfl

theorem byteSize_append (cs ds : List Char) :
    byteSize (cs ++ ds) = byteSize cs + byteSize ds := by
  induction cs with
  | nil => exact (Nat.zero_add _).symm
  | cons c cs ih => rw [List.cons_append, byteSize_cons, byteSize_cons, ih, Nat.add_assoc]

theorem byteSize_pos {cs : List Char} (h : cs ≠ []) : 0 < byteSize cs := by
  cases cs with
  | nil => exact absurd rfl h
  | cons c cs => exact Nat.add_pos_left c.utf8Size_pos _

theorem utf8ByteSize_ofList (cs : List Char) :
    (String.ofList cs).utf8ByteSize = byteSize cs := by
  induction cs with
  | nil => rfl
  | cons c cs ih =>
      rw [String.ofList_cons, String.utf8ByteSize_append, String.utf8ByteSize_singleton, ih,
        byteSize_cons]

theorem byteSize_toList (s : String) : byteSize s.toList = s.utf8ByteSize := by
  rw [← utf8ByteSize_ofList, String.ofList_toList]

/-- The mode after some characters that are read from a mode at an offset. -/
def modeAfter : Mode → Nat → List Char → Mode
  | mode, _, [] => mode
  | mode, offset, c :: cs => modeAfter (mode.step offset c).1 (offset + c.utf8Size) cs

/-- The tokens that are completed while some characters are read from a mode at an offset. -/
def completed : Mode → Nat → List Char → List Token
  | _, _, [] => []
  | mode, offset, c :: cs =>
      (mode.step offset c).2 ++ completed (mode.step offset c).1 (offset + c.utf8Size) cs

/-- The question marks that stand outside of literals, quoted names and comments. -/
def openMarks : Mode → Nat → List Char → Nat
  | _, _, [] => 0
  | mode, offset, c :: cs =>
      (if mode.isOpen && c == '?' then 1 else 0) +
        openMarks (mode.step offset c).1 (offset + c.utf8Size) cs

theorem modeAfter_append (mode : Mode) (offset : Nat) (cs ds : List Char) :
    modeAfter mode offset (cs ++ ds) =
      modeAfter (modeAfter mode offset cs) (offset + byteSize cs) ds := by
  induction cs generalizing mode offset with
  | nil => simp [modeAfter, byteSize]
  | cons c cs ih => simp [modeAfter, byteSize, ih, Nat.add_assoc]

theorem completed_append (mode : Mode) (offset : Nat) (cs ds : List Char) :
    completed mode offset (cs ++ ds) =
      completed mode offset cs ++
        completed (modeAfter mode offset cs) (offset + byteSize cs) ds := by
  induction cs generalizing mode offset with
  | nil => simp [completed, modeAfter, byteSize]
  | cons c cs ih => simp [completed, modeAfter, byteSize, ih, Nat.add_assoc]

theorem openMarks_append (mode : Mode) (offset : Nat) (cs ds : List Char) :
    openMarks mode offset (cs ++ ds) =
      openMarks mode offset cs +
        openMarks (modeAfter mode offset cs) (offset + byteSize cs) ds := by
  induction cs generalizing mode offset with
  | nil => simp [openMarks, modeAfter, byteSize]
  | cons c cs ih => simp [openMarks, modeAfter, byteSize, ih, Nat.add_assoc]

/-- The tokens of characters that are read as plain text from an offset. -/
def tokensOf (offset : Nat) (cs : List Char) : List Token :=
  completed .plain offset cs ++ (modeAfter .plain offset cs).finish

/-- The tokens of a statement. -/
def tokens (sql : String) : List Token :=
  tokensOf 0 sql.toList

/-- The number of placeholders of a statement. -/
def placeholders (sql : String) : Nat :=
  openMarks .plain 0 sql.toList

end Sql

end ScrollCursor
