/-! # Errors

Every failed call has a cause. The cause fixes the message and the SQLSTATE; an error
that the server reported keeps its own state and native code. Rows that fail inside a call
on several rows are not errors of the call.
-/

namespace ScrollCursor

inductive Error where
  /-- A call in the wrong order. -/
  | functionSequence (detail : String)
  /-- No cursor is open, or it does not stand where the call needs it. -/
  | cursorState (detail : String)
  /-- A fetch orientation that the cursor does not have. -/
  | fetchType (detail : String)
  /-- The cursor cannot be positioned as asked. -/
  | cursorPosition (detail : String)
  /-- A row number beyond the rowset. -/
  | rowOutOfRange (row : Nat) (len : Nat)
  /-- The result is drawn from several tables. -/
  | multipleTables (tables : List String)
  /-- No result column comes from a table. -/
  | noBaseTable
  /-- No column can identify a row of the table. -/
  | noUsableKey (table : String)
  /-- A key column holds NULL. -/
  | nullKeyValue (column : String)
  /-- Nothing is bound that the operation could write or use. -/
  | degreeMismatch
  /-- A bookmark that names no live row. -/
  | bookmarkNotFound (bookmark : String)
  /-- A bookmark operation on a statement without bookmarks. -/
  | bookmarksDisabled
  /-- A cursor name that is refused or unknown. -/
  | cursorName (detail : String)
  /-- A cursor name that another statement holds. -/
  | duplicateCursorName (name : String)
  /-- An optional feature that is not provided. -/
  | notSupported (detail : String)
  /-- A write through a read-only cursor. -/
  | readOnly (operation : String)
  /-- An option value that is refused. -/
  | attribute (detail : String)
  /-- A value that cannot be written for its column. -/
  | conversion (detail : String)
  /-- An error that the server reported. -/
  | server (code : Nat) (state : String) (message : String)
  /-- A broken expectation. -/
  | internal (detail : String)
  deriving DecidableEq, Inhabited

namespace Error

/-- The text of an error. -/
def message : Error → String
  | .functionSequence detail => "function sequence error: " ++ detail
  | .cursorState detail => "invalid cursor state: " ++ detail
  | .fetchType detail => "fetch type out of range: " ++ detail
  | .cursorPosition detail => "invalid cursor position: " ++ detail
  | .rowOutOfRange row len =>
      "row value out of range: row " ++ toString row ++ " requested, rowset holds " ++ toString len
  | .multipleTables tables =>
      "can't modify a row from a statement that uses more than one table (" ++
        ", ".intercalate tables ++ ")"
  | .noBaseTable => "result set has no base table; row to modify cannot be identified"
  | .noUsableKey table => "no usable key columns in result set for table " ++ table
  | .nullKeyValue column =>
      "key column " ++ column ++ " is NULL, so row to modify cannot be identified"
  | .degreeMismatch => "degree of derived table does not match column list"
  | .bookmarkNotFound bookmark => "invalid bookmark value: " ++ bookmark
  | .bookmarksDisabled => "bookmarks are not enabled on this statement"
  | .cursorName detail => "invalid cursor name: " ++ detail
  | .duplicateCursorName name => "duplicate cursor name: " ++ name
  | .notSupported detail => "optional feature not implemented: " ++ detail
  | .readOnly operation => "cursor is read-only: " ++ operation
  | .attribute detail => "invalid attribute value: " ++ detail
  | .conversion detail => "data conversion error: " ++ detail
  | .server code _ message => "server error (" ++ toString code ++ "): " ++ message
  | .internal detail => "internal error: " ++ detail

/-- The SQLSTATE of an error. -/
def sqlstate : Error → String
  | .functionSequence _ => "HY010"
  | .cursorState _ => "24000"
  | .fetchType _ => "HY106"
  | .cursorPosition _ => "HY109"
  | .rowOutOfRange _ _ => "HY107"
  | .multipleTables _ | .noBaseTable | .noUsableKey _ | .nullKeyValue _ => "HY000"
  | .degreeMismatch => "21S02"
  | .bookmarkNotFound _ => "HY111"
  | .bookmarksDisabled => "07009"
  | .cursorName _ => "34000"
  | .duplicateCursorName _ => "3C000"
  | .notSupported _ => "HYC00"
  | .readOnly _ => "HY092"
  | .attribute _ => "HY024"
  | .conversion _ => "22018"
  | .server _ state _ => state
  | .internal _ => "HY000"

/-- The server's own code, zero for every other error. -/
def nativeCode : Error → Nat
  | .server code _ _ => code
  | _ => 0

/-- The call came at the wrong time or place. -/
def isSequencing : Error → Bool
  | .functionSequence _ | .cursorState _ | .fetchType _ | .cursorPosition _ => true
  | _ => false

/-- The row to write cannot be identified. -/
def isPredicate : Error → Bool
  | .multipleTables _ | .noBaseTable | .noUsableKey _ | .nullKeyValue _ => true
  | _ => false

end Error

end ScrollCursor
