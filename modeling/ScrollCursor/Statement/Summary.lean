import ScrollCursor.Statement.Basic

/-! # Summaries of statements

One line that shows the options and the state of a statement, for logs. Groups are written
with their fields in braces, and what may be missing as `Some(…)` or `None`.
-/

namespace ScrollCursor

namespace Summary

def option (text : Option String) : String :=
  match text with
  | some text => "Some(" ++ text ++ ")"
  | none => "None"

def bool (b : Bool) : String :=
  if b then "true" else "false"

/-- A group of named fields. -/
def group (name : String) (fields : List (String × String)) : String :=
  name ++ " \x7b " ++ ", ".intercalate (fields.map fun (field, text) => field ++ ": " ++ text) ++
    " \x7d"

end Summary

open Summary

def StatementOptions.summary (o : StatementOptions) : String :=
  group "StatementOptions"
    [("cursor_type", o.cursorKind.name), ("concurrency", o.concurrency.name),
      ("row_array_size", toString o.rowArraySize), ("use_bookmarks", bool o.useBookmarks),
      ("retrieve_data", bool o.retrieveData), ("max_rows", option (o.maxRows.map toString))]

def Cursor.summary (c : Cursor) : String :=
  group "Cursor"
    [("kind", c.kind.name), ("state", "Open"), ("columns", toString c.descriptor.length),
      ("buffered", toString c.buffer.known), ("rowset_start", toString c.start),
      ("rowset_len", toString c.rowset.length), ("after_last", bool c.afterLast)]

def Statement.summary (s : Statement) : String :=
  group "Statement"
    [("id", toString s.id), ("options", s.options.summary),
      ("cursor", option (s.cursor.map Cursor.summary)),
      ("row_count", option (s.rowCount.map toString)), ("pending", bool s.pending.isSome)]

end ScrollCursor
