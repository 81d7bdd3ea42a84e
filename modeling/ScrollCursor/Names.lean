import ScrollCursor.Key.Basic
import ScrollCursor.Text.Case

/-! # Cursor names

The named cursors of one connection. Each statement has at most one name and no two names
are equal up to case. With a name goes the predicate of its cursor's current row, for which
a positioned statement looks the name up.
-/

namespace ScrollCursor

/-- The row that a named cursor stands on. -/
structure PositionedTarget where
  table : TableRef
  terms : List ColumnValue
  unique : Bool

/-- What is known of a named cursor's row: nothing, the row, or why it has no predicate. -/
abbrev PublishedTarget := Option (Except Error PositionedTarget)

structure NamedCursor where
  statement : Nat
  name : String
  target : PublishedTarget

/-- The named cursors in the order the names were taken. -/
structure CursorNames where
  entries : List NamedCursor := []
  /-- The next number for a generated name. -/
  generated : Nat := 0

namespace CursorNames

/-- The entry that holds a name, up to case. -/
def holder? (r : CursorNames) (name : String) : Option NamedCursor :=
  r.entries.find? fun e => Text.sameName e.name name

/-- The entry of a statement. -/
def ofStatement? (r : CursorNames) (id : Nat) : Option NamedCursor :=
  r.entries.find? fun e => e.statement == id

def nameOf? (r : CursorNames) (id : Nat) : Option String :=
  (r.ofStatement? id).map NamedCursor.name

def names (r : CursorNames) : List String :=
  r.entries.map NamedCursor.name

/-- The statement gives its name up. -/
def unregister (r : CursorNames) (id : Nat) : CursorNames :=
  { r with entries := r.entries.eraseP fun e => e.statement == id }

/-- The statement takes a name that is free, in place of the one it has. -/
def take (r : CursorNames) (id : Nat) (name : String) : CursorNames :=
  let target := (r.ofStatement? id).bind NamedCursor.target
  let rest := r.unregister id
  { rest with entries := rest.entries ++ [⟨id, name, target⟩] }

/-- The statement takes a name, unless another one holds it. A name that it holds already
keeps its spelling. -/
def register (r : CursorNames) (id : Nat) (name : String) : Except Error CursorNames :=
  match r.holder? name with
  | some e => if e.statement = id then .ok r else .error (.duplicateCursorName name)
  | none => .ok (r.take id name)

/-- The generated name with a number. -/
def generatedName (n : Nat) : String :=
  "SQL_CUR" ++ toString n

/-- The first number from `n` on whose name is free. Among one more number than there are
names one is free. -/
def firstFree (r : CursorNames) : Nat → Nat → Nat
  | 0, n => n
  | more + 1, n => if (r.holder? (generatedName n)).isSome then r.firstFree more (n + 1) else n

/-- The statement takes the next generated name. -/
def generate (r : CursorNames) (id : Nat) : String × CursorNames :=
  let n := r.firstFree r.entries.length r.generated
  let name := generatedName n
  (name, { r with generated := n + 1 }.take id name)

/-- What is known of the row of a statement's cursor, if the statement has a name. -/
def publish (r : CursorNames) (id : Nat) (target : PublishedTarget) : CursorNames :=
  { r with
    entries := r.entries.map fun e => if e.statement = id then { e with target := target } else e }

/-- The row that the cursor with a name stands on. -/
def targetFor (r : CursorNames) (name : String) : Except Error PositionedTarget :=
  match (r.holder? name).bind NamedCursor.target with
  | some target => target
  | none =>
      .error (.cursorName
        ("Cursor '" ++ name ++ "' does not exist or does not have a result set."))

end CursorNames

end ScrollCursor
