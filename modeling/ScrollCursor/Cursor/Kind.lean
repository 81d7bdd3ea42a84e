/-! # Kinds of cursors

How a cursor moves over its result and what it promises about concurrent changes.
-/

namespace ScrollCursor

inductive CursorKind where
  | forwardOnly
  | static
  | dynamic
  | keysetDriven
  deriving DecidableEq, Inhabited

namespace CursorKind

def all : List CursorKind :=
  [.forwardOnly, .static, .dynamic, .keysetDriven]

def name : CursorKind → String
  | .forwardOnly => "ForwardOnly"
  | .static => "Static"
  | .dynamic => "Dynamic"
  | .keysetDriven => "KeysetDriven"

/-- The words for a kind in messages. -/
def text : CursorKind → String
  | .forwardOnly => "forward-only"
  | .static => "static"
  | .dynamic => "dynamic"
  | .keysetDriven => "keyset-driven"

def isScrollable : CursorKind → Bool
  | .forwardOnly => false
  | _ => true

/-- Every fetch reads the rows of its rowset from the server again. -/
def rereads : CursorKind → Bool
  | .dynamic | .keysetDriven => true
  | _ => false

end CursorKind

inductive Concurrency where
  | readOnly
  | lock
  | rowVersion
  | values
  deriving DecidableEq

namespace Concurrency

def all : List Concurrency :=
  [.readOnly, .lock, .rowVersion, .values]

def name : Concurrency → String
  | .readOnly => "ReadOnly"
  | .lock => "Lock"
  | .rowVersion => "RowVersion"
  | .values => "Values"

instance : Inhabited Concurrency := ⟨.values⟩

end Concurrency

end ScrollCursor
