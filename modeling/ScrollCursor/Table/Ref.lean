import ScrollCursor.Text.Case

/-! # Table names

A table is named with or without its catalog. A missing catalog matches every catalog, so
being the same table is symmetric but not transitive.
-/

namespace ScrollCursor

structure TableRef where
  catalog : Option String
  name : String
  deriving DecidableEq, Inhabited

namespace TableRef

/-- The same table: equal names and, where both are given, equal catalogs, up to case. -/
def sameTable (a b : TableRef) : Bool :=
  Text.sameName a.name b.name &&
    match a.catalog, b.catalog with
    | some x, some y => Text.sameName x y
    | _, _ => true

/-- The name with its catalog in front. -/
def text (t : TableRef) : String :=
  match t.catalog with
  | some catalog => catalog ++ "." ++ t.name
  | none => t.name

end TableRef

end ScrollCursor
