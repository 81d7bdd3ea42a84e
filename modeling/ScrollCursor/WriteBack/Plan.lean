import ScrollCursor.Key.Basic

/-! # Requests to the server

A request is statement text with its parameters. A request that the engine composed itself
also carries a plan, which says what the text does without its having to be read.
-/

namespace ScrollCursor

inductive Plan where
  | update (table : TableRef) (assignments : List ColumnValue) (predicate : List ColumnValue)
  | delete (table : TableRef) (predicate : List ColumnValue)
  | insert (table : TableRef) (values : List ColumnValue)
  | selectByKey (table : TableRef) (columns : List String) (predicate : List ColumnValue)
      (forUpdate : Bool)

structure Request where
  sql : String
  params : List Value := []
  plan : Option Plan := none

end ScrollCursor
