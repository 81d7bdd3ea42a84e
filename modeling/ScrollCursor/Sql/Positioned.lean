import ScrollCursor.Sql.Token

/-! # Statements and their positioned clause

The kind of a statement is told by its first word. An update or delete that ends in
`WHERE CURRENT OF` and a cursor name is positioned: it is carried out with a predicate in
place of that clause.
-/

namespace ScrollCursor

namespace Sql

inductive StatementKind where
  | unknown
  /-- The statement produces a result. -/
  | query
  /-- The statement changes rows. -/
  | dml
  /-- The statement changes definitions. -/
  | ddl
  /-- The statement calls a procedure. -/
  | procedure
  deriving DecidableEq, Inhabited

namespace StatementKind

def name : StatementKind → String
  | .unknown => "Unknown"
  | .query => "Query"
  | .dml => "Dml"
  | .ddl => "Ddl"
  | .procedure => "Procedure"

/-- The kind that a first word tells. -/
def ofWord (word : String) : StatementKind :=
  let word := Text.upper word
  if word ∈ ["SELECT", "WITH", "SHOW", "DESCRIBE", "DESC", "EXPLAIN"] then .query
  else if word ∈ ["INSERT", "UPDATE", "DELETE", "REPLACE"] then .dml
  else if word ∈ ["CREATE", "ALTER", "DROP", "TRUNCATE", "RENAME", "GRANT", "REVOKE"] then .ddl
  else if word = "CALL" then .procedure
  else .unknown

/-- The kind of a statement with the given tokens. -/
def ofTokens (ts : List Token) : StatementKind :=
  match ts.find? Token.isWord with
  | some t => ofWord t.text
  | none => .unknown

end StatementKind

/-- The clause `WHERE CURRENT OF` with its cursor name. -/
structure PositionedClause where
  /-- The name as written, without quotes. -/
  cursor : String
  /-- The byte offset of `WHERE`. -/
  offset : Nat
  deriving DecidableEq, Inhabited

namespace PositionedClause

/-- The clause at the end of some tokens, which are given in reverse order. -/
def ofReversed? : List Token → Option PositionedClause
  | name :: of :: current :: whereToken :: _ =>
      if whereToken.isKeyword "WHERE" && current.isKeyword "CURRENT" && of.isKeyword "OF" &&
          name.isWord then
        some ⟨name.text, whereToken.start⟩
      else none
  | _ => none

/-- The clause at the end of a statement, semicolons after it being ignored. -/
def ofTokens? (ts : List Token) : Option PositionedClause :=
  ofReversed? (ts.reverse.dropWhile (Token.isSymbol · ";"))

end PositionedClause

/-- The text of a statement with what its tokens tell. -/
structure StatementText where
  text : String
  kind : StatementKind
  placeholders : Nat
  positioned : Option PositionedClause
  deriving DecidableEq, Inhabited

namespace StatementText

def parse (sql : String) : StatementText :=
  let ts := tokens sql
  let kind := StatementKind.ofTokens ts
  { text := sql
    kind := kind
    placeholders := Sql.placeholders sql
    positioned := if kind = .dml then PositionedClause.ofTokens? ts else none }

def isQuery (s : StatementText) : Bool :=
  s.kind == .query

def isDml (s : StatementText) : Bool :=
  s.kind == .dml

end StatementText

/-- The characters before a byte offset. -/
def takeBytes : Nat → List Char → List Char
  | _, [] => []
  | n, c :: cs => if n < c.utf8Size then [] else c :: takeBytes (n - c.utf8Size) cs

namespace StatementText

/-- The statement with a predicate in place of its positioned clause. -/
def withPredicate? (s : StatementText) (predicate : String) : Option String :=
  s.positioned.map fun clause =>
    String.ofList (Text.trimEnd (takeBytes clause.offset s.text.toList)) ++ " WHERE " ++ predicate

end StatementText

end Sql

end ScrollCursor
