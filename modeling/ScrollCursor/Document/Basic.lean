import ScrollCursor.Number.Binary64

/-! # Documents

Structured documents: numbers, texts, lists and objects whose keys are in ascending
order. Equality is by content; a whole number is never equal to a floating-point one.
-/

namespace ScrollCursor

/-- A number of a document, whole or floating. -/
inductive DocumentNumber where
  | whole (n : Int)
  | floating (x : Binary64)

namespace DocumentNumber

def same : DocumentNumber → DocumentNumber → Bool
  | .whole m, .whole n => m == n
  | .floating x, .floating y => x == y
  | _, _ => false

instance : BEq DocumentNumber := ⟨same⟩

end DocumentNumber

inductive Document where
  | null
  | bool (b : Bool)
  | number (n : DocumentNumber)
  | text (s : String)
  | list (items : List Document)
  | object (fields : List (String × Document))

namespace Document

instance : Inhabited Document := ⟨.null⟩

mutual

/-- Equality by content. -/
def same : Document → Document → Bool
  | .null, .null => true
  | .bool a, .bool b => a == b
  | .number m, .number n => m == n
  | .text s, .text t => s == t
  | .list xs, .list ys => sameItems xs ys
  | .object xs, .object ys => sameFields xs ys
  | _, _ => false

def sameItems : List Document → List Document → Bool
  | [], [] => true
  | x :: xs, y :: ys => same x y && sameItems xs ys
  | _, _ => false

def sameFields : List (String × Document) → List (String × Document) → Bool
  | [], [] => true
  | (k, x) :: xs, (l, y) :: ys => k == l && same x y && sameFields xs ys
  | _, _ => false

end

instance : BEq Document := ⟨same⟩

/-- Fields in ascending order with one more; an equal key takes the new document. -/
def insertField (key : String) (value : Document) :
    List (String × Document) → List (String × Document)
  | [] => [(key, value)]
  | (k, v) :: rest =>
      if key < k then (key, value) :: (k, v) :: rest
      else if key = k then (key, value) :: rest
      else (k, v) :: insertField key value rest

end Document

end ScrollCursor
