import ScrollCursor.Text.Blank

/-! # Integers and lists in texts

Reading whole numbers of bounded size, and splitting a text at a separator.
-/

namespace ScrollCursor

namespace Text

/-- The number that one or more decimal digits stand for. -/
def digits? (cs : List Char) : Option Nat :=
  if !cs.isEmpty && cs.all Char.isDigit then
    some (cs.foldl (fun n c => 10 * n + (c.toNat - 48)) 0)
  else none

/-- A number below `2 ^ 64`, perhaps with a plus sign. -/
def size? (cs : List Char) : Option Nat :=
  let body :=
    match cs with
    | '+' :: rest => rest
    | _ => cs
  (digits? body).filter (· < 1 <<< 64)

/-- A signed number of 64 bits, perhaps with a plus sign. -/
def integer? (cs : List Char) : Option Int :=
  match cs with
  | '-' :: rest => ((digits? rest).filter (· ≤ 1 <<< 63)).map fun n => -(n : Int)
  | '+' :: rest => ((digits? rest).filter (· < 1 <<< 63)).map Int.ofNat
  | _ => ((digits? cs).filter (· < 1 <<< 63)).map Int.ofNat

/-- The parts of a text between separators; a text without one is a single part. -/
def parts (sep : Char) : List Char → List (List Char)
  | [] => [[]]
  | c :: cs =>
      if c = sep then [] :: parts sep cs
      else
        match parts sep cs with
        | [] => [[c]]
        | part :: rest => (c :: part) :: rest

/-- The text before and after the first separator. -/
def splitFirst? (sep : Char) : List Char → Option (List Char × List Char)
  | [] => none
  | c :: cs =>
      if c = sep then some ([], cs)
      else (splitFirst? sep cs).map fun (before, after) => (c :: before, after)

end Text

end ScrollCursor
