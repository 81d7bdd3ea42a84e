/-! # Dates and times

Calendar dates, times of day and their texts in the order year, month, day, hour,
minute, second. A leap second is a second with a whole second or more of nanoseconds and is written
as the second after it, which is second 60 at the end of a minute.
-/

namespace ScrollCursor

namespace Calendar

structure Date where
  year : Int
  month : Nat
  day : Nat
  deriving DecidableEq, Inhabited

structure Time where
  hour : Nat
  minute : Nat
  second : Nat
  nanosecond : Nat
  deriving DecidableEq, Inhabited

structure Timestamp where
  date : Date
  time : Time
  deriving DecidableEq, Inhabited

/-- A number with zeros in front up to a width. -/
def padded (width n : Nat) : List Char :=
  let digits := Nat.toDigits 10 n
  List.replicate (width - digits.length) '0' ++ digits

/-- Years have at least four digits, a minus sign before year zero and a plus sign after
year 9999. -/
def yearText (year : Int) : List Char :=
  if year < 0 then '-' :: padded 4 year.natAbs
  else if 9999 < year then '+' :: padded 4 year.natAbs
  else padded 4 year.natAbs

def Date.chars (d : Date) : List Char :=
  yearText d.year ++ '-' :: padded 2 d.month ++ '-' :: padded 2 d.day

/-- A fraction of a second in three, six or nine digits, the fewest that are exact. -/
def fractionText (nanos : Nat) : List Char :=
  if nanos = 0 then []
  else if nanos % 1000000 = 0 then '.' :: padded 3 (nanos / 1000000)
  else if nanos % 1000 = 0 then '.' :: padded 6 (nanos / 1000)
  else '.' :: padded 9 nanos

def Time.chars (t : Time) : List Char :=
  let second := if 1000000000 ≤ t.nanosecond then t.second + 1 else t.second
  padded 2 t.hour ++ ':' :: padded 2 t.minute ++ ':' :: padded 2 second ++
    fractionText (t.nanosecond % 1000000000)

def Timestamp.chars (t : Timestamp) : List Char :=
  t.date.chars ++ ' ' :: t.time.chars

def Date.text (d : Date) : String :=
  String.ofList d.chars

def Time.text (t : Time) : String :=
  String.ofList t.chars

def Timestamp.text (t : Timestamp) : String :=
  String.ofList t.chars

end Calendar

end ScrollCursor
