import UserDirectory.Time.Instant

/-!
Where local days, weeks and months begin. Each boundary is a local midnight at a fixed offset; it
is absent where the date or the instant lies outside the calendar.
-/

namespace UserDirectory

def Date.midnight? (date : Date) (offset : Offset) : Option Instant :=
  Instant.ofSecond? (date.number * 86400 - offset.seconds)

namespace Instant

def startOfDay? (now : Instant) (offset : Offset) : Option Instant := do
  let today ← now.localDate? offset
  today.midnight? offset

def startOfWeek? (now : Instant) (offset : Offset) : Option Instant := do
  let today ← now.localDate? offset
  let monday ← today.addDays? (-today.sinceMonday)
  monday.midnight? offset

def startOfMonth? (now : Instant) (offset : Offset) : Option Instant := do
  let today ← now.localDate? offset
  let first ← today.addDays? (1 - today.day)
  first.midnight? offset

end Instant

structure Windows where
  today : Instant
  thisWeek : Instant
  thisMonth : Instant
deriving DecidableEq

/-- The week begins no earlier than the month, so that the three periods nest also where a week
straddles two months. -/
def Windows.at? (now : Instant) (offset : Offset) : Option Windows := do
  let thisMonth ← now.startOfMonth? offset
  let week ← now.startOfWeek? offset
  let today ← now.startOfDay? offset
  some ⟨today, week.later thisMonth, thisMonth⟩

end UserDirectory
