import UserDirectory.Failure
import UserDirectory.Time.Boundary
import UserDirectory.Time.DateText

/-!
A range of local dates, both ends included, as a half-open range of instants.
-/

namespace UserDirectory.CreationRange

inductive DateError
  | unreadable (label value : String)
  | reversed (first last : Date)

def DateError.message : DateError → String
  | unreadable label value => "Invalid " ++ label ++ " '" ++ value ++ "', expected YYYY-MM-DD"
  | reversed first last =>
    "Start date " ++ String.ofList first.text ++ " is after end date " ++ String.ofList last.text

def DateError.failure (error : DateError) : Failure := .badRequest error.message

/-- The empty text stands for a date not supplied. -/
def readDate (label : String) (value : Option String) : Except DateError (Option Date) :=
  match value.filter fun text => !text.isEmpty with
  | none => .ok none
  | some text =>
    match Date.ofText? text.toList with
    | some date => .ok (some date)
    | none => .error (.unreadable label text)

/-- The two dates. The first is read before the last, and may not lie after it. -/
def dates (first last : Option String) : Except DateError (Option Date × Option Date) := do
  let first ← readDate "start date" first
  let last ← readDate "end date" last
  match first, last with
  | some a, some b => if b < a then .error (.reversed a b) else .ok (first, last)
  | _, _ => .ok (first, last)

def midnight (offset : Offset) (date : Option Date) : Except Failure (Option Instant) :=
  match date with
  | none => .ok none
  | some date =>
    match date.midnight? offset with
    | some instant => .ok (some instant)
    | none => .error .outOfCalendar

def dayAfter (date : Option Date) : Except Failure (Option Date) :=
  match date with
  | none => .ok none
  | some date =>
    match date.addDays? 1 with
    | some next => .ok (some next)
    | none => .error .outOfCalendar

def instants (first last : Option String) (offset : Offset) :
    Except Failure (Option Instant × Option Instant) := do
  let (first, last) ← (dates first last).mapError DateError.failure
  let start ← midnight offset first
  let stop ← midnight offset (← dayAfter last)
  .ok (start, stop)

end UserDirectory.CreationRange
