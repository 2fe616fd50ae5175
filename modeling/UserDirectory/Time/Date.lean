/-!
The proleptic Gregorian calendar. A date is a day number counted from 1970-01-01; year, month and
day of the month are read off it. The calendar ends at the years -262143 and 262142.
-/

namespace UserDirectory

structure Date where
  number : Int
  inCalendar : -96465292 ≤ number ∧ number ≤ 95026236
deriving DecidableEq

namespace Date

/-- The day number of -262143-01-01. -/
def first : Int := -96465292

/-- The day number of +262142-12-31. -/
def last : Int := 95026236

def ofNumber? (number : Int) : Option Date :=
  if within : first ≤ number ∧ number ≤ last then some ⟨number, within⟩ else none

def addDays? (date : Date) (days : Int) : Option Date := ofNumber? (date.number + days)

instance : LE Date := ⟨fun a b => a.number ≤ b.number⟩
instance : LT Date := ⟨fun a b => a.number < b.number⟩
instance (a b : Date) : Decidable (a ≤ b) := inferInstanceAs (Decidable (a.number ≤ b.number))
instance (a b : Date) : Decidable (a < b) := inferInstanceAs (Decidable (a.number < b.number))

abbrev IsLeap (year : Int) : Prop := year % 4 = 0 ∧ (year % 100 ≠ 0 ∨ year % 400 = 0)

def daysBeforeYear (year : Int) : Int :=
  365 * (year - 1) + (year - 1) / 4 - (year - 1) / 100 + (year - 1) / 400

/-- Days from 0001-01-01 to 1970-01-01. -/
def epoch : Int := 719162

def monthLengths (year : Int) : List Nat :=
  [31, if IsLeap year then 29 else 28, 31, 30, 31, 30, 31, 31, 30, 31, 30, 31]

def daysBeforeMonth (year : Int) (month : Nat) : Nat :=
  ((monthLengths year).take (month - 1)).foldl (· + ·) 0

def ofCivil? (year : Int) (month day : Nat) : Option Date :=
  match (monthLengths year)[month - 1]? with
  | some length =>
    if 1 ≤ month ∧ 1 ≤ day ∧ day ≤ length then
      ofNumber? (daysBeforeYear year - epoch + daysBeforeMonth year month + (day - 1))
    else none
  | none => none

/-- The year that contains a day. The mean length of a year gives it up to one year. -/
def yearOf (number : Int) : Int :=
  let days := number + epoch
  let near := days * 400 / 146097 + 1
  if days < daysBeforeYear near then near - 1
  else if daysBeforeYear (near + 1) ≤ days then near + 1
  else near

def splitMonths : List Nat → Nat → Nat × Nat
  | [], day => (0, day)
  | length :: rest, day =>
    if day < length then (0, day)
    else
      let (month, day) := splitMonths rest (day - length)
      (month + 1, day)

def year (date : Date) : Int := yearOf date.number

def dayOfYear (date : Date) : Nat := (date.number + epoch - daysBeforeYear date.year).toNat

def month (date : Date) : Nat := (splitMonths (monthLengths date.year) date.dayOfYear).1 + 1

def day (date : Date) : Nat := (splitMonths (monthLengths date.year) date.dayOfYear).2 + 1

/-- Days since the last Monday; 1970-01-01 was a Thursday. -/
def sinceMonday (date : Date) : Int := (date.number + 3) % 7

end Date

end UserDirectory
