import UserDirectory.Time.Date
import UserDirectory.Time.Offset

/-!
Instants of UTC with nanoseconds. A leap second is a second carried on: its nanoseconds run from one
to two thousand million, so it lies after the rest of that second and before the next. A clock that
keeps UTC carries on the second `:59` only; an instant may carry on any.
-/

namespace UserDirectory

structure Instant where
  /-- Seconds since 1970-01-01T00:00:00Z, leap seconds not counted. -/
  second : Int
  nano : Nat
  inCalendar : Date.first * 86400 ≤ second ∧ second < (Date.last + 1) * 86400
  nano_lt : nano < 2000000000
deriving DecidableEq

namespace Instant

def epoch : Instant := ⟨0, 0, by decide, by decide⟩

def make? (second : Int) (nano : Nat) : Option Instant :=
  if valid : (Date.first * 86400 ≤ second ∧ second < (Date.last + 1) * 86400) ∧
      nano < 2000000000 then
    some ⟨second, nano, valid.1, valid.2⟩
  else none

def ofSecond? (second : Int) : Option Instant := make? second 0

instance : LE Instant :=
  ⟨fun a b => a.second < b.second ∨ (a.second = b.second ∧ a.nano ≤ b.nano)⟩
instance : LT Instant :=
  ⟨fun a b => a.second < b.second ∨ (a.second = b.second ∧ a.nano < b.nano)⟩
instance (a b : Instant) : Decidable (a ≤ b) :=
  inferInstanceAs (Decidable (a.second < b.second ∨ (a.second = b.second ∧ a.nano ≤ b.nano)))
instance (a b : Instant) : Decidable (a < b) :=
  inferInstanceAs (Decidable (a.second < b.second ∨ (a.second = b.second ∧ a.nano < b.nano)))

def later (a b : Instant) : Instant := if a ≤ b then b else a

def secondOfDay (instant : Instant) : Nat := (instant.second % 86400).toNat

def date (instant : Instant) : Date :=
  ⟨instant.second / 86400, by
    have bounds := instant.inCalendar
    simp only [Date.first, Date.last] at bounds
    omega⟩

def localDate? (instant : Instant) (offset : Offset) : Option Date :=
  Date.ofNumber? ((instant.second + offset.seconds) / 86400)

/-- The instant `millis` milliseconds later, or earlier when negative. A step that stays inside a
leap second moves within it; any other step counts the leap second as the second before it when
going forward, and as the second after it when going back. -/
def addMillis? (instant : Instant) (millis : Int) : Option Instant :=
  let seconds := Int.tdiv millis 1000
  let nanos := Int.tmod millis 1000 * 1000000
  let nano : Int := instant.nano
  let settle (second nano : Int) : Option Instant :=
    if nano < 0 then make? (second - 1) (nano + 1000000000).toNat
    else if 1000000000 ≤ nano then make? (second + 1) (nano - 1000000000).toNat
    else make? second nano.toNat
  if nano < 1000000000 then settle (instant.second + seconds) (nano + nanos)
  else if 0 < seconds ∨ (0 < nanos ∧ 2000000000 ≤ nano + nanos) then
    settle (instant.second + seconds) (nano - 1000000000 + nanos)
  else if seconds < 0 then settle (instant.second + 1 + seconds) (nano - 1000000000 + nanos)
  else make? instant.second (nano + nanos).toNat

end Instant

end UserDirectory
