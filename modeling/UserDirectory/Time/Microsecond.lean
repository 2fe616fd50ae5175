import UserDirectory.Time.Instant

namespace UserDirectory.Instant

def millennium : Int := 946684800

/-- Microseconds since the year 2000 began. What is less than one is cut off, so times before then
are rounded up. -/
def microseconds (instant : Instant) : Int :=
  ((instant.second - millennium) * 1000000000 + instant.nano).tdiv 1000

def ofMicroseconds? (n : Int) : Option Instant :=
  make? (millennium + n / 1000000) (n % 1000000 * 1000).toNat

/-- The instant that a database gives back for this one. -/
def kept? (instant : Instant) : Option Instant := ofMicroseconds? instant.microseconds

end UserDirectory.Instant
