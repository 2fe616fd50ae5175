import UserDirectory.Failure
import UserDirectory.Time.Instant
import UserDirectory.User.Id

/-!
Where the times of writes and the new ids come from: two supplies, each read in order.
-/

namespace UserDirectory

structure Supplies where
  instant : Nat → Except Failure Instant
  identifier : Nat → Except Failure UserId

structure Usage where
  instants : Nat := 0
  identifiers : Nat := 0
  digests : Nat := 0
deriving DecidableEq

namespace Usage

def readInstant (supplies : Supplies) (usage : Usage) : Except Failure Instant × Usage :=
  (supplies.instant usage.instants, { usage with instants := usage.instants + 1 })

def drawIdentifier (supplies : Supplies) (usage : Usage) : Except Failure UserId × Usage :=
  (supplies.identifier usage.identifiers, { usage with identifiers := usage.identifiers + 1 })

end Usage

end UserDirectory
