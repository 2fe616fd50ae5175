namespace UserDirectory

structure Tally where
  succeeded : Nat := 0
  failed : Nat := 0
  /-- The items that failed, in the order of the batch. -/
  failedItems : List String := []
deriving DecidableEq

namespace Tally

def addSuccess (tally : Tally) : Tally := { tally with succeeded := tally.succeeded + 1 }

def addFailure (tally : Tally) (item : String) : Tally where
  succeeded := tally.succeeded
  failed := tally.failed + 1
  failedItems := tally.failedItems ++ [item]

end Tally

end UserDirectory
