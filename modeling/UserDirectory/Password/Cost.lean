import UserDirectory.Failure

/-!
What a password digest costs: memory in KiB, passes over the memory, and lanes.
-/

namespace UserDirectory.Password

structure Cost where
  memory : Nat
  passes : Nat
  lanes : Nat
  lanesPositive : 0 < lanes
  lanesBounded : lanes < 0x1000000
  passesPositive : 0 < passes
  enoughMemory : 8 * lanes ≤ memory
deriving DecidableEq

inductive CostError
  | memoryTooSmall
  | tooFewPasses
  | tooFewLanes
  | tooManyLanes
deriving DecidableEq, Repr

def CostError.message : CostError → String
  | memoryTooSmall => "memory cost is too small"
  | tooFewPasses => "time cost is too small"
  | tooFewLanes => "not enough threads"
  | tooManyLanes => "too many threads"

def CostError.failure (error : CostError) : Failure :=
  .configuration ("Invalid Argon2 parameters: " ++ error.message)

namespace Cost

/-- The memory is looked at first, then the passes, then the lanes. -/
def make (memory passes lanes : Nat) : Except CostError Cost :=
  if small : memory < 8 ∨ memory < 8 * lanes then .error .memoryTooSmall
  else if idle : passes = 0 then .error .tooFewPasses
  else if none : lanes = 0 then .error .tooFewLanes
  else if many : 0x1000000 ≤ lanes then .error .tooManyLanes
  else .ok {
    memory, passes, lanes
    lanesPositive := by omega
    lanesBounded := by omega
    passesPositive := by omega
    enoughMemory := by omega }

def usual : Cost := ⟨19456, 2, 1, by decide, by decide, by decide, by decide⟩

end Cost

end UserDirectory.Password
