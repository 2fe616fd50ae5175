import UserDirectory.Password.Hasher
import UserDirectory.Service.Program
import UserDirectory.Store.Memory

namespace UserDirectory

def Usage.makeDigest (hasher : Hasher) (password : String) (usage : Usage) :
    Except Failure String × Usage :=
  (hasher.hash usage.digests password, { usage with digests := usage.digests + 1 })

def Memory.platform (supplies : Supplies) (hasher : Hasher) : Platform Memory where
  now := Memory.readInstant supplies
  digest password memory :=
    let (digest, usage) := memory.usage.makeDigest hasher password
    (digest, { memory with usage })
  verify := hasher.verify
  answer := Memory.answer supplies

inductive FaultEffect
  /-- The call fails with a storage error. -/
  | error (message : String)
  /-- The call answers that nothing is there. -/
  | nothing
deriving DecidableEq

/-- The `nth` call of a name does not reach the store. -/
structure Fault where
  call : String
  nth : Nat
  effect : FaultEffect
deriving DecidableEq

def Platform.withFaults (platform : Platform σ) (faults : List Fault) :
    Platform (σ × List String) where
  now state :=
    let (instant, inner) := platform.now state.1
    (instant, inner, state.2)
  digest password state :=
    let (result, inner) := platform.digest password state.1
    (result, inner, state.2)
  verify := platform.verify
  answer call state :=
    let made := call.name :: state.2
    let through :=
      let (reply, inner) := platform.answer call state.1
      (reply, inner, made)
    match faults.find? fun fault => fault.call = call.name ∧ fault.nth = made.count call.name with
    | none => through
    | some fault =>
      match fault.effect, call.nothing? with
      | .error message, _ => (.error (.storage message), state.1, made)
      | .nothing, some reply => (.ok reply, state.1, made)
      | .nothing, none => through

end UserDirectory
