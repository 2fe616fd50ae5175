import UserDirectory.Service.Operation
import UserDirectory.Service.Platform

/-!
User operations side by side over one store in memory. Each operation is a thread; a schedule says
which thread takes the next step. A step is one reading of the clock, one digest, one check of a
password, one event or one call, so between two calls of a thread anything may happen to the store.
-/

namespace UserDirectory

open Service

inductive Operation
  | createUser (request : CreateRequest)
  | getUser (id : String)
  | updateUser (request : UpdateRequest)
  | deleteUser (id : String)
  | batchDeleteUsers (ids : List String)
  | changeUserStatus (id : String) (status : Int) (updateBy : Option String)
  | resetPassword (id password : String) (updateBy : Option String)
  | checkAccountExists (account : String)
  | getUserStatistics (tenantId : Option String)
  | listUsers (request : ListRequest)
  | verifyCredentials (account password : String)

namespace Operation

def Result : Operation → Type
  | createUser _ => User
  | getUser _ => User
  | updateUser _ => User
  | deleteUser _ => Unit
  | batchDeleteUsers _ => Tally
  | changeUserStatus _ _ _ => Unit
  | resetPassword _ _ _ => Unit
  | checkAccountExists _ => Bool
  | getUserStatistics _ => Statistics
  | listUsers _ => Page
  | verifyCredentials _ _ => User

def program (settings : Settings) : (operation : Operation) → Program operation.Result
  | createUser request => Service.createUser request
  | getUser id => Service.getUser id
  | updateUser request => Service.updateUser request
  | deleteUser id => Service.deleteUser id
  | batchDeleteUsers ids => Service.batchDeleteUsers ids
  | changeUserStatus id status updateBy => Service.changeUserStatus id status updateBy
  | resetPassword id password updateBy => Service.resetPassword id password updateBy
  | checkAccountExists account => Service.checkAccountExists account
  | getUserStatistics tenantId => Service.getUserStatistics settings tenantId
  | listUsers request => Service.listUsers settings request
  | verifyCredentials account password => Service.verifyCredentials account password

def writesOnce : Operation → Bool
  | createUser _ | updateUser _ | deleteUser _ | changeUserStatus _ _ _
  | resetPassword _ _ _ => true
  | _ => false

end Operation

def Call.writes : Call → Bool
  | save _ | update _ | delete _ | changeStatus _ _ _ => true
  | _ => false

namespace Program

def step (platform : Platform σ) : Program α → σ → Program α × σ
  | done value, state => (done value, state)
  | fail failure, state => (fail failure, state)
  | log _ rest, state => (rest, state)
  | now rest, state =>
    match platform.now state with
    | (.ok instant, state) => (rest instant, state)
    | (.error failure, state) => (fail failure, state)
  | digest password rest, state =>
    let (result, state) := platform.digest password state
    (rest result, state)
  | verify password stored rest, state => (rest (platform.verify password stored), state)
  | call wanted rest, state =>
    let (reply, state) := platform.answer wanted state
    (rest reply, state)

def nextCall? : Program α → Option Call
  | call wanted _ => some wanted
  | _ => none

def digestsNext : Program α → Bool
  | digest _ _ => true
  | _ => false

/-- What a program comes to, as soon as only events are left of it. -/
def outcome? : Program α → Option (Except Failure α)
  | done value => some (.ok value)
  | fail failure => some (.error failure)
  | log _ rest => rest.outcome?
  | _ => none

/-- Taken step by step, a program comes to what its run gives. -/
theorem run_step (platform : Platform σ) (program : Program α) (state : σ) :
    ((program.step platform state).1.run platform (program.step platform state).2).result =
        (program.run platform state).result ∧
      ((program.step platform state).1.run platform (program.step platform state).2).state =
        (program.run platform state).state := by
  cases program with
  | done value => exact ⟨rfl, rfl⟩
  | fail failure => exact ⟨rfl, rfl⟩
  | log event rest => exact ⟨rfl, rfl⟩
  | now rest =>
    cases read : platform.now state with
    | mk reading after =>
      cases reading with
      | ok instant => simp only [step, run, read, and_self]
      | error failure => simp only [step, run, read, and_self]
  | digest password rest => exact ⟨rfl, rfl⟩
  | verify password stored rest => exact ⟨rfl, rfl⟩
  | call wanted rest => exact ⟨rfl, rfl⟩

end Program

structure Move where
  thread : Nat
  operation : Operation
  call : Call
  /-- The number of the last digest that the thread had made. -/
  digest : Option Nat
  before : Memory
  after : Memory

structure Thread where
  operation : Operation
  rest : Program operation.Result
  /-- The number of the last digest made. -/
  digest : Option Nat := none

namespace Thread

def start (settings : Settings) (operation : Operation) : Thread where
  operation := operation
  rest := operation.program settings

def step (supplies : Supplies) (hasher : Hasher) (memory : Memory) (thread : Thread) :
    Thread × Memory :=
  let (rest, after) := thread.rest.step (Memory.platform supplies hasher) memory
  let digest := if thread.rest.digestsNext then some memory.usage.digests else thread.digest
  ({ thread with rest, digest }, after)

def move? (supplies : Supplies) (index : Nat) (memory : Memory) (thread : Thread) : Option Move :=
  thread.rest.nextCall?.map fun call =>
    { thread := index
      operation := thread.operation
      call
      digest := thread.digest
      before := memory
      after := (memory.answer supplies call).2 }

end Thread

/-- Threads over one memory, and the calls made so far in their order. -/
structure Interleaving where
  memory : Memory
  threads : List Thread
  moves : List Move := []

namespace Interleaving

def start (settings : Settings) (memory : Memory) (operations : List Operation) :
    Interleaving where
  memory := memory
  threads := operations.map (Thread.start settings)

def step (supplies : Supplies) (hasher : Hasher) (state : Interleaving) (index : Nat) :
    Interleaving :=
  match state.threads[index]? with
  | none => state
  | some thread =>
    let (next, after) := thread.step supplies hasher state.memory
    { memory := after
      threads := state.threads.set index next
      moves := state.moves ++ (thread.move? supplies index state.memory).toList }

def run (supplies : Supplies) (hasher : Hasher) (schedule : List Nat) (state : Interleaving) :
    Interleaving :=
  schedule.foldl (step supplies hasher) state

def movesOf (state : Interleaving) (index : Nat) : List Move :=
  state.moves.filter fun move => move.thread = index

end Interleaving

end UserDirectory
