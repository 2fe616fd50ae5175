import UserDirectory.Service.Event
import UserDirectory.Store.Call

/-!
User operations as programs: what an operation does next is data, so it can be run over any store,
interrupted between two calls, or run with calls that fail. A program reads the clock, digests and
checks passwords, logs events and makes store calls, one at a time.
-/

namespace UserDirectory

inductive Program (α : Type)
  | done (value : α)
  | fail (failure : Failure)
  | log (event : Event) (next : Program α)
  | now (next : Instant → Program α)
  | digest (password : String) (next : Except Failure String → Program α)
  | verify (password stored : String) (next : Bool → Program α)
  | call (call : Call) (next : Except Failure call.Reply → Program α)

namespace Program

def bind : Program α → (α → Program β) → Program β
  | done value, next => next value
  | fail failure, _ => fail failure
  | log event rest, next => log event (rest.bind next)
  | now rest, next => now fun instant => (rest instant).bind next
  | digest password rest, next => digest password fun result => (rest result).bind next
  | verify password stored rest, next => verify password stored fun same => (rest same).bind next
  | call wanted rest, next => call wanted fun reply => (rest reply).bind next

instance : Monad Program where
  pure := done
  bind := bind

def ofExcept : Except Failure α → Program α
  | .ok value => done value
  | .error failure => fail failure

def require (checked : Except FieldError α) : Program α :=
  match checked with
  | .ok value => done value
  | .error error => fail error.failure

def inCalendar (value : Option α) : Program α :=
  match value with
  | some value => done value
  | none => fail .outOfCalendar

def ask (wanted : Call) : Program wanted.Reply := call wanted ofExcept

def event (level : Level) (message : String) (fields : List (String × EventValue)) : Program Unit :=
  log ⟨level, message, fields⟩ (done ())

def info (message : String) (fields : List (String × EventValue)) : Program Unit :=
  event .info message fields

def clock : Program Instant := now done

def digestOf (password : String) : Program String := digest password ofExcept

def verified (password stored : String) : Program Bool := verify password stored done

end Program

/-- What a program runs on: a clock, a password digest and a store, over a state of their own. -/
structure Platform (σ : Type) where
  now : σ → Except Failure Instant × σ
  digest : String → σ → Except Failure String × σ
  verify : String → String → Bool
  answer : (call : Call) → σ → Except Failure call.Reply × σ

structure Outcome (σ α : Type) where
  result : Except Failure α
  state : σ
  calls : List Call
  events : List Event

namespace Program

def run (platform : Platform σ) : Program α → σ → Outcome σ α
  | done value, state => ⟨.ok value, state, [], []⟩
  | fail failure, state => ⟨.error failure, state, [], []⟩
  | log event rest, state =>
    let outcome := rest.run platform state
    { outcome with events := event :: outcome.events }
  | now rest, state =>
    match platform.now state with
    | (.ok instant, state) => (rest instant).run platform state
    | (.error failure, state) => ⟨.error failure, state, [], []⟩
  | digest password rest, state =>
    let (result, state) := platform.digest password state
    (rest result).run platform state
  | verify password stored rest, state =>
    (rest (platform.verify password stored)).run platform state
  | call wanted rest, state =>
    let (reply, state) := platform.answer wanted state
    let outcome := (rest reply).run platform state
    { outcome with calls := wanted :: outcome.calls }

end Program

end UserDirectory
