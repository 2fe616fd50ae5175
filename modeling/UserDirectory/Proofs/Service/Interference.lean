import UserDirectory.Proofs.Service.Interleaving
import UserDirectory.Proofs.Store.Consistency

/-!
What holds of a program whatever others do to the store. `Program.Always` follows a program with a
store that may become any reachable store before each of its calls, so an operation is reasoned
about by itself.
-/

namespace UserDirectory

structure Past where
  moves : List Move := []
  /-- The number of the last digest made. -/
  digest : Option Nat := none

structure Role where
  supplies : Supplies
  hasher : Hasher
  thread : Nat
  operation : Operation

def Role.move (role : Role) (wanted : Call) (digest : Option Nat) (before : Memory) : Move where
  thread := role.thread
  operation := role.operation
  call := wanted
  digest := digest
  before := before
  after := (before.answer role.supplies wanted).2

def Past.after (past : Past) (role : Role) (wanted : Call) (before : Memory) : Past :=
  { past with moves := past.moves ++ [role.move wanted past.digest before] }

namespace Program

/-- `holds` is true of the past and of what the program has come to, at every point of it. The
clock may say anything, a digest may have any number, and a call may meet any reachable store. -/
def Always (role : Role) (holds : Past → Option (Except Failure α) → Prop) :
    Past → Program α → Prop
  | past, done value => holds past (some (.ok value))
  | past, fail failure => holds past (some (.error failure))
  | past, log _ rest => Always role holds past rest
  | past, now rest =>
    holds past none ∧ (∀ instant, Always role holds past (rest instant)) ∧
      ∀ failure, holds past (some (.error failure))
  | past, digest password rest =>
    holds past none ∧ ∀ number, Always role holds { past with digest := some number }
      (rest (role.hasher.hash number password))
  | past, verify password stored rest =>
    holds past none ∧ Always role holds past (rest (role.hasher.verify password stored))
  | past, call wanted rest =>
    holds past none ∧ ∀ before : Memory, before.store.Reachable →
      Always role holds (past.after role wanted before)
        (rest (before.answer role.supplies wanted).1)

/-- What has to hold of a program so that `holds` is true of it followed by `next`. -/
def Before (role : Role) (holds : Past → Option (Except Failure β) → Prop)
    (next : α → Program β) (past : Past) : Option (Except Failure α) → Prop
  | none => holds past none
  | some (.ok value) => (next value).Always role holds past
  | some (.error failure) => holds past (some (.error failure))

variable {role : Role} {past : Past}

theorem Always.holds {holds : Past → Option (Except Failure α) → Prop} {program : Program α}
    (always : program.Always role holds past) : holds past program.outcome? := by
  induction program with
  | done value => exact always
  | fail failure => exact always
  | log event rest ih => exact ih always
  | now rest => exact always.1
  | digest password rest => exact always.1
  | verify password stored rest => exact always.1
  | call wanted rest => exact always.1

theorem always_of_outcome? {holds : Past → Option (Except Failure α) → Prop} {program : Program α}
    {result : Except Failure α} (comes : program.outcome? = some result)
    (reached : holds past (some result)) : program.Always role holds past := by
  induction program with
  | done value => obtain rfl := Option.some.inj comes; exact reached
  | fail failure => obtain rfl := Option.some.inj comes; exact reached
  | log event rest ih => exact ih comes
  | now rest => cases comes
  | digest password rest => cases comes
  | verify password stored rest => cases comes
  | call wanted rest => cases comes

theorem Always.mono {holds weaker : Past → Option (Except Failure α) → Prop}
    (weaken : ∀ past outcome, holds past outcome → weaker past outcome) {program : Program α}
    (always : program.Always role holds past) : program.Always role weaker past := by
  induction program generalizing past with
  | done value => exact weaken _ _ always
  | fail failure => exact weaken _ _ always
  | log event rest ih => exact ih always
  | now rest ih =>
    obtain ⟨here, read, failed⟩ := always
    exact ⟨weaken _ _ here, fun instant => ih instant (read instant),
      fun failure => weaken _ _ (failed failure)⟩
  | digest password rest ih =>
    exact ⟨weaken _ _ always.1, fun number => ih _ (always.2 number)⟩
  | verify password stored rest ih => exact ⟨weaken _ _ always.1, ih _ always.2⟩
  | call wanted rest ih =>
    exact ⟨weaken _ _ always.1, fun before reachable => ih _ (always.2 before reachable)⟩

theorem always_bind {holds : Past → Option (Except Failure β) → Prop} {program : Program α}
    {next : α → Program β} :
    (program >>= next).Always role holds past ↔
      program.Always role (Before role holds next) past := by
  change (program.bind next).Always role holds past ↔ _
  induction program generalizing past with
  | done value => exact Iff.rfl
  | fail failure => exact Iff.rfl
  | log event rest ih => exact ih
  | now rest ih =>
    exact and_congr_right' (and_congr_left' (forall_congr' fun instant => ih instant))
  | digest password rest ih => exact and_congr_right' (forall_congr' fun number => ih _)
  | verify password stored rest ih => exact and_congr_right' (ih _)
  | call wanted rest ih =>
    exact and_congr_right' (forall_congr' fun before => forall_congr' fun reachable => ih _)

section Rules

variable {holds : Past → Option (Except Failure α) → Prop}

theorem always_ofExcept {result : Except Failure α} :
    (ofExcept result).Always role holds past ↔ holds past (some result) := by
  cases result with
  | ok value => exact Iff.rfl
  | error failure => exact Iff.rfl

theorem always_require {checked : Except FieldError α} :
    (require checked).Always role holds past ↔
      holds past (some (checked.mapError FieldError.failure)) := by
  cases checked with
  | ok value => exact Iff.rfl
  | error error => exact Iff.rfl

theorem always_inCalendar {value : Option α} :
    (inCalendar value).Always role holds past ↔
      (∀ found, value = some found → holds past (some (.ok found))) ∧
        (value = none → holds past (some (.error .outOfCalendar))) := by
  cases value with
  | some found => simp [inCalendar, Always]
  | none => simp [inCalendar, Always]

theorem always_event {holds : Past → Option (Except Failure Unit) → Prop} {level : Level}
    {message : String} {fields : List (String × EventValue)} :
    (event level message fields).Always role holds past ↔ holds past (some (.ok ())) := Iff.rfl

theorem always_clock {holds : Past → Option (Except Failure Instant) → Prop} :
    clock.Always role holds past ↔
      holds past none ∧ ∀ reading, holds past (some reading) := by
  refine and_congr_right' ?_
  constructor
  · rintro ⟨read, failed⟩ (failure | instant)
    · exact failed failure
    · exact read instant
  · intro every
    exact ⟨fun instant => every (.ok instant), fun failure => every (.error failure)⟩

theorem always_digestOf {holds : Past → Option (Except Failure String) → Prop}
    {password : String} :
    (digestOf password).Always role holds past ↔
      holds past none ∧ ∀ number, holds { past with digest := some number }
        (some (role.hasher.hash number password)) :=
  and_congr_right' (forall_congr' fun _ => always_ofExcept)

theorem always_ask {wanted : Call} {holds : Past → Option (Except Failure wanted.Reply) → Prop} :
    (ask wanted).Always role holds past ↔
      holds past none ∧ ∀ before : Memory, before.store.Reachable →
        holds (past.after role wanted before) (some (before.answer role.supplies wanted).1) :=
  and_congr_right' (forall_congr' fun _ => forall_congr' fun _ => always_ofExcept)

end Rules

/-- One step of a thread, in whatever reachable store it finds. -/
theorem Always.step {operation : Operation} {supplies : Supplies} {hasher : Hasher} {index : Nat}
    {digest : Option Nat} {moves : List Move} {memory : Memory}
    {holds : Past → Option (Except Failure operation.Result) → Prop}
    {rest : Program operation.Result} (reachable : memory.store.Reachable)
    (always : rest.Always ⟨supplies, hasher, index, operation⟩ holds ⟨moves, digest⟩) :
    let thread : Thread := ⟨operation, rest, digest⟩
    Always ⟨supplies, hasher, index, operation⟩ holds
      ⟨moves ++ (thread.move? supplies index memory).toList,
        if rest.digestsNext then some memory.usage.digests else digest⟩
      (rest.step (Memory.platform supplies hasher) memory).1 := by
  intro thread
  -- a step that makes no call adds no move
  have silent (none : rest.nextCall? = none) :
      moves ++ (thread.move? supplies index memory).toList = moves := by
    rw [Thread.move?, none, Option.map_none, Option.toList_none, List.append_nil]
  cases rest with
  | done value => rw [silent rfl]; exact always
  | fail failure => rw [silent rfl]; exact always
  | log event rest => rw [silent rfl]; exact always
  | now rest =>
    rw [silent rfl]
    cases read : supplies.instant memory.usage.instants with
    | ok instant =>
      simp only [Program.step, Memory.platform, Memory.readInstant, Usage.readInstant, read]
      exact always.2.1 instant
    | error failure =>
      simp only [Program.step, Memory.platform, Memory.readInstant, Usage.readInstant, read]
      exact always.2.2 failure
  | digest password rest => rw [silent rfl]; exact always.2 memory.usage.digests
  | verify password stored rest => rw [silent rfl]; exact always.2
  | call wanted rest => exact always.2 memory reachable

end Program

end UserDirectory
