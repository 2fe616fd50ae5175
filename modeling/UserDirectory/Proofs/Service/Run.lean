import UserDirectory.Proofs.Service.Calls

/-!
What a run of a program keeps, and how it is computed. A property of the platform's state that the
clock, the digest and every answer keep holds after any program, so an invariant is shown for
single calls only. Two runs over two platforms are compared in the same way. `Except.Fails` bounds
the failures that a result may be.
-/

namespace UserDirectory

def UserId.first : UserId := ⟨"u-1", rfl⟩

def UserId.second : UserId := ⟨"u-2", rfl⟩

def Supplies.still : Supplies where
  instant _ := .ok .epoch
  identifier number := .ok (if number = 0 then .first else .second)

def Hasher.plain : Hasher where
  hash _ password := .ok ("#" ++ password)
  verify password stored := stored = "#" ++ password

def Service.Settings.utc : Settings := ⟨.utc, .byCount⟩

def Store.empty : Store := ⟨[], List.nodup_nil⟩

def Memory.empty : Memory := ⟨.empty, {}⟩

def Except.Fails (allowed : Failure → Prop) (result : Except Failure α) : Prop :=
  ∀ failure, result = .error failure → allowed failure

namespace Except.Fails

variable {allowed : Failure → Prop}

theorem ok (value : α) : Fails allowed (.ok value) := nofun

theorem error {failure : Failure} (may : allowed failure) :
    Fails allowed (.error failure : Except Failure α) := by
  rintro _ ⟨⟩
  exact may

theorem handed_on {result : Except Failure α} (fails : Fails allowed result) {failure : Failure}
    (failed : result = .error failure) : Fails allowed (.error failure : Except Failure β) :=
  error (fails failure failed)

theorem mapError {result : Except ε α} {tell : ε → Failure} (may : ∀ error, allowed (tell error)) :
    Fails allowed (result.mapError tell) := by
  cases result with
  | ok value => exact ok value
  | error broken => exact error (may broken)

theorem map {result : Except Failure α} (fails : Fails allowed result) (change : α → β) :
    Fails allowed (result.map change) := by
  cases result with
  | ok value => exact ok (change value)
  | error failure => exact fails.handed_on rfl

theorem bind {first : Except Failure α} (fails : Fails allowed first)
    {next : α → Except Failure β} (onward : ∀ value, Fails allowed (next value)) :
    Fails allowed (first >>= next) := by
  cases first with
  | ok value => exact onward value
  | error failure => exact fails.handed_on rfl

end Except.Fails

namespace Program

theorem Makes.run_keeps {platform : Platform σ} {allowed : Call → Prop} (holds : σ → Prop)
    (now : ∀ state, holds state → holds (platform.now state).2)
    (digest : ∀ password state, holds state → holds (platform.digest password state).2)
    (answer : ∀ wanted, allowed wanted → ∀ state, holds state →
      holds (platform.answer wanted state).2)
    {program : Program α} (makes : program.Makes allowed) (state : σ) (start : holds state) :
    holds (program.run platform state).state := by
  induction program generalizing state with
  | done value => exact start
  | fail failure => exact start
  | log event rest ih => exact ih makes state start
  | now rest ih =>
    have kept := now state start
    simp only [run]
    split
    next instant after read =>
      exact ih instant (makes instant) after (by rw [read] at kept; exact kept)
    next failure after read => exact (by rw [read] at kept; exact kept)
  | digest password rest ih => exact ih _ (makes _) _ (digest password state start)
  | verify password stored rest ih => exact ih _ (makes _) state start
  | call wanted rest ih => exact ih _ (makes.2 _) _ (answer wanted makes.1 state start)

theorem run_keeps {platform : Platform σ} (holds : σ → Prop)
    (now : ∀ state, holds state → holds (platform.now state).2)
    (digest : ∀ password state, holds state → holds (platform.digest password state).2)
    (answer : ∀ wanted state, holds state → holds (platform.answer wanted state).2)
    (program : Program α) (state : σ) (start : holds state) :
    holds (program.run platform state).state :=
  (makes_any program).run_keeps holds now digest (fun wanted _ => answer wanted) state start

def eval (platform : Platform σ) (program : Program α) (state : σ) : Except Failure α × σ :=
  ((program.run platform state).result, (program.run platform state).state)

section Eval

variable {platform : Platform σ} {state : σ}

theorem eval_bind {program : Program α} {next : α → Program β} :
    (program >>= next).eval platform state =
      match program.eval platform state with
      | (.ok value, after) => (next value).eval platform after
      | (.error failure, after) => (.error failure, after) := by
  change (program.bind next).eval platform state = _
  induction program generalizing state with
  | done value => rfl
  | fail failure => rfl
  | log event rest ih => exact ih
  | now rest ih =>
    cases read : platform.now state with
    | mk reading after =>
      cases reading with
      | ok instant =>
        simp only [eval, Program.bind, run, read]
        exact ih instant
      | error failure => simp only [eval, Program.bind, run, read]
  | digest password rest ih => exact ih _
  | verify password stored rest ih => exact ih _
  | call wanted rest ih => exact ih _

theorem events_bind {program : Program α} {next : α → Program β} :
    ((program >>= next).run platform state).events =
      (program.run platform state).events ++
        match program.eval platform state with
        | (.ok value, after) => ((next value).run platform after).events
        | (.error _, _) => [] := by
  change ((program.bind next).run platform state).events = _
  induction program generalizing state with
  | done value => rfl
  | fail failure => rfl
  | log event rest ih => exact congrArg (event :: ·) ih
  | now rest ih =>
    cases read : platform.now state with
    | mk reading after =>
      cases reading with
      | ok instant =>
        simp only [eval, Program.bind, run, read]
        exact ih instant
      | error failure => simp only [eval, Program.bind, run, read, List.append_nil]
  | digest password rest ih => exact ih _
  | verify password stored rest ih => exact ih _
  | call wanted rest ih => exact ih _

theorem eval_event {level : Level} {message : String} {fields : List (String × EventValue)} :
    (event level message fields).eval platform state = (.ok (), state) := rfl

theorem eval_bind_ok {program : Program α} {next : α → Program β} {value : α} {after : σ}
    (first : program.eval platform state = (.ok value, after)) :
    (program >>= next).eval platform state = (next value).eval platform after := by
  rw [eval_bind, first]

theorem eval_require {checked : Except FieldError α} {value : α} (passed : checked = .ok value) :
    (require checked).eval platform state = (.ok value, state) := by
  rw [passed]
  rfl

theorem eval_clock : clock.eval platform state = platform.now state := by
  unfold eval clock run
  split
  next instant after read => exact read.symm
  next failure after read => exact read.symm

theorem eval_ofExcept {result : Except Failure α} :
    (ofExcept result).eval platform state = (result, state) := by
  cases result with
  | ok value => rfl
  | error failure => rfl

theorem eval_digestOf {password : String} :
    (digestOf password).eval platform state = platform.digest password state :=
  eval_ofExcept

theorem eval_ask {wanted : Call} :
    (ask wanted).eval platform state = platform.answer wanted state :=
  eval_ofExcept

end Eval

end Program

/-- Two platforms on which the clock, the digests and the allowed calls say the same, and lead from
related states to related states. -/
structure Platform.Mirrors (first : Platform σ) (second : Platform τ) (allowed : Call → Prop)
    (related : σ → τ → Prop) : Prop where
  now : ∀ a b, related a b →
    (first.now a).1 = (second.now b).1 ∧ related (first.now a).2 (second.now b).2
  digest : ∀ password a b, related a b →
    (first.digest password a).1 = (second.digest password b).1 ∧
      related (first.digest password a).2 (second.digest password b).2
  verify : first.verify = second.verify
  answer : ∀ wanted, allowed wanted → ∀ a b, related a b →
    (first.answer wanted a).1 = (second.answer wanted b).1 ∧
      related (first.answer wanted a).2 (second.answer wanted b).2

/-- Two runs that nothing tells apart, and that end in related states. -/
structure Outcome.Mirrors (first : Outcome σ α) (second : Outcome τ α) (related : σ → τ → Prop) :
    Prop where
  result : first.result = second.result
  state : related first.state second.state
  calls : first.calls = second.calls
  events : first.events = second.events

theorem Program.Makes.run_mirrors {first : Platform σ} {second : Platform τ}
    {allowed : Call → Prop} {related : σ → τ → Prop}
    (mirrors : first.Mirrors second allowed related) {program : Program α}
    (makes : program.Makes allowed) {a : σ} {b : τ} (start : related a b) :
    (program.run first a).Mirrors (program.run second b) related := by
  induction program generalizing a b with
  | done value => exact ⟨rfl, start, rfl, rfl⟩
  | fail failure => exact ⟨rfl, start, rfl, rfl⟩
  | log event rest ih =>
    have onward := ih makes start
    exact ⟨onward.result, onward.state, onward.calls, congrArg (event :: ·) onward.events⟩
  | now rest ih =>
    obtain ⟨same, after⟩ := mirrors.now a b start
    cases readA : first.now a with
    | mk reading stateA =>
      cases readB : second.now b with
      | mk reading' stateB =>
        rw [readA, readB] at same after
        obtain rfl : reading = reading' := same
        cases reading with
        | ok instant =>
          simp only [run, readA, readB]
          exact ih instant (makes instant) after
        | error failure =>
          simp only [run, readA, readB]
          exact ⟨rfl, after, rfl, rfl⟩
  | digest password rest ih =>
    obtain ⟨same, after⟩ := mirrors.digest password a b start
    simp only [run]
    rw [same]
    exact ih _ (makes _) after
  | verify password stored rest ih =>
    simp only [run]
    rw [mirrors.verify]
    exact ih _ (makes _) start
  | call wanted rest ih =>
    obtain ⟨same, after⟩ := mirrors.answer wanted makes.1 a b start
    have onward := ih _ (makes.2 (second.answer wanted b).1) after
    simp only [run]
    rw [same]
    exact ⟨onward.result, onward.state, congrArg (wanted :: ·) onward.calls, onward.events⟩

end UserDirectory
