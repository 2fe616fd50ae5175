import UserDirectory.Proofs.Database.Exchange

/-!
An exchange request by request. What holds of the result of an exchange, of the state that it leaves
and of all its requests with their answers follows from what holds of its parts, one after the
other.
-/

namespace UserDirectory.Database

structure Step (σ : Type) where
  request : Request
  answer : Except DatabaseError Answer
  after : σ

def Step.Answered (step : Step σ) : Prop := ∃ answer, step.answer = .ok answer

namespace Exchange

def steps (peer : Peer σ) : Exchange α → σ → List (Step σ)
  | done _, _ => []
  | fail _, _ => []
  | log _ rest, state => rest.steps peer state
  | send request rest, state =>
    let (answer, after) := peer request state
    ⟨request, answer, after⟩ :: (rest answer).steps peer after

variable {peer : Peer σ} {state : σ}

theorem steps_requests {exchange : Exchange α} :
    (exchange.steps peer state).map Step.request = (exchange.hold peer state).requests := by
  induction exchange generalizing state with
  | done value => rfl
  | fail failure => rfl
  | log event rest ih => exact ih
  | send request rest ih => exact congrArg (request :: ·) (ih _)

theorem steps_bind {exchange : Exchange α} {next : α → Exchange β} :
    (exchange >>= next).steps peer state =
      exchange.steps peer state ++
        match exchange.eval peer state with
        | (.ok value, after) => (next value).steps peer after
        | (.error _, _) => [] := by
  change (exchange.bind next).steps peer state = _
  induction exchange generalizing state with
  | done value => rfl
  | fail failure => rfl
  | log event rest ih => exact ih
  | send request rest ih => exact congrArg (_ :: ·) (ih _)

/-- What `shown` says of the result, of the state left and of the steps. -/
def Shows (peer : Peer σ) (exchange : Exchange α) (state : σ)
    (shown : Except Failure α → σ → List (Step σ) → Prop) : Prop :=
  shown (exchange.hold peer state).result (exchange.hold peer state).state
    (exchange.steps peer state)

theorem Shows.mono {exchange : Exchange α}
    {shown wanted : Except Failure α → σ → List (Step σ) → Prop}
    (shows : exchange.Shows peer state shown)
    (onward : ∀ result after steps, shown result after steps → wanted result after steps) :
    exchange.Shows peer state wanted :=
  onward _ _ _ shows

theorem shows_bind {exchange : Exchange α} {next : α → Exchange β}
    {shown : Except Failure β → σ → List (Step σ) → Prop} :
    (exchange >>= next).Shows peer state shown ↔
      exchange.Shows peer state fun result after made =>
        match result with
        | .ok value => (next value).Shows peer after fun result last more =>
            shown result last (made ++ more)
        | .error failure => shown (.error failure) after made := by
  change shown ((exchange >>= next).eval peer state).1 ((exchange >>= next).eval peer state).2
    ((exchange >>= next).steps peer state) ↔ _
  rw [eval_bind, steps_bind]
  unfold Shows eval
  cases (exchange.hold peer state).result with
  | ok value => exact Iff.rfl
  | error failure => simp only [List.append_nil]

theorem shows_send {request : Request} {rest : Except DatabaseError Answer → Exchange α}
    {shown : Except Failure α → σ → List (Step σ) → Prop} {answer : Except DatabaseError Answer}
    {after : σ} (told : peer request state = (answer, after)) :
    (send request rest).Shows peer state shown ↔
      (rest answer).Shows peer after fun result last more =>
        shown result last (⟨request, answer, after⟩ :: more) := by
  simp only [Shows, hold, steps, told]

theorem shows_ask {request : Request} {failure : DatabaseError → Failure}
    {shown : Except Failure Answer → σ → List (Step σ) → Prop}
    (answered : ∀ answer after, peer request state = (.ok answer, after) →
      shown (.ok answer) after [⟨request, .ok answer, after⟩])
    (failed : ∀ error after, peer request state = (.error error, after) →
      shown (.error (failure error)) after [⟨request, .error error, after⟩]) :
    (ask request failure).Shows peer state shown := by
  cases told : peer request state with
  | mk answer after =>
    cases answer with
    | ok answer => exact (shows_send told).2 (answered answer after told)
    | error error => exact (shows_send told).2 (failed error after told)

/-- The exchange comes to what is wanted, each request answered, or a request fails. -/
def Brings (peer : Peer σ) (exchange : Exchange α) (state : σ)
    (wanted : α → σ → List (Step σ) → Prop) : Prop :=
  exchange.Shows peer state fun result after steps =>
    match result with
    | .ok value => (∀ step ∈ steps, step.Answered) ∧ wanted value after steps
    | .error _ => ∃ step ∈ steps, ¬step.Answered

theorem Brings.mono {exchange : Exchange α} {wanted less : α → σ → List (Step σ) → Prop}
    (brings : exchange.Brings peer state wanted)
    (onward : ∀ value after steps, wanted value after steps → less value after steps) :
    exchange.Brings peer state less :=
  Shows.mono brings fun result after steps brought => by
    cases result with
    | error failure => exact brought
    | ok value => exact brought.imp_right (onward value after steps)

theorem Brings.bind {exchange : Exchange α} {next : α → Exchange β}
    {wanted : β → σ → List (Step σ) → Prop}
    (brings : exchange.Brings peer state fun value after made =>
      (next value).Brings peer after fun value last more => wanted value last (made ++ more)) :
    (exchange >>= next).Brings peer state wanted := by
  refine shows_bind.2 (Shows.mono brings fun result after made brought => ?_)
  cases result with
  | error failure => exact brought
  | ok value =>
    obtain ⟨answered, onward⟩ := brought
    refine Shows.mono onward fun result last more brought => ?_
    cases result with
    | error failure =>
      obtain ⟨step, member, failed⟩ := brought
      exact ⟨step, List.mem_append_right made member, failed⟩
    | ok value => exact brought.imp_left fun passed => List.forall_mem_append.2 ⟨answered, passed⟩

theorem brings_ask {request : Request} {failure : DatabaseError → Failure}
    {wanted : Answer → σ → List (Step σ) → Prop}
    (answered : ∀ answer after, peer request state = (.ok answer, after) →
      wanted answer after [⟨request, .ok answer, after⟩]) :
    (ask request failure).Brings peer state wanted :=
  shows_ask (fun answer after told =>
      ⟨List.forall_mem_singleton.2 ⟨answer, rfl⟩, answered answer after told⟩)
    fun _ _ _ => ⟨_, List.mem_singleton_self _, nofun⟩

theorem brings_done {value : α} {wanted : α → σ → List (Step σ) → Prop}
    (holds : wanted value state []) : (done value).Brings peer state wanted :=
  ⟨fun _ => nofun, holds⟩

theorem brings_info {message : String} {fields : List (String × EventValue)}
    {wanted : Unit → σ → List (Step σ) → Prop} (holds : wanted () state []) :
    (info message fields).Brings peer state wanted :=
  ⟨fun _ => nofun, holds⟩

theorem Brings.succeeds_iff {exchange : Exchange α} {wanted : α → σ → List (Step σ) → Prop}
    (brings : exchange.Brings peer state wanted) :
    (∃ value, (exchange.hold peer state).result = .ok value) ↔
      ∀ step ∈ exchange.steps peer state, step.Answered := by
  unfold Brings Shows at brings
  cases told : (exchange.hold peer state).result with
  | ok value =>
    rw [told] at brings
    exact iff_of_true ⟨value, rfl⟩ brings.1
  | error failure =>
    rw [told] at brings
    obtain ⟨step, member, failed⟩ := brings
    exact iff_of_false nofun fun answered => failed (answered step member)

theorem Brings.of_ok {exchange : Exchange α} {wanted : α → σ → List (Step σ) → Prop} {value : α}
    (brings : exchange.Brings peer state wanted)
    (succeeded : (exchange.hold peer state).result = .ok value) :
    wanted value (exchange.hold peer state).state (exchange.steps peer state) := by
  unfold Brings Shows at brings
  rw [succeeded] at brings
  exact brings.2

/-- A side that answers every request leaves none unanswered. -/
theorem steps_answered (answers : ∀ request state, ∃ answer, (peer request state).1 = .ok answer)
    (exchange : Exchange α) : ∀ step ∈ exchange.steps peer state, step.Answered := by
  induction exchange generalizing state with
  | done value => exact fun _ => nofun
  | fail failure => exact fun _ => nofun
  | log event rest ih => exact ih
  | send request rest ih => exact List.forall_mem_cons.2 ⟨answers request state, ih _⟩

end Exchange

end UserDirectory.Database
