import UserDirectory.Database.Connection

namespace UserDirectory.Database.Exchange

def eval (peer : Peer σ) (exchange : Exchange α) (state : σ) : Except Failure α × σ :=
  ((exchange.hold peer state).result, (exchange.hold peer state).state)

variable {peer : Peer σ} {state : σ}

theorem eval_bind {exchange : Exchange α} {next : α → Exchange β} :
    (exchange >>= next).eval peer state =
      match exchange.eval peer state with
      | (.ok value, after) => (next value).eval peer after
      | (.error failure, after) => (.error failure, after) := by
  change (exchange.bind next).eval peer state = _
  induction exchange generalizing state with
  | done value => rfl
  | fail failure => rfl
  | log event rest ih => exact ih
  | send request rest ih => exact ih _

theorem eval_ofExcept {result : Except Failure α} :
    (ofExcept result).eval peer state = (result, state) := by
  cases result with
  | ok value => rfl
  | error failure => rfl

theorem eval_ask {request : Request} {failure : DatabaseError → Failure} :
    (ask request failure).eval peer state =
      ((peer request state).1.mapError failure, (peer request state).2) :=
  eval_ofExcept

theorem hold_send {request : Request} {next : Except DatabaseError Answer → Exchange α}
    {answer : Except DatabaseError Answer} {after : σ} {value : α}
    (told : peer request state = (answer, after)) (made : next answer = done value) :
    (send request next).hold peer state = ⟨.ok value, after, [request], []⟩ := by
  simp only [hold, told, made]

/-- Where two sides answer alike what is asked of them, an exchange held with either is the same. -/
theorem hold_congr {first second : Peer σ} {asked : Request → Prop} {holds : σ → Prop}
    (alike : ∀ request, asked request → ∀ state, holds state →
      first request state = second request state ∧ holds (second request state).2)
    {exchange : Exchange α} {state : σ} (start : holds state)
    (only : ∀ request ∈ (exchange.hold second state).requests, asked request) :
    exchange.hold first state = exchange.hold second state ∧
      holds (exchange.hold second state).state := by
  induction exchange generalizing state with
  | done value => exact ⟨rfl, start⟩
  | fail failure => exact ⟨rfl, start⟩
  | log event rest ih =>
    obtain ⟨same, kept⟩ := ih start only
    simp only [hold, same, true_and]
    exact kept
  | send request rest ih =>
    obtain ⟨asked, others⟩ := List.forall_mem_cons.1 only
    obtain ⟨answered, holding⟩ := alike request asked state start
    obtain ⟨same, kept⟩ := ih (second request state).1 holding others
    simp only [hold, answered, same, true_and]
    exact kept

end UserDirectory.Database.Exchange
