import UserDirectory.Proofs.Service.Effect

/-!
What becomes of an operation when calls fail. The first call that fails ends it, with its own
failure and before anything is written; only a batch goes on, and counts the item as failed. So an
operation that fails leaves the store as it was.
-/

namespace UserDirectory

open Service Program

structure Told where
  call : Call
  reply : Except Failure call.Reply

def Told.undeleted? : Told → Option String
  | ⟨.delete id, .error _⟩ => some id.text
  | _ => none

namespace Program

def told (platform : Platform σ) : Program α → σ → List Told
  | done _, _ => []
  | fail _, _ => []
  | log _ rest, state => rest.told platform state
  | now rest, state =>
    match platform.now state with
    | (.ok instant, state) => (rest instant).told platform state
    | (.error _, _) => []
  | digest password rest, state =>
    let (result, state) := platform.digest password state
    (rest result).told platform state
  | verify password stored rest, state =>
    (rest (platform.verify password stored)).told platform state
  | call wanted rest, state =>
    let (reply, state) := platform.answer wanted state
    ⟨wanted, reply⟩ :: (rest reply).told platform state

variable {platform : Platform σ} {state : σ}

theorem told_calls {program : Program α} :
    (program.told platform state).map Told.call = (program.run platform state).calls := by
  induction program generalizing state with
  | done value => rfl
  | fail failure => rfl
  | log event rest ih => exact ih
  | now rest ih =>
    cases read : platform.now state with
    | mk reading after =>
      cases reading with
      | ok instant =>
        simp only [told, run, read]
        exact ih instant
      | error failure =>
        simp only [told, run, read]
        rfl
  | digest password rest ih => exact ih _
  | verify password stored rest ih => exact ih _
  | call wanted rest ih => exact congrArg (wanted :: ·) (ih _)

theorem told_bind {program : Program α} {next : α → Program β} :
    (program >>= next).told platform state =
      program.told platform state ++
        match program.eval platform state with
        | (.ok value, after) => (next value).told platform after
        | (.error _, _) => [] := by
  change (program.bind next).told platform state = _
  induction program generalizing state with
  | done value => rfl
  | fail failure => rfl
  | log event rest ih => exact ih
  | now rest ih =>
    cases read : platform.now state with
    | mk reading after =>
      cases reading with
      | ok instant =>
        simp only [eval, Program.bind, told, run, read]
        exact ih instant
      | error failure =>
        simp only [eval, Program.bind, told, run, read]
        rfl
  | digest password rest ih => exact ih _
  | verify password stored rest ih => exact ih _
  | call wanted rest ih => exact congrArg (_ :: ·) (ih _)

theorem told_bind_ok {program : Program α} {next : α → Program β} {value : α} {after : σ}
    (first : program.eval platform state = (.ok value, after)) :
    (program >>= next).told platform state =
      program.told platform state ++ (next value).told platform after := by
  rw [told_bind, first]

/-- Where a program asks, the call that fails is its last, and its failure is what the program comes
to. -/
theorem Asks.stops {allowed : Call → Prop} {program : Program α} (asks : program.Asks allowed)
    {earlier later : List Told} {wanted : Call} {failure : Failure}
    (failed : program.told platform state = earlier ++ ⟨wanted, .error failure⟩ :: later) :
    later = [] ∧ (program.run platform state).result = .error failure := by
  have unheard (earlier : List Told) : earlier ++ ⟨wanted, .error failure⟩ :: later ≠ [] :=
    List.append_ne_nil_of_right_ne_nil earlier (List.cons_ne_nil _ _)
  induction program generalizing state earlier with
  | done value => exact absurd failed.symm (unheard earlier)
  | fail failure => exact absurd failed.symm (unheard earlier)
  | log event rest ih => exact ih asks failed
  | now rest ih =>
    cases read : platform.now state with
    | mk reading after =>
      cases reading with
      | ok instant =>
        simp only [told, read] at failed
        simp only [run, read]
        exact ih instant (asks instant) failed
      | error broken =>
        simp only [told, read] at failed
        exact absurd failed.symm (unheard earlier)
  | digest password rest ih => exact ih _ (asks _) failed
  | verify password stored rest ih => exact ih _ (asks _) failed
  | call asked rest ih =>
    obtain ⟨-, ends, onward⟩ := asks
    cases earlier with
    | nil =>
      -- this is the call that failed, and only its failure is left of the program
      obtain ⟨first, rest_told⟩ := List.cons.inj failed
      obtain ⟨rfl, same⟩ := Told.mk.inj first
      have told : (platform.answer asked state).1 = .error failure := eq_of_heq same
      rw [told, ends failure] at rest_told
      refine ⟨rest_told.symm, ?_⟩
      simp only [run, told, ends failure]
    | cons first others =>
      -- a call that failed would have been the last, so this one was answered
      have further := (List.cons.inj failed).2
      cases told : (platform.answer asked state).1 with
      | ok reply =>
        rw [told] at further
        simp only [run, told]
        exact ih _ (onward reply) further
      | error broken =>
        rw [told, ends broken] at further
        exact absurd further.symm (unheard others)

end Program

def UserId.among (items : List String) : List UserId :=
  items.filterMap fun item => (ofText item).toOption

theorem UserId.among_cons (item : String) (rest : List String) :
    among (item :: rest) = (ofText item).toOption.toList ++ among rest := by
  rw [among, List.filterMap_cons]
  cases (ofText item).toOption with
  | none => rfl
  | some id => rfl

section Batch

variable {σ : Type} {platform : Platform σ} {supplies : Supplies} {hasher : Hasher}
  {memory : σ → Memory} (stands : platform.Over supplies hasher memory)
  (steady : ∀ number, supplies.instant number ≠ .error .outOfCalendar)
include stands steady

/-- An item is named in a call if it is an id, and is counted as failed where the call fails. -/
theorem deleteItem_told (item : String) (tally : Tally) (state : σ) :
    ∃ value after more, (deleteItem item tally).eval platform state = (.ok value, after) ∧
      value.failedItems = tally.failedItems ++ more ∧
      ((deleteItem item tally).told platform state).map Told.call =
        (UserId.ofText item).toOption.toList.map Call.delete ∧
      (((deleteItem item tally).told platform state).filterMap Told.undeleted?).Sublist more := by
  unfold deleteItem
  cases valid : UserId.ofText item with
  | error broken => exact ⟨tally.addFailure item, state, [item], rfl, rfl, rfl, List.nil_sublist _⟩
  | ok id =>
    obtain rfl := UserId.ofText_eq_ok.1 valid
    have gives := stands.answer (.delete id) state
    cases answered : platform.answer (.delete id) state with
    | mk reply after =>
      rw [answered] at gives
      simp only [eval, told, run, answered]
      cases reply with
      | ok found =>
        cases found with
        | true => exact ⟨tally.addSuccess, after, [], rfl, (List.append_nil _).symm, rfl, .slnil⟩
        | false =>
          exact ⟨tally.addFailure id.text, after, [id.text], rfl, rfl, rfl, List.nil_sublist _⟩
      | error failure =>
        have failed : failure ≠ .outOfCalendar := by
          rintro rfl
          obtain ⟨number, left⟩ := gives.delete_out_of_calendar rfl
          exact steady number left
        cases failure with
        | outOfCalendar => exact absurd rfl failed
        | _ => exact ⟨tally.addFailure id.text, after, [id.text], rfl, rfl, rfl, .refl [id.text]⟩

theorem deleteItems_told (items : List String) (tally : Tally) (state : σ) :
    ∃ value after more, (deleteItems items tally).eval platform state = (.ok value, after) ∧
      value.failedItems = tally.failedItems ++ more ∧
      ((deleteItems items tally).told platform state).map Told.call =
        (UserId.among items).map Call.delete ∧
      (((deleteItems items tally).told platform state).filterMap Told.undeleted?).Sublist more := by
  induction items generalizing tally state with
  | nil => exact ⟨tally, state, [], rfl, (List.append_nil _).symm, rfl, .slnil⟩
  | cons item rest ih =>
    obtain ⟨value, after, more, ended, counted, asked, failed⟩ :=
      deleteItem_told stands steady item tally state
    obtain ⟨value', after', more', ended', counted', asked', failed'⟩ := ih value after
    refine ⟨value', after', more ++ more', ?_, ?_, ?_, ?_⟩
    · exact (eval_bind_ok ended).trans ended'
    · rw [counted', counted, List.append_assoc]
    · rw [deleteItems, told_bind_ok ended, List.map_append, asked, asked', ← List.map_append,
        ← UserId.among_cons]
    · rw [deleteItems, told_bind_ok ended, List.filterMap_append]
      exact failed.append failed'

/-- A batch names every id in it, whatever fails, and comes to a tally. -/
theorem batchDeleteUsers_told (ids : List String) (state : σ) :
    ((batchDeleteUsers ids).run platform state).calls = (UserId.among ids).map Call.delete ∧
      (ids ≠ [] → ∃ tally, ((batchDeleteUsers ids).run platform state).result = .ok tally ∧
        (((batchDeleteUsers ids).told platform state).filterMap Told.undeleted?).Sublist
          tally.failedItems) := by
  cases ids with
  | nil => exact ⟨rfl, fun any => absurd rfl any⟩
  | cons item rest =>
    obtain ⟨tally, after, more, ended, counted, asked, failed⟩ :=
      deleteItems_told stands steady (item :: rest) {} state
    have heard : (batchDeleteUsers (item :: rest)).told platform state =
        (deleteItems (item :: rest) {}).told platform state :=
      (told_bind_ok ended).trans (List.append_nil _)
    refine ⟨told_calls.symm.trans (heard ▸ asked), fun _ => ⟨tally, ?_, ?_⟩⟩
    · exact congrArg Prod.fst (eval_bind_ok ended)
    · rw [heard, counted]
      exact failed

end Batch

/-- Whatever calls fail, or answer that nothing is there, and wherever the store, the ids and the
digests stand: an operation that fails has left every row as it was. A call that fails ends it, with
its own failure; but the calls of a batch name every id in it, and each that fails is counted. The
clock is taken to stay within the calendar. -/
theorem Operation.run_atomic (settings : Settings) (supplies : Supplies) (hasher : Hasher)
    (faults : List Fault) (steady : ∀ number, supplies.instant number ≠ .error .outOfCalendar)
    (state : Memory × List String) :
    let platform := (Memory.platform supplies hasher).withFaults faults
    (∀ operation : Operation,
      let outcome := (operation.program settings).run platform state
      let told := (operation.program settings).told platform state
      (∀ failure, outcome.result = .error failure → outcome.state.1.store = state.1.store) ∧
      told.map Told.call = outcome.calls ∧
      (operation.batches = false → ∀ earlier wanted failure later,
        told = earlier ++ ⟨wanted, .error failure⟩ :: later →
          later = [] ∧ outcome.result = .error failure)) ∧
    ∀ ids,
      let outcome := (Service.batchDeleteUsers ids).run platform state
      let told := (Service.batchDeleteUsers ids).told platform state
      outcome.calls = (UserId.among ids).map Call.delete ∧
      (ids ≠ [] → ∃ tally, outcome.result = .ok tally ∧
        (told.filterMap Told.undeleted?).Sublist tally.failedItems) := by
  intro platform
  have stands := Memory.withFaults_over supplies hasher faults
  constructor
  · intro operation outcome told
    refine ⟨fun failure failed => ?_, told_calls, ?_⟩
    · exact (operation.leads stands settings state rfl).kept steady failed
    · intro single earlier wanted failure later failed
      exact (Operation.asks settings single).stops failed
  · intro ids
    exact batchDeleteUsers_told stands steady ids state

theorem Operation.struck_atomic :
    (∀ number, Supplies.still.instant number ≠ .error .outOfCalendar) ∧
    let platform := (Memory.platform .still .plain).withFaults
      [⟨"find_by_id", 1, .error "down"⟩, ⟨"delete", 1, .error "down"⟩]
    let state : Memory × List String :=
      ({ store := Store.empty.put "u-2" (.ofNew .second { account := "alice" } .epoch) }, [])
    let switch := (Operation.changeUserStatus "u-2" 1 none).program .utc
    let batch := Service.batchDeleteUsers ["u-2", "u-2"]
    switch.told platform state = [⟨.findById .second, .error (.storage "down")⟩] ∧
    (switch.run platform state).result = .error (.storage "down") ∧
    (switch.run platform state).state.1.store = state.1.store ∧
    ∃ tally, (batch.run platform state).result = .ok tally ∧
      ((batch.told platform state).filterMap Told.undeleted?).Sublist tally.failedItems := by
  have steady (number : Nat) : Supplies.still.instant number ≠ .error .outOfCalendar := nofun
  refine ⟨steady, ?_⟩
  intro platform state switch batch
  have atomic := run_atomic .utc .still .plain
    [⟨"find_by_id", 1, .error "down"⟩, ⟨"delete", 1, .error "down"⟩] steady state
  have told : switch.told platform state = [⟨.findById .second, .error (.storage "down")⟩] := rfl
  obtain ⟨kept, -, stops⟩ := atomic.1 (.changeUserStatus "u-2" 1 none)
  have failed := (stops rfl [] _ _ [] told).2
  exact ⟨told, failed, kept _ failed, (atomic.2 ["u-2", "u-2"]).2 (List.cons_ne_nil _ _)⟩

end UserDirectory
