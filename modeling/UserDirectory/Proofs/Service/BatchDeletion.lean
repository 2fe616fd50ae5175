import UserDirectory.Proofs.Service.Failing
import UserDirectory.Proofs.Store.Rows

/-!
Batches of deletions. A batch is tried item by item, and nothing that happens to one item keeps it
from the next: what it counts, logs and leaves behind is put together of the trials. Where no call
fails an item is deleted at its first trial or never, so the order of the items does not matter.
-/

namespace UserDirectory

open Service Program

inductive Ending
  /-- The item is no id. -/
  | malformed (error : FieldError)
  /-- The call fails. -/
  | refused (id : UserId) (failure : Failure)
  /-- There is no live row. -/
  | missing (id : UserId)
  | deleted (id : UserId)

namespace Ending

def id? : Ending → Option UserId
  | malformed _ => none
  | refused id _ => some id
  | missing id => some id
  | deleted id => some id

def deleted? : Ending → Option UserId
  | deleted id => some id
  | _ => none

def told? : Ending → Option Told
  | malformed _ => none
  | refused id failure => some ⟨.delete id, (.error failure : Except Failure Bool)⟩
  | missing id => some ⟨.delete id, (.ok false : Except Failure Bool)⟩
  | deleted id => some ⟨.delete id, (.ok true : Except Failure Bool)⟩

end Ending

structure Trial where
  item : String
  before : Memory
  ending : Ending

def Store.finds (store : Store) (item : String) : Bool :=
  (UserId.ofText item).toOption.any fun id => (store.liveRow? id).isSome

namespace Trial

def failed (trial : Trial) : Bool := trial.ending.deleted?.isNone

/-- Ends as the item and the memory have it, but for a call that fails, as it may. -/
def Sound (mayFail : Failure → Prop) (trial : Trial) : Prop :=
  match trial.ending with
  | .malformed error => UserId.ofText trial.item = .error error
  | .refused id failure => trial.item = id.text ∧ mayFail failure
  | .missing id => trial.item = id.text ∧ trial.before.store.liveRow? id = none
  | .deleted id => trial.item = id.text ∧ trial.before.store.liveRow? id ≠ none

def after (supplies : Supplies) (trial : Trial) : Memory :=
  match trial.ending.deleted? with
  | some id => (trial.before.delete supplies id).2
  | none => trial.before

def warning? (trial : Trial) : Option Event :=
  let warning (failure : Failure) : Event := ⟨.warn, "Batch delete failed for user",
    [("user_id", .text trial.item), ("error", .text failure.message)]⟩
  match trial.ending with
  | .malformed error => some (warning error.failure)
  | .refused _ failure => some (warning failure)
  | .missing _ => some
    ⟨.warn, "Batch delete skipped missing user", [("user_id", .text trial.item)]⟩
  | .deleted _ => none

inductive Linked (supplies : Supplies) (mayFail : Failure → Prop) :
    Memory → List Trial → Memory → Prop
  | nil (memory : Memory) : Linked supplies mayFail memory [] memory
  | cons (trial : Trial) (trials : List Trial) (final : Memory) (sound : trial.Sound mayFail)
      (rest : Linked supplies mayFail (trial.after supplies) trials final) :
      Linked supplies mayFail trial.before (trial :: trials) final

end Trial

def Tally.record (tally : Tally) (trial : Trial) : Tally :=
  if trial.failed then tally.addFailure trial.item else tally.addSuccess

/-- A deletion is answered from the memory, or fails without reaching it. -/
def Platform.Deletes (platform : Platform σ) (supplies : Supplies) (memory : σ → Memory)
    (mayFail : Failure → Prop) : Prop :=
  ∀ id state,
    let (reply, after) := platform.answer (.delete id) state
    (∃ failure, mayFail failure ∧ reply = .error failure ∧ memory after = memory state) ∨
      ∃ found : Bool, (memory state).delete supplies id = (.ok found, memory after) ∧
        reply = .ok found

namespace Memory

variable {supplies : Supplies}

theorem delete_ok {memory after : Memory} {id : UserId} {found : Bool}
    (answered : memory.delete supplies id = (.ok found, after)) :
    found = (memory.store.liveRow? id).isSome ∧ (found = false → after = memory) ∧
      ∀ other, after.store.liveRow? other =
        if other.text = id.text then none else memory.store.liveRow? other := by
  cases there : memory.store.liveRow? id with
  | none =>
    simp only [delete, alter, there] at answered
    cases answered
    refine ⟨rfl, fun _ => rfl, fun other => ?_⟩
    split
    next same => rw [UserId.text_injective same, there]
    next => rfl
  | some row =>
    simp only [delete, alter, there] at answered
    cases read : supplies.instant memory.usage.instants with
    | error failure =>
      simp only [readInstant, Usage.readInstant, read] at answered
      cases answered
    | ok now =>
      simp only [readInstant, Usage.readInstant, read] at answered
      cases answered
      refine ⟨rfl, fun missing => absurd missing.symm Bool.false_ne_true, fun other => ?_⟩
      split
      next same =>
        rw [UserId.text_injective same]
        exact Store.liveRow?_put_deleted (Option.some_ne_none now)
      next elsewhere => exact Store.liveRow?_put_elsewhere elsewhere _

section Ticking

variable (ticks : ∀ number, ∃ now, supplies.instant number = .ok now)
include ticks

theorem delete_answered (memory : Memory) (wanted : UserId) :
    ∃ found : Bool, (memory.delete supplies wanted).1 = .ok found := by
  obtain ⟨now, read⟩ := ticks memory.usage.instants
  cases there : memory.store.liveRow? wanted with
  | none =>
    simp only [delete, alter, there]
    exact ⟨false, rfl⟩
  | some row =>
    simp only [delete, alter, there, readInstant, Usage.readInstant, read]
    exact ⟨true, rfl⟩

theorem platform_deletes (hasher : Hasher) :
    (platform supplies hasher).Deletes supplies id fun _ => False := by
  intro wanted memory
  obtain ⟨found, answered⟩ := delete_answered ticks memory wanted
  exact .inr ⟨found, Prod.ext answered rfl, answered⟩

theorem withFaults_deletes (hasher : Hasher) {faults : List Fault}
    (errors : ∀ fault ∈ faults, ∃ message, fault.effect = .error message) :
    ((platform supplies hasher).withFaults faults).Deletes supplies Prod.fst
      (· ≠ .outOfCalendar) := by
  intro wanted state
  simp only [Platform.withFaults]
  split
  next spared =>
    obtain ⟨found, answered⟩ := delete_answered ticks state.1 wanted
    exact .inr ⟨found, Prod.ext answered rfl, answered⟩
  next fault struck =>
    obtain ⟨message, effect⟩ := errors fault (List.mem_of_find?_eq_some struck)
    rw [effect]
    have told : Failure.storage message ≠ .outOfCalendar := Failure.noConfusion
    exact .inl ⟨.storage message, told, rfl, rfl⟩

end Ticking

end Memory

/-- A program goes through a batch: the trials follow one another, and tell what it counts, calls
and logs. -/
structure Program.Tries (platform : Platform σ) (supplies : Supplies) (memory : σ → Memory)
    (mayFail : Failure → Prop) (program : Program Tally) (tally : Tally) (state : σ)
    (trials : List Trial) : Prop where
  linked : Trial.Linked supplies mayFail (memory state) trials
    (memory (program.run platform state).state)
  result : (program.run platform state).result = .ok (trials.foldl Tally.record tally)
  told : program.told platform state = trials.filterMap fun trial => trial.ending.told?
  events : (program.run platform state).events = trials.filterMap Trial.warning?

namespace Trial

variable {supplies : Supplies} {mayFail : Failure → Prop}

theorem Linked.single {trial : Trial} {start final : Memory} (begun : trial.before = start)
    (sound : trial.Sound mayFail) (ended : final = trial.after supplies) :
    Linked supplies mayFail start [trial] final := by
  subst begun ended
  exact .cons trial [] _ sound (.nil _)

theorem Linked.append {start middle final : Memory} {trials further : List Trial}
    (first : Linked supplies mayFail start trials middle)
    (second : Linked supplies mayFail middle further final) :
    Linked supplies mayFail start (trials ++ further) final := by
  induction first with
  | nil memory => exact second
  | cons trial trials _ sound _ ih => exact .cons trial _ final sound (ih second)

end Trial

section Tries

variable {σ : Type} {platform : Platform σ} {supplies : Supplies} {memory : σ → Memory}
  {mayFail : Failure → Prop}

theorem Program.Tries.bind {program : Program Tally} {next : Tally → Program Tally} {tally : Tally}
    {state : σ} {trials further : List Trial}
    (first : program.Tries platform supplies memory mayFail tally state trials)
    (second : (next (trials.foldl Tally.record tally)).Tries platform supplies memory mayFail
      (trials.foldl Tally.record tally) (program.run platform state).state further) :
    (program >>= next).Tries platform supplies memory mayFail tally state (trials ++ further) := by
  have ended : program.eval platform state =
      (.ok (trials.foldl Tally.record tally), (program.run platform state).state) :=
    congrArg (·, _) first.result
  have onward : (program >>= next).eval platform state = _ := eval_bind_ok ended
  constructor
  · have left : ((program >>= next).run platform state).state = _ := congrArg Prod.snd onward
    rw [left]
    exact first.linked.append second.linked
  · rw [List.foldl_append]
    exact (congrArg Prod.fst onward).trans second.result
  · rw [told_bind_ok ended, first.told, second.told, List.filterMap_append]
  · rw [events_bind, ended, List.filterMap_append, first.events]
    exact congrArg (_ ++ ·) second.events

theorem Program.Tries.called {id : UserId} {next : Except Failure Bool → Program Tally}
    {tally : Tally} {state after : σ} {reply : Except Failure Bool} {trial : Trial}
    (answered : platform.answer (.delete id) state = (reply, after))
    (linked : Trial.Linked supplies mayFail (memory state) [trial] (memory after))
    (told : trial.ending.told? = some ⟨.delete id, reply⟩)
    (ends : (next reply).run platform after =
      ⟨.ok (tally.record trial), after, [], trial.warning?.toList⟩)
    (quiet : (next reply).told platform after = []) :
    (call (.delete id) next).Tries platform supplies memory mayFail tally state [trial] := by
  constructor
  · simp only [run, answered, ends]
    exact linked
  · simp only [run, answered, ends]
    rfl
  · simp only [Program.told, answered, quiet, List.filterMap_cons, told]
    rfl
  · simp only [run, answered, ends, List.filterMap_cons]
    cases trial.warning? <;> rfl

variable (deletes : platform.Deletes supplies memory mayFail) (stays : ¬mayFail .outOfCalendar)
include deletes stays

theorem deleteItem_tries (item : String) (tally : Tally) (state : σ) :
    ∃ trial : Trial, trial.item = item ∧
      (deleteItem item tally).Tries platform supplies memory mayFail tally state [trial] := by
  unfold deleteItem
  cases valid : UserId.ofText item with
  | error error =>
    exact ⟨⟨item, memory state, .malformed error⟩, rfl, .single rfl valid rfl, rfl, rfl, rfl⟩
  | ok id =>
    obtain rfl := UserId.ofText_eq_ok.1 valid
    have ends := deletes id state
    cases answered : platform.answer (.delete id) state with
    | mk reply after =>
      rw [answered] at ends
      rcases ends with ⟨failure, may, rfl, kept⟩ | ⟨found, deleted, rfl⟩
      · refine ⟨⟨id.text, memory state, .refused id failure⟩, rfl, ?_⟩
        have linked : Trial.Linked supplies mayFail (memory state)
            [⟨id.text, memory state, .refused id failure⟩] (memory after) :=
          .single rfl ⟨rfl, may⟩ kept
        cases failure with
        | outOfCalendar => exact absurd may stays
        | _ => exact .called answered linked rfl rfl rfl
      · obtain ⟨live, untouched, -⟩ := Memory.delete_ok deleted
        cases found with
        | true =>
          have there : (memory state).store.liveRow? id ≠ none :=
            Option.isSome_iff_ne_none.1 live.symm
          exact ⟨⟨id.text, memory state, .deleted id⟩, rfl,
            .called answered (.single rfl ⟨rfl, there⟩ (congrArg Prod.snd deleted).symm)
              rfl rfl rfl⟩
        | false =>
          have nowhere : (memory state).store.liveRow? id = none :=
            Option.not_isSome_iff_eq_none.1 (Bool.eq_false_iff.1 live.symm)
          exact ⟨⟨id.text, memory state, .missing id⟩, rfl,
            .called answered (.single rfl ⟨rfl, nowhere⟩ (untouched rfl)) rfl rfl rfl⟩

theorem deleteItems_tries (items : List String) (tally : Tally) (state : σ) :
    ∃ trials : List Trial, trials.map Trial.item = items ∧
      (deleteItems items tally).Tries platform supplies memory mayFail tally state trials := by
  induction items generalizing tally state with
  | nil => exact ⟨[], rfl, .nil _, rfl, rfl, rfl⟩
  | cons item rest ih =>
    obtain ⟨trial, rfl, first⟩ := deleteItem_tries deletes stays item tally state
    obtain ⟨trials, rfl, second⟩ := ih _ _
    exact ⟨trial :: trials, rfl, first.bind second⟩

end Tries

theorem Tally.foldl_record (tally : Tally) (trials : List Trial) :
    trials.foldl record tally =
      { succeeded := tally.succeeded + trials.countP fun trial => ¬trial.failed
        failed := tally.failed + trials.countP Trial.failed
        failedItems := tally.failedItems ++ (trials.filter Trial.failed).map Trial.item } := by
  induction trials generalizing tally with
  | nil => simp
  | cons trial trials ih =>
    rw [List.foldl_cons, ih]
    cases failed : trial.failed <;>
      simp [record, failed, addFailure, addSuccess, Nat.add_assoc, Nat.add_comm 1]

namespace Trial

section Linked

variable {supplies : Supplies} {mayFail : Failure → Prop} {start final : Memory}
  {trials : List Trial}

/-- The memory is left as by the deletions alone that succeeded. -/
theorem Linked.final_eq (linked : Linked supplies mayFail start trials final) :
    final = (trials.filterMap fun trial => trial.ending.deleted?).foldl
      (fun memory id => (memory.delete supplies id).2) start := by
  induction linked with
  | nil memory => rfl
  | cons trial trials final _ _ ih =>
    rw [ih, List.filterMap_cons, after]
    cases trial.ending.deleted? <;> rfl

theorem Sound.id? {trial : Trial} (sound : trial.Sound mayFail) :
    (UserId.ofText trial.item).toOption = trial.ending.id? := by
  obtain ⟨item, before, ending⟩ := trial
  cases ending with
  | malformed error => exact congrArg Except.toOption sound
  | refused id failure => exact congrArg Except.toOption (UserId.ofText_eq_ok.2 sound.1)
  | missing id => exact congrArg Except.toOption (UserId.ofText_eq_ok.2 sound.1)
  | deleted id => exact congrArg Except.toOption (UserId.ofText_eq_ok.2 sound.1)

theorem Linked.calls (linked : Linked supplies mayFail start trials final) :
    (trials.filterMap fun trial => trial.ending.told?).map Told.call =
      (UserId.among (trials.map item)).map Call.delete := by
  induction linked with
  | nil memory => rfl
  | cons trial trials final sound _ ih =>
    rw [List.map_cons, UserId.among_cons, sound.id?, List.map_append, ← ih, List.filterMap_cons]
    cases trial.ending <;> rfl

end Linked

theorem warnings_name (trials : List Trial) :
    (trials.filterMap warning?).map (fun event => (event.level, event.fields.lookup "user_id")) =
      ((trials.filter failed).map item).map fun item => (.warn, some (.text item)) := by
  induction trials with
  | nil => rfl
  | cons trial trials ih =>
    obtain ⟨item, before, ending⟩ := trial
    cases ending with
    | malformed error => exact congrArg (_ :: ·) ih
    | refused id failure => exact congrArg (_ :: ·) ih
    | missing id => exact congrArg (_ :: ·) ih
    | deleted id => exact ih

section Answered

variable {supplies : Supplies} (ticks : ∀ number, ∃ now, supplies.instant number = .ok now)
include ticks

theorem Sound.liveRow?_after {trial : Trial} (sound : trial.Sound fun _ => False) (id : UserId) :
    (trial.after supplies).store.liveRow? id =
      if id.text = trial.item then none else trial.before.store.liveRow? id := by
  obtain ⟨item, before, ending⟩ := trial
  cases ending with
  | malformed error =>
    refine (if_neg ?_).symm
    rintro rfl
    have valid := UserId.ofText_eq_ok.2 (Eq.refl id.text)
    cases valid.symm.trans sound
  | refused known failure => exact sound.2.elim
  | missing known =>
    obtain ⟨rfl, nowhere⟩ := sound
    dsimp only [after, Ending.deleted?]
    split
    next same => rw [UserId.text_injective same, nowhere]
    next => rfl
  | deleted known =>
    obtain ⟨rfl, -⟩ := sound
    obtain ⟨found, answered⟩ := Memory.delete_answered ticks before known
    exact (Memory.delete_ok (Prod.ext answered rfl)).2.2 id

theorem Sound.finds_after {trial : Trial} (sound : trial.Sound fun _ => False) (item : String) :
    (trial.after supplies).store.finds item =
      if item = trial.item then false else trial.before.store.finds item := by
  unfold Store.finds
  cases valid : UserId.ofText item with
  | error error => exact (ite_self false).symm
  | ok id =>
    obtain rfl := UserId.ofText_eq_ok.1 valid
    dsimp only [Except.toOption, Option.any_some]
    rw [sound.liveRow?_after ticks id]
    split <;> rfl

/-- No item of the batch is live at the end, and nothing else has changed. -/
theorem Linked.liveRow?_final {start final : Memory} {trials : List Trial}
    (linked : Linked supplies (fun _ => False) start trials final) (id : UserId) :
    final.store.liveRow? id =
      if id.text ∈ trials.map item then none else start.store.liveRow? id := by
  induction linked with
  | nil memory => rfl
  | cons trial trials final sound _ ih =>
    rw [ih, sound.liveRow?_after ticks id, List.map_cons]
    by_cases here : id.text = trial.item
    · rw [if_pos here, ite_self, if_pos (here ▸ List.mem_cons_self)]
    · simp only [List.mem_cons, here, false_or, if_false]

omit ticks in
theorem Sound.failed_eq {trial : Trial} (sound : trial.Sound fun _ => False) :
    trial.failed = !trial.before.store.finds trial.item := by
  rw [Store.finds, sound.id?]
  obtain ⟨item, before, ending⟩ := trial
  cases ending with
  | malformed error => rfl
  | refused id failure => exact sound.2.elim
  | missing id =>
    have nowhere : before.store.liveRow? id = none := sound.2
    simp only [failed, Ending.deleted?, Ending.id?, Option.any_some, nowhere]
    rfl
  | deleted id =>
    have there : (before.store.liveRow? id).isSome = true := Option.isSome_iff_ne_none.2 sound.2
    simp only [failed, Ending.deleted?, Ending.id?, Option.any_some, there]
    rfl

/-- However often an item is listed, it fails every time but one, and that time too unless a row is
live under it at the start. -/
theorem Linked.count_failed {start final : Memory} {trials : List Trial}
    (linked : Linked supplies (fun _ => False) start trials final) (name : String) :
    ((trials.filter failed).map item).count name +
        (if name ∈ trials.map item ∧ start.store.finds name = true then 1 else 0) =
      (trials.map item).count name := by
  induction linked with
  | nil memory => rfl
  | cons trial trials final sound _ ih =>
    rw [sound.finds_after ticks] at ih
    rw [List.filter_cons, sound.failed_eq, List.map_cons, List.count_cons, ← ih]
    by_cases here : name = trial.item
    · subst here
      cases trial.before.store.finds trial.item with
      | true => simp
      | false => simp
    · have elsewhere : trial.item ≠ name := fun same => here same.symm
      cases trial.before.store.finds trial.item with
      | true => simp [here, elsewhere]
      | false => simp [here, elsewhere, List.count_cons_of_ne]

end Answered

end Trial

theorem Tally.foldl_record_total (trials : List Trial) :
    let tally := trials.foldl record {}
    tally.succeeded + tally.failed = trials.length ∧ tally.failed = tally.failedItems.length ∧
      tally.failedItems = (trials.filter Trial.failed).map Trial.item := by
  intro tally
  have counted : tally = _ := foldl_record {} trials
  simp only [Nat.zero_add, List.nil_append] at counted
  rw [counted]
  refine ⟨?_, ?_, rfl⟩
  · rw [List.length_eq_countP_add_countP Trial.failed, Nat.add_comm]
  · exact List.countP_eq_length_filter.trans (List.length_map _).symm

theorem Service.deleteItems_counts {supplies : Supplies}
    (ticks : ∀ number, ∃ now, supplies.instant number = .ok now) (hasher : Hasher)
    (items : List String) (memory : Memory) :
    let outcome := (deleteItems items {}).run (Memory.platform supplies hasher) memory
    ∃ tally, outcome.result = .ok tally ∧ tally.succeeded + tally.failed = items.length ∧
      tally.failed = tally.failedItems.length ∧
      (∀ name, tally.failedItems.count name +
        (if name ∈ items ∧ memory.store.finds name = true then 1 else 0) = items.count name) ∧
      ∀ id, outcome.state.store.liveRow? id =
        if id.text ∈ items then none else memory.store.liveRow? id := by
  obtain ⟨trials, rfl, tries⟩ :=
    deleteItems_tries (Memory.platform_deletes ticks hasher) not_false items {} memory
  obtain ⟨total, failures, listed⟩ := Tally.foldl_record_total trials
  refine ⟨_, tries.result, ?_, failures, fun name => ?_, tries.linked.liveRow?_final ticks⟩
  · rw [total, List.length_map]
  · rw [listed]
    exact tries.linked.count_failed ticks name

/-- Whichever deletions fail, and with whatever failure, a batch goes on to its end. Each item that
is an id is called for in its turn. Each item is counted once: as deleted where a row was live under
it at that moment and the call did not fail, and else as failed; then it is listed, and one warning
names it. The rows are left as by the deletions alone that succeeded. Where no call fails, the order
of the items matters neither to the counts nor to which items are listed nor to which rows stay
live, and no item succeeds twice. -/
theorem Service.deleteItems_accounted {σ : Type} (platform : Platform σ) (supplies : Supplies)
    (hasher : Hasher) (memory : σ → Memory)
    (ticks : ∀ number, ∃ now, supplies.instant number = .ok now)
    (deletes : platform.Deletes supplies memory (· ≠ .outOfCalendar)) (items : List String)
    (state : σ) :
    let outcome := (deleteItems items {}).run platform state
    (∃ trials tally, trials.map Trial.item = items ∧
      Trial.Linked supplies (· ≠ .outOfCalendar) (memory state) trials (memory outcome.state) ∧
      (deleteItems items {}).told platform state =
        trials.filterMap (fun trial => trial.ending.told?) ∧
      outcome.calls = (UserId.among items).map Call.delete ∧
      outcome.events = trials.filterMap Trial.warning? ∧
      outcome.events.map (fun event => (event.level, event.fields.lookup "user_id")) =
        tally.failedItems.map (fun item => (.warn, some (.text item))) ∧
      outcome.result = .ok tally ∧
      tally.succeeded + tally.failed = items.length ∧
      tally.failed = tally.failedItems.length ∧
      tally.failedItems = (trials.filter Trial.failed).map Trial.item ∧
      memory outcome.state = (trials.filterMap fun trial => trial.ending.deleted?).foldl
        (fun memory id => (memory.delete supplies id).2) (memory state)) ∧
    ∀ others, items.Perm others →
      let first := (deleteItems items {}).run (Memory.platform supplies hasher) (memory state)
      let second := (deleteItems others {}).run (Memory.platform supplies hasher) (memory state)
      ∃ x y, first.result = .ok x ∧ second.result = .ok y ∧
        x.succeeded = y.succeeded ∧ x.failed = y.failed ∧ x.failedItems.Perm y.failedItems ∧
        (∀ id, first.state.store.liveRow? id =
          if id.text ∈ items then none else (memory state).store.liveRow? id) ∧
        (∀ id, second.state.store.liveRow? id = first.state.store.liveRow? id) ∧
        ∀ name, items.count name ≤ x.failedItems.count name + 1 := by
  intro outcome
  constructor
  · obtain ⟨trials, rfl, tries⟩ := deleteItems_tries deletes (fun may => may rfl) items {} state
    obtain ⟨total, failures, listed⟩ := Tally.foldl_record_total trials
    refine ⟨trials, _, rfl, tries.linked, tries.told, ?_, tries.events, ?_, tries.result, ?_,
      failures, listed, tries.linked.final_eq⟩
    · rw [← told_calls, tries.told, tries.linked.calls]
    · rw [tries.events, listed]
      exact Trial.warnings_name trials
    · rw [total, List.length_map]
  · intro others perm first second
    obtain ⟨x, ended, total, failures, counted, left⟩ :=
      deleteItems_counts ticks hasher items (memory state)
    obtain ⟨y, ended', total', failures', counted', left'⟩ :=
      deleteItems_counts ticks hasher others (memory state)
    have same : x.failedItems.Perm y.failedItems := by
      refine List.perm_iff_count.2 fun name => ?_
      have here := counted name
      have there := counted' name
      simp only [← perm.count_eq name, ← perm.mem_iff] at there
      omega
    have lengths := same.length_eq
    have sizes := perm.length_eq
    refine ⟨x, y, ended, ended', by omega, by omega, same, left, fun id => ?_, fun name => ?_⟩
    · simp only [left', left, first, second, perm.mem_iff]
    · have here := counted name
      split at here <;> omega

theorem Service.struck_batch_accounted :
    let platform := (Memory.platform .still .plain).withFaults [⟨"delete", 1, .error "down"⟩]
    let state : Memory × List String :=
      ({ store := Store.empty.put "u-2" (.ofNew .second { account := "bob" } .epoch) }, [])
    let items := ["u-2", "", "u-2", "u-2"]
    (∀ number, ∃ now, Supplies.still.instant number = .ok now) ∧
    platform.Deletes .still Prod.fst (· ≠ .outOfCalendar) ∧
    let outcome := (deleteItems items {}).run platform state
    ∃ trials, trials.map Trial.item = items ∧
      Trial.Linked .still (· ≠ .outOfCalendar) state.1 trials outcome.state.1 ∧
      outcome.events = trials.filterMap Trial.warning? ∧
      outcome.result = .ok ⟨1, 3, ["u-2", "", "u-2"]⟩ ∧
      (trials.filter Trial.failed).map Trial.item = ["u-2", "", "u-2"] := by
  intro platform state items
  have ticks (number : Nat) : ∃ now, Supplies.still.instant number = .ok now := ⟨_, rfl⟩
  have deletes : platform.Deletes .still Prod.fst (· ≠ .outOfCalendar) :=
    Memory.withFaults_deletes ticks .plain fun fault member =>
      ⟨"down", by rw [List.mem_singleton.1 member]⟩
  refine ⟨ticks, deletes, ?_⟩
  obtain ⟨⟨trials, tally, tried, linked, -, -, logged, -, ended, -, -, listed, -⟩, -⟩ :=
    deleteItems_accounted platform .still .plain Prod.fst ticks deletes items state
  obtain rfl : ⟨1, 3, ["u-2", "", "u-2"]⟩ = tally := Except.ok.inj ended
  exact ⟨trials, tried, linked, logged, ended, listed.symm⟩

end UserDirectory
