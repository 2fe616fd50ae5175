import UserDirectory.Proofs.Service.Run
import UserDirectory.Proofs.Store.Change

/-!
Platforms over a store in memory on which a call may fail to reach the store. What each writing call
can give there is told once. `Program.Leads` says what a program makes of a store, whatever else the
platform keeps; its rules follow an operation from check to check, to the one call that writes.
-/

namespace UserDirectory

open Service Program

/-- What a call can give, and the memory that it leaves: it is answered, or a fault keeps it from
the store. -/
inductive Memory.Gives (supplies : Supplies) (memory : Memory) (wanted : Call) :
    Except Failure wanted.Reply → Memory → Prop
  | answered : Gives supplies memory wanted (memory.answer supplies wanted).1
      (memory.answer supplies wanted).2
  | failed (message : String) : Gives supplies memory wanted (.error (.storage message)) memory
  | missed (reply : wanted.Reply) (nothing : wanted.nothing? = some reply) :
      Gives supplies memory wanted (.ok reply) memory

/-- A platform whose state holds a memory, with the supplies and the digests given. -/
structure Platform.Over (platform : Platform σ) (supplies : Supplies) (hasher : Hasher)
    (memory : σ → Memory) : Prop where
  now : ∀ state, (memory (platform.now state).2).store = (memory state).store
  digest : ∀ password state,
    (∃ number, (platform.digest password state).1 = hasher.hash number password) ∧
      (memory (platform.digest password state).2).store = (memory state).store
  answer : ∀ wanted state, (memory state).Gives supplies wanted (platform.answer wanted state).1
    (memory (platform.answer wanted state).2)

theorem Memory.platform_over (supplies : Supplies) (hasher : Hasher) :
    (Memory.platform supplies hasher).Over supplies hasher id where
  now _ := rfl
  digest _ state := ⟨⟨state.usage.digests, rfl⟩, rfl⟩
  answer _ _ := .answered

theorem Memory.withFaults_over (supplies : Supplies) (hasher : Hasher) (faults : List Fault) :
    ((Memory.platform supplies hasher).withFaults faults).Over supplies hasher Prod.fst where
  now _ := rfl
  digest _ state := ⟨⟨state.1.usage.digests, rfl⟩, rfl⟩
  answer wanted state := by
    simp only [Platform.withFaults]
    split
    next spared => exact .answered
    next fault struck =>
      split
      next message _ => exact .failed message
      next reply _ nothing => exact .missed reply nothing
      next => exact .answered

namespace Memory

variable {supplies : Supplies} {memory after : Memory}

/-- A call that does not write leaves the store alone, whatever it gives. -/
theorem Gives.reads {wanted : Call} {reply : Except Failure wanted.Reply}
    (gives : memory.Gives supplies wanted reply after) (reads : wanted.writes = false) :
    after.store = memory.store := by
  cases gives with
  | answered => exact congrArg Memory.store (answer_reads supplies memory reads)
  | failed message => rfl
  | missed reply nothing => rfl

theorem Gives.save {new : NewUser} {reply : Except Failure (Call.save new).Reply}
    (gives : memory.Gives supplies (.save new) reply after) :
    (∃ failure, reply = .error failure ∧ after.store = memory.store) ∨
    ∃ id now, memory.store.conflict? none new.claimed = none ∧ memory.store.row? id = none ∧
      reply = .ok (User.ofNew id new now) ∧
      after.store = memory.store.put id.text (User.ofNew id new now) := by
  cases gives with
  | answered =>
    rcases save_cases supplies memory new with refused | ⟨id, now, -, -, free, fresh, added⟩
    · exact .inl refused
    · exact .inr ⟨id, now, free, fresh, added⟩
  | failed message => exact .inl ⟨.storage message, rfl, rfl⟩
  | missed reply nothing => cases nothing

theorem Gives.update {patch : Patch} {reply : Except Failure (Call.update patch).Reply}
    (gives : memory.Gives supplies (.update patch) reply after) :
    (reply = .ok (none : Option User) ∧ after.store = memory.store) ∨
    (∃ failure, reply = .error failure ∧ after.store = memory.store) ∨
    ∃ row now, memory.store.liveRow? patch.id = some row ∧
      memory.store.conflict? (some patch.id) patch.claimed = none ∧
      reply = .ok (some (patch.apply row now)) ∧
      after.store = memory.store.put patch.id.text (patch.apply row now) := by
  cases gives with
  | answered =>
    rcases update_cases supplies memory patch with
        ⟨missing, kept, -⟩ | refused | ⟨row, now, found, -, free, changed⟩
    · exact .inl ⟨missing, kept⟩
    · exact .inr (.inl refused)
    · exact .inr (.inr ⟨row, now, found, free, changed⟩)
  | failed message => exact .inr (.inl ⟨.storage message, rfl, rfl⟩)
  | missed reply nothing =>
    obtain rfl := Option.some.inj nothing
    exact .inl ⟨rfl, rfl⟩

def Alters (store : Store) (id : UserId) (change : User → Instant → User)
    (reply : Except Failure Bool) (after : Store) : Prop :=
  (reply = .ok false ∧ after = store) ∨
  (∃ failure, reply = .error failure ∧ after = store) ∨
  ∃ row now, store.liveRow? id = some row ∧ reply = .ok true ∧
    after = store.put id.text (change row now)

theorem alter_alters (supplies : Supplies) (memory : Memory) (id : UserId)
    (change : User → Instant → User) :
    Alters memory.store id change ((memory.alter supplies id change).1.map Option.isSome)
      (memory.alter supplies id change).2.store := by
  rcases alter_cases supplies memory id change with
      ⟨missing, kept, -⟩ | ⟨failure, failed, kept⟩ | ⟨row, now, found, -, changed, written⟩
  · exact .inl ⟨congrArg (Except.map Option.isSome) missing, kept⟩
  · exact .inr (.inl ⟨failure, congrArg (Except.map Option.isSome) failed, kept⟩)
  · exact .inr (.inr ⟨row, now, found, congrArg (Except.map Option.isSome) changed, written⟩)

theorem Gives.delete {id : UserId} {reply : Except Failure (Call.delete id).Reply}
    (gives : memory.Gives supplies (.delete id) reply after) :
    Alters memory.store id (fun row now => { row with deletedAt := some now }) reply
      after.store := by
  cases gives with
  | answered => exact alter_alters supplies memory id _
  | failed message => exact .inr (.inl ⟨.storage message, rfl, rfl⟩)
  | missed reply nothing =>
    obtain rfl := Option.some.inj nothing
    exact .inl ⟨rfl, rfl⟩

theorem Gives.changeStatus {id : UserId} {status : Status} {updateBy : Option String}
    {reply : Except Failure (Call.changeStatus id status updateBy).Reply}
    (gives : memory.Gives supplies (.changeStatus id status updateBy) reply after) :
    Alters memory.store id (fun row now =>
      { row with status, updateBy := updateBy <|> row.updateBy, updatedAt := now }) reply
      after.store := by
  cases gives with
  | answered => exact alter_alters supplies memory id _
  | failed message => exact .inr (.inl ⟨.storage message, rfl, rfl⟩)
  | missed reply nothing =>
    obtain rfl := Option.some.inj nothing
    exact .inl ⟨rfl, rfl⟩

theorem Gives.delete_out_of_calendar {id : UserId} {reply : Except Failure (Call.delete id).Reply}
    (gives : memory.Gives supplies (.delete id) reply after)
    (left : reply = .error .outOfCalendar) :
    ∃ number, supplies.instant number = .error .outOfCalendar := by
  cases gives with
  | answered =>
    refine ⟨memory.usage.instants, ?_⟩
    simp only [Memory.answer, Memory.delete, Memory.alter] at left
    split at left
    next missing => cases left
    next row found =>
      simp only [readInstant, Usage.readInstant] at left
      cases read : supplies.instant memory.usage.instants with
      | error failure =>
        rw [read] at left
        exact congrArg Except.error (Except.error.inj left)
      | ok now =>
        rw [read] at left
        cases left
  | failed message => cases left
  | missed reply nothing => cases left

end Memory

/-- Wherever the platform stands, over the store `before` the program comes to a result, and leaves
a store, that are `allowed` together. -/
def Program.Leads (platform : Platform σ) (memory : σ → Memory) (program : Program α)
    (before : Store) (allowed : Except Failure α → Store → Prop) : Prop :=
  ∀ state, (memory state).store = before →
    allowed (program.eval platform state).1 (memory (program.eval platform state).2).store

namespace Program

variable {platform : Platform σ} {memory : σ → Memory} {before : Store}
  {allowed : Except Failure β → Store → Prop}

theorem leads_done {value : β} (may : allowed (.ok value) before) :
    (done value).Leads platform memory before allowed := by
  rintro state rfl
  exact may

theorem leads_fail {failure : Failure} (may : allowed (.error failure) before) :
    (fail failure).Leads platform memory before allowed := by
  rintro state rfl
  exact may

theorem leads_event {level : Level} {message : String} {fields : List (String × EventValue)}
    {next : Unit → Program β} (onward : (next ()).Leads platform memory before allowed) :
    (event level message fields >>= next).Leads platform memory before allowed := onward

theorem Leads.bind {program : Program α} {next : α → Program β}
    {first : Except Failure α → Store → Prop}
    (leads : program.Leads platform memory before first)
    (onward : ∀ value after, first (.ok value) after →
      (next value).Leads platform memory after allowed)
    (failed : ∀ failure after, first (.error failure) after → allowed (.error failure) after) :
    (program >>= next).Leads platform memory before allowed := by
  intro state kept
  have led := leads state kept
  rw [eval_bind]
  cases ended : program.eval platform state with
  | mk result after =>
    rw [ended] at led
    cases result with
    | ok value => exact onward value _ led after rfl
    | error failure => exact failed failure _ led

/-- Where the program may be refused as long as nothing is written, a check may come first. -/
theorem Leads.required {checked : Except FieldError α} {next : α → Program β}
    (refused : ∀ failure, allowed (.error failure) before)
    (onward : ∀ value, checked = .ok value → (next value).Leads platform memory before allowed) :
    (require checked >>= next).Leads platform memory before allowed := by
  cases checked with
  | ok value => exact onward value rfl
  | error error => exact leads_fail (refused error.failure)

variable {supplies : Supplies} {hasher : Hasher} (stands : platform.Over supplies hasher memory)
include stands

theorem OnlyReads.leads {program : Program α} (reads : program.OnlyReads) :
    program.Leads platform memory before fun _ after => after = before := by
  refine fun state kept => reads.run_keeps (fun state => (memory state).store = before) ?_ ?_ ?_
    state kept
  · exact fun state kept => (stands.now state).trans kept
  · exact fun password state kept => (stands.digest password state).2.trans kept
  · exact fun wanted reads state kept => ((stands.answer wanted state).reads reads).trans kept

theorem Leads.followed {program : Program α} {next : α → Program β} (reads : program.OnlyReads)
    (refused : ∀ failure, allowed (.error failure) before)
    (onward : ∀ value, (next value).Leads platform memory before allowed) :
    (program >>= next).Leads platform memory before allowed := by
  refine (reads.leads stands).bind ?_ ?_
  · rintro value after rfl
    exact onward value
  · rintro failure after rfl
    exact refused failure

theorem Leads.digested {password : String} {next : String → Program β}
    (refused : ∀ failure, allowed (.error failure) before)
    (onward : ∀ number hash, hasher.hash number password = .ok hash →
      (next hash).Leads platform memory before allowed) :
    (digestOf password >>= next).Leads platform memory before allowed := by
  rintro state rfl
  obtain ⟨⟨number, made⟩, kept⟩ := stands.digest password state
  rw [eval_bind, eval_digestOf]
  cases given : platform.digest password state with
  | mk result after =>
    rw [given] at made kept
    cases result with
    | ok hash => exact onward number hash made.symm after kept
    | error failure =>
      change allowed (.error failure) (memory after).store
      rw [kept]
      exact refused failure

theorem Leads.called {wanted : Call} {next : Except Failure wanted.Reply → Program β}
    (met : ∀ (here : Memory) reply (after : Memory), here.store = before →
      here.Gives supplies wanted reply after →
      (next reply).Leads platform memory after.store allowed) :
    (call wanted next).Leads platform memory before allowed :=
  fun state kept =>
    met _ _ _ kept (stands.answer wanted state) (platform.answer wanted state).2 rfl

end Program

end UserDirectory
