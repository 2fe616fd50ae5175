import UserDirectory.Proofs.Store.Consistency

/-!
What calls leave alone. No row ever goes; a row keeps who it is and how it came about, and once it
is deleted it keeps everything; and a call touches no row but the one that it names.
-/

namespace UserDirectory

structure User.Becomes (before after : User) : Prop where
  id : after.id = before.id
  account : after.account = before.account
  tenantId : after.tenantId = before.tenantId
  createBy : after.createBy = before.createBy
  createdAt : after.createdAt = before.createdAt
  /-- A deleted row is as it was in every field. -/
  frozen : ¬before.IsLive → after = before

namespace User.Becomes

theorem refl (row : User) : row.Becomes row := ⟨rfl, rfl, rfl, rfl, rfl, fun _ => rfl⟩

theorem trans {a b c : User} (first : a.Becomes b) (second : b.Becomes c) : a.Becomes c where
  id := second.id.trans first.id
  account := second.account.trans first.account
  tenantId := second.tenantId.trans first.tenantId
  createBy := second.createBy.trans first.createBy
  createdAt := second.createdAt.trans first.createdAt
  frozen deleted := by
    have same : b = a := first.frozen deleted
    exact (second.frozen (same ▸ deleted)).trans same

end User.Becomes

namespace Store

def Becomes (before after : Store) : Prop :=
  ∀ entry ∈ before.entries, ∃ later, (entry.1, later) ∈ after.entries ∧ entry.2.Becomes later

theorem Becomes.refl (store : Store) : store.Becomes store :=
  fun entry member => ⟨entry.2, member, .refl entry.2⟩

theorem Becomes.trans {a b c : Store} (first : a.Becomes b) (second : b.Becomes c) :
    a.Becomes c := by
  intro entry member
  obtain ⟨middle, there, onward⟩ := first entry member
  obtain ⟨later, here, ended⟩ := second (entry.1, middle) there
  exact ⟨later, here, onward.trans ended⟩

theorem becomes_added {store : Store} {id : UserId} (fresh : store.row? id = none) (row : User) :
    store.Becomes (store.put id.text row) := by
  intro entry member
  have elsewhere : entry.1 ≠ id.text := by
    intro same
    have found : store.row? id = some entry.2 := row?_eq_some.2 (same ▸ member)
    rw [fresh] at found
    cases found
  exact ⟨entry.2, mem_put.2 (.inr ⟨member, elsewhere⟩), .refl entry.2⟩

/-- A live row may be changed in its place. -/
theorem becomes_altered {store : Store} {id : UserId} {row changed : User}
    (found : store.liveRow? id = some row) (becomes : row.Becomes changed) :
    store.Becomes (store.put id.text changed) := by
  intro entry member
  by_cases here : entry.1 = id.text
  · have known : (id.text, entry.2) ∈ store.entries := here ▸ member
    obtain rfl : row = entry.2 := row_unique (liveRow?_eq_some.1 found).1 known
    exact ⟨changed, mem_put.2 (.inl (congrArg (·, changed) here)), becomes⟩
  · exact ⟨entry.2, mem_put.2 (.inr ⟨member, here⟩), .refl entry.2⟩

end Store

namespace Memory

theorem Change.becomes {supplies : Supplies} {memory : Memory} {call : Call} {after : Store}
    (change : Change supplies memory call after) : memory.store.Becomes after := by
  -- only live rows are changed, so nothing is asked of a deleted one
  have live {id : UserId} {row : User} (found : memory.store.liveRow? id = some row) :
      ∀ changed : User, ¬row.IsLive → changed = row :=
    fun _ deleted => absurd (Store.liveRow?_eq_some.1 found).2 deleted
  cases change with
  | kept => exact .refl memory.store
  | added new id now _ _ _ fresh => exact Store.becomes_added fresh _
  | patched patch row now found _ _ =>
    exact Store.becomes_altered found ⟨rfl, rfl, rfl, rfl, rfl, live found _⟩
  | deleted id row now found _ =>
    exact Store.becomes_altered found ⟨rfl, rfl, rfl, rfl, rfl, live found _⟩
  | switched id status updateBy row now found _ =>
    exact Store.becomes_altered found ⟨rfl, rfl, rfl, rfl, rfl, live found _⟩

theorem answer_becomes (supplies : Supplies) (memory : Memory) (call : Call) :
    memory.store.Becomes (memory.answer supplies call).2.store :=
  (answer_change supplies memory call).becomes

theorem run_becomes (supplies : Supplies) (hasher : Hasher) (program : Program α)
    (memory : Memory) :
    memory.store.Becomes (program.run (platform supplies hasher) memory).state.store :=
  Program.run_keeps (fun after => memory.store.Becomes after.store)
    (fun _ before => before) (fun _ _ before => before)
    (fun wanted after before => before.trans (answer_becomes supplies after wanted))
    program memory (.refl memory.store)

end Memory

/-- The row that a call names. A new row is named by the reply. -/
def Call.target? (call : Call) (reply : Except Failure call.Reply) : Option UserId :=
  match call, reply with
  | .save _, .ok user => some (User.id user)
  | .update patch, _ => some patch.id
  | .delete id, _ => some id
  | .changeStatus id _ _, _ => some id
  | _, _ => none

namespace Store

theorem mem_put_elsewhere {store : Store} {key : String} {row : User} {entry : String × User}
    (elsewhere : entry.1 ≠ key) :
    entry ∈ (store.put key row).entries ↔ entry ∈ store.entries := by
  rw [mem_put]
  constructor
  · rintro (rfl | ⟨member, -⟩)
    · exact absurd rfl elsewhere
    · exact member
  · intro member
    exact .inr ⟨member, elsewhere⟩

end Store

namespace Memory

/-- A call that adds no row puts the row that it names in its own place, or does nothing. -/
theorem Change.in_place {supplies : Supplies} {memory : Memory} {call : Call} {after : Store}
    (change : Change supplies memory call after) (old : ∀ new, call ≠ .save new)
    (reply : Except Failure call.Reply) :
    after = memory.store ∨
      ∃ id row, call.target? reply = some id ∧ after = memory.store.put id.text row := by
  cases change with
  | kept => exact .inl rfl
  | added new => exact absurd rfl (old new)
  | patched patch row now => exact .inr ⟨patch.id, patch.apply row now, rfl, rfl⟩
  | deleted id row now => exact .inr ⟨id, { row with deletedAt := some now }, rfl, rfl⟩
  | switched id status updateBy row now =>
    exact .inr ⟨id, { row with status, updateBy := updateBy <|> row.updateBy, updatedAt := now },
      rfl, rfl⟩

theorem answer_elsewhere (supplies : Supplies) (memory : Memory) (call : Call)
    (entry : String × User)
    (elsewhere : ∀ id, call.target? (memory.answer supplies call).1 = some id →
      entry.1 ≠ id.text) :
    entry ∈ (memory.answer supplies call).2.store.entries ↔ entry ∈ memory.store.entries := by
  have change := answer_change supplies memory call
  cases call with
  | save new =>
    rcases save_cases supplies memory new with
        ⟨-, -, same⟩ | ⟨id, now, -, -, -, -, added, written⟩
    · exact same ▸ Iff.rfl
    · have named : entry.1 ≠ id.text := elsewhere id (by simp only [answer, added]; rfl)
      exact written ▸ Store.mem_put_elsewhere named
  | _ =>
    rcases change.in_place (fun _ same => by cases same) _ with same | ⟨id, row, named, written⟩
    · rw [same]
    · rw [written]
      exact Store.mem_put_elsewhere (elsewhere id named)

/-- The id that a new row gets is one that no row has had. -/
theorem save_fresh {supplies : Supplies} {memory : Memory} {new : NewUser} {user : User}
    (saved : (memory.save supplies new).1 = .ok user) : memory.store.row? user.id = none := by
  rcases save_cases supplies memory new with
      ⟨failure, failed, -⟩ | ⟨id, now, -, -, -, fresh, added, -⟩
  · rw [failed] at saved
    cases saved
  · rw [added] at saved
    obtain rfl := Except.ok.inj saved
    exact fresh

end Memory

namespace Access

theorem perform_becomes (supplies : Supplies) (hasher : Hasher) (memory : Memory)
    (access : Access) : memory.store.Becomes (access.perform supplies hasher memory).store := by
  cases access with
  | call wanted => exact Memory.answer_becomes supplies memory wanted
  | batchDelete ids => exact Memory.run_becomes supplies hasher _ memory

theorem run_becomes (supplies : Supplies) (hasher : Hasher) (accesses : List Access)
    (memory : Memory) : memory.store.Becomes (run supplies hasher accesses memory).store := by
  induction accesses generalizing memory with
  | nil => exact .refl memory.store
  | cons access rest ih =>
    exact (perform_becomes supplies hasher memory access).trans
      (ih (access.perform supplies hasher memory))

/-- Over any number of calls and batches, begun with any store: every row is there to the end, with
its id, account, tenant, creator and time of creation, and as it is in every field once it is
deleted. And wherever they have led, one call more leaves every entry alone but the one that it
names, which for a new row is under an id that no row has had. -/
theorem run_preserves (supplies : Supplies) (hasher : Hasher) (accesses : List Access)
    (memory : Memory) :
    let reached := run supplies hasher accesses memory
    memory.store.Becomes reached.store ∧
    (∀ call entry,
      (∀ id, call.target? (reached.answer supplies call).1 = some id → entry.1 ≠ id.text) →
      (entry ∈ (reached.answer supplies call).2.store.entries ↔
        entry ∈ reached.store.entries)) ∧
    ∀ new user, (reached.save supplies new).1 = .ok user →
      reached.store.row? user.id = none := by
  intro reached
  refine ⟨run_becomes supplies hasher accesses memory, ?_, ?_⟩
  · intro call entry elsewhere
    exact Memory.answer_elsewhere supplies reached call entry elsewhere
  · intro new user saved
    exact Memory.save_fresh saved

end Access

end UserDirectory
