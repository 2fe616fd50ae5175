import UserDirectory.Proofs.Store.Lookup
import UserDirectory.Store.Memory

/-!
What a call may do to the store in memory. Each writing call is opened once, in `save_cases`,
`alter_cases` and `update_cases`; `answer_change` gathers them into one relation, and what a store
keeps over a run of calls is proved from its five cases.
-/

namespace UserDirectory.Memory

variable (supplies : Supplies) (memory : Memory)

/-- A row is added only past the guard, under an id that no row has had, and as the request and the
two supplies give it. -/
theorem save_cases (new : NewUser) :
    (∃ failure, (memory.save supplies new).1 = .error failure ∧
      (memory.save supplies new).2.store = memory.store) ∨
    ∃ id now, supplies.identifier memory.usage.identifiers = .ok id ∧
      supplies.instant memory.usage.instants = .ok now ∧
      memory.store.conflict? none new.claimed = none ∧ memory.store.row? id = none ∧
      (memory.save supplies new).1 = .ok (User.ofNew id new now) ∧
      (memory.save supplies new).2.store = memory.store.put id.text (User.ofNew id new now) := by
  cases free : memory.store.conflict? none new.claimed with
  | some taken =>
    refine .inl ⟨.alreadyExists taken.1 taken.2, ?_, ?_⟩ <;> simp only [save, free]
  | none =>
    cases drawn : supplies.identifier memory.usage.identifiers with
    | error failure =>
      refine .inl ⟨failure, ?_, ?_⟩ <;>
        simp only [save, free, drawIdentifier, Usage.drawIdentifier, drawn]
    | ok id =>
      cases fresh : memory.store.row? id with
      | some row =>
        refine .inl
          ⟨.internal ("Generated user ID '" ++ id.text ++ "' is already taken"), ?_, ?_⟩ <;>
        simp only [save, free, drawIdentifier, Usage.drawIdentifier, drawn, fresh,
          Option.isSome_some, ↓reduceIte]
      | none =>
        cases read : supplies.instant memory.usage.instants with
        | error failure =>
          refine .inl ⟨failure, ?_, ?_⟩ <;>
          simp only [save, free, drawIdentifier, Usage.drawIdentifier, drawn, fresh,
            Option.isSome_none, Bool.false_eq_true, ↓reduceIte, readInstant, Usage.readInstant,
            read]
        | ok now =>
          refine .inr ⟨id, now, rfl, rfl, rfl, fresh, ?_, ?_⟩ <;>
          simp only [save, free, drawIdentifier, Usage.drawIdentifier, drawn, fresh,
            Option.isSome_none, Bool.false_eq_true, ↓reduceIte, readInstant, Usage.readInstant,
            read, User.ofNew]

/-- A live row is changed by what the clock says, and only where the clock says anything. -/
theorem alter_cases (id : UserId) (change : User → Instant → User) :
    ((memory.alter supplies id change).1 = .ok none ∧
      (memory.alter supplies id change).2.store = memory.store ∧
      memory.store.liveRow? id = none) ∨
    (∃ failure, (memory.alter supplies id change).1 = .error failure ∧
      (memory.alter supplies id change).2.store = memory.store) ∨
    ∃ row now, memory.store.liveRow? id = some row ∧
      supplies.instant memory.usage.instants = .ok now ∧
      (memory.alter supplies id change).1 = .ok (some (change row now)) ∧
      (memory.alter supplies id change).2.store = memory.store.put id.text (change row now) := by
  cases found : memory.store.liveRow? id with
  | none => refine .inl ⟨?_, ?_, rfl⟩ <;> simp only [alter, found]
  | some row =>
    cases read : supplies.instant memory.usage.instants with
    | error failure =>
      refine .inr (.inl ⟨failure, ?_, ?_⟩) <;>
      simp only [alter, found, readInstant, Usage.readInstant, read]
    | ok now =>
      refine .inr (.inr ⟨row, now, rfl, rfl, ?_, ?_⟩) <;>
      simp only [alter, found, readInstant, Usage.readInstant, read]

theorem update_cases (patch : Patch) :
    ((memory.update supplies patch).1 = .ok none ∧
      (memory.update supplies patch).2.store = memory.store ∧
      memory.store.liveRow? patch.id = none) ∨
    (∃ failure, (memory.update supplies patch).1 = .error failure ∧
      (memory.update supplies patch).2.store = memory.store) ∨
    ∃ row now, memory.store.liveRow? patch.id = some row ∧
      supplies.instant memory.usage.instants = .ok now ∧
      memory.store.conflict? (some patch.id) patch.claimed = none ∧
      (memory.update supplies patch).1 = .ok (some (patch.apply row now)) ∧
      (memory.update supplies patch).2.store =
        memory.store.put patch.id.text (patch.apply row now) := by
  cases found : memory.store.liveRow? patch.id with
  | none => refine .inl ⟨?_, ?_, rfl⟩ <;> simp only [update, found]
  | some row =>
    cases free : memory.store.conflict? (some patch.id) patch.claimed with
    | some taken =>
      refine .inr (.inl ⟨.alreadyExists taken.1 taken.2, ?_, ?_⟩) <;>
      simp only [update, found, free]
    | none =>
      have same : memory.update supplies patch = memory.alter supplies patch.id patch.apply := by
        simp only [update, found, free]
      rw [same]
      rcases alter_cases supplies memory patch.id patch.apply with
          ⟨-, -, missing⟩ | failed | ⟨old, now, held, read, changed⟩
      · rw [found] at missing
        cases missing
      · exact .inr (.inl failed)
      · exact .inr (.inr ⟨old, now, found ▸ held, read, rfl, changed⟩)

/-- What a call may do to the store: nothing, or one write past its guard. -/
inductive Change (supplies : Supplies) (memory : Memory) : Call → Store → Prop
  | kept (call : Call) : Change supplies memory call memory.store
  | added (new : NewUser) (id : UserId) (now : Instant)
      (drawn : supplies.identifier memory.usage.identifiers = .ok id)
      (read : supplies.instant memory.usage.instants = .ok now)
      (free : memory.store.conflict? none new.claimed = none)
      (fresh : memory.store.row? id = none) :
      Change supplies memory (.save new) (memory.store.put id.text (User.ofNew id new now))
  | patched (patch : Patch) (row : User) (now : Instant)
      (found : memory.store.liveRow? patch.id = some row)
      (read : supplies.instant memory.usage.instants = .ok now)
      (free : memory.store.conflict? (some patch.id) patch.claimed = none) :
      Change supplies memory (.update patch)
        (memory.store.put patch.id.text (patch.apply row now))
  | deleted (id : UserId) (row : User) (now : Instant)
      (found : memory.store.liveRow? id = some row)
      (read : supplies.instant memory.usage.instants = .ok now) :
      Change supplies memory (.delete id)
        (memory.store.put id.text { row with deletedAt := some now })
  | switched (id : UserId) (status : Status) (updateBy : Option String) (row : User)
      (now : Instant) (found : memory.store.liveRow? id = some row)
      (read : supplies.instant memory.usage.instants = .ok now) :
      Change supplies memory (.changeStatus id status updateBy)
        (memory.store.put id.text
          { row with status, updateBy := updateBy <|> row.updateBy, updatedAt := now })

theorem answer_change (supplies : Supplies) (memory : Memory) (call : Call) :
    Change supplies memory call (memory.answer supplies call).2.store := by
  cases call with
  | save new =>
    rcases save_cases supplies memory new with
        ⟨-, -, same⟩ | ⟨id, now, drawn, read, free, fresh, -, written⟩
    · exact same ▸ .kept _
    · exact written ▸ .added new id now drawn read free fresh
  | update patch =>
    rcases update_cases supplies memory patch with
        ⟨-, same, -⟩ | ⟨-, -, same⟩ | ⟨row, now, found, read, free, -, written⟩
    · exact same ▸ .kept _
    · exact same ▸ .kept _
    · exact written ▸ .patched patch row now found read free
  | delete id =>
    obtain ⟨-, same, -⟩ | ⟨-, -, same⟩ | ⟨row, now, found, read, -, written⟩ :=
      alter_cases supplies memory id fun row now =>
        { row with deletedAt := some now }
    · exact same ▸ .kept _
    · exact same ▸ .kept _
    · exact written ▸ .deleted id row now found read
  | changeStatus id status updateBy =>
    obtain ⟨-, same, -⟩ | ⟨-, -, same⟩ | ⟨row, now, found, read, -, written⟩ :=
      alter_cases supplies memory id fun row now =>
        { row with status, updateBy := updateBy <|> row.updateBy, updatedAt := now }
    · exact same ▸ .kept _
    · exact same ▸ .kept _
    · exact written ▸ .switched id status updateBy row now found read
  | findById _ => exact .kept _
  | findByIdIncludingDeleted _ => exact .kept _
  | findByAccount _ => exact .kept _
  | findByEmail _ => exact .kept _
  | findByMobile _ => exact .kept _
  | list _ => exact .kept _
  | count _ => exact .kept _
  | statistics _ _ => exact .kept _

def withDigests (digests : Nat) (memory : Memory) : Memory :=
  { memory with usage := { memory.usage with digests } }

theorem alter_withDigests (digests : Nat) (id : UserId) (change : User → Instant → User) :
    (memory.withDigests digests).alter supplies id change =
      ((memory.alter supplies id change).1,
        (memory.alter supplies id change).2.withDigests digests) := by
  have store : (memory.withDigests digests).store = memory.store := rfl
  have instants : (memory.withDigests digests).usage.instants = memory.usage.instants := rfl
  cases found : memory.store.liveRow? id with
  | none => simp only [alter, store, found]
  | some row =>
    cases read : supplies.instant memory.usage.instants with
    | error failure =>
      simp only [alter, store, found, readInstant, Usage.readInstant, instants, read]
      rfl
    | ok now =>
      simp only [alter, store, found, readInstant, Usage.readInstant, instants, read]
      rfl

theorem save_withDigests (digests : Nat) (new : NewUser) :
    (memory.withDigests digests).save supplies new =
      ((memory.save supplies new).1, (memory.save supplies new).2.withDigests digests) := by
  simp only [save, withDigests, drawIdentifier, Usage.drawIdentifier, readInstant,
    Usage.readInstant]
  split
  next taken => rfl
  next free =>
    cases supplies.identifier memory.usage.identifiers with
    | error failure => rfl
    | ok id =>
      simp only
      split
      next used => rfl
      next fresh =>
        cases supplies.instant memory.usage.instants with
        | error failure => rfl
        | ok now => rfl

/-- The number of digests made so far is nothing to the store. -/
theorem answer_withDigests (digests : Nat) (wanted : Call) :
    (memory.withDigests digests).answer supplies wanted =
      ((memory.answer supplies wanted).1,
        (memory.answer supplies wanted).2.withDigests digests) := by
  cases wanted with
  | save new => exact save_withDigests supplies memory digests new
  | update patch =>
    have store : (memory.withDigests digests).store = memory.store := rfl
    simp only [answer, update, alter_withDigests, store]
    split
    next missing => rfl
    next row found =>
      split
      next taken => rfl
      next free => rfl
  | delete id =>
    simp only [answer, delete, alter_withDigests]
    rfl
  | changeStatus id status updateBy =>
    simp only [answer, changeStatus, alter_withDigests]
    rfl
  | _ => rfl

end UserDirectory.Memory
