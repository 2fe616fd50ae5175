import UserDirectory.Proofs.Service.Decision

/-!
What the guard of the store answers to a write. It refuses the first value that is taken, in the
order of the fields, and a write that it lets pass is not refused for a value in use; nor is a user
who is there missed.
-/

namespace UserDirectory

def Failure.Other (failure : Failure) : Prop := ∀ field value, failure ≠ .alreadyExists field value

abbrev Untaken (result : Except Failure α) : Prop := Except.Fails Failure.Other result

theorem Untaken.ne {result : Except Failure α} (untaken : Untaken result) (field : UniqueField)
    (value : String) : result ≠ .error (.alreadyExists field value) :=
  fun failed => untaken _ failed field value rfl

/-- Neither the clock nor the source of ids says that a value is in use. -/
structure Supplies.Neutral (supplies : Supplies) : Prop where
  instant : ∀ number, Untaken (supplies.instant number)
  identifier : ∀ number, Untaken (supplies.identifier number)

def Hasher.Neutral (hasher : Hasher) : Prop :=
  ∀ number password, Untaken (hasher.hash number password)

/-- The refusal of the first value that is taken, in the order of the fields. -/
def Store.refusal? (store : Store) (owner : Option String) (brought : UniqueField → Option String) :
    Option Failure :=
  (store.taken? owner .account (brought .account)).or <|
  (store.taken? owner .email (brought .email)).or <|
  store.taken? owner .mobile (brought .mobile)

namespace Store

variable {store : Store} {owner : Option UserId} {claimed : Claimed}
  {brought : UniqueField → Option String} (claims : claimed.Of brought)
include claims

theorem taken?_claimed (field : UniqueField) {holds : User → String → Bool}
    (held : ∀ row text, holds row text = true ↔ row.unique field = some text) :
    (((claimed.value field).filter fun text =>
        (store.others owner).any fun row => holds row text).map (field, ·)).map
        (fun found => Failure.alreadyExists found.1 found.2) =
      store.taken? (owner.map UserId.text) field (brought field) := by
  cases found : (claimed.value field).filter fun text =>
      (store.others owner).any fun row => holds row text with
  | none =>
    refine (taken?_eq_none.2 fun text brings guarded row member has => ?_).symm
    have free := Option.filter_eq_none_iff.1 found text ((claims field text).2 ⟨brings, guarded⟩)
    exact free (List.any_eq_true.2 ⟨row, member, (held row text).2 has⟩)
  | some text =>
    obtain ⟨own, any⟩ := Option.filter_eq_some_iff.1 found
    obtain ⟨brings, guarded⟩ := (claims field text).1 own
    obtain ⟨row, member, has⟩ := List.any_eq_true.1 any
    rw [brings, taken?_eq_some guarded member ((held row text).1 has)]
    rfl

/-- The guard names the first value that is taken. -/
theorem conflict?_refusal : (store.conflict? owner claimed).map (fun found =>
      Failure.alreadyExists found.1 found.2) =
    store.refusal? (owner.map UserId.text) brought := by
  have account (row : User) (text : String) :
      decide (row.account = text) = true ↔ row.unique .account = some text := by simp [User.unique]
  have email (row : User) (text : String) :
      decide (row.email = some text) = true ↔ row.unique .email = some text := by
    simp [User.unique]
  have mobile (row : User) (text : String) :
      decide (row.mobile = some text) = true ↔ row.unique .mobile = some text := by
    simp [User.unique]
  rw [refusal?, ← taken?_claimed claims .account account, ← taken?_claimed claims .email email,
    ← taken?_claimed claims .mobile mobile]
  simp only [conflict?, Option.orElse_eq_orElse, Option.orElse_eq_or, Option.map_or]
  rfl

theorem conflict?_eq_some_iff {field : UniqueField} {value : String} :
    store.conflict? owner claimed = some (field, value) ↔
      store.refusal? (owner.map UserId.text) brought = some (.alreadyExists field value) := by
  rw [← conflict?_refusal claims, Option.map_eq_some_iff]
  constructor
  · exact fun found => ⟨_, found, rfl⟩
  · rintro ⟨⟨_, _⟩, found, ⟨⟩⟩
    exact found

end Store

section Replies

variable {supplies : Supplies} {memory : Memory}

section Neutral

variable (neutral : supplies.Neutral)
include neutral

theorem Memory.save_untaken {new : NewUser}
    (free : memory.store.conflict? none new.claimed = none) :
    Untaken (memory.save supplies new).1 := by
  simp only [save, free, drawIdentifier, Usage.drawIdentifier, readInstant, Usage.readInstant]
  cases drawn : supplies.identifier memory.usage.identifiers with
  | error failure => exact (neutral.identifier _).handed_on drawn
  | ok id =>
    dsimp only
    split
    next used => exact .error (by rintro _ _ ⟨⟩)
    next fresh =>
      cases read : supplies.instant memory.usage.instants with
      | error failure => exact (neutral.instant _).handed_on read
      | ok now => exact .ok _

theorem Memory.alter_untaken (id : UserId) (change : User → Instant → User) :
    Untaken (memory.alter supplies id change).1 := by
  simp only [alter, readInstant, Usage.readInstant]
  split
  next missing => exact .ok _
  next row found =>
    cases read : supplies.instant memory.usage.instants with
    | error failure => exact (neutral.instant _).handed_on read
    | ok now => exact .ok _

theorem Memory.update_untaken {patch : Patch}
    (free : memory.store.conflict? (some patch.id) patch.claimed = none) :
    Untaken (memory.update supplies patch).1 := by
  simp only [update, free]
  split
  next missing => exact .ok _
  next row found => exact alter_untaken neutral _ _

theorem Memory.save_refused {new : NewUser} {field : UniqueField} {value : String} :
    (memory.save supplies new).1 = .error (.alreadyExists field value) ↔
      memory.store.refusal? none new.brings = some (.alreadyExists field value) := by
  have named : memory.store.conflict? none new.claimed = some (field, value) ↔
      memory.store.refusal? none new.brings = some (.alreadyExists field value) :=
    Store.conflict?_eq_some_iff new.claimed_of
  rw [← named]
  cases found : memory.store.conflict? none new.claimed with
  | none => exact iff_of_false ((save_untaken neutral found).ne field value) nofun
  | some taken => simp [save, found, Prod.ext_iff]

/-- The reply of the guard to a patch for a live user. -/
theorem Memory.update_refused {patch : Patch} {row : User}
    (found : memory.store.liveRow? patch.id = some row) {field : UniqueField} {value : String} :
    (memory.update supplies patch).1 = .error (.alreadyExists field value) ↔
      memory.store.refusal? patch.id.text patch.brings = some (.alreadyExists field value) := by
  have named : memory.store.conflict? (some patch.id) patch.claimed = some (field, value) ↔
      memory.store.refusal? patch.id.text patch.brings = some (.alreadyExists field value) :=
    Store.conflict?_eq_some_iff patch.claimed_of
  rw [← named]
  cases free : memory.store.conflict? (some patch.id) patch.claimed with
  | none => exact iff_of_false ((update_untaken neutral free).ne field value) nofun
  | some taken => simp [update, found, free, Prod.ext_iff]

end Neutral

theorem Memory.changeStatus_found {id : UserId} {row : User}
    (found : memory.store.liveRow? id = some row) (status : Status) (updateBy : Option String) :
    (memory.changeStatus supplies id status updateBy).1 ≠ .ok false := by
  intro missed
  rcases alter_cases supplies memory id fun row now =>
      { row with status, updateBy := updateBy <|> row.updateBy, updatedAt := now } with
    ⟨-, -, missing⟩ | ⟨failure, failed, -⟩ | ⟨_, _, -, -, changed, -⟩
  · cases found.symm.trans missing
  · simp only [changeStatus, failed, Except.map] at missed
    cases missed
  · simp only [changeStatus, changed, Except.map] at missed
    cases missed

theorem Memory.update_found {patch : Patch} {row : User}
    (found : memory.store.liveRow? patch.id = some row) :
    (memory.update supplies patch).1 ≠ .ok none := by
  intro missed
  rcases update_cases supplies memory patch with
    ⟨-, -, missing⟩ | ⟨failure, failed, -⟩ | ⟨_, _, -, -, -, updated, -⟩
  · cases found.symm.trans missing
  · cases missed.symm.trans failed
  · cases missed.symm.trans updated

end Replies

end UserDirectory
