import UserDirectory.Proofs.Service.Effect
import UserDirectory.Proofs.Service.Session
import UserDirectory.Proofs.Store.Consistency

namespace UserDirectory

open Service

def Served.given? (served : Served) (id : UserId) : Option String :=
  match served with
  | ⟨.createUser request, .ok user⟩ =>
    if User.id user = id then some request.password else none
  | ⟨.resetPassword text password _, .ok _⟩ => if text = id.text then some password else none
  | _ => none

theorem Served.given?_of_error (operation : Operation) (failure : Failure) (id : UserId) :
    given? ⟨operation, .error failure⟩ id = none := by
  cases operation <;> rfl

theorem Served.given?_of_reads {operation : Operation} (reads : operation.writes = false)
    (result : Except Failure operation.Result) (id : UserId) :
    given? ⟨operation, result⟩ id = none := by
  cases operation with
  | createUser request => cases reads
  | resetPassword text password updateBy => cases reads
  | _ => rfl

def Operation.deletes : Operation → List String
  | deleteUser text => [text]
  | batchDeleteUsers ids => ids
  | _ => []

/-- One row became another, with the same account and hash, and still live where it is `spared`. -/
structure User.Keeps (spared : Prop) (before after : User) : Prop where
  id : after.id = before.id
  account : after.account = before.account
  passwordHash : after.passwordHash = before.passwordHash
  live : spared → (after.IsLive ↔ before.IsLive)

theorem User.Keeps.refl (spared : Prop) (row : User) : row.Keeps spared row :=
  ⟨rfl, rfl, rfl, fun _ => Iff.rfl⟩

theorem User.Keeps.trans {spared : Prop} {a b c : User} (first : a.Keeps spared b)
    (second : b.Keeps spared c) : a.Keeps spared c where
  id := second.id.trans first.id
  account := second.account.trans first.account
  passwordHash := second.passwordHash.trans first.passwordHash
  live safe := (second.live safe).trans (first.live safe)

/-- Every row of `after` was a row of `before` with the same account and hash, which is still live
unless its key is `doomed`. -/
def Store.Keeps (doomed : List String) (before after : Store) : Prop :=
  ∀ entry ∈ after.entries, ∃ old, (entry.1, old) ∈ before.entries ∧
    old.Keeps (entry.1 ∉ doomed) entry.2

namespace Store

variable {doomed : List String} {before after : Store}

theorem Keeps.refl (store : Store) : store.Keeps doomed store :=
  fun entry member => ⟨entry.2, member, .refl _ entry.2⟩

theorem Keeps.trans {a b c : Store} (first : a.Keeps doomed b) (second : b.Keeps doomed c) :
    a.Keeps doomed c := by
  intro entry member
  obtain ⟨middle, there, kept⟩ := second entry member
  obtain ⟨old, before, kept'⟩ := first (entry.1, middle) there
  exact ⟨old, before, kept'.trans kept⟩

/-- A live row may be changed in its place, in everything but its credentials. -/
theorem keeps_put {id : UserId} {row changed : User} (found : before.liveRow? id = some row)
    (kept : row.Keeps (id.text ∉ doomed) changed) :
    before.Keeps doomed (before.put id.text changed) := by
  intro entry member
  rcases mem_put.1 member with rfl | ⟨there, -⟩
  · exact ⟨row, (liveRow?_eq_some.1 found).1, kept⟩
  · exact ⟨entry.2, there, .refl _ entry.2⟩

theorem Removes.keeps {id : UserId} (removed : Removes id before after)
    (named : id.text ∈ doomed) : before.Keeps doomed after := by
  obtain ⟨row, now, found, rfl⟩ := removed
  exact keeps_put found ⟨rfl, rfl, rfl, fun spared => absurd named spared⟩

theorem Thins.keeps (thinned : Thins doomed before after) : before.Keeps doomed after := by
  induction thinned with
  | refl => exact .refl before
  | tail _ last ih =>
    obtain ⟨id, named, removed⟩ := last
    exact ih.trans (removed.keeps named)

end Store

def User.Locked (hasher : Hasher) (password : String) (row : User) : Prop :=
  ∃ number stored, hasher.hash number password = .ok stored ∧ row.passwordHash = some stored

namespace Operation

variable {supplies : Supplies} {hasher : Hasher} {before after : Store}

/-- What an operation has done to the credentials in a row: nothing, or the hash is made of the
password that it gave, and the account is as valid as it was. -/
inductive Credited (operation : Operation) (hasher : Hasher) (before : Store) (key : String)
    (row : User) : Option String → Prop
  | kept (old : User) (member : (key, old) ∈ before.entries)
      (keeps : old.Keeps (key ∉ operation.deletes) row) :
      operation.Credited hasher before key row none
  | given (password : String) (locked : row.Locked hasher password)
      (account : Rule.account row.account = .ok () ∨
        ∃ old, (key, old) ∈ before.entries ∧ old.account = row.account) :
      operation.Credited hasher before key row (some password)

section Credited

variable {operation : Operation} {key : String} {row : User} {given : Option String}
  (credited : operation.Credited hasher before key row given)
include credited

theorem Credited.account
    (valid : ∀ entry ∈ before.entries, Rule.account entry.2.account = .ok ()) :
    Rule.account row.account = .ok () := by
  cases credited with
  | kept old member keeps =>
    rw [keeps.account]
    exact valid (key, old) member
  | given password locked account =>
    rcases account with checked | ⟨old, member, same⟩
    · exact checked
    · rw [← same]
      exact valid (key, old) member

/-- Where every hash was made of the password given last, so it is again. -/
theorem Credited.locked {last : UserId → Option String}
    (locked : ∀ entry ∈ before.entries, ∃ password,
      last entry.2.id = some password ∧ entry.2.Locked hasher password) :
    ∃ password, given.or (last row.id) = some password ∧ row.Locked hasher password := by
  cases credited with
  | kept old member keeps =>
    obtain ⟨password, known, number, stored, made, held⟩ := locked (key, old) member
    exact ⟨password, keeps.id ▸ known, number, stored, made, keeps.passwordHash.trans held⟩
  | given password locked _ => exact ⟨password, rfl, locked⟩

end Credited

theorem Credited.of_keeps (operation : Operation)
    (keeps : before.Keeps operation.deletes after) {key : String} {row : User}
    (member : (key, row) ∈ after.entries) : operation.Credited hasher before key row none := by
  obtain ⟨old, there, kept⟩ := keeps (key, row) member
  exact .kept old there kept

/-- The row of the user who is given a password is put into its place, and no other row is
touched. -/
theorem Credited.put (consistent : before.Consistent) (served : Served) {id : UserId}
    {changed : User} {password : String} (own : changed.id = id)
    (here : served.given? id = some password)
    (elsewhere : ∀ other, other ≠ id → served.given? other = none)
    (locked : changed.Locked hasher password)
    (account : Rule.account changed.account = .ok () ∨
      ∃ old, (id.text, old) ∈ before.entries ∧ old.account = changed.account)
    {key : String} {row : User} (member : (key, row) ∈ (before.put id.text changed).entries) :
    served.operation.Credited hasher before key row (served.given? row.id) := by
  rcases Store.mem_put.1 member with new | ⟨old, apart⟩
  · obtain ⟨rfl, rfl⟩ := Prod.mk.inj new
    rw [own, here]
    exact .given password locked account
  · have other : row.id ≠ id := fun same => apart <|
      (consistent.keyed _ old).trans (congrArg UserId.text same)
    rw [elsewhere row.id other]
    exact .kept row old (.refl _ row)

theorem account_of_readCreate {request : CreateRequest} {codes : Option Sex × Option Status}
    (valid : readCreate request = .ok codes) : Rule.account request.account = .ok () := by
  cases checked : Rule.account request.account with
  | ok passed => rfl
  | error broken =>
    rw [readCreate, checked] at valid
    cases valid

theorem Effect.credited {operation : Operation} {result : Except Failure operation.Result}
    (consistent : before.Consistent)
    (effect : operation.Effect supplies hasher before result after) {key : String} {row : User}
    (member : (key, row) ∈ after.entries) :
    operation.Credited hasher before key row (Served.given? ⟨operation, result⟩ row.id) := by
  cases effect with
  | refused operation failure =>
    rw [Served.given?_of_error]
    exact .of_keeps operation (.refl before) member
  | read operation result reads =>
    rw [Served.given?_of_reads reads]
    exact .of_keeps operation (.refl before) member
  | created request sex status number hash id now valid made free fresh =>
    refine .put consistent ⟨.createUser request, .ok _⟩ rfl (if_pos rfl) ?_
      ⟨number, hash, made, rfl⟩ (.inl (account_of_readCreate valid)) member
    exact fun other different => if_neg different.symm
  | updated request id sex status old now valid found free =>
    refine .of_keeps (.updateUser request) (Store.keeps_put found ?_) member
    exact ⟨rfl, rfl, rfl, fun _ => Iff.rfl⟩
  | deleted id after removed =>
    exact .of_keeps (.deleteUser id.text) (removed.keeps (List.mem_singleton_self _)) member
  | thinned ids result after thinned =>
    exact .of_keeps (.batchDeleteUsers ids) thinned.1.keeps member
  | switched id code updateBy status old now read found =>
    refine .of_keeps (.changeUserStatus id.text code updateBy) (Store.keeps_put found ?_) member
    exact ⟨rfl, rfl, rfl, fun _ => Iff.rfl⟩
  | reset id password updateBy number hash old now strong made found =>
    obtain ⟨there, -⟩ := Store.liveRow?_eq_some.1 found
    have own : (Patch.apply { id, passwordHash := some hash, updateBy } old now).id = id :=
      UserId.text_injective (consistent.keyed _ there).symm
    refine .put consistent ⟨.resetPassword id.text password updateBy, .ok ()⟩ own
      (if_pos rfl) ?_ ⟨number, hash, made, rfl⟩ (.inr ⟨old, there, rfl⟩) member
    exact fun other different => if_neg fun same => different (UserId.text_injective same.symm)

end Operation

end UserDirectory
