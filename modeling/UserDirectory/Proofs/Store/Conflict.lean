import UserDirectory.Proofs.Store.Consistency

/-!
Conflicts of a write with the live rows of other users, field by field. The store looks for the
first of them only; where there is one at all, it finds one.
-/

namespace UserDirectory

def User.unique (user : User) : UniqueField → Option String
  | .account => some user.account
  | .email => user.email
  | .mobile => user.mobile

/-- Whether two live users may not both have a text in a field: an empty email and an empty mobile
number are nobody's own. -/
def UniqueField.Guards (field : UniqueField) (text : String) : Prop := field = .account ∨ text ≠ ""

def NewUser.brings (new : NewUser) : UniqueField → Option String
  | .account => some new.account
  | .email => new.email
  | .mobile => new.mobile

def Patch.brings (patch : Patch) : UniqueField → Option String
  | .account => none
  | .email => patch.email
  | .mobile => patch.mobile

def Claimed.value (claimed : Claimed) : UniqueField → Option String
  | .account => claimed.account
  | .email => claimed.email
  | .mobile => claimed.mobile

def Claimed.Of (claimed : Claimed) (brought : UniqueField → Option String) : Prop :=
  ∀ field text, claimed.value field = some text ↔ brought field = some text ∧ field.Guards text

theorem NewUser.claimed_of (new : NewUser) : new.claimed.Of new.brings := by
  intro field text
  cases field with
  | account => exact (and_iff_left (.inl rfl)).symm
  | email => exact mem_nonEmptyText.trans (by simp [brings, UniqueField.Guards])
  | mobile => exact mem_nonEmptyText.trans (by simp [brings, UniqueField.Guards])

theorem Patch.claimed_of (patch : Patch) : patch.claimed.Of patch.brings := by
  intro field text
  cases field with
  | account => exact iff_of_false nofun nofun
  | email => exact mem_nonEmptyText.trans (by simp [brings, UniqueField.Guards])
  | mobile => exact mem_nonEmptyText.trans (by simp [brings, UniqueField.Guards])

namespace Store

/-- A write brings a value to a field that another live user than its owner has there. -/
structure Conflicts (store : Store) (owner : Option UserId) (brought : UniqueField → Option String)
    (field : UniqueField) (value : String) : Prop where
  brought : brought field = some value
  guarded : field.Guards value
  taken : ∃ row ∈ store.others owner, row.unique field = some value

theorem taken_of_conflict? {store : Store} {owner : Option UserId} {claimed : Claimed}
    {field : UniqueField} {value : String}
    (found : store.conflict? owner claimed = some (field, value)) :
    claimed.value field = some value ∧
      ∃ row ∈ store.others owner, row.unique field = some value := by
  have taken (own : UniqueField) (holds : User → String → Bool)
      (held : ∀ row text, holds row text = true ↔ row.unique own = some text)
      (found : (((claimed.value own).filter fun text =>
        (store.others owner).any fun row => holds row text).map (own, ·)) = some (field, value)) :
      claimed.value field = some value ∧
        ∃ row ∈ store.others owner, row.unique field = some value := by
    obtain ⟨text, kept, pair⟩ := Option.map_eq_some_iff.1 found
    obtain ⟨rfl, rfl⟩ := Prod.mk.inj pair
    obtain ⟨claims, any⟩ := Option.filter_eq_some_iff.1 kept
    obtain ⟨row, member, has⟩ := List.any_eq_true.1 any
    exact ⟨claims, row, member, (held row text).1 has⟩
  simp only [conflict?, Option.orElse_eq_orElse, Option.orElse_eq_or, Option.or_eq_some_iff]
    at found
  rcases found with account | ⟨-, email | ⟨-, mobile⟩⟩
  · exact taken .account _ (by simp [User.unique]) account
  · exact taken .email _ (by simp [User.unique]) email
  · exact taken .mobile _ (by simp [User.unique]) mobile

section Claims

variable {store : Store} {owner : Option UserId} {claimed : Claimed}
  {brought : UniqueField → Option String} (claims : claimed.Of brought)
include claims

theorem conflicts_of_conflict? {field : UniqueField} {value : String}
    (found : store.conflict? owner claimed = some (field, value)) :
    store.Conflicts owner brought field value := by
  obtain ⟨own, taken⟩ := taken_of_conflict? found
  obtain ⟨brings, guarded⟩ := (claims field value).1 own
  exact ⟨brings, guarded, taken⟩

theorem conflict?_ne_none {field : UniqueField} {value : String}
    (conflicts : store.Conflicts owner brought field value) :
    store.conflict? owner claimed ≠ none := by
  intro free
  obtain ⟨row, member, taken⟩ := conflicts.taken
  obtain ⟨account, email, mobile⟩ := conflict?_eq_none.1 free row member
  have own := (claims field value).2 ⟨conflicts.brought, conflicts.guarded⟩
  cases field with
  | account => exact account value own (Option.some.inj taken)
  | email => exact email value own taken
  | mobile => exact mobile value own taken

/-- The store finds a conflict exactly if there is one. -/
theorem conflict?_isSome : (store.conflict? owner claimed).isSome = true ↔
    ∃ field value, store.Conflicts owner brought field value := by
  rw [Option.isSome_iff_exists]
  constructor
  · rintro ⟨⟨field, value⟩, found⟩
    exact ⟨field, value, conflicts_of_conflict? claims found⟩
  · rintro ⟨field, value, conflicts⟩
    exact Option.ne_none_iff_exists'.1 (conflict?_ne_none claims conflicts)

theorem conflict?_eq_only {field : UniqueField} {value : String}
    (conflicts : store.Conflicts owner brought field value)
    (only : ∀ other taken, store.Conflicts owner brought other taken → other = field) :
    store.conflict? owner claimed = some (field, value) := by
  obtain ⟨⟨found, text⟩, finds⟩ :=
    Option.ne_none_iff_exists'.1 (conflict?_ne_none claims conflicts)
  have other := conflicts_of_conflict? claims finds
  obtain rfl := only found text other
  obtain rfl := Option.some.inj (other.brought.symm.trans conflicts.brought)
  exact finds

end Claims

end Store

end UserDirectory
