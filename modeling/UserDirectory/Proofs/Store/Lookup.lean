import UserDirectory.Store.Basic

/-!
What the look-ups of a store find, told by membership among its entries. A write is seen through
`mem_put` alone: the entry put in, and every other entry under another key.
-/

namespace UserDirectory.Store

theorem lookup_eq_some {entries : List (String × User)} (distinct : (entries.map Prod.fst).Nodup)
    (key : String) (row : User) : entries.lookup key = some row ↔ (key, row) ∈ entries := by
  induction entries with
  | nil => simp
  | cons entry rest ih =>
    obtain ⟨known, old⟩ := entry
    rw [List.map_cons, List.nodup_cons] at distinct
    by_cases same : key = known
    · subst same
      have absent : (key, row) ∉ rest := fun member =>
        distinct.1 (List.mem_map.2 ⟨(key, row), member, rfl⟩)
      simp [absent, eq_comm]
    · have different : (key == known) = false := beq_false_of_ne same
      rw [List.lookup_cons, different]
      simp [ih distinct.2, same]

theorem row_unique {store : Store} {key : String} {a b : User} (first : (key, a) ∈ store.entries)
    (second : (key, b) ∈ store.entries) : a = b := by
  have found := (lookup_eq_some store.distinct key a).2 first
  exact Option.some.inj (found.symm.trans ((lookup_eq_some store.distinct key b).2 second))

theorem row?_eq_some {store : Store} {id : UserId} {row : User} :
    store.row? id = some row ↔ (id.text, row) ∈ store.entries :=
  lookup_eq_some store.distinct id.text row

theorem row?_isSome {store : Store} {id : UserId} :
    (store.row? id).isSome = true ↔ id.text ∈ store.keys := by
  rw [Option.isSome_iff_exists, keys, List.mem_map]
  constructor
  · rintro ⟨row, found⟩
    exact ⟨(id.text, row), row?_eq_some.1 found, rfl⟩
  · rintro ⟨⟨key, row⟩, member, rfl⟩
    exact ⟨row, row?_eq_some.2 member⟩

theorem liveRow?_eq_some {store : Store} {id : UserId} {row : User} :
    store.liveRow? id = some row ↔ (id.text, row) ∈ store.entries ∧ row.IsLive := by
  rw [liveRow?, Option.filter_eq_some_iff, row?_eq_some, decide_eq_true_iff]

theorem mem_rows {store : Store} {row : User} :
    row ∈ store.rows ↔ ∃ key, (key, row) ∈ store.entries := by
  rw [rows, List.mem_map]
  constructor
  · rintro ⟨entry, member, rfl⟩
    exact ⟨entry.1, member⟩
  · rintro ⟨key, member⟩
    exact ⟨(key, row), member, rfl⟩

theorem mem_live {store : Store} {row : User} :
    row ∈ store.live ↔ ∃ key, (key, row) ∈ store.entries ∧ row.IsLive := by
  rw [live, List.mem_filter, mem_rows, decide_eq_true_iff]
  exact exists_and_right.symm

theorem mem_others {store : Store} {owner : Option UserId} {row : User} :
    row ∈ store.others owner ↔
      ∃ key, (key, row) ∈ store.entries ∧ row.IsLive ∧ some row.id ≠ owner := by
  rw [others, List.mem_filter, mem_live, decide_eq_true_iff]
  constructor
  · rintro ⟨⟨key, member, alive⟩, other⟩
    exact ⟨key, member, alive, other⟩
  · rintro ⟨key, member, alive, other⟩
    exact ⟨⟨key, member, alive⟩, other⟩

theorem mem_others_iff {store : Store} {owner : Option UserId} {row : User} :
    row ∈ store.others owner ↔ row ∈ store.rows ∧ row.IsLive ∧ some row.id ≠ owner := by
  rw [mem_others, mem_rows]
  exact exists_and_right

theorem liveWith?_eq_some {store : Store} {wanted : User → Bool} {row : User}
    (found : store.liveWith? wanted = some row) :
    (∃ key, (key, row) ∈ store.entries) ∧ row.IsLive ∧ wanted row = true := by
  obtain ⟨key, member, alive⟩ := mem_live.1 (List.mem_of_find?_eq_some found)
  exact ⟨⟨key, member⟩, alive, List.find?_some found⟩

/-- After a write there is the row written, and every row under another key. -/
theorem mem_put {store : Store} {key : String} {row : User} {entry : String × User} :
    entry ∈ (store.put key row).entries ↔
      entry = (key, row) ∨ (entry ∈ store.entries ∧ entry.1 ≠ key) := by
  unfold put
  split
  next present =>
    obtain ⟨old, known, rfl⟩ := List.mem_map.1 present
    rw [List.mem_map]
    constructor
    · rintro ⟨before, member, rfl⟩
      split
      next => exact .inl rfl
      next elsewhere => exact .inr ⟨member, elsewhere⟩
    · rintro (rfl | ⟨member, elsewhere⟩)
      · exact ⟨old, known, if_pos rfl⟩
      · exact ⟨entry, member, if_neg elsewhere⟩
  next absent =>
    rw [List.mem_append, List.mem_singleton, or_comm]
    constructor
    · rintro (added | member)
      · exact .inl added
      · exact .inr ⟨member, fun same => absent (same ▸ List.mem_map_of_mem member)⟩
    · rintro (added | ⟨member, -⟩)
      · exact .inl added
      · exact .inr member

/-- A write finds no conflict exactly if no other live row holds a value that it claims. -/
theorem conflict?_eq_none {store : Store} {owner : Option UserId} {claimed : Claimed} :
    store.conflict? owner claimed = none ↔ ∀ row ∈ store.others owner,
      (∀ text ∈ claimed.account, row.account ≠ text) ∧
      (∀ text ∈ claimed.email, row.email ≠ some text) ∧
      (∀ text ∈ claimed.mobile, row.mobile ≠ some text) := by
  have untaken (field : UniqueField) (holds : User → String → Bool) (value : Option String) :
      ((value.filter fun text => (store.others owner).any fun row => holds row text).map
        (field, ·)) = none ↔
        ∀ row ∈ store.others owner, ∀ text ∈ value, holds row text = false := by
    rw [Option.map_eq_none_iff, Option.filter_eq_none_iff]
    constructor
    · intro none row member text claimed
      exact Bool.eq_false_iff.2 fun taken =>
        none text claimed (List.any_eq_true.2 ⟨row, member, taken⟩)
    · intro none text claimed taken
      obtain ⟨row, member, holds⟩ := List.any_eq_true.1 taken
      rw [none row member text claimed] at holds
      cases holds
  simp only [conflict?, Option.orElse_eq_orElse, Option.orElse_eq_or, Option.or_eq_none_iff,
    untaken, decide_eq_false_iff_not]
  constructor
  · rintro ⟨account, email, mobile⟩ row member
    exact ⟨account row member, email row member, mobile row member⟩
  · intro free
    exact ⟨fun row member => (free row member).1, fun row member => (free row member).2.1,
      fun row member => (free row member).2.2⟩

end UserDirectory.Store
