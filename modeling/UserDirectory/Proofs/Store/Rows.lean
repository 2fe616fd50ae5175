import UserDirectory.Proofs.Store.Lookup

namespace UserDirectory.Store

variable {store : Store} {id : UserId}

theorem entries_put_fresh (fresh : store.row? id = none) (row : User) :
    (store.put id.text row).entries = store.entries ++ [(id.text, row)] :=
  if_neg fun present => absurd (row?_isSome.2 present) (by rw [fresh]; exact Bool.false_ne_true)

theorem entries_put_known {known : User} (found : store.row? id = some known) (row : User) :
    (store.put id.text row).entries =
      store.entries.map fun entry => if entry.1 = id.text then (id.text, row) else entry :=
  if_pos (row?_isSome.1 (by rw [found]; rfl))

theorem liveRow?_put_elsewhere {key : String} (elsewhere : id.text ≠ key) (row : User) :
    (store.put key row).liveRow? id = store.liveRow? id := by
  apply Option.ext
  intro found
  rw [liveRow?_eq_some, liveRow?_eq_some, mem_put]
  constructor
  · rintro ⟨here | ⟨before, -⟩, alive⟩
    · exact absurd (congrArg Prod.fst here) elsewhere
    · exact ⟨before, alive⟩
  · rintro ⟨before, alive⟩
    exact ⟨.inr ⟨before, elsewhere⟩, alive⟩

theorem liveRow?_put_deleted {row : User} (deleted : ¬row.IsLive) :
    (store.put id.text row).liveRow? id = none := by
  refine Option.eq_none_iff_forall_ne_some.2 fun found here => ?_
  obtain ⟨member, alive⟩ := liveRow?_eq_some.1 here
  rcases mem_put.1 member with same | ⟨-, elsewhere⟩
  · obtain rfl : found = row := congrArg Prod.snd same
    exact deleted alive
  · exact elsewhere rfl

section Keyed

variable (keyed : ∀ entry ∈ store.entries, entry.1 = entry.2.id.text)
include keyed

theorem row?_eq_some_iff {row : User} :
    store.row? id = some row ↔ row ∈ store.rows ∧ row.id = id := by
  rw [row?_eq_some, mem_rows]
  constructor
  · exact fun member => ⟨⟨id.text, member⟩, (UserId.text_injective (keyed _ member)).symm⟩
  · rintro ⟨⟨key, member⟩, rfl⟩
    have own : key = row.id.text := keyed _ member
    exact own ▸ member

theorem liveRow?_eq_some_iff {row : User} :
    store.liveRow? id = some row ↔ row ∈ store.rows ∧ row.IsLive ∧ row.id = id := by
  rw [liveRow?, Option.filter_eq_some_iff, row?_eq_some_iff keyed, decide_eq_true_iff,
    and_assoc, and_comm (a := row.id = id)]

theorem rows_put_known {known : User} (found : store.row? id = some known) (row : User) :
    (store.put id.text row).rows = store.rows.map fun old => if old.id = id then row else old := by
  simp only [rows, entries_put_known found, List.map_map]
  apply List.map_congr_left
  intro entry inside
  have own : entry.1 = id.text ↔ entry.2.id = id := by
    rw [keyed entry inside]
    exact ⟨UserId.text_injective, congrArg UserId.text⟩
  by_cases here : entry.1 = id.text
  · simp only [Function.comp_apply, if_pos here, if_pos (own.1 here)]
  · simp only [Function.comp_apply, if_neg here, if_neg fun same => here (own.2 same)]

end Keyed

end UserDirectory.Store
