import UserDirectory.Proofs.Service.Calls
import UserDirectory.Proofs.Store.Consistency
import UserDirectory.Proofs.Store.Order
import UserDirectory.Proofs.Store.Rows

/-!
Two stores with the same live rows, whatever their deleted rows and in whatever order. Consistent
stores answer alike every question that the live rows decide: a look-up finds the one row that it
can find, a count counts the same rows, and a listing puts them into an order that leaves no ties.
-/

namespace UserDirectory

namespace Store

section Unique

variable {store : Store} (consistent : store.Consistent)
include consistent

theorem Consistent.eq_of_not_apart {a b : User} (memberA : a ∈ store.live)
    (memberB : b ∈ store.live) (clash : ¬a.Apart b) : a = b := by
  obtain ⟨keyA, entryA, aliveA⟩ := mem_live.1 memberA
  obtain ⟨keyB, entryB, aliveB⟩ := mem_live.1 memberB
  by_cases same : keyA = keyB
  · subst same
    exact row_unique entryA entryB
  · exact absurd (consistent.apart _ entryA _ entryB same aliveA aliveB) clash

theorem Consistent.liveRow?_eq_some {id : UserId} {row : User} :
    store.liveRow? id = some row ↔ row ∈ store.live ∧ row.id = id := by
  rw [liveRow?_eq_some_iff consistent.keyed, live, List.mem_filter, decide_eq_true_iff, and_assoc]

theorem Consistent.liveWith?_eq_some {wanted : User → Bool}
    (unique : ∀ x y, wanted x = true → wanted y = true → ¬x.Apart y) {row : User} :
    store.liveWith? wanted = some row ↔ row ∈ store.live ∧ wanted row = true := by
  constructor
  · intro found
    exact ⟨List.mem_of_find?_eq_some found, List.find?_some found⟩
  · rintro ⟨member, holds⟩
    cases first : store.liveWith? wanted with
    | none => exact absurd holds (List.find?_eq_none.1 first row member)
    | some other =>
      have clash := unique other row (List.find?_some first) holds
      exact congrArg some
        (consistent.eq_of_not_apart (List.mem_of_find?_eq_some first) member clash)

theorem Consistent.live_nodup : store.live.Nodup :=
  (List.Nodup.of_map User.id (ids_nodup consistent.keyed)).filter _

theorem Consistent.mem_live_put {id : UserId} {changed row : User} :
    row ∈ (store.put id.text changed).live ↔
      (row = changed ∧ changed.IsLive) ∨ (row ∈ store.live ∧ row.id ≠ id) := by
  simp only [mem_live, mem_put, Prod.mk.injEq]
  constructor
  · rintro ⟨key, ⟨-, rfl⟩ | ⟨member, elsewhere⟩, alive⟩
    · exact .inl ⟨rfl, alive⟩
    · refine .inr ⟨⟨key, member, alive⟩, fun same => elsewhere ?_⟩
      exact (consistent.keyed _ member).trans (congrArg UserId.text same)
  · rintro (⟨rfl, alive⟩ | ⟨⟨key, member, alive⟩, other⟩)
    · exact ⟨id.text, .inl ⟨rfl, rfl⟩, alive⟩
    · refine ⟨key, .inr ⟨member, fun same => other ?_⟩, alive⟩
      exact UserId.text_injective ((consistent.keyed _ member).symm.trans same)

end Unique

def SameLive (a b : Store) : Prop := ∀ row, row ∈ a.live ↔ row ∈ b.live

namespace SameLive

variable {a b : Store} (same : a.SameLive b)
include same

theorem conflict?_eq (owner : Option UserId) (claimed : Claimed) :
    a.conflict? owner claimed = b.conflict? owner claimed := by
  have others (row : User) : row ∈ a.others owner ↔ row ∈ b.others owner := by
    rw [Store.others, Store.others, List.mem_filter, List.mem_filter, same row]
  have any (holds : User → Bool) : (a.others owner).any holds = (b.others owner).any holds := by
    rw [Bool.eq_iff_iff, List.any_eq_true, List.any_eq_true]
    exact exists_congr fun row => and_congr_left' (others row)
  simp only [conflict?, any]

variable (consistentA : a.Consistent) (consistentB : b.Consistent)
include consistentA consistentB

theorem liveRow?_eq (id : UserId) : a.liveRow? id = b.liveRow? id := by
  apply Option.ext
  intro row
  rw [consistentA.liveRow?_eq_some, consistentB.liveRow?_eq_some, same row]

theorem selection_perm (filter : Filter) : (a.selection filter).Perm (b.selection filter) :=
  ((List.perm_ext_iff_of_nodup consistentA.live_nodup consistentB.live_nodup).2 same).filter _

theorem count_eq (filter : Filter) : a.count filter = b.count filter :=
  (same.selection_perm consistentA consistentB filter).length_eq

/-- A look-up that can find one row only finds the same row in both stores. -/
theorem liveWith?_eq {wanted : User → Bool}
    (unique : ∀ x y, wanted x = true → wanted y = true → ¬x.Apart y) :
    a.liveWith? wanted = b.liveWith? wanted := by
  apply Option.ext
  intro row
  rw [consistentA.liveWith?_eq_some unique, consistentB.liveWith?_eq_some unique, same row]

/-- Sorted, the same users stand in the same order, for the order of listings leaves no ties. -/
theorem sorted_eq (filter : Filter) :
    (a.selection filter).mergeSort precedes = (b.selection filter).mergeSort precedes :=
  sorted_unique (same.selection_perm consistentA consistentB filter)
    (b.selection_ids_nodup (ids_nodup consistentB.keyed) filter)

theorem page_eq (query : Query) : a.page query = b.page query := by
  rw [page, page, same.sorted_eq consistentA consistentB,
    (same.selection_perm consistentA consistentB query.filter).length_eq]

theorem statistics_eq (scope : Filter) (windows : Windows) :
    Memory.statistics a scope windows = Memory.statistics b scope windows := by
  simp only [Memory.statistics, same.count_eq consistentA consistentB]

theorem put (id : UserId) (row : User) : (a.put id.text row).SameLive (b.put id.text row) := by
  intro other
  rw [consistentA.mem_live_put, consistentB.mem_live_put, same other]

end SameLive

theorem mem_keys_put {store : Store} {key text : String} {row : User} :
    text ∈ (store.put key row).keys ↔ text = key ∨ text ∈ store.keys := by
  simp only [keys, List.mem_map, mem_put]
  constructor
  · rintro ⟨entry, rfl | ⟨member, -⟩, rfl⟩
    · exact .inl rfl
    · exact .inr ⟨entry, member, rfl⟩
  · rintro (rfl | ⟨entry, member, rfl⟩)
    · exact ⟨(text, row), .inl rfl, rfl⟩
    · by_cases same : entry.1 = key
      · exact ⟨(key, row), .inl rfl, same.symm⟩
      · exact ⟨entry, .inr ⟨member, same⟩, rfl⟩

section Perm

variable {a b : Store} (perm : a.entries.Perm b.entries)
include perm

theorem Consistent.of_perm (consistent : b.Consistent) : a.Consistent where
  keyed entry member := consistent.keyed entry (perm.mem_iff.1 member)
  apart x memberX y memberY :=
    consistent.apart x (perm.mem_iff.1 memberX) y (perm.mem_iff.1 memberY)

theorem mem_live_of_perm {row : User} : row ∈ a.live ↔ row ∈ b.live := by
  simp only [mem_live, perm.mem_iff]

theorem mem_keys_of_perm {text : String} : text ∈ a.keys ↔ text ∈ b.keys :=
  (perm.map Prod.fst).mem_iff

end Perm

end Store

namespace Memory

/-- Two memories with the same live rows, at the same place of the same supplies. Of the ids to come
each is taken in both stores or in neither. -/
structure Matched (supplies : Supplies) (a b : Memory) : Prop where
  live : a.store.SameLive b.store
  usage : a.usage = b.usage
  taken : ∀ number id, a.usage.identifiers ≤ number → supplies.identifier number = .ok id →
    (id.text ∈ a.store.keys ↔ id.text ∈ b.store.keys)

variable {supplies : Supplies} {a b : Memory}

theorem Matched.used (matched : a.Matched supplies b) (usage : Usage)
    (onward : a.usage.identifiers ≤ usage.identifiers) :
    ({ a with usage } : Memory).Matched supplies { b with usage } where
  live := matched.live
  usage := rfl
  taken number id after drawn := matched.taken number id (Nat.le_trans onward after) drawn

structure Alike (supplies : Supplies) (a b : Memory) : Prop where
  matched : a.Matched supplies b
  first : a.store.Consistent
  second : b.store.Consistent

theorem alike_of_perm (consistent : a.store.Consistent)
    (perm : b.store.entries.Perm a.store.entries) (usage : a.usage = b.usage) :
    a.Alike supplies b where
  matched :=
    { live := fun _ => (Store.mem_live_of_perm perm).symm
      usage := usage
      taken := fun _ _ _ _ => (Store.mem_keys_of_perm perm).symm }
  first := consistent
  second := consistent.of_perm perm

theorem Alike.put (alike : a.Alike supplies b) (id : UserId) (row : User) :
    ({ a with store := a.store.put id.text row } : Memory).Matched supplies
      { b with store := b.store.put id.text row } where
  live := alike.matched.live.put alike.first alike.second id row
  usage := alike.matched.usage
  taken number other after drawn := by
    rw [Store.mem_keys_put, Store.mem_keys_put, alike.matched.taken number other after drawn]

/-- The order of the rows is nothing to either memory. -/
theorem Alike.arranged (alike : a.Alike supplies b) {storeA storeB : Store}
    (permA : storeA.entries.Perm a.store.entries) (permB : storeB.entries.Perm b.store.entries) :
    ({ a with store := storeA } : Memory).Alike supplies { b with store := storeB } where
  matched :=
    { live := fun row => by
        rw [Store.mem_live_of_perm permA, Store.mem_live_of_perm permB, alike.matched.live row]
      usage := alike.matched.usage
      taken := fun number id after drawn => by
        rw [Store.mem_keys_of_perm permA, Store.mem_keys_of_perm permB,
          alike.matched.taken number id after drawn] }
  first := alike.first.of_perm permA
  second := alike.second.of_perm permB

theorem Alike.alter (alike : a.Alike supplies b) (id : UserId) (change : User → Instant → User) :
    (a.alter supplies id change).1 = (b.alter supplies id change).1 ∧
      (a.alter supplies id change).2.Matched supplies (b.alter supplies id change).2 := by
  obtain ⟨storeA, usage⟩ := a
  obtain ⟨storeB, same⟩ := b
  obtain rfl : usage = same := alike.matched.usage
  have found : storeA.liveRow? id = storeB.liveRow? id :=
    alike.matched.live.liveRow?_eq alike.first alike.second id
  cases here : storeB.liveRow? id with
  | none =>
    simp only [Memory.alter, found, here]
    exact ⟨trivial, alike.matched⟩
  | some row =>
    simp only [Memory.alter, found, here, readInstant, Usage.readInstant]
    cases supplies.instant usage.instants with
    | error failure => exact ⟨rfl, alike.matched.used _ (Nat.le_refl _)⟩
    | ok now => exact ⟨rfl, (alike.put id (change row now)).used _ (Nat.le_refl _)⟩

theorem Alike.save (alike : a.Alike supplies b) (new : NewUser) :
    (a.save supplies new).1 = (b.save supplies new).1 ∧
      (a.save supplies new).2.Matched supplies (b.save supplies new).2 := by
  obtain ⟨storeA, usage⟩ := a
  obtain ⟨storeB, same⟩ := b
  obtain rfl : usage = same := alike.matched.usage
  have guard : storeA.conflict? none new.claimed = storeB.conflict? none new.claimed :=
    alike.matched.live.conflict?_eq none new.claimed
  cases free : storeB.conflict? none new.claimed with
  | some taken =>
    simp only [Memory.save, guard, free]
    exact ⟨trivial, alike.matched⟩
  | none =>
    have drawn := alike.matched.used { usage with identifiers := usage.identifiers + 1 }
      (Nat.le_succ _)
    cases given : supplies.identifier usage.identifiers with
    | error failure =>
      simp only [Memory.save, guard, free, drawIdentifier, Usage.drawIdentifier, given]
      exact ⟨trivial, drawn⟩
    | ok id =>
      have taken : (storeA.row? id).isSome = (storeB.row? id).isSome := by
        rw [Bool.eq_iff_iff, Store.row?_isSome, Store.row?_isSome]
        exact alike.matched.taken usage.identifiers id (Nat.le_refl _) given
      cases fresh : (storeB.row? id).isSome with
      | true =>
        simp only [Memory.save, guard, free, drawIdentifier, Usage.drawIdentifier, given, taken,
          fresh, ↓reduceIte]
        exact ⟨trivial, drawn⟩
      | false =>
        simp only [Memory.save, guard, free, drawIdentifier, Usage.drawIdentifier, given, taken,
          fresh, Bool.false_eq_true, ↓reduceIte, readInstant, Usage.readInstant]
        cases supplies.instant usage.instants with
        | error failure => exact ⟨rfl, alike.matched.used _ (Nat.le_succ _)⟩
        | ok now =>
          exact ⟨rfl, (alike.put id (User.ofNew id new now)).used _ (Nat.le_succ _)⟩

theorem Alike.update (alike : a.Alike supplies b) (patch : Patch) :
    (a.update supplies patch).1 = (b.update supplies patch).1 ∧
      (a.update supplies patch).2.Matched supplies (b.update supplies patch).2 := by
  have found : a.store.liveRow? patch.id = b.store.liveRow? patch.id :=
    alike.matched.live.liveRow?_eq alike.first alike.second patch.id
  have guard := alike.matched.live.conflict?_eq (some patch.id) patch.claimed
  simp only [Memory.update, found, guard]
  split
  next missing => exact ⟨rfl, alike.matched⟩
  next row here =>
    split
    next taken => exact ⟨rfl, alike.matched⟩
    next free => exact alike.alter patch.id patch.apply

/-- A call that the live rows alone decide is answered alike, and the memories stay alike. -/
theorem Alike.answer (alike : a.Alike supplies b) {wanted : Call} (sees : wanted.SeesLive) :
    (a.answer supplies wanted).1 = (b.answer supplies wanted).1 ∧
      (a.answer supplies wanted).2.Alike supplies (b.answer supplies wanted).2 := by
  suffices answered : (a.answer supplies wanted).1 = (b.answer supplies wanted).1 ∧
      (a.answer supplies wanted).2.Matched supplies (b.answer supplies wanted).2 from
    ⟨answered.1, answered.2, alike.first.change (answer_change supplies a wanted),
      alike.second.change (answer_change supplies b wanted)⟩
  have live := alike.matched.live
  have read {x y : wanted.Reply} (same : x = y) :
      (.ok x : Except Failure wanted.Reply) = .ok y ∧ a.Matched supplies b :=
    ⟨congrArg Except.ok same, alike.matched⟩
  cases wanted with
  | save new => exact alike.save new
  | update patch => exact alike.update patch
  | delete id =>
    have altered := alike.alter id fun row now => { row with deletedAt := some now }
    exact ⟨congrArg (Except.map Option.isSome) altered.1, altered.2⟩
  | changeStatus id status updateBy =>
    have altered := alike.alter id fun row now =>
      { row with status, updateBy := updateBy <|> row.updateBy, updatedAt := now }
    exact ⟨congrArg (Except.map Option.isSome) altered.1, altered.2⟩
  | findById id => exact read (live.liveRow?_eq alike.first alike.second id)
  | findByIdIncludingDeleted id => exact False.elim sees
  | findByAccount account =>
    refine read (live.liveWith?_eq alike.first alike.second fun x y first second apart => ?_)
    exact apart.account ((of_decide_eq_true first).trans (of_decide_eq_true second).symm)
  | findByEmail email =>
    refine read (live.liveWith?_eq alike.first alike.second fun x y first second apart => ?_)
    exact apart.email email sees (of_decide_eq_true first) (of_decide_eq_true second)
  | findByMobile mobile =>
    refine read (live.liveWith?_eq alike.first alike.second fun x y first second apart => ?_)
    exact apart.mobile mobile sees (of_decide_eq_true first) (of_decide_eq_true second)
  | list query => exact read (live.page_eq alike.first alike.second query)
  | count filter => exact read (live.count_eq alike.first alike.second filter)
  | statistics scope windows =>
    exact read (live.statistics_eq alike.first alike.second scope windows)

end Memory

end UserDirectory
