import UserDirectory.Proofs.Service.Session
import UserDirectory.Proofs.Store.Alike

/-!
Deleted rows, and the order in which rows stand, never show. Operations ask only what the live rows
decide, so over two stores with the same live rows they come to the same, and leave the same live
rows behind.
-/

namespace UserDirectory

open Service

theorem Memory.platform_mirrors (supplies : Supplies) (hasher : Hasher) :
    (Memory.platform supplies hasher).Mirrors (Memory.platform supplies hasher) Call.SeesLive
      (Memory.Alike supplies) where
  now a b alike := by
    obtain ⟨storeA, usage⟩ := a
    obtain ⟨storeB, same⟩ := b
    obtain rfl : usage = same := alike.matched.usage
    exact ⟨rfl, alike.matched.used _ (Nat.le_refl _), alike.first, alike.second⟩
  digest password a b alike := by
    obtain ⟨storeA, usage⟩ := a
    obtain ⟨storeB, same⟩ := b
    obtain rfl : usage = same := alike.matched.usage
    exact ⟨rfl, alike.matched.used _ (Nat.le_refl _), alike.first, alike.second⟩
  verify := rfl
  answer _ sees _ _ alike := alike.answer sees

namespace Session

variable (settings : Settings) (supplies : Supplies) (hasher : Hasher) (first second : Layout)

structure Alike (a b : Session) : Prop where
  memory : a.memory.Alike supplies b.memory
  history : a.history = b.history

variable {supplies}

theorem Alike.serve {a b : Session} (alike : a.Alike supplies b) (operation : Operation) :
    (a.serve settings supplies hasher first operation).Alike supplies
      (b.serve settings supplies hasher second operation) := by
  have makes : (operation.program settings).Makes Call.SeesLive :=
    (operation.makes settings).mono fun _ may => may.1
  have same := makes.run_mirrors (Memory.platform_mirrors supplies hasher) alike.memory
  constructor
  · exact same.state.arranged (first.perm _ _) (second.perm _ _)
  · simp only [Session.serve]
    rw [alike.history, same.result]

theorem Alike.run {a b : Session} (alike : a.Alike supplies b) (operations : List Operation) :
    (a.run settings supplies hasher first operations).Alike supplies
      (b.run settings supplies hasher second operations) := by
  induction operations generalizing a b with
  | nil => exact alike
  | cons operation rest ih => exact ih (alike.serve settings hasher first second operation)

/-- Over two memories with the same live rows, at the same place of the same supplies, operations
come to the same, one by one, and leave the same live rows behind. The deleted rows may be any, and
so may the orders in which the rows stand, before the first operation and after each. -/
theorem run_sees_live {a b : Memory} (alike : a.Alike supplies b) (operations : List Operation) :
    let x := run settings supplies hasher first operations ⟨a, []⟩
    let y := run settings supplies hasher second operations ⟨b, []⟩
    x.history = y.history ∧ ∀ row, row ∈ x.memory.store.live ↔ row ∈ y.memory.store.live := by
  have begun : Alike supplies ⟨a, []⟩ ⟨b, []⟩ := ⟨alike, rfl⟩
  have same := begun.run settings hasher first second operations
  exact ⟨same.history, same.memory.matched.live⟩

end Session

/-- Users without email and mobile number stand in a store together if their accounts differ. -/
theorem Store.consistent_of_accounts {store : Store}
    (keyed : ∀ entry ∈ store.entries, entry.1 = entry.2.id.text)
    (bare : ∀ entry ∈ store.entries, entry.2.email = none ∧ entry.2.mobile = none)
    (accounts : ∀ a ∈ store.entries, ∀ b ∈ store.entries, a.1 ≠ b.1 →
      a.2.account ≠ b.2.account) : store.Consistent where
  keyed := keyed
  apart a memberA b memberB different _ _ :=
    { account := accounts a memberA b memberB different
      email := fun text _ held => by
        rw [(bare a memberA).1] at held
        cases held
      mobile := fun text _ held => by
        rw [(bare a memberA).2] at held
        cases held }

def Layout.turning : Layout where
  arrange _ store :=
    { entries := store.entries.reverse
      distinct := (store.entries.reverse_perm.map Prod.fst).nodup_iff.2 store.distinct }
  perm _ store := store.entries.reverse_perm

namespace Session

def alice : User := .ofNew ⟨"u-3", rfl⟩ { account := "alice" } .epoch

def bob : User := .ofNew ⟨"u-4", rfl⟩ { account := "bob" } .epoch

def carol : User := { User.ofNew ⟨"u-5", rfl⟩ { account := "carol" } .epoch with
  deletedAt := some .epoch }

def crowded : Memory where
  store := { entries := [("u-3", alice), ("u-4", bob), ("u-5", carol)], distinct := by decide }

def tidy : Memory where
  store := { entries := [("u-4", bob), ("u-3", alice)], distinct := by decide }

theorem crowded_alike_tidy : crowded.Alike .still tidy where
  matched :=
    { live := fun row => by
        have crowd : crowded.store.live = [alice, bob] := by decide
        have tidied : tidy.store.live = [bob, alice] := by decide
        simp only [crowd, tidied, List.mem_cons, List.not_mem_nil, or_false]
        exact or_comm
      usage := rfl
      taken := fun number id _ drawn => by
        obtain rfl := Except.ok.inj drawn
        split
        next first => decide
        next later => decide }
  first := Store.consistent_of_accounts (by decide) (by decide) (by decide)
  second := Store.consistent_of_accounts (by decide) (by decide) (by decide)

def visits : List Operation :=
  [.createUser { account := "carol", password := "pw1" }, .listUsers {}, .deleteUser "u-4",
    .getUserStatistics none]

theorem visits_see_live :
    crowded.Alike .still tidy ∧
      let x := run .utc .still .plain .steady visits ⟨crowded, []⟩
      let y := run .utc .still .plain .turning visits ⟨tidy, []⟩
      x.history = y.history ∧ ∀ row, row ∈ x.memory.store.live ↔ row ∈ y.memory.store.live :=
  ⟨crowded_alike_tidy, run_sees_live .utc .plain .steady .turning crowded_alike_tidy visits⟩

end Session

end UserDirectory
