import Mathlib.Data.Finset.Sort
import UserDirectory.Proofs.Keyed
import UserDirectory.Proofs.Migration.Recovery

/-!
Taking migrations back. The step that is taken back is the one with the greatest version on record,
whenever it was taken, so going back as many steps as a run took undoes the run exactly if it took
no version below one that was on record. The step lemma is `takeBackLast_brings`, the run lemma
`takeBackTimes_brings`.
-/

namespace UserDirectory.Migration

open Database Sql

section Transaction

variable {peer : Peer σ} {state : σ}

theorem brings_inTransaction {request : Request} {doing : String}
    {wanted : Unit → σ → List (Step σ) → Prop}
    (answered : ∀ answer after, peer request state = (.ok answer, after) →
      wanted () after [⟨request, .ok answer, after⟩]) :
    (inTransaction request doing).Brings peer state wanted :=
  shows_inTransaction (fun answer after told =>
      ⟨List.forall_mem_singleton.2 ⟨answer, rfl⟩, answered answer after told⟩)
    fun _ _ _ _ _ _ => ⟨_, List.mem_cons_self, nofun⟩

theorem brings_begin {wanted : Unit → σ → List (Step σ) → Prop}
    (answered : ∀ answer after, peer .begin state = (.ok answer, after) →
      wanted () after [⟨.begin, .ok answer, after⟩]) :
    begin.Brings peer state wanted :=
  shows_begin (fun answer after told =>
      ⟨List.forall_mem_singleton.2 ⟨answer, rfl⟩, answered answer after told⟩)
    fun _ _ _ => ⟨_, List.mem_singleton_self _, nofun⟩

end Transaction

namespace Ledger

def forget (version : Int) (ledger : Ledger) : Ledger :=
  { ledger with versions := ledger.versions.erase version }

def takeBack (ledger : Ledger) (migration : Migration) : Ledger :=
  (ledger.run migration.down).forget migration.version

def takeBackAll (ledger : Ledger) (migrations : List Migration) : Ledger :=
  migrations.foldl takeBack ledger

theorem takeBackAll_versions (ledger : Ledger) (migrations : List Migration) :
    (ledger.takeBackAll migrations).versions =
      ledger.versions \ (migrations.map Migration.version).toFinset := by
  induction migrations generalizing ledger with
  | nil => simp [takeBackAll]
  | cons migration rest ih =>
    refine (ih (ledger.takeBack migration)).trans ?_
    ext version
    simp only [takeBack, forget, run, List.map_cons, List.toFinset_cons, Finset.mem_sdiff,
      Finset.mem_erase, Finset.mem_insert]
    tauto

end Ledger

/-- A transactional database that gives the versions on record in ascending order and follows the
requests that take a step back. -/
structure Reversible (peer : Peer σ) (view : σ → Contents) (migrations : List Migration) : Prop
    extends Transactional peer view migrations where
  ascending : ∀ {state after answer ledger}, view state = ⟨ledger, none⟩ →
    peer (.migrations .versions) state = (.ok answer, after) →
    ∃ versions : List Int, answer.rows = versions.map versionRow ∧
      versions.Pairwise (· < ·) ∧ versions.toFinset = ledger.versions
  reverted : ∀ {state after answer ledger pending}, ∀ migration ∈ migrations,
    view state = ⟨ledger, some pending⟩ →
    peer (.script migration.down) state = (.ok answer, after) →
    view after = ⟨ledger, some (pending.run migration.down)⟩
  forgotten : ∀ {state after answer ledger pending version},
    view state = ⟨ledger, some pending⟩ →
    peer (.migrations (.forget version)) state = (.ok answer, after) →
    view after = ⟨ledger, some (pending.forget version)⟩

def takeBackTimes (migrations : List Migration) : Nat → Exchange (List (Option Int))
  | 0 => .done []
  | count + 1 => do
    let version ← takeBackLast migrations
    return version :: (← takeBackTimes migrations count)

section Steps

variable {peer : Peer σ} {view : σ → Contents} {migrations : List Migration} {state : σ}
  {ledger : Ledger} (reversible : Reversible peer view migrations)
include reversible

theorem taken_brings (closed : view state = ⟨ledger, none⟩) :
    taken.Brings peer state fun versions after steps =>
      versions.Pairwise (· < ·) ∧ versions.toFinset = ledger.versions ∧
        view after = ⟨ledger, none⟩ ∧ scripts steps = [] := by
  unfold taken
  refine .bind (Exchange.brings_ask fun _ created told => ?_)
  have there := reversible.createTable closed told
  refine .bind (Exchange.brings_ask fun answer after told => ?_)
  have kept := (reversible.versions there told).1
  obtain ⟨versions, rows, ascending, all⟩ := reversible.ascending there told
  simp only [rows, versions_read]
  exact Exchange.brings_done ⟨ascending, all, kept, rfl⟩

/-- A step is taken back whole: its script is run and its record is gone. -/
theorem takeBack_brings {migration : Migration} (member : migration ∈ migrations)
    (closed : view state = ⟨ledger, none⟩) :
    (takeBack migration).Brings peer state fun _ after steps =>
      view after = ⟨ledger.takeBack migration, none⟩ ∧ scripts steps = [migration.down] := by
  unfold takeBack
  refine .bind (brings_begin fun _ _ told => ?_)
  have opened := reversible.begun closed told
  refine .bind (brings_inTransaction fun _ _ told => ?_)
  have reverted := reversible.reverted migration member opened told
  refine .bind (brings_inTransaction fun _ _ told => ?_)
  have forgotten := reversible.forgotten reverted told
  refine .bind (brings_inTransaction fun _ after told => ?_)
  exact Exchange.brings_info ⟨reversible.committed forgotten told, rfl⟩

variable (distinct : (migrations.map Migration.version).Nodup)
include distinct

/-- The step lemma: of the versions on record the greatest is taken back. -/
theorem takeBackLast_brings {migration : Migration} (member : migration ∈ migrations)
    (recorded : migration.version ∈ ledger.versions)
    (greatest : ∀ version ∈ ledger.versions, version ≤ migration.version)
    (closed : view state = ⟨ledger, none⟩) :
    (takeBackLast migrations).Brings peer state fun version after steps =>
      version = some migration.version ∧ view after = ⟨ledger.takeBack migration, none⟩ ∧
        scripts steps = [migration.down] := by
  have last (versions : List Int) (ascending : versions.Pairwise (· < ·))
      (all : versions.toFinset = ledger.versions) :
      versions.getLast? = some migration.version := by
    have listed : migration.version ∈ versions := List.mem_toFinset.1 (all ▸ recorded)
    have nonempty := List.ne_nil_of_mem listed
    rw [List.getLast?_eq_some_getLast nonempty, Option.some_inj]
    refine le_antisymm (greatest _ ?_) ?_
    · exact all ▸ List.mem_toFinset.2 (List.getLast_mem nonempty)
    · exact (ascending.imp le_of_lt).rel_getLast listed
  have ordered : ((inOrder migrations).map Migration.version).Nodup :=
    ((List.mergeSort_perm migrations _).map Migration.version).nodup_iff.2 distinct
  have found : (inOrder migrations).find? (fun other => other.version = migration.version) =
      some migration := find?_key_eq_some ordered (List.mem_mergeSort.2 member)
  unfold takeBackLast current
  refine .bind (.bind ((taken_brings reversible closed).mono ?_))
  rintro versions read made ⟨ascending, all, kept, quiet⟩
  refine Exchange.brings_done ?_
  simp only [last versions ascending all, found]
  refine .bind ((takeBack_brings reversible member kept).mono ?_)
  rintro _ after steps ⟨left, sent⟩
  refine Exchange.brings_done ⟨rfl, left, ?_⟩
  simp only [scripts_append, quiet, sent]
  rfl

/-- The run lemma: the greatest versions on record are taken back, the greatest first. -/
theorem takeBackTimes_brings {due : List Migration}
    (descending : due.Pairwise fun a b => b.version < a.version)
    (among : ∀ migration ∈ due, migration ∈ migrations ∧ migration.version ∈ ledger.versions)
    (greatest : ∀ version ∈ ledger.versions,
      version ∈ due.map Migration.version ∨ ∀ migration ∈ due, version < migration.version)
    (closed : view state = ⟨ledger, none⟩) :
    (takeBackTimes migrations due.length).Brings peer state fun versions after steps =>
      versions = due.map (fun migration => some migration.version) ∧
        view after = ⟨ledger.takeBackAll due, none⟩ ∧ scripts steps = due.map Migration.down := by
  induction due generalizing state ledger with
  | nil => exact Exchange.brings_done ⟨rfl, closed, rfl⟩
  | cons migration rest ih =>
    obtain ⟨first, descending⟩ := List.pairwise_cons.1 descending
    obtain ⟨⟨member, recorded⟩, among⟩ := List.forall_mem_cons.1 among
    have most : ∀ version ∈ ledger.versions, version ≤ migration.version := by
      intro version there
      rcases greatest version there with here | below
      · rcases List.mem_cons.1 here with rfl | later
        · exact le_rfl
        · obtain ⟨other, inside, rfl⟩ := List.mem_map.1 later
          exact (first other inside).le
      · exact (below migration List.mem_cons_self).le
    refine .bind ((takeBackLast_brings reversible distinct member recorded most closed).mono ?_)
    rintro _ after made ⟨rfl, left, sent⟩
    refine .bind ((ih descending (fun other inside => ?_) (fun version there => ?_) left).mono ?_)
    · exact ⟨(among other inside).1,
        Finset.mem_erase.2 ⟨(first other inside).ne, (among other inside).2⟩⟩
    · obtain ⟨other, before⟩ := Finset.mem_erase.1 there
      exact (greatest version before).imp (fun here => (List.mem_cons.1 here).resolve_left other)
        fun below => (List.forall_mem_cons.1 below).2
    · rintro _ last more ⟨rfl, left, reverted⟩
      refine Exchange.brings_done ⟨rfl, left, ?_⟩
      simp only [scripts_append, sent, reverted]
      exact congrArg (migration.down :: ·) (List.append_nil _)

end Steps

def greatest (migrations : List Migration) (count : Nat) : List Migration :=
  (inOrder migrations).reverse.take count

section Greatest

variable {migrations : List Migration} (distinct : (migrations.map Migration.version).Nodup)
  {count : Nat} {migration other : Migration}

theorem mem_of_mem_greatest (member : migration ∈ greatest migrations count) :
    migration ∈ migrations :=
  List.mem_mergeSort.1 (List.mem_reverse.1 (List.mem_of_mem_take member))

include distinct

theorem greatest_descending :
    (greatest migrations count).Pairwise fun a b => b.version < a.version :=
  (List.pairwise_reverse.2 (inOrder_ascending distinct)).take

theorem lt_of_mem_greatest (member : migration ∈ migrations)
    (outside : migration ∉ greatest migrations count)
    (inside : other ∈ greatest migrations count) : migration.version < other.version := by
  have descending := List.pairwise_reverse.2 (inOrder_ascending distinct)
  rw [← List.take_append_drop count (inOrder migrations).reverse] at descending
  refine (List.pairwise_append.1 descending).2.2 other inside migration ?_
  have listed : migration ∈ (inOrder migrations).reverse :=
    List.mem_reverse.2 (List.mem_mergeSort.2 member)
  rw [← List.take_append_drop count (inOrder migrations).reverse] at listed
  exact (List.mem_append.1 listed).resolve_left outside

variable {recorded : Finset Int}

/-- The last steps are those that were due if these are behind all that are on record. -/
theorem greatest_eq_pending
    (behind : ∀ old ∈ recorded, ∀ step ∈ pending migrations recorded, old < step.version) :
    greatest migrations (pending migrations recorded).length =
      (pending migrations recorded).reverse := by
  let known := (inOrder migrations).filter fun migration => migration.version ∈ recorded
  have ascending : (known ++ pending migrations recorded).Pairwise
      fun a b => a.version < b.version := by
    refine List.pairwise_append.2 ⟨(inOrder_ascending distinct).filter _,
      (inOrder_ascending distinct).filter _, fun old member step due => ?_⟩
    exact behind _ (of_decide_eq_true (List.mem_filter.1 member).2) step due
  have perm : (known ++ pending migrations recorded).Perm (inOrder migrations) := by
    have parts := List.filter_append_perm (fun migration : Migration =>
      decide (migration.version ∈ recorded)) (inOrder migrations)
    simpa only [known, pending, decide_not] using parts
  have split : inOrder migrations = known ++ pending migrations recorded :=
    perm.symm.eq_of_pairwise (fun a b _ _ first second => absurd first second.not_gt)
      (inOrder_ascending distinct) ascending
  rw [greatest, split, List.reverse_append, ← List.length_reverse, List.take_left']
  rfl

variable (contained : ∀ version ∈ recorded, version ∈ migrations.map Migration.version)
include contained

theorem behind_of_left (left : (recorded ∪ ((pending migrations recorded).map
      Migration.version).toFinset) \
        ((greatest migrations count).map Migration.version).toFinset = recorded) :
    ∀ old ∈ recorded, ∀ step ∈ pending migrations recorded, old < step.version := by
  intro old before step due
  obtain ⟨known, member, rfl⟩ := List.mem_map.1 (contained old before)
  have kept := left.symm ▸ before
  have lost : step.version ∉ recorded := (mem_pending.1 due).2
  rw [← left] at lost
  simp only [Finset.mem_sdiff, Finset.mem_union, List.mem_toFinset, not_and, not_not] at kept lost
  obtain ⟨other, inside, same⟩ := List.mem_map.1 (lost (.inr (List.mem_map_of_mem due)))
  rw [← same]
  exact lt_of_mem_greatest distinct member (fun inside => kept.2 (List.mem_map_of_mem inside))
    inside

end Greatest

theorem left_of_pending (migrations : List Migration) (recorded : Finset Int) :
    (recorded ∪ ((pending migrations recorded).map Migration.version).toFinset) \
        ((pending migrations recorded).reverse.map Migration.version).toFinset = recorded := by
  rw [List.map_reverse, List.toFinset_reverse]
  refine Finset.union_sdiff_cancel_right (Finset.disjoint_left.2 fun version before due => ?_)
  obtain ⟨step, member, rfl⟩ := List.mem_map.1 (List.mem_toFinset.1 due)
  exact (mem_pending.1 member).2 before

theorem mem_recorded_or_pending {migrations : List Migration} {recorded : Finset Int}
    (contained : ∀ version ∈ recorded, version ∈ migrations.map Migration.version)
    (version : Int) :
    version ∈ recorded ∪ ((pending migrations recorded).map Migration.version).toFinset ↔
      version ∈ migrations.map Migration.version := by
  rw [Finset.mem_union, List.mem_toFinset]
  constructor
  · rintro (before | due)
    · exact contained version before
    · obtain ⟨step, missing, rfl⟩ := List.mem_map.1 due
      exact List.mem_map_of_mem (mem_pending.1 missing).1
  · intro listed
    obtain ⟨step, member, rfl⟩ := List.mem_map.1 listed
    by_cases known : step.version ∈ recorded
    · exact .inl known
    · exact .inr (List.mem_map_of_mem (mem_pending.2 ⟨member, known⟩))

/-- Where all steps are taken, going back takes back the last of them. -/
theorem takeBackTimes_greatest {peer : Peer σ} {view : σ → Contents} {migrations : List Migration}
    {state : σ} {ledger : Ledger} (reversible : Reversible peer view migrations)
    (distinct : (migrations.map Migration.version).Nodup) {count : Nat}
    (few : count ≤ migrations.length)
    (full : ∀ version, version ∈ ledger.versions ↔ version ∈ migrations.map Migration.version)
    (closed : view state = ⟨ledger, none⟩) :
    (takeBackTimes migrations count).Brings peer state fun versions after steps =>
      versions = (greatest migrations count).map (fun migration => some migration.version) ∧
        view after = ⟨ledger.takeBackAll (greatest migrations count), none⟩ ∧
        scripts steps = (greatest migrations count).map Migration.down := by
  have enough : (greatest migrations count).length = count := by
    rw [greatest, List.length_take, List.length_reverse, inOrder, List.length_mergeSort,
      Nat.min_eq_left few]
  have recorded (step : Migration) (inside : step ∈ greatest migrations count) :
      step ∈ migrations ∧ step.version ∈ ledger.versions :=
    ⟨mem_of_mem_greatest inside, (full _).2 (List.mem_map_of_mem (mem_of_mem_greatest inside))⟩
  have below (version : Int) (there : version ∈ ledger.versions) :
      version ∈ (greatest migrations count).map Migration.version ∨
        ∀ step ∈ greatest migrations count, version < step.version := by
    obtain ⟨step, member, rfl⟩ := List.mem_map.1 ((full version).1 there)
    by_cases last : step ∈ greatest migrations count
    · exact .inl (List.mem_map_of_mem last)
    · exact .inr fun other inside => lt_of_mem_greatest distinct member last inside
  have brings := takeBackTimes_brings reversible distinct (greatest_descending distinct) recorded
    below closed
  rwa [enough] at brings

/-- Over a transactional database, with any of the steps on record at first: after a run that
succeeds, going back as many steps as it took takes back the greatest versions, the greatest first,
and fails only where a request fails. These are the steps of the run, the last one first, and what
was on record is on record again, exactly if no version that was on record is behind one that the
run took. -/
theorem takeBackTimes_undoes_iff {peer : Peer σ} {view : σ → Contents}
    {migrations : List Migration} (reversible : Reversible peer view migrations)
    (distinct : (migrations.map Migration.version).Nodup) (state : σ)
    (closed : (view state).pending = none)
    (contained : ∀ version ∈ (view state).stored.versions,
      version ∈ migrations.map Migration.version) (versions : List Int)
    (succeeded : ((takePending migrations).hold peer state).result = .ok versions) :
    let recorded := (view state).stored.versions
    let due := pending migrations recorded
    let taken := ((takePending migrations).hold peer state).state
    let held := (takeBackTimes migrations versions.length).hold peer taken
    let steps := (takeBackTimes migrations versions.length).steps peer taken
    let back := greatest migrations versions.length
    let behind := ∀ old ∈ recorded, ∀ new ∈ versions, old < new
    versions = due.map Migration.version ∧
    ((∃ given, held.result = .ok given) ↔ ∀ step ∈ steps, step.Answered) ∧
    (∀ given, held.result = .ok given →
      given = back.map (fun migration => some migration.version) ∧
      scripts steps = back.map Migration.down ∧
      view held.state = ⟨(view taken).stored.takeBackAll back, none⟩ ∧
      ((view held.state).stored.versions = recorded ↔ behind)) ∧
    (back = due.reverse ↔ behind) := by
  intro recorded due taken held steps back behind
  have start : view state = ⟨(view state).stored, none⟩ := congrArg (Contents.mk _) closed
  obtain ⟨told, left⟩ := takePending_finished reversible.toTransactional start succeeded
  have count : versions.length = due.length := (congrArg List.length told).trans (List.length_map _)
  have order : behind ↔ ∀ old ∈ recorded, ∀ step ∈ due, old < step.version := by
    simp only [behind, told, List.forall_mem_map]
    exact Iff.rfl
  have all : ((view state).stored.takeAll due).versions =
      recorded ∪ (due.map Migration.version).toFinset := Ledger.takeAll_versions _ _
  have few : versions.length ≤ migrations.length := by
    rw [count, ← List.length_mergeSort migrations]
    exact List.length_filter_le _ _
  have brings := takeBackTimes_greatest reversible distinct few
    (fun version => all ▸ mem_recorded_or_pending contained version) left
  have first : behind → back = due.reverse := fun before =>
    (congrArg (greatest migrations) count).trans (greatest_eq_pending distinct (order.1 before))
  have undone : back = due.reverse →
      ((view state).stored.takeAll due).versions \ (back.map Migration.version).toFinset =
        recorded := by
    intro same
    rw [all, same]
    exact left_of_pending migrations recorded
  have behind_of (same : ((view state).stored.takeAll due).versions \
      (back.map Migration.version).toFinset = recorded) : behind :=
    order.2 (behind_of_left distinct contained (all ▸ same))
  refine ⟨told, brings.succeeds_iff, fun given made => ?_, behind_of ∘ undone, first⟩
  obtain ⟨same, kept, sent⟩ := brings.of_ok made
  have versionsLeft := (congrArg (·.stored.versions) kept).trans (Ledger.takeBackAll_versions _ _)
  refine ⟨same, sent, kept.trans ?_, fun restored => ?_, fun before => ?_⟩
  · rw [show view taken = _ from left]
  · exact behind_of (versionsLeft.symm.trans restored)
  · exact versionsLeft.trans (undone (first before))

namespace Contents

def follow (contents : Contents) : Request → Contents
  | .begin => { contents with pending := some contents.stored }
  | .script text => { contents with pending := contents.pending.map (Ledger.run text) }
  | .migrations (.record version _) =>
    { contents with pending := contents.pending.map (Ledger.record version) }
  | .migrations (.forget version) =>
    { contents with pending := contents.pending.map (Ledger.forget version) }
  | .commit => ⟨contents.pending.getD contents.stored, none⟩
  | .rollback => { contents with pending := none }
  | _ => contents

def peer : Peer Contents := fun request contents =>
  (.ok { rows := contents.stored.versions.sort.map versionRow }, contents.follow request)

theorem peer_reversible (migrations : List Migration) : Reversible peer id migrations where
  createTable closed told := by cases told; exact closed
  versions {state after answer ledger} closed told := by
    cases told
    refine ⟨closed, ?_⟩
    rintro _ ⟨⟩
    exact ⟨_, rfl, (Finset.sort_toFinset _ _).trans (congrArg (·.stored.versions) closed)⟩
  begun closed told := by
    cases closed
    cases told
    rfl
  notBegun _ told := by cases told
  run migration _ within told := by
    cases within
    cases told
    rfl
  notRun _ _ _ told := by cases told
  recorded within told := by
    cases within
    cases told
    rfl
  notRecorded _ told := by cases told
  committed within told := by
    cases within
    cases told
    rfl
  notCommitted _ told := by cases told
  rolledBack told := by
    cases told
    rfl
  ascending closed told := by
    cases closed
    cases told
    exact ⟨_, rfl, (Finset.sortedLT_sort _).pairwise, Finset.sort_toFinset _ _⟩
  reverted migration _ within told := by
    cases within
    cases told
    rfl
  forgotten within told := by
    cases within
    cases told
    rfl

end Contents

theorem takePending_peer (migrations : List Migration) (ledger : Ledger) :
    let held := (takePending migrations).hold Contents.peer ⟨ledger, none⟩
    held.result = .ok ((pending migrations ledger.versions).map Migration.version) ∧
      held.state = ⟨ledger.takeAll (pending migrations ledger.versions), none⟩ := by
  have transactional := (Contents.peer_reversible migrations).toTransactional
  have start : id (⟨ledger, none⟩ : Contents) = ⟨ledger, none⟩ := rfl
  obtain ⟨done, later, -, reached⟩ := takePending_shows transactional start
  have answered : ∀ step ∈ (takePending migrations).steps Contents.peer ⟨ledger, none⟩,
      step.Answered := Exchange.steps_answered (fun _ _ => ⟨_, rfl⟩) _
  rcases reached.ended with ⟨told, -, -⟩ | ⟨failure, -, _, failed, _, same, -, unanswered, -⟩
  · obtain ⟨all, left⟩ := takePending_finished transactional start told
    exact ⟨told.trans (congrArg Except.ok all), left⟩
  · exact absurd (answered failed (same ▸ by simp)) unanswered

theorem inOrder_three : inOrder three = [three[1], three[2], three[0]] := by
  simp [inOrder, three, List.mergeSort]

theorem three_undone :
    let taken := (takePending three).hold Contents.peer ⟨⟨{1}, []⟩, none⟩
    let held := (takeBackTimes three 2).hold Contents.peer taken.state
    taken.result = .ok [2, 3] ∧ held.result = .ok [some 3, some 2] ∧
      held.state.stored.versions = {1} ∧
      held.state.stored.scripts = ["CREATE b", "CREATE c", "DROP c", "DROP b"] := by
  intro taken held
  have due : pending three {1} = [three[2], three[0]] := by
    rw [pending, inOrder_three]
    rfl
  have greatest : greatest three 2 = [three[0], three[2]] := by
    rw [greatest, inOrder_three]
    rfl
  obtain ⟨told, left⟩ := takePending_peer three ⟨{1}, []⟩
  rw [due] at told left
  obtain ⟨-, succeeds, undone, -⟩ := takeBackTimes_undoes_iff (Contents.peer_reversible three)
    (by decide) ⟨⟨{1}, []⟩, none⟩ rfl (by decide) [2, 3] told
  obtain ⟨given, made⟩ := succeeds.2 (Exchange.steps_answered (fun _ _ => ⟨_, rfl⟩) _)
  obtain ⟨same, -, kept, restored⟩ := undone given made
  rw [show [(2 : Int), 3].length = 2 from rfl, greatest] at same kept
  refine ⟨told, made.trans (congrArg Except.ok same), restored.2 (by decide), ?_⟩
  exact (congrArg (·.stored.scripts) kept).trans (by rw [id_eq, left])

/-- The second and the third step are on record, so the first is taken last; but it is the third
that is taken back. -/
theorem last_taken_stays :
    let taken := (takePending three).hold Contents.peer ⟨⟨{2, 3}, []⟩, none⟩
    let held := (takeBackLast three).hold Contents.peer taken.state
    Reversible Contents.peer id three ∧
    taken.result = .ok [1] ∧ held.result = .ok (some 3) ∧
      held.state.stored.versions = {1, 2} ∧
      held.state.stored.scripts = ["CREATE a", "DROP c"] := by
  intro taken held
  have due : pending three {2, 3} = [three[1]] := by
    rw [pending, inOrder_three]
    rfl
  have reversible := Contents.peer_reversible three
  obtain ⟨told, left⟩ := takePending_peer three ⟨{2, 3}, []⟩
  rw [due] at told left
  have all : id taken.state = ⟨⟨{1, 2, 3}, ["CREATE a"]⟩, none⟩ := left
  have member : three[0] ∈ three := by decide
  have brings := takeBackLast_brings reversible (by decide) member (by decide) (by decide) all
  obtain ⟨given, made⟩ := brings.succeeds_iff.2 (Exchange.steps_answered (fun _ _ => ⟨_, rfl⟩) _)
  obtain ⟨rfl, kept, -⟩ := brings.of_ok made
  refine ⟨reversible, told, made, (congrArg (·.stored.versions) kept).trans ?_,
    congrArg (·.stored.scripts) kept⟩
  decide

end UserDirectory.Migration
