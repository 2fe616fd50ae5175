import Mathlib.Logic.Relation
import UserDirectory.Proofs.Migration.Progress
import UserDirectory.Proofs.Migration.Rehearsal

/-!
Runs of migrations after runs that were interrupted. Whatever an interruption leaves, the steps that
are still due are the rest of those that were due at first, so the run that succeeds in the end
completes them.
-/

namespace UserDirectory.Migration

open Database

/-- A run that started at `before` broke off, or it was cut off behind one of its requests, and its
connection with it; what is left is `after`. -/
def Interrupted (peer : Peer σ) (view : σ → Contents) (migrations : List Migration)
    (before after : σ) : Prop :=
  (∃ failure, ((takePending migrations).hold peer before).result = .error failure ∧
    ((takePending migrations).hold peer before).state = after) ∨
  ∃ step ∈ (takePending migrations).steps peer before,
    view after = ⟨(view step.after).stored, none⟩

section Recovery

variable {peer : Peer σ} {view : σ → Contents} {migrations : List Migration}
  (transactional : Transactional peer view migrations)
  (distinct : (migrations.map Migration.version).Nodup) {ledger : Ledger} {state later : σ}
include transactional distinct

/-- An interruption leaves some of the steps that were due taken, whole and in their order. -/
theorem Interrupted.keeps {early : List Migration}
    (few : early <+: pending migrations ledger.versions)
    (left : view state = ⟨ledger.takeAll early, none⟩)
    (interrupted : Interrupted peer view migrations state later) :
    ∃ more, more <+: pending migrations ledger.versions ∧
      view later = ⟨ledger.takeAll more, none⟩ := by
  obtain ⟨rest, split⟩ := few
  obtain ⟨done, due, divided, reached⟩ := takePending_shows transactional left
  rw [pending_takeAll distinct split.symm] at divided
  rw [← split, divided, ← List.append_assoc]
  rcases interrupted with ⟨failure, -, rfl⟩ | ⟨step, member, cut⟩
  · exact ⟨early ++ done, List.prefix_append _ due, by rw [reached.left, Ledger.takeAll_append]⟩
  · obtain ⟨some, within, stored⟩ := reached.between step member
    refine ⟨early ++ some, ?_, by rw [cut, stored, Ledger.takeAll_append]⟩
    exact ((List.prefix_append_right_inj early).2 within).trans (List.prefix_append _ due)

/-- After any interruptions, the run that succeeds takes what is still due. -/
theorem takePending_resumes (closed : view state = ⟨ledger, none⟩)
    (interrupted : Relation.ReflTransGen (Interrupted peer view migrations) state later)
    {versions : List Int}
    (succeeded : ((takePending migrations).hold peer later).result = .ok versions) :
    view ((takePending migrations).hold peer later).state =
      ⟨ledger.takeAll (pending migrations ledger.versions), none⟩ := by
  have kept : ∃ more, more <+: pending migrations ledger.versions ∧
      view later = ⟨ledger.takeAll more, none⟩ := by
    clear succeeded
    induction interrupted with
    | refl => exact ⟨[], List.nil_prefix, closed⟩
    | tail _ last ih =>
      obtain ⟨early, few, left⟩ := ih
      exact last.keeps transactional distinct few left
  obtain ⟨early, ⟨rest, split⟩, left⟩ := kept
  obtain ⟨done, due, divided, reached⟩ := takePending_shows transactional left
  obtain ⟨-, rfl, -⟩ := (succeeded ▸ reached).finished
  rw [pending_takeAll distinct split.symm, List.append_nil] at divided
  rw [reached.left, ← split, divided, Ledger.takeAll_append]

/-- Nothing is due after a run that succeeds: the next one sends no script and leaves all as it
is. -/
theorem takePending_idle {versions : List Int} (closed : view state = ⟨ledger, none⟩)
    (succeeded : ((takePending migrations).hold peer state).result = .ok versions) :
    let after := ((takePending migrations).hold peer state).state
    Reached view (ledger.takeAll (pending migrations ledger.versions)) [] []
      ((takePending migrations).hold peer after).result
      ((takePending migrations).hold peer after).state
      ((takePending migrations).steps peer after) := by
  intro after
  have left := takePending_resumes transactional distinct closed .refl succeeded
  obtain ⟨done, due, divided, reached⟩ := takePending_shows transactional left
  rw [pending_takeAll distinct (List.append_nil _).symm] at divided
  obtain ⟨rfl, rfl⟩ := List.append_eq_nil_iff.1 divided.symm
  exact reached

end Recovery

/-- Over a transactional database, whichever requests fail: a run takes the steps that are not on
record in ascending order and stops at the first failure. It leaves some first of them taken, with
their scripts and their records, and nothing of any other; so it stood after each request, too. If
no request fails, all are taken, and the next run takes none. And however often runs are
interrupted, the one that succeeds in the end leaves what an undisturbed run leaves. -/
theorem takePending_recovers {peer : Peer σ} {view : σ → Contents} {migrations : List Migration}
    (transactional : Transactional peer view migrations)
    (distinct : (migrations.map Migration.version).Nodup) (state : σ)
    (closed : (view state).pending = none) :
    let ledger := (view state).stored
    let missing := pending migrations ledger.versions
    let held := (takePending migrations).hold peer state
    let steps := (takePending migrations).steps peer state
    (missing.map Migration.version).Pairwise (· < ·) ∧
    (∀ migration, migration ∈ missing ↔
      migration ∈ migrations ∧ migration.version ∉ ledger.versions) ∧
    steps.map Step.request = held.requests ∧
    (∃ done later, missing = done ++ later ∧
      Reached view ledger done later held.result held.state steps ∧
      (view held.state).stored.versions =
        ledger.versions ∪ (done.map Migration.version).toFinset ∧
      (view held.state).stored.scripts = ledger.scripts ++ done.map Migration.up) ∧
    (∀ versions, held.result = .ok versions →
      let next := (takePending migrations).hold peer held.state
      let steps := (takePending migrations).steps peer held.state
      versions = missing.map Migration.version ∧ view next.state = view held.state ∧
      scripts steps = [] ∧
      (next.result = .ok [] ∨ ∃ failure, next.result = .error failure ∧ BrokenOff steps)) ∧
    ∀ later, Relation.ReflTransGen (Interrupted peer view migrations) state later →
      ∀ versions, ((takePending migrations).hold peer later).result = .ok versions →
        view ((takePending migrations).hold peer later).state =
          ⟨ledger.takeAll missing, none⟩ := by
  intro ledger missing held steps
  have start : view state = ⟨ledger, none⟩ := congrArg (Contents.mk ledger) closed
  obtain ⟨done, later, split, reached⟩ := takePending_shows transactional start
  refine ⟨pending_ascending distinct _, fun _ => mem_pending, Exchange.steps_requests,
    ⟨done, later, split, reached, ?_, ?_⟩, fun versions succeeded => ?_,
    fun last interrupted versions succeeded => ?_⟩
  · rw [reached.left, Ledger.takeAll_versions]
  · rw [reached.left, Ledger.takeAll_scripts]
  · obtain ⟨all, rfl, -⟩ := (succeeded ▸ reached).finished
    have idle := takePending_idle transactional distinct start succeeded
    have left := takePending_resumes transactional distinct start .refl succeeded
    refine ⟨?_, idle.left.trans left.symm, ?_, idle.ended.imp_left And.left⟩
    · have every : missing = done := split.trans (List.append_nil done)
      rw [every]
      exact all
    · exact idle.sent.resolve_right fun ⟨_, _, more, _⟩ => absurd more nofun
  · exact takePending_resumes transactional distinct start interrupted succeeded

/-- The second step is on record already. The third breaks off behind its script, and the next run
takes it. -/
theorem three_recover :
    let peer := Rehearsal.peer [8]
    let first := (takePending three).hold peer { stored := ⟨[2], []⟩ }
    let second := (takePending three).hold peer first.state
    (∃ failure, first.result = .error failure) ∧
    first.state.contents = ⟨⟨{1, 2}, ["CREATE a"]⟩, none⟩ ∧
    second.result = .ok [3] ∧
    second.state.contents = ⟨⟨{3, 1, 2}, ["CREATE a", "CREATE c"]⟩, none⟩ := by
  intro peer first second
  have order : inOrder three = [three[1], three[2], three[0]] := by
    simp [inOrder, three, List.mergeSort]
  have failed : ∃ failure, first.result = .error failure := by
    simp only [first, takePending, order]
    exact ⟨_, rfl⟩
  have succeeded : second.result = .ok [3] := by
    simp only [second, first, takePending, order]
    rfl
  have left : first.state.contents = ⟨⟨{1, 2}, ["CREATE a"]⟩, none⟩ := by
    simp only [first, takePending, order]
    rfl
  have missing : pending three {2} = [three[1], three[0]] := by
    rw [pending, order]
    rfl
  obtain ⟨-, -, -, -, -, resumes⟩ := takePending_recovers (Rehearsal.peer_transactional [8] three)
    (by decide) { stored := ⟨[2], []⟩ } rfl
  obtain ⟨failure, broken⟩ := failed
  refine ⟨⟨failure, broken⟩, left, succeeded, ?_⟩
  have last : second.state.contents = ⟨Ledger.takeAll ⟨{2}, []⟩ (pending three {2}), none⟩ :=
    resumes first.state (.single (.inl ⟨failure, broken, rfl⟩)) [3] succeeded
  rw [last, missing]
  rfl

end UserDirectory.Migration
