import UserDirectory.Proofs.Migration.Ledger

/-!
How far a run of migrations comes, whichever of its requests fail. A step is taken whole or not at
all, so a run leaves some first of the steps that were due taken, in their order. The step lemma is
`take_shows`, with one case for each request that may fail; the run lemma is `takeAll_shows`.
-/

namespace UserDirectory.Migration

open Database Sql

section Transaction

variable {peer : Peer σ} {view : σ → Contents} {state : σ}

/-- What fails in a transaction is rolled back, whatever comes of that. -/
theorem shows_inTransaction {request : Request} {doing : String}
    {shown : Except Failure Unit → σ → List (Step σ) → Prop}
    (answered : ∀ answer after, peer request state = (.ok answer, after) →
      shown (.ok ()) after [⟨request, .ok answer, after⟩])
    (failed : ∀ error after answer last, peer request state = (.error error, after) →
      peer .rollback after = (answer, last) → shown (.error (error.failure doing)) last
        [⟨request, .error error, after⟩, ⟨.rollback, answer, last⟩]) :
    (inTransaction request doing).Shows peer state shown := by
  cases told : peer request state with
  | mk answer after =>
    cases answer with
    | ok answer => exact (Exchange.shows_send told).2 (answered answer after told)
    | error error =>
      refine (Exchange.shows_send told).2 ?_
      cases ended : peer .rollback after with
      | mk answer last =>
        exact (Exchange.shows_send ended).2 (failed error after answer last told ended)

theorem shows_begin {shown : Except Failure Unit → σ → List (Step σ) → Prop}
    (answered : ∀ answer after, peer .begin state = (.ok answer, after) →
      shown (.ok ()) after [⟨.begin, .ok answer, after⟩])
    (failed : ∀ error after, peer .begin state = (.error error, after) →
      shown (.error (error.failure "start migration transaction")) after
        [⟨.begin, .error error, after⟩]) :
    begin.Shows peer state shown :=
  Exchange.shows_bind.2 (Exchange.shows_ask answered failed)

end Transaction

def scripts (steps : List (Step σ)) : List String :=
  steps.filterMap fun step =>
    match step.request with
    | .script text => some text
    | _ => none

theorem scripts_append (made more : List (Step σ)) :
    scripts (made ++ more) = scripts made ++ scripts more := List.filterMap_append

/-- The first request that was not answered is the last, a rollback apart. -/
def BrokenOff (steps : List (Step σ)) : Prop :=
  ∃ earlier failed later, steps = earlier ++ failed :: later ∧ (∀ step ∈ earlier, step.Answered) ∧
    ¬failed.Answered ∧ later.map Step.request <+: [.rollback]

theorem BrokenOff.after {earlier steps : List (Step σ)} (broken : BrokenOff steps)
    (answered : ∀ step ∈ earlier, step.Answered) : BrokenOff (earlier ++ steps) := by
  obtain ⟨before, failed, later, rfl, passed, stopped, ended⟩ := broken
  refine ⟨earlier ++ before, failed, later, by rw [List.append_assoc], fun step member => ?_,
    stopped, ended⟩
  exact (List.mem_append.1 member).elim (answered step) (passed step)

/-- How far a run came from a ledger. The steps `done` are taken and those in `later` are not; after
each request, too, some first of the steps `done` were taken and no others. -/
structure Reached (view : σ → Contents) (ledger : Ledger) (done later : List Migration)
    (result : Except Failure (List Int)) (after : σ) (steps : List (Step σ)) : Prop where
  left : view after = ⟨ledger.takeAll done, none⟩
  between : ∀ step ∈ steps, ∃ early, early <+: done ∧
    (view step.after).stored = ledger.takeAll early
  /-- The next script may have been sent, too, and is lost then. -/
  sent : scripts steps = done.map Migration.up ∨ ∃ next rest, later = next :: rest ∧
    scripts steps = (done ++ [next]).map Migration.up
  ended : (result = .ok (done.map Migration.version) ∧ later = [] ∧
      ∀ step ∈ steps, step.Answered) ∨
    ∃ failure, result = .error failure ∧ BrokenOff steps

/-- How far a run came that was to take the steps `todo`. -/
def Progress (view : σ → Contents) (ledger : Ledger) (todo : List Migration)
    (result : Except Failure (List Int)) (after : σ) (steps : List (Step σ)) : Prop :=
  ∃ done later, todo = done ++ later ∧ Reached view ledger done later result after steps

/-- The requests of a transaction so far, each answered and nothing stored yet. -/
def Quiet (view : σ → Contents) (ledger : Ledger) (steps : List (Step σ)) : Prop :=
  ∀ step ∈ steps, step.Answered ∧ (view step.after).stored = ledger

theorem Quiet.next {view : σ → Contents} {ledger pending : Ledger} {earlier : List (Step σ)}
    (quiet : Quiet view ledger earlier) (request : Request) (answer : Answer) {after : σ}
    (kept : view after = ⟨ledger, some pending⟩) :
    Quiet view ledger (earlier ++ [⟨request, .ok answer, after⟩]) :=
  List.forall_mem_append.2 ⟨quiet,
    List.forall_mem_singleton.2 ⟨⟨answer, rfl⟩, congrArg Contents.stored kept⟩⟩

section Runs

variable {peer : Peer σ} {view : σ → Contents} {migrations : List Migration} {state : σ}
  {ledger : Ledger} {done later more : List Migration} {after last : σ}
  {made steps : List (Step σ)} {result : Except Failure (List Int)}

theorem Reached.finished {versions : List Int}
    (reached : Reached view ledger done later (.ok versions) after steps) :
    versions = done.map Migration.version ∧ later = [] ∧ (∀ step ∈ steps, step.Answered) ∧
      scripts steps = done.map Migration.up := by
  obtain ⟨told, rfl, answered⟩ := reached.ended.resolve_right fun ⟨_, failed, _⟩ =>
    absurd failed nofun
  exact ⟨Except.ok.inj told, rfl, answered,
    reached.sent.resolve_right fun ⟨_, _, more, _⟩ => absurd more nofun⟩

theorem Reached.append {versions : List Int}
    (first : Reached view ledger done [] (.ok versions) after made)
    (second : Reached view (ledger.takeAll done) more later result last steps) :
    Reached view ledger (done ++ more) later (result.map (versions ++ ·)) last
      (made ++ steps) where
  left := by rw [second.left, Ledger.takeAll_append]
  between step member := by
    rcases List.mem_append.1 member with before | later
    · obtain ⟨early, few, stored⟩ := first.between step before
      exact ⟨early, few.trans (List.prefix_append done more), stored⟩
    · obtain ⟨early, few, stored⟩ := second.between step later
      exact ⟨done ++ early, (List.prefix_append_right_inj done).2 few,
        stored.trans (ledger.takeAll_append done early).symm⟩
  sent := by
    obtain ⟨-, -, -, due⟩ := first.finished
    rw [scripts_append, due, List.map_append]
    rcases second.sent with all | ⟨next, rest, split, lost⟩
    · exact .inl (by rw [all])
    · exact .inr ⟨next, rest, split, by rw [lost, List.append_assoc, ← List.map_append]⟩
  ended := by
    obtain ⟨rfl, -, answered, -⟩ := first.finished
    rcases second.ended with ⟨rfl, nothing, passed⟩ | ⟨failure, rfl, broken⟩
    · refine .inl ⟨congrArg Except.ok List.map_append.symm, nothing, fun step member => ?_⟩
      exact (List.mem_append.1 member).elim (answered step) (passed step)
    · exact .inr ⟨failure, rfl, broken.after answered⟩

theorem Reached.broken {failure : Failure}
    (reached : Reached view ledger done later (.error failure) after steps)
    (more : List Migration) :
    Reached view ledger done (later ++ more) (.error failure) after steps where
  left := reached.left
  between := reached.between
  sent := reached.sent.imp_right fun ⟨next, rest, split, lost⟩ =>
    ⟨next, rest ++ more, by rw [split, List.cons_append], lost⟩
  ended := .inr (reached.ended.resolve_left fun ⟨ended, _⟩ => absurd ended nofun)

theorem Reached.idle (left : view after = ⟨ledger, none⟩)
    (kept : ∀ step ∈ steps, view step.after = ⟨ledger, none⟩) (sent : scripts steps = [])
    (ended : (result = .ok [] ∧ ∀ step ∈ steps, step.Answered) ∨
      ∃ failure, result = .error failure ∧ BrokenOff steps) :
    Reached view ledger [] [] result after steps where
  left := left
  between step member := ⟨[], List.nil_prefix, congrArg Contents.stored (kept step member)⟩
  sent := .inl sent
  ended := ended.imp_left fun ⟨ended, answered⟩ => ⟨ended, rfl, answered⟩

theorem Progress.taken {migration : Migration} {earlier : List (Step σ)} {request : Request}
    {answer : Answer} (quiet : Quiet view ledger earlier)
    (left : view after = ⟨ledger.takeAll [migration], none⟩)
    (sent : scripts (earlier ++ [⟨request, .ok answer, after⟩]) = [migration.up]) :
    Progress view ledger [migration] (.ok [migration.version]) after
      (earlier ++ [⟨request, .ok answer, after⟩]) := by
  refine ⟨[migration], [], rfl, left, fun step member => ?_, .inl sent,
    .inl ⟨rfl, rfl, fun step member => ?_⟩⟩
  · rcases List.mem_append.1 member with before | last
    · exact ⟨[], List.nil_prefix, (quiet step before).2⟩
    · obtain rfl := List.mem_singleton.1 last
      exact ⟨[migration], List.prefix_rfl, congrArg Contents.stored left⟩
  · rcases List.mem_append.1 member with before | last
    · exact (quiet step before).1
    · obtain rfl := List.mem_singleton.1 last
      exact ⟨answer, rfl⟩

/-- A step that was broken off is taken or not, as what is stored tells. -/
theorem Progress.stopped {migration : Migration} {failure : Failure} {earlier rest : List (Step σ)}
    {failed : Step σ} {stored : Ledger} (quiet : Quiet view ledger earlier)
    (unanswered : ¬failed.Answered) (ended : rest.map Step.request <+: [.rollback])
    (left : view after = ⟨stored, none⟩)
    (kept : ∀ step ∈ failed :: rest, (view step.after).stored = stored)
    (whole : stored = ledger ∧ scripts (earlier ++ failed :: rest) <+: [migration.up] ∨
      stored = ledger.takeAll [migration] ∧
        scripts (earlier ++ failed :: rest) = [migration.up]) :
    Progress view ledger [migration] (.error failure) after (earlier ++ failed :: rest) := by
  have broken : BrokenOff (earlier ++ failed :: rest) :=
    ⟨earlier, failed, rest, rfl, fun step member => (quiet step member).1, unanswered, ended⟩
  have between (done : List Migration) (same : stored = ledger.takeAll done) (step : Step σ)
      (member : step ∈ earlier ++ failed :: rest) :
      ∃ early, early <+: done ∧ (view step.after).stored = ledger.takeAll early := by
    rcases List.mem_append.1 member with before | since
    · exact ⟨[], List.nil_prefix, (quiet step before).2⟩
    · exact ⟨done, List.prefix_rfl, (kept step since).trans same⟩
  rcases whole with ⟨rfl, sent⟩ | ⟨rfl, sent⟩
  · refine ⟨[], [migration], rfl, left, between [] rfl, ?_, .inr ⟨failure, rfl, broken⟩⟩
    rcases List.prefix_cons_iff.1 sent with nothing | ⟨rest, all, none⟩
    · exact .inl nothing
    · exact .inr ⟨migration, [], rfl, by rw [all, List.prefix_nil.1 none]; rfl⟩
  · exact ⟨[migration], [], rfl, left, between [migration] rfl, .inl sent,
      .inr ⟨failure, rfl, broken⟩⟩

variable (transactional : Transactional peer view migrations)
include transactional

theorem Progress.rolledBack {migration : Migration} {failure : Failure} {earlier : List (Step σ)}
    {request : Request} {error : DatabaseError} {broken : σ} {answer : Except DatabaseError Answer}
    {stored : Ledger} (ended : peer .rollback broken = (answer, last))
    (quiet : Quiet view ledger earlier) (kept : (view broken).stored = stored)
    (whole :
      let steps := earlier ++ [⟨request, .error error, broken⟩, ⟨.rollback, answer, last⟩]
      stored = ledger ∧ scripts steps <+: [migration.up] ∨
        stored = ledger.takeAll [migration] ∧ scripts steps = [migration.up]) :
    Progress view ledger [migration] (.error failure) last
      (earlier ++ [⟨request, .error error, broken⟩, ⟨.rollback, answer, last⟩]) := by
  have left : view last = ⟨stored, none⟩ := kept ▸ transactional.rolledBack ended
  refine .stopped quiet nofun List.prefix_rfl left ?_ whole
  exact List.forall_mem_cons.2 ⟨kept, List.forall_mem_singleton.2 (by rw [left])⟩

/-- The step lemma: a step is taken, or the first request that fails ends it. -/
theorem take_shows {migration : Migration} (member : migration ∈ migrations)
    (closed : view state = ⟨ledger, none⟩) :
    (take migration).Shows peer state fun result after steps =>
      Progress view ledger [migration] (result.map fun _ => [migration.version]) after steps := by
  have nothing : Quiet view ledger [] := fun _ => nofun
  unfold take
  refine Exchange.shows_bind.2 (shows_begin (fun answer begun told => ?_)
    fun error after told => ?_)
  · have opened := transactional.begun closed told
    have quiet := nothing.next .begin answer opened
    refine Exchange.shows_bind.2 (shows_inTransaction (fun answer run told => ?_)
      fun error after answer last told ended => ?_)
    · have ran := transactional.run migration member opened told
      have quiet := quiet.next (.script migration.up) answer ran
      refine Exchange.shows_bind.2 (shows_inTransaction (fun answer noted told => ?_)
        fun error after answer last told ended => ?_)
      · have recorded := transactional.recorded ran told
        have quiet := quiet.next
          (.migrations (.record migration.version migration.description)) answer recorded
        refine Exchange.shows_bind.2 (shows_inTransaction (fun answer after told => ?_)
          fun error after answer last told ended => ?_)
        · have committed := transactional.committed recorded told
          exact .taken quiet committed rfl
        · refine .rolledBack transactional ended quiet rfl ?_
          exact (transactional.notCommitted recorded told).imp (⟨·, List.prefix_rfl⟩) (⟨·, rfl⟩)
      · exact .rolledBack transactional ended quiet (transactional.notRecorded ran told)
          (.inl ⟨rfl, List.prefix_rfl⟩)
    · exact .rolledBack transactional ended quiet
        (transactional.notRun migration member opened told) (.inl ⟨rfl, List.prefix_rfl⟩)
  · have refused := transactional.notBegun closed told
    exact .stopped nothing nofun List.nil_prefix refused
      (List.forall_mem_singleton.2 (congrArg Contents.stored refused)) (.inl ⟨rfl, List.nil_prefix⟩)

/-- The run lemma: the steps are taken one after the other, up to the first that fails. -/
theorem takeAll_shows {todo : List Migration} (among : ∀ migration ∈ todo, migration ∈ migrations)
    (closed : view state = ⟨ledger, none⟩) :
    (takeAll todo).Shows peer state (Progress view ledger todo) := by
  induction todo generalizing state ledger with
  | nil => exact ⟨[], [], rfl, closed, fun _ => nofun, .inl rfl, .inl ⟨rfl, rfl, fun _ => nofun⟩⟩
  | cons migration rest ih =>
    obtain ⟨member, among⟩ := List.forall_mem_cons.1 among
    refine Exchange.shows_bind.2 ((take_shows transactional member closed).mono
      fun result after made progress => ?_)
    obtain ⟨done, later, split, first⟩ := progress
    cases result with
    | error failure =>
      refine ⟨done, later ++ rest, ?_, first.broken rest⟩
      rw [← List.append_assoc, ← split, List.singleton_append]
    | ok taken =>
      obtain ⟨-, rfl, -⟩ := first.finished
      rw [List.append_nil] at split
      subst split
      refine Exchange.shows_bind.2 ((ih among first.left).mono fun result last more progress => ?_)
      obtain ⟨done, later, rfl, second⟩ := progress
      have both := first.append second
      cases result with
      | error failure => exact ⟨migration :: done, later, rfl, both⟩
      | ok versions =>
        refine ⟨migration :: done, later, rfl, ?_⟩
        change Reached view ledger _ _ _ last (made ++ (more ++ []))
        rw [List.append_nil]
        exact both

/-- The versions on record are read, and nothing is changed. -/
theorem taken_shows (closed : view state = ⟨ledger, none⟩) :
    taken.Shows peer state fun result after steps =>
      Reached view ledger [] [] (result.map fun _ => []) after steps ∧
        ∀ versions, result = .ok versions → ∀ version, version ∈ versions ↔
          version ∈ ledger.versions := by
  unfold taken
  refine Exchange.shows_bind.2 (Exchange.shows_ask (fun answer made told => ?_)
    fun error made told => ?_)
  · have there := transactional.createTable closed told
    refine Exchange.shows_bind.2 (Exchange.shows_ask (fun answer after told => ?_)
      fun error after told => ?_)
    · obtain ⟨kept, given⟩ := transactional.versions there told
      obtain ⟨versions, rows, same⟩ := given answer rfl
      have read : answer.rows.mapM (Fetched.first Cell.integer?) = .ok versions := by
        rw [rows, versions_read]
      simp only [read]
      refine ⟨.idle kept ?_ rfl (.inl ⟨rfl, ?_⟩), ?_⟩
      · exact List.forall_mem_cons.2 ⟨there, List.forall_mem_singleton.2 kept⟩
      · exact List.forall_mem_cons.2 ⟨⟨_, rfl⟩, List.forall_mem_singleton.2 ⟨_, rfl⟩⟩
      · rintro _ ⟨⟩ version
        rw [← same, List.mem_toFinset]
    · obtain ⟨kept, -⟩ := transactional.versions there told
      refine ⟨.idle kept ?_ rfl (.inr ⟨_, rfl, ?_⟩), fun _ => nofun⟩
      · exact List.forall_mem_cons.2 ⟨there, List.forall_mem_singleton.2 kept⟩
      · exact ⟨[_], _, [], rfl, List.forall_mem_singleton.2 ⟨_, rfl⟩, nofun, List.nil_prefix⟩
  · have there := transactional.createTable closed told
    exact ⟨.idle there (List.forall_mem_singleton.2 there) rfl (.inr ⟨_, rfl,
      ⟨[], _, [], rfl, fun _ => nofun, nofun, List.nil_prefix⟩⟩), fun _ => nofun⟩

theorem takePending_shows (closed : view state = ⟨ledger, none⟩) :
    (takePending migrations).Shows peer state
      (Progress view ledger (pending migrations ledger.versions)) := by
  refine Exchange.shows_bind.2 ((taken_shows transactional closed).mono
    fun result after made reads => ?_)
  obtain ⟨first, read⟩ := reads
  cases result with
  | error failure =>
    exact ⟨[], pending migrations ledger.versions, rfl, first.broken _⟩
  | ok versions =>
    have same : ((inOrder migrations).filter fun migration =>
        !versions.contains migration.version) = pending migrations ledger.versions := by
      refine List.filter_congr fun migration _ => ?_
      rw [Bool.eq_iff_iff, Bool.not_eq_true', ← Bool.not_eq_true, List.contains_iff_mem,
        decide_eq_true_iff, read versions rfl]
    simp only [same]
    have due : ∀ migration ∈ pending migrations ledger.versions, migration ∈ migrations :=
      fun migration member => (mem_pending.1 member).1
    refine (takeAll_shows transactional due first.left).mono fun result last more progress => ?_
    obtain ⟨done, later, split, second⟩ := progress
    have both := first.append second
    cases result <;> exact ⟨done, later, split, both⟩

/-- A run that succeeds has taken all that was due. -/
theorem takePending_finished (closed : view state = ⟨ledger, none⟩) {versions : List Int}
    (succeeded : ((takePending migrations).hold peer state).result = .ok versions) :
    versions = (pending migrations ledger.versions).map Migration.version ∧
      view ((takePending migrations).hold peer state).state =
        ⟨ledger.takeAll (pending migrations ledger.versions), none⟩ := by
  obtain ⟨done, later, split, reached⟩ := takePending_shows transactional closed
  obtain ⟨told, rfl, -⟩ := (succeeded ▸ reached).finished
  rw [List.append_nil] at split
  exact ⟨split ▸ told, split ▸ reached.left⟩

end Runs

end UserDirectory.Migration
