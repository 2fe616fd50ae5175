import UserDirectory.Proofs.Store.Consistency
import UserDirectory.Proofs.Time.Windows

/-!
Timestamps in order. As long as the clock does not go back, a row is created no later than it was
last updated, and updated no later than it was deleted; and none of its times lies after the latest
reading of the clock. A deleted row would break this if it could still be updated; but only live
rows are changed.
-/

namespace UserDirectory

namespace Supplies

/-- The latest of the first `count` readings of the clock that gave an instant. -/
def latest? (supplies : Supplies) : Nat → Option Instant
  | 0 => none
  | count + 1 =>
    match supplies.instant count with
    | .ok now => some now
    | .error _ => supplies.latest? count

def NeverBack (supplies : Supplies) (count : Nat) : Prop :=
  ∀ i j earlier later, i ≤ j → j < count →
    supplies.instant i = .ok earlier → supplies.instant j = .ok later → earlier ≤ later

variable {supplies : Supplies} {count : Nat}

theorem NeverBack.fewer {fewer : Nat} (forward : supplies.NeverBack count) (le : fewer ≤ count) :
    supplies.NeverBack fewer :=
  fun i j earlier later order within => forward i j earlier later order (by omega)

theorem latest?_succ_of_read {now : Instant} (read : supplies.instant count = .ok now) :
    supplies.latest? (count + 1) = some now := by
  rw [latest?, read]

theorem exists_reading_of_latest? {latest : Instant}
    (known : supplies.latest? count = some latest) :
    ∃ number < count, supplies.instant number = .ok latest := by
  induction count with
  | zero => cases known
  | succ count ih =>
    rw [latest?] at known
    split at known
    next now read =>
      obtain rfl := Option.some.inj known
      exact ⟨count, Nat.lt_succ_self count, read⟩
    next failure read =>
      obtain ⟨number, before, gave⟩ := ih known
      exact ⟨number, Nat.lt_succ_of_lt before, gave⟩

theorem NeverBack.latest_le {latest now : Instant} (forward : supplies.NeverBack (count + 1))
    (known : supplies.latest? count = some latest) (read : supplies.instant count = .ok now) :
    latest ≤ now := by
  obtain ⟨number, before, gave⟩ := exists_reading_of_latest? known
  exact forward number count latest now (Nat.le_of_lt before) (Nat.lt_succ_self count) gave read

theorem NeverBack.latest_succ {latest : Instant} (forward : supplies.NeverBack (count + 1))
    (known : supplies.latest? count = some latest) :
    ∃ next, supplies.latest? (count + 1) = some next ∧ latest ≤ next := by
  cases read : supplies.instant count with
  | ok now => exact ⟨now, latest?_succ_of_read read, forward.latest_le known read⟩
  | error failure =>
    refine ⟨latest, ?_, Instant.le_refl latest⟩
    rw [latest?, read]
    exact known

end Supplies

theorem Except.exists_some_of_isSome {reply : Except Failure (Option α)}
    (found : reply.map Option.isSome = .ok true) : ∃ value, reply = .ok (some value) := by
  cases reply with
  | error failure => cases found
  | ok value? =>
    cases value? with
    | none => cases found
    | some value => exact ⟨value, rfl⟩

/-- The times that a store gave to a row, in their order and none of them after `latest`. -/
structure User.Timed (latest : Instant) (row : User) : Prop where
  created : row.createdAt ≤ row.updatedAt
  updated : row.updatedAt ≤ latest
  deleted : ∀ instant, row.deletedAt = some instant → row.updatedAt ≤ instant ∧ instant ≤ latest

namespace User.Timed

variable {latest now : Instant} {row : User}

theorem later (timed : row.Timed latest) (le : latest ≤ now) : row.Timed now where
  created := timed.created
  updated := Instant.le_trans timed.updated le
  deleted instant set :=
    have within := timed.deleted instant set
    ⟨within.1, Instant.le_trans within.2 le⟩

theorem ofNew (id : UserId) (new : NewUser) (now : Instant) :
    (User.ofNew id new now).Timed now where
  created := Instant.le_refl now
  updated := Instant.le_refl now
  deleted instant set := by cases set

theorem stamped (timed : row.Timed latest) (le : latest ≤ now) {changed : User}
    (live : changed.IsLive) (created : changed.createdAt = row.createdAt)
    (updated : changed.updatedAt = now) : changed.Timed now where
  created := by
    rw [created, updated]
    exact Instant.le_trans timed.created (Instant.le_trans timed.updated le)
  updated := updated ▸ Instant.le_refl now
  deleted instant set := by
    rw [live] at set
    cases set

theorem marked (timed : row.Timed latest) (le : latest ≤ now) :
    ({ row with deletedAt := some now } : User).Timed now where
  created := timed.created
  updated := Instant.le_trans timed.updated le
  deleted instant set := by
    obtain rfl := Option.some.inj set
    exact ⟨Instant.le_trans timed.updated le, Instant.le_refl now⟩

end User.Timed

namespace Store

def Timed (supplies : Supplies) (count : Nat) (store : Store) : Prop :=
  ∀ row ∈ store.rows, ∃ latest, supplies.latest? count = some latest ∧ row.Timed latest

variable {supplies : Supplies} {count : Nat} {store : Store} (timed : store.Timed supplies count)
  (forward : supplies.NeverBack (count + 1))
include timed forward

theorem Timed.read : store.Timed supplies (count + 1) := by
  intro row member
  obtain ⟨latest, known, within⟩ := timed row member
  obtain ⟨next, later, le⟩ := forward.latest_succ known
  exact ⟨next, later, within.later le⟩

variable {now : Instant} (read : supplies.instant count = .ok now)
include read

theorem Timed.put (key : String) {changed : User} (within : changed.Timed now) :
    (store.put key changed).Timed supplies (count + 1) := by
  intro row member
  obtain ⟨key', placed⟩ := mem_rows.1 member
  rcases mem_put.1 placed with here | ⟨before, -⟩
  · obtain rfl : row = changed := congrArg Prod.snd here
    exact ⟨now, Supplies.latest?_succ_of_read read, within⟩
  · exact timed.read forward row (mem_rows.2 ⟨key', before⟩)

theorem Timed.found {id : UserId} {row : User} (found : store.liveRow? id = some row) :
    ∃ latest, row.Timed latest ∧ latest ≤ now := by
  obtain ⟨latest, known, within⟩ :=
    timed row (mem_rows.2 ⟨id.text, (liveRow?_eq_some.1 found).1⟩)
  exact ⟨latest, within, forward.latest_le known read⟩

end Store

namespace Memory

variable (supplies : Supplies) (memory : Memory)

/-- Past its guards, a change of a row reads the clock once and writes what it makes of the row. -/
theorem alter_live {id : UserId} (change : User → Instant → User) {row : User} {now : Instant}
    (found : memory.store.liveRow? id = some row)
    (read : supplies.instant memory.usage.instants = .ok now) :
    memory.alter supplies id change =
      (.ok (some (change row now)),
        { store := memory.store.put id.text (change row now)
          usage := { memory.usage with instants := memory.usage.instants + 1 } }) := by
  simp only [alter, found, readInstant, Usage.readInstant, read]

theorem alter_instants (id : UserId) (change : User → Instant → User) :
    memory.alter supplies id change = (.ok none, memory) ∨
      (memory.alter supplies id change).2.usage.instants = memory.usage.instants + 1 := by
  cases found : memory.store.liveRow? id with
  | none => exact .inl (by simp only [alter, found])
  | some row =>
    refine .inr ?_
    cases read : supplies.instant memory.usage.instants <;>
      simp only [alter, found, readInstant, Usage.readInstant, read]

theorem save_instants (new : NewUser) :
    ((memory.save supplies new).2.store = memory.store ∧
        (memory.save supplies new).2.usage.instants = memory.usage.instants) ∨
      (memory.save supplies new).2.usage.instants = memory.usage.instants + 1 := by
  simp only [save, drawIdentifier, Usage.drawIdentifier]
  split
  next taken => exact .inl ⟨rfl, rfl⟩
  next free =>
    cases supplies.identifier memory.usage.identifiers with
    | error failure => exact .inl ⟨rfl, rfl⟩
    | ok id =>
      simp only
      split
      next used => exact .inl ⟨rfl, rfl⟩
      next fresh =>
        refine .inr ?_
        cases read : supplies.instant memory.usage.instants <;>
          simp only [readInstant, Usage.readInstant, read]

theorem answer_instants (call : Call) :
    ((memory.answer supplies call).2.store = memory.store ∧
        (memory.answer supplies call).2.usage.instants = memory.usage.instants) ∨
      (memory.answer supplies call).2.usage.instants = memory.usage.instants + 1 := by
  have alters (id : UserId) (change : User → Instant → User) :
      ((memory.alter supplies id change).2.store = memory.store ∧
          (memory.alter supplies id change).2.usage.instants = memory.usage.instants) ∨
        (memory.alter supplies id change).2.usage.instants = memory.usage.instants + 1 := by
    rcases alter_instants supplies memory id change with kept | read
    · exact .inl (by rw [kept]; exact ⟨rfl, rfl⟩)
    · exact .inr read
  cases call with
  | save new => exact save_instants supplies memory new
  | update patch =>
    simp only [answer, update]
    split
    next missing => exact .inl ⟨rfl, rfl⟩
    next row found =>
      split
      next taken => exact .inl ⟨rfl, rfl⟩
      next free => exact alters patch.id patch.apply
  | delete id => exact alters id _
  | changeStatus id status updateBy => exact alters id _
  | _ => exact .inl ⟨rfl, rfl⟩

def Timed (supplies : Supplies) (memory : Memory) : Prop :=
  memory.store.Timed supplies memory.usage.instants

variable {supplies : Supplies} {memory : Memory}

theorem Change.timed {call : Call} {after : Store} (change : Change supplies memory call after)
    (timed : memory.Timed supplies)
    (forward : supplies.NeverBack (memory.usage.instants + 1)) :
    after.Timed supplies (memory.usage.instants + 1) := by
  cases change with
  | kept => exact timed.read forward
  | added new id now _ read _ _ => exact timed.put forward read id.text (.ofNew id new now)
  | patched patch row now found read _ =>
    obtain ⟨latest, within, le⟩ := timed.found forward read found
    have live : (patch.apply row now).IsLive := (Store.liveRow?_eq_some.1 found).2
    exact timed.put forward read patch.id.text (within.stamped le live rfl rfl)
  | deleted id row now found read =>
    obtain ⟨latest, within, le⟩ := timed.found forward read found
    exact timed.put forward read id.text (within.marked le)
  | switched id status updateBy row now found read =>
    obtain ⟨latest, within, le⟩ := timed.found forward read found
    have live : row.IsLive := (Store.liveRow?_eq_some.1 found).2
    exact timed.put forward read id.text (within.stamped le live rfl rfl)

theorem answer_timed (call : Call) (timed : memory.Timed supplies)
    (forward : supplies.NeverBack (memory.answer supplies call).2.usage.instants) :
    (memory.answer supplies call).2.Timed supplies := by
  rcases answer_instants supplies memory call with ⟨same, none⟩ | once
  · rw [Timed, same, none]
    exact timed
  · rw [once] at forward
    rw [Timed, once]
    exact (answer_change supplies memory call).timed timed forward

theorem answer_instants_le (call : Call) :
    memory.usage.instants ≤ (memory.answer supplies call).2.usage.instants := by
  rcases answer_instants supplies memory call with ⟨-, none⟩ | once
  · exact Nat.le_of_eq none.symm
  · rw [once]
    exact Nat.le_succ _

theorem run_instants_le (hasher : Hasher) (program : Program α) (memory : Memory) :
    memory.usage.instants ≤
      (program.run (platform supplies hasher) memory).state.usage.instants :=
  Program.run_keeps (fun after => memory.usage.instants ≤ after.usage.instants)
    (fun _ before => Nat.le_succ_of_le before) (fun _ _ before => before)
    (fun wanted _ before => Nat.le_trans before (answer_instants_le wanted))
    program memory (Nat.le_refl _)

/-- A program keeps the rows timed as long as the clock has not gone back by its end. -/
theorem run_timed (hasher : Hasher) (program : Program α) (memory : Memory)
    (timed : memory.Timed supplies)
    (forward : supplies.NeverBack
      (program.run (platform supplies hasher) memory).state.usage.instants) :
    (program.run (platform supplies hasher) memory).state.Timed supplies := by
  -- of each state on the way no more is asked than that the clock has gone forward so far
  refine Program.run_keeps
    (fun after => supplies.NeverBack after.usage.instants → after.Timed supplies)
    ?now ?digest ?answer program memory (fun _ => timed) forward
  case now =>
    intro state before forward
    exact (before (forward.fewer (Nat.le_succ _))).read forward
  case digest => exact fun _ _ before => before
  case answer =>
    intro wanted state before forward
    exact answer_timed wanted (before (forward.fewer (answer_instants_le wanted))) forward

theorem alter_made {id : UserId} {change : User → Instant → User} {changed : User}
    (made : (memory.alter supplies id change).1 = .ok (some changed)) :
    ∃ row now, memory.store.liveRow? id = some row ∧
      supplies.instant memory.usage.instants = .ok now ∧ changed = change row now ∧
      (memory.alter supplies id change).2.store.row? id = some changed ∧
      (memory.alter supplies id change).2.usage.instants = memory.usage.instants + 1 := by
  rcases alter_cases supplies memory id change with
      ⟨nothing, -, -⟩ | ⟨failure, failed, -⟩ | ⟨row, now, found, read, reply, -⟩
  · rw [nothing] at made
    cases made
  · rw [failed] at made
    cases made
  · rw [reply] at made
    obtain rfl := Option.some.inj (Except.ok.inj made)
    have altered := alter_live supplies memory change found read
    refine ⟨row, now, found, read, rfl, ?_, ?_⟩ <;> rw [altered]
    exact Store.row?_eq_some.2 (Store.mem_put.2 (.inl rfl))

/-- A change that stamps its row leaves a time of update that is no earlier than the one before. -/
theorem Timed.alter_advances (timed : memory.Timed supplies) {id : UserId}
    {change : User → Instant → User} {changed : User}
    (stamps : ∀ row now, (change row now).updatedAt = now)
    (made : (memory.alter supplies id change).1 = .ok (some changed))
    (forward : supplies.NeverBack (memory.alter supplies id change).2.usage.instants) :
    ∃ row, memory.store.row? id = some row ∧
      (memory.alter supplies id change).2.store.row? id = some changed ∧
      row.updatedAt ≤ changed.updatedAt := by
  obtain ⟨row, now, found, read, rfl, placed, once⟩ := alter_made made
  rw [once] at forward
  obtain ⟨latest, within, le⟩ := timed.found forward read found
  refine ⟨row, Store.row?_eq_some.2 (Store.liveRow?_eq_some.1 found).1, placed, ?_⟩
  rw [stamps]
  exact Instant.le_trans within.updated le

/-- An update that gives a user back has passed the guard. -/
theorem update_eq_alter {patch : Patch} {user : User}
    (made : (memory.update supplies patch).1 = .ok (some user)) :
    memory.update supplies patch = memory.alter supplies patch.id patch.apply := by
  unfold update at made ⊢
  split at made
  next missing => cases made
  next row found =>
    split at made
    next taken => cases made
    next free => rfl

end Memory

namespace Access

variable {supplies : Supplies} {hasher : Hasher}

theorem perform_instants_le (memory : Memory) (access : Access) :
    memory.usage.instants ≤ (access.perform supplies hasher memory).usage.instants := by
  cases access with
  | call wanted => exact Memory.answer_instants_le wanted
  | batchDelete ids => exact Memory.run_instants_le hasher _ memory

theorem run_instants_le (accesses : List Access) (memory : Memory) :
    memory.usage.instants ≤ (run supplies hasher accesses memory).usage.instants := by
  induction accesses generalizing memory with
  | nil => exact Nat.le_refl _
  | cons access rest ih => exact Nat.le_trans (perform_instants_le memory access) (ih _)

theorem perform_timed {memory : Memory} (timed : memory.Timed supplies) (access : Access)
    (forward : supplies.NeverBack (access.perform supplies hasher memory).usage.instants) :
    (access.perform supplies hasher memory).Timed supplies := by
  cases access with
  | call wanted => exact Memory.answer_timed wanted timed forward
  | batchDelete ids => exact Memory.run_timed hasher _ memory timed forward

theorem run_timed {memory : Memory} (timed : memory.Timed supplies) (accesses : List Access)
    (forward : supplies.NeverBack (run supplies hasher accesses memory).usage.instants) :
    (run supplies hasher accesses memory).Timed supplies := by
  induction accesses generalizing memory with
  | nil => exact timed
  | cons access rest ih =>
    exact ih (perform_timed timed access (forward.fewer (run_instants_le rest _))) forward

theorem run_instants_le_longer {before accesses : List Access} (begins : before <+: accesses)
    (memory : Memory) :
    (run supplies hasher before memory).usage.instants ≤
      (run supplies hasher accesses memory).usage.instants := by
  obtain ⟨rest, rfl⟩ := begins
  rw [run, run, List.foldl_append]
  exact run_instants_le rest _

/-- As long as the clock does not go back, timestamps stay in order. At every point of a run from
the empty store each row was created no later than it was last updated, and updated no later than it
was deleted, and none of these times lies after the latest reading of the clock. An update or a
change of status that succeeds leaves a time of update that is no earlier than the one before. -/
theorem run_ordered (supplies : Supplies) (hasher : Hasher) (accesses : List Access)
    (forward : supplies.NeverBack (run supplies hasher accesses {}).usage.instants) :
    ∀ before, before <+: accesses →
      let reached := run supplies hasher before {}
      (∀ row ∈ reached.store.rows, ∃ latest,
        supplies.latest? reached.usage.instants = some latest ∧
          row.createdAt ≤ row.updatedAt ∧ row.createdAt ≤ latest ∧ row.updatedAt ≤ latest ∧
          ∀ deleted, row.deletedAt = some deleted → row.updatedAt ≤ deleted ∧ deleted ≤ latest) ∧
      (∀ patch user, before ++ [call (.update patch)] <+: accesses →
        (reached.update supplies patch).1 = .ok (some user) →
        ∃ row, reached.store.row? patch.id = some row ∧
          (reached.update supplies patch).2.store.row? patch.id = some user ∧
          row.updatedAt ≤ user.updatedAt) ∧
      ∀ id status updateBy, before ++ [call (.changeStatus id status updateBy)] <+: accesses →
        (reached.changeStatus supplies id status updateBy).1 = .ok true →
        ∃ row changed, reached.store.row? id = some row ∧
          (reached.changeStatus supplies id status updateBy).2.store.row? id = some changed ∧
          row.updatedAt ≤ changed.updatedAt := by
  intro before begins reached
  have empty : Memory.Timed supplies {} := fun row member => absurd member List.not_mem_nil
  have timed : reached.Timed supplies :=
    run_timed empty before (forward.fewer (run_instants_le_longer begins {}))
  have onward (wanted : Call) (next : before ++ [call wanted] <+: accesses) :
      supplies.NeverBack (reached.answer supplies wanted).2.usage.instants := by
    have within : (run supplies hasher (before ++ [call wanted]) {}).usage.instants ≤
        (run supplies hasher accesses {}).usage.instants := run_instants_le_longer next {}
    rw [run, List.foldl_append] at within
    exact forward.fewer within
  refine ⟨fun row member => ?_, fun patch user next made => ?_,
    fun id status updateBy next done => ?_⟩
  · obtain ⟨latest, known, within⟩ := timed row member
    exact ⟨latest, known, within.created, Instant.le_trans within.created within.updated,
      within.updated, within.deleted⟩
  · have steady := onward (.update patch) next
    have altered := Memory.update_eq_alter made
    simp only [Memory.answer, altered] at steady
    rw [altered] at made ⊢
    exact timed.alter_advances (fun _ _ => rfl) made steady
  · obtain ⟨changed, made⟩ := Except.exists_some_of_isSome done
    obtain ⟨row, found, placed, le⟩ :=
      timed.alter_advances (fun _ _ => rfl) made (onward (.changeStatus id status updateBy) next)
    exact ⟨row, changed, found, placed, le⟩

end Access

def Supplies.ticking : Supplies where
  instant number := .ok { Instant.epoch with
    second := min number 3600
    inCalendar := by simp only [Date.first, Date.last]; omega }
  identifier := Supplies.still.identifier

theorem Supplies.ticking_neverBack (count : Nat) : ticking.NeverBack count := by
  intro i j earlier later order _ gaveEarlier gaveLater
  obtain rfl := Except.ok.inj gaveEarlier
  obtain rfl := Except.ok.inj gaveLater
  rw [Instant.le_iff]
  simp only
  omega

namespace Access

def lifetime : List Access :=
  [call (.save { account := "alice" }), call (.update { id := .first, remark := some "on leave" }),
    call (.changeStatus .first .disabled none), call (.delete .first)]

/-- Each of the four writes is stamped by a second of its own. -/
theorem lifetime_ordered :
    Supplies.ticking.NeverBack (run .ticking .plain lifetime {}).usage.instants ∧
      ((run .ticking .plain lifetime {}).store.rows.map fun row =>
        (row.createdAt.second, row.updatedAt.second, row.deletedAt.map Instant.second)) =
        [(0, 2, some 3)] ∧
      (∀ row ∈ (run .ticking .plain lifetime {}).store.rows, ∃ latest,
        Supplies.ticking.latest? 4 = some latest ∧ row.createdAt ≤ row.updatedAt ∧
          ∀ deleted, row.deletedAt = some deleted → row.updatedAt ≤ deleted ∧ deleted ≤ latest) ∧
      ∃ row changed,
        (run .ticking .plain (lifetime.take 2) {}).store.row? .first = some row ∧
          (run .ticking .plain (lifetime.take 3) {}).store.row? .first = some changed ∧
          row.updatedAt ≤ changed.updatedAt := by
  have forward : Supplies.ticking.NeverBack (run .ticking .plain lifetime {}).usage.instants :=
    Supplies.ticking_neverBack _
  have ordered := run_ordered .ticking .plain lifetime forward
  refine ⟨forward, by decide +kernel, fun row member => ?_, ?_⟩
  · obtain ⟨latest, known, created, -, -, deleted⟩ :=
      (ordered lifetime (List.prefix_refl _)).1 row member
    exact ⟨latest, known, created, deleted⟩
  · exact (ordered (lifetime.take 2) (List.take_prefix 2 _)).2.2 .first .disabled none
      (List.take_prefix 3 lifetime) rfl

end Access

end UserDirectory
