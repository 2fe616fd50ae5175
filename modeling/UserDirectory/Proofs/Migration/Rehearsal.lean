import UserDirectory.Proofs.Migration.Ledger

/-!
A database to rehearse runs of migrations with. It keeps no more than its books and leaves some of
the requests unanswered, and it is transactional.
-/

namespace UserDirectory.Migration

open Database

structure Books where
  recorded : List Int
  scripts : List String

def Books.ledger (books : Books) : Ledger := ⟨books.recorded.toFinset, books.scripts⟩

structure Rehearsal where
  stored : Books
  pending : Option Books := none
  requests : Nat := 0

namespace Rehearsal

def contents (rehearsal : Rehearsal) : Contents :=
  ⟨rehearsal.stored.ledger, rehearsal.pending.map Books.ledger⟩

def follow (rehearsal : Rehearsal) : Request → Rehearsal
  | .begin => { rehearsal with pending := some rehearsal.stored }
  | .script text =>
    { rehearsal with pending := rehearsal.pending.map fun books =>
        { books with scripts := books.scripts ++ [text] } }
  | .migrations (.record version _) =>
    { rehearsal with pending := rehearsal.pending.map fun books =>
        { books with recorded := version :: books.recorded } }
  | .commit => { rehearsal with stored := rehearsal.pending.getD rehearsal.stored, pending := none }
  | .rollback => { rehearsal with pending := none }
  | _ => rehearsal

/-- Some of the requests are not answered. Nothing is done then; a transaction that was to be rolled
back is lost all the same. -/
def peer (unanswered : List Nat) : Peer Rehearsal := fun request rehearsal =>
  let counted := { rehearsal with requests := rehearsal.requests + 1 }
  if rehearsal.requests ∈ unanswered then
    (.error (.connection "reset"), if request = .rollback then counted.follow request else counted)
  else (.ok { rows := rehearsal.stored.recorded.map versionRow }, counted.follow request)

section Laws

variable {unanswered : List Nat} {request : Request} {rehearsal after : Rehearsal}

theorem follow_counted (requests : Nat) :
    (({ rehearsal with requests } : Rehearsal).follow request).contents =
      (rehearsal.follow request).contents := by
  cases request with
  | migrations statement => cases statement <;> rfl
  | _ => rfl

theorem peer_answered {answer : Answer}
    (told : peer unanswered request rehearsal = (.ok answer, after)) :
    after.contents = (rehearsal.follow request).contents ∧
      answer.rows = rehearsal.stored.recorded.map versionRow := by
  unfold peer at told
  split at told
  next lost => cases told
  next heard =>
    cases told
    exact ⟨follow_counted _, rfl⟩

theorem peer_unanswered {error : DatabaseError}
    (told : peer unanswered request rehearsal = (.error error, after))
    (other : request ≠ .rollback) : after.contents = rehearsal.contents := by
  unfold peer at told
  split at told
  next lost =>
    cases told
    rfl
  next heard => cases told

theorem peer_lost {answer : Except DatabaseError Answer}
    (told : peer unanswered .rollback rehearsal = (answer, after)) :
    after.contents = ⟨rehearsal.contents.stored, none⟩ := by
  unfold peer at told
  split at told <;> cases told <;> rfl

theorem opened {ledger pending : Ledger} (within : rehearsal.contents = ⟨ledger, some pending⟩) :
    rehearsal.stored.ledger = ledger ∧
      ∃ books, rehearsal.pending = some books ∧ books.ledger = pending := by
  obtain ⟨stored, held⟩ := Contents.mk.inj within
  exact ⟨stored, Option.map_eq_some_iff.1 held⟩

end Laws

theorem peer_transactional (unanswered : List Nat) (migrations : List Migration) :
    Transactional (peer unanswered) contents migrations where
  createTable {state after answer ledger} closed told := by
    cases answer with
    | ok answer => exact (peer_answered told).1.trans closed
    | error error => exact (peer_unanswered told nofun).trans closed
  versions {state after answer ledger} closed told := by
    cases answer with
    | ok answer =>
      obtain ⟨kept, rows⟩ := peer_answered told
      refine ⟨kept.trans closed, ?_⟩
      rintro _ ⟨⟩
      exact ⟨_, rows, congrArg (·.stored.versions) closed⟩
    | error error => exact ⟨(peer_unanswered told nofun).trans closed, fun _ => nofun⟩
  begun {state after answer ledger} closed told := by
    obtain ⟨rfl, -⟩ := Contents.mk.inj closed
    exact (peer_answered told).1
  notBegun closed told := (peer_unanswered told nofun).trans closed
  run {state after answer ledger pending} migration member within told := by
    obtain ⟨rfl, books, held, rfl⟩ := opened within
    rw [(peer_answered told).1, follow, held]
    rfl
  notRun migration member within told :=
    congrArg Contents.stored ((peer_unanswered told nofun).trans within)
  recorded {state after answer ledger pending version description} within told := by
    obtain ⟨rfl, books, held, rfl⟩ := opened within
    rw [(peer_answered told).1, follow, held]
    simp [contents, Books.ledger, Ledger.record]
  notRecorded within told :=
    congrArg Contents.stored ((peer_unanswered told nofun).trans within)
  committed {state after answer ledger pending} within told := by
    obtain ⟨rfl, books, held, rfl⟩ := opened within
    rw [(peer_answered told).1, follow, held]
    rfl
  notCommitted within told :=
    .inl (congrArg Contents.stored ((peer_unanswered told nofun).trans within))
  rolledBack told := peer_lost told

end Rehearsal

def three : List Migration := [
  { version := 3, description := "third", up := "CREATE c", down := "DROP c" },
  { version := 1, description := "first", up := "CREATE a", down := "DROP a" },
  { version := 2, description := "second", up := "CREATE b", down := "DROP b" }]

end UserDirectory.Migration
