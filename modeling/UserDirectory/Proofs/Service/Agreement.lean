import UserDirectory.Proofs.Service.Amendment
import UserDirectory.Proofs.Service.Creation
import UserDirectory.Proofs.Service.Guarded

/-!
The checks of the service and the guard of the store agree. The service looks for a value in use
before it writes, and passes over what is empty or the user's own; the guard looks at all other live
rows. Over a store that calls can make, with nothing in between, a write is let pass wherever the
checks pass, and the value that a check finds in use is the one that the guard would name.
-/

namespace UserDirectory

open Service Program

/-- Asked for the write that an operation is to make, the guard refuses the value in the field. -/
def Operation.Refused (supplies : Supplies) (memory : Memory) (field : UniqueField)
    (value : String) : Operation → Prop
  | createUser request => ∃ sex status, readCreate request = .ok (sex, status) ∧
      ∀ hash, (memory.answer supplies (.save (newUser request sex status hash))).1 =
        .error (.alreadyExists field value)
  | updateUser request => ∃ id sex status, readUpdate request = .ok (id, sex, status) ∧
      (memory.answer supplies (.update (changes request id sex status))).1 =
        .error (.alreadyExists field value)
  | _ => False

section Operations

variable {supplies : Supplies} {hasher : Hasher} {memory : Memory}
  (neutral : supplies.Neutral) (digests : hasher.Neutral) (consistent : memory.store.Consistent)
include neutral

include digests consistent in
/-- The checks of a new user look for what the guard looks for, in the same order. -/
theorem enroll_agrees (request : CreateRequest) (sex : Option Sex) (status : Option Status)
    (hash : String) : (enroll request sex status).Agrees supplies hasher memory
      (memory.store.refusal? none (newUser request sex status hash).brings) := by
  rw [Store.refusal?, ← (memory.store.taken? _ .mobile _).or_none]
  refine .check (onlyReads_requireAccountFree _) (eval_requireAccountFree_live consistent _)
    fun account => ?_
  refine .check (onlyReads_givenEmailFree _ _)
    (eval_givenEmailFree consistent none fun _ => supplied_ne_empty) fun email => ?_
  refine .check (onlyReads_givenMobileFree _ _)
    (eval_givenMobileFree consistent none fun _ => supplied_ne_empty) fun mobile => ?_
  refine (agrees_digestOf digests _).bind fun hash after ran => agrees_add neutral ?_
  rw [eval_digestOf_store ran]
  exact Store.conflict?_of_free none (NewUser.claimed_of _) fun field => by
    cases field with
    | account => exact account
    | email => exact email
    | mobile => exact mobile

include consistent in
/-- The checks of a change look for what the guard looks for, less what is the user's own. -/
theorem amend_agrees (request : UpdateRequest) (id : UserId) (sex : Option Sex)
    (status : Option Status) {row : User} (found : memory.store.liveRow? id = some row) :
    (amend request id sex status).Agrees supplies hasher memory
      (memory.store.refusal? id.text (changes request id sex status).brings) := by
  obtain ⟨member, rfl⟩ := consistent.liveRow?_eq_some.1 found
  refine .past (onlyReads_requireLive _) (eval_requireLive found) ?_
  have own : memory.store.refusal? row.id.text (changes request row.id sex status).brings =
      (memory.store.taken? row.id.text .email (changed request.email row.email)).or
        ((memory.store.taken? row.id.text .mobile (changed request.mobile row.mobile)).or
          none) := by
    rw [Option.or_none]
    exact (congrArg₂ Option.or (consistent.taken?_changed member .email nofun _)
      (consistent.taken?_changed member .mobile nofun _)).symm
  rw [own]
  refine .check (onlyReads_givenEmailFree _ _)
    (eval_givenEmailFree consistent (some row.id) fun _ => changed_ne_empty) fun email => ?_
  refine .check (onlyReads_givenMobileFree _ _)
    (eval_givenMobileFree consistent (some row.id) fun _ => changed_ne_empty) fun mobile => ?_
  have free : memory.store.conflict? (some row.id)
      (changes request row.id sex status).claimed = none :=
    Store.conflict?_of_free _ (Patch.claimed_of _) fun field => by
      cases field with
      | account => rfl
      | email => exact (consistent.taken?_changed member .email nofun _).symm.trans email
      | mobile => exact (consistent.taken?_changed member .mobile nofun _).symm.trans mobile
  exact (agrees_update neutral found free).bind fun updated _ _ => agrees_requireFound _ updated

include digests consistent in
theorem createUser_agrees (request : CreateRequest) :
    ∃ refusal, (createUser request).Agrees supplies hasher memory refusal ∧
      ∀ field value, refusal = some (.alreadyExists field value) ↔
        (Operation.createUser request).Refused supplies memory field value := by
  cases read : readCreate request with
  | error broken =>
    refine ⟨none, .logged (agrees_rejected read), fun field value => iff_of_false nofun ?_⟩
    rintro ⟨sex, status, valid, -⟩
    cases read.symm.trans valid
  | ok codes =>
    obtain ⟨sex, status⟩ := codes
    refine ⟨_, .logged (.past (asks_require _).makes (eval_require read)
      (enroll_agrees neutral digests consistent request sex status "")), fun field value => ?_⟩
    constructor
    · exact fun taken => ⟨sex, status, read, fun hash => (Memory.save_refused neutral).2 taken⟩
    · rintro ⟨_, _, valid, refused⟩
      cases read.symm.trans valid
      exact (Memory.save_refused neutral).1 (refused "")

include consistent in
theorem updateUser_agrees (request : UpdateRequest) :
    ∃ refusal, (updateUser request).Agrees supplies hasher memory refusal ∧
      ∀ field value, refusal = some (.alreadyExists field value) ↔
        (Operation.updateUser request).Refused supplies memory field value := by
  cases read : readUpdate request with
  | error broken =>
    refine ⟨none, .logged (agrees_rejected read), fun field value => iff_of_false nofun ?_⟩
    rintro ⟨id, sex, status, valid, -⟩
    cases read.symm.trans valid
  | ok known =>
    obtain ⟨id, sex, status⟩ := known
    cases found : memory.store.liveRow? id with
    | none =>
      refine ⟨none, .logged ?_, fun field value => iff_of_false nofun ?_⟩
      · rw [read]
        refine (agrees_require _).bind fun _ _ passed => ?_
        cases passed
        refine (agrees_requireLive id).bind fun row after ran => ?_
        cases found.symm.trans (liveRow?_of_eval ran).1
      · rintro ⟨_, _, _, valid, refused⟩
        cases read.symm.trans valid
        have missed : memory.update supplies (changes request id sex status) =
            (.ok none, memory) := by
          simp only [Memory.update, changes, found]
        cases refused.symm.trans (congrArg Prod.fst missed)
    | some row =>
      refine ⟨_, .logged (.past (asks_require _).makes (eval_require read)
        (amend_agrees neutral consistent request id sex status found)), fun field value => ?_⟩
      constructor
      · exact fun taken => ⟨id, sex, status, read, (Memory.update_refused neutral found).2 taken⟩
      · rintro ⟨_, _, _, valid, refused⟩
        cases read.symm.trans valid
        exact (Memory.update_refused neutral found).1 refused

include digests consistent in
theorem Operation.agrees (settings : Settings) (operation : Operation) :
    ∃ refusal, (operation.program settings).Agrees supplies hasher memory refusal ∧
      ∀ field value, refusal = some (.alreadyExists field value) ↔
        operation.Refused supplies memory field value := by
  -- the other operations bring nothing to a unique field
  have others {operation : Operation}
      (agrees : (operation.program settings).Agrees supplies hasher memory none)
      (brings : ∀ field value, ¬operation.Refused supplies memory field value) :
      ∃ refusal, (operation.program settings).Agrees supplies hasher memory refusal ∧
        ∀ field value, refusal = some (.alreadyExists field value) ↔
          operation.Refused supplies memory field value :=
    ⟨none, agrees, fun field value => iff_of_false nofun (brings field value)⟩
  cases operation with
  | createUser request => exact createUser_agrees neutral digests consistent request
  | updateUser request => exact updateUser_agrees neutral consistent request
  | getUser id =>
    refine others (.logged ?_) fun _ _ => not_false
    exact (agrees_require _).bind fun known _ _ => agrees_requireLive known
  | deleteUser id =>
    refine others (.logged ?_) fun _ _ => not_false
    refine (agrees_require _).bind fun known _ _ => ?_
    exact (agrees_delete neutral known).bind fun deleted _ _ => agrees_requireDone known deleted
  | batchDeleteUsers ids =>
    refine others (.logged ?_) fun _ _ => not_false
    refine (agrees_require _).bind fun _ _ _ => (deleteItems_agrees ids {}).bind fun tally _ _ => ?_
    exact .logged (agrees_done tally)
  | changeUserStatus id status updateBy =>
    refine others (.logged ?_) fun _ _ => not_false
    refine (agrees_require _).bind fun known _ _ => (agrees_require _).bind fun status _ _ => ?_
    refine (agrees_requireLive known).bind fun row after ran => ?_
    obtain ⟨found, rfl⟩ := liveRow?_of_eval ran
    exact (agrees_changeStatus neutral found status updateBy).bind fun switched _ _ =>
      agrees_requireDone known switched
  | resetPassword id password updateBy =>
    refine others (.logged ?_) fun _ _ => not_false
    refine (agrees_require _).bind fun known _ _ => (agrees_require _).bind fun _ _ _ => ?_
    refine (agrees_requireLive known).bind fun row after ran => ?_
    obtain ⟨found, rfl⟩ := liveRow?_of_eval ran
    refine (agrees_digestOf digests password).bind fun hash digested made => ?_
    rw [← eval_digestOf_store made] at found
    refine (agrees_update neutral found rfl).bind fun updated _ _ => ?_
    exact (agrees_requireFound known updated).bind fun _ _ _ => agrees_done ()
  | checkAccountExists account =>
    refine others (.logged ?_) fun _ _ => not_false
    refine (agrees_require _).bind fun _ _ _ => ?_
    exact (agrees_look rfl).bind fun found _ _ => agrees_done _
  | getUserStatistics tenantId =>
    refine others (.logged ?_) fun _ _ => not_false
    refine (agrees_clock neutral).bind fun instant _ _ => ?_
    refine (agrees_inCalendar _).bind fun windows _ _ => .logged ?_
    exact agrees_counting settings.counting _ windows
  | listUsers request =>
    refine others (.logged ?_) fun _ _ => not_false
    refine (agrees_require _).bind fun status _ _ => ?_
    exact (agrees_ofExcept (untaken_instants _ _ _)).bind fun range _ _ => agrees_look rfl
  | verifyCredentials account password =>
    exact others (agrees_verifyCredentials account password) fun _ _ => not_false

end Operations

/-- The checks of the service and the guard of the store agree, over a store that calls can make and
with nothing in between. No write that an operation makes is refused for a value in use, and no user
who was looked up is missing when the change is made. An operation ends for a value in use exactly
where the guard, asked for the same write in its stead, names the same field and the same value. The
clock, the ids and the digests are taken not to say themselves that a value is in use. -/
theorem Operation.guard_agrees (settings : Settings) (supplies : Supplies) (hasher : Hasher)
    (neutral : supplies.Neutral) (digests : hasher.Neutral) (memory : Memory)
    (reachable : memory.store.Reachable) (operation : Operation) :
    let platform := Memory.platform supplies hasher
    (∀ told ∈ (operation.program settings).told platform memory, told.Admitted) ∧
    ∀ field value,
      ((operation.program settings).run platform memory).result =
          .error (.alreadyExists field value) ↔
        operation.Refused supplies memory field value := by
  obtain ⟨refusal, agrees, same⟩ :=
    operation.agrees neutral digests reachable.consistent settings
  exact ⟨agrees.admitted, fun field value => (agrees.result field value).trans (same field value)⟩

/-- Bob may not take the email of alice, who may submit it again. -/
theorem Operation.guard_agrees_twice :
    let memory := (Memory.answer .still (.save { account := "bob" })
      (Memory.answer .still (.save { account := "alice", email := some "a@b.cn" }) .empty).2).2
    let platform := Memory.platform .still .plain
    let other : Operation := .updateUser { id := "u-2", email := some "a@b.cn" }
    let own : Operation := .updateUser { id := "u-1", email := some "a@b.cn" }
    ((other.program .utc).run platform memory).result =
      .error (.alreadyExists .email "a@b.cn") ∧
    ((own.program .utc).told platform memory).map Told.call =
      [.findById .first, .update { id := .first, email := some "a@b.cn" }] ∧
    ∀ told ∈ (own.program .utc).told platform memory, told.Admitted := by
  intro memory platform other own
  have neutral : Supplies.still.Neutral := ⟨fun _ => .ok _, fun _ => .ok _⟩
  have digests : Hasher.plain.Neutral := fun _ _ => .ok _
  have reachable : memory.store.Reachable := .answer _ _ _ (.answer _ _ _ .empty)
  have agreed := guard_agrees .utc .still .plain neutral digests memory reachable
  exact ⟨((agreed other).2 _ _).2 ⟨.second, none, none, rfl, rfl⟩, rfl, (agreed own).1⟩

end UserDirectory
