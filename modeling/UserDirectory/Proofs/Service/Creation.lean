import UserDirectory.Proofs.Service.Decision
import UserDirectory.Proofs.Store.Rows

/-!
What the creation of a user comes to. Every failure is listed in the order in which it is looked
for; past them all there is a new row as the request says, behind all rows that there were.
-/

namespace UserDirectory

open Service Program

def Store.used? (store : Store) (drawn : Except Failure UserId) : Option Failure :=
  (drawn.toOption.filter fun id => ∃ row ∈ store.rows, row.id = id).map fun id =>
    .internal ("Generated user ID '" ++ id.text ++ "' is already taken")

/-- All that keeps a user from being created, in the order in which it is looked for. -/
def CreateRequest.refusals (request : CreateRequest) (supplies : Supplies) (hasher : Hasher)
    (memory : Memory) : List (Option Failure) :=
  let drawn := supplies.identifier memory.usage.identifiers
  [broken (Rule.account request.account), broken (Rule.password request.password),
    broken (checkField Rule.nickname request.nickname),
    broken (checkField Rule.remark request.remark), broken (checkField Rule.email request.email),
    broken (checkField Rule.mobile request.mobile), broken (readCode Sex.ofCode request.sex),
    broken (readCode Status.ofCode request.status),
    memory.store.taken? none .account request.account,
    memory.store.taken? none .email request.email,
    memory.store.taken? none .mobile request.mobile,
    failed (hasher.hash memory.usage.digests request.password), failed drawn,
    memory.store.used? drawn]

/-- A user as a request has it, with what the service and the store add. -/
structure CreateRequest.Describes (request : CreateRequest) (hash : String) (id : UserId)
    (now : Instant) (user : User) : Prop where
  id : user.id = id
  account : user.account = request.account
  passwordHash : user.passwordHash = some hash
  nickname : user.nickname = request.nickname
  remark : user.remark = request.remark
  deptId : user.deptId = request.deptId
  postIds : user.postIds = request.postIds
  email : ∀ text, user.email = some text ↔ request.email = some text ∧ text ≠ ""
  mobile : ∀ text, user.mobile = some text ↔ request.mobile = some text ∧ text ≠ ""
  sex : user.sex.map Sex.code = request.sex
  avatar : user.avatar = request.avatar
  status : user.status.code = request.status.getD Status.enabled.code
  loginIp : user.loginIp = none
  loginDate : user.loginDate = none
  tenantId : user.tenantId = request.tenantId
  createBy : user.createBy = request.createBy
  createdAt : user.createdAt = now
  updateBy : user.updateBy = none
  updatedAt : user.updatedAt = now
  deletedAt : user.deletedAt = none

theorem Store.used?_eq_none {store : Store}
    (keyed : ∀ entry ∈ store.entries, entry.1 = entry.2.id.text) {id : UserId}
    (fresh : store.row? id = none) : store.used? (.ok id) = none := by
  rw [used?, Option.map_eq_none_iff, Option.filter_eq_none_iff]
  rintro _ ⟨⟩ used
  obtain ⟨row, member, own⟩ := decide_eq_true_iff.1 used
  rw [(row?_eq_some_iff keyed).2 ⟨member, own⟩] at fresh
  cases fresh

theorem Store.used?_eq_some {store : Store}
    (keyed : ∀ entry ∈ store.entries, entry.1 = entry.2.id.text) {id : UserId} {row : User}
    (found : store.row? id = some row) : store.used? (.ok id) =
      some (.internal ("Generated user ID '" ++ id.text ++ "' is already taken")) := by
  obtain ⟨member, own⟩ := (row?_eq_some_iff keyed).1 found
  have used : (some id).filter (fun id => ∃ row ∈ store.rows, row.id = id) = some id :=
    Option.filter_eq_some_iff.2 ⟨rfl, decide_eq_true ⟨row, member, own⟩⟩
  exact congrArg (Option.map _) used

section Saving

variable {supplies : Supplies} {hasher : Hasher} {memory : Memory} {new : NewUser}

theorem eval_add : (add new).eval (Memory.platform supplies hasher) memory =
    memory.save supplies new := by
  -- the reply is a user only once `Reply` is unfolded
  refine (eval_bind (α := (Call.save new).Reply)).trans ?_
  rw [eval_ask]
  cases saved : (Memory.platform supplies hasher).answer (.save new) memory with
  | mk result after =>
    refine Eq.trans ?_ saved.symm
    cases result <;> rfl

/-- Past the guard, only the id drawn keeps a user from being saved. -/
theorem add_decides (hasher : Hasher) (memory : Memory)
    (keyed : ∀ entry ∈ memory.store.entries, entry.1 = entry.2.id.text) {now : Instant}
    (read : supplies.instant memory.usage.instants = .ok now)
    (free : memory.store.conflict? none new.claimed = none) :
    let drawn := supplies.identifier memory.usage.identifiers
    (add new).Decides supplies hasher memory [failed drawn, memory.store.used? drawn]
      fun user after => ∃ id, drawn = .ok id ∧ user = User.ofNew id new now ∧
        after.store.entries = memory.store.entries ++ [(id.text, user)] := by
  intro drawn
  rw [Decides, eval_add]
  cases source : drawn with
  | error failure =>
    have drew : supplies.identifier memory.usage.identifiers = .error failure := source
    simp only [Memory.save, free, Memory.drawIdentifier, Usage.drawIdentifier, drew]
    exact ⟨rfl, trivial⟩
  | ok id =>
    have drew : supplies.identifier memory.usage.identifiers = .ok id := source
    simp only [Memory.save, free, Memory.drawIdentifier, Usage.drawIdentifier, drew]
    cases fresh : memory.store.row? id with
    | some row =>
      rw [Store.used?_eq_some keyed fresh, Option.isSome_some, if_pos rfl]
      exact ⟨rfl, rfl⟩
    | none =>
      rw [Store.used?_eq_none keyed fresh, Option.isSome_none, if_neg Bool.false_ne_true]
      simp only [Memory.readInstant, Usage.readInstant, read]
      exact ⟨_, rfl, id, rfl, rfl, Store.entries_put_fresh fresh _⟩

end Saving

theorem newUser_described {request : CreateRequest} {sex : Option Sex} {status : Option Status}
    (sexRead : readCode Sex.ofCode request.sex = .ok sex)
    (statusRead : readCode Status.ofCode request.status = .ok status) (hash : String) (id : UserId)
    (now : Instant) :
    request.Describes hash id now (User.ofNew id (newUser request sex status hash) now) where
  id := rfl
  account := rfl
  passwordHash := rfl
  nickname := rfl
  remark := rfl
  deptId := rfl
  postIds := rfl
  email _ := mem_nonEmptyText
  mobile _ := mem_nonEmptyText
  sex := code_of_readCode (fun _ _ => Sex.ofCode_eq_ok.1) sexRead
  avatar := rfl
  status := by
    rw [← code_of_readCode (fun _ _ => Status.ofCode_eq_ok.1) statusRead]
    cases status <;> rfl
  loginIp := rfl
  loginDate := rfl
  tenantId := rfl
  createBy := rfl
  createdAt := rfl
  updateBy := rfl
  updatedAt := rfl
  deletedAt := rfl

/-- What becomes of a request for a new user, over a store that calls can make and with a clock
that goes. -/
theorem createUser_decided (supplies : Supplies) (hasher : Hasher) (memory : Memory)
    (reachable : memory.store.Reachable) (now : Instant)
    (read : supplies.instant memory.usage.instants = .ok now) (request : CreateRequest) :
    (createUser request).Decides supplies hasher memory (request.refusals supplies hasher memory)
      fun user after => ∃ hash id,
        hasher.hash memory.usage.digests request.password = .ok hash ∧
        supplies.identifier memory.usage.identifiers = .ok id ∧
        request.Describes hash id now user ∧
        after.store.entries = memory.store.entries ++ [(id.text, user)] := by
  have consistent := reachable.consistent
  refine .onward eval_event ?_
  simp only [readCreate, checkProfile, require_bind_bind, require_pure_bind]
  refine .require fun _ _ => .require fun _ _ => .require fun _ _ => .require fun _ _ =>
    .require fun _ _ => .require fun _ _ => .require fun sex sexRead =>
    .require fun status statusRead => ?_
  refine .check (eval_requireAccountFree_live consistent request.account) fun account => ?_
  -- the look-ups pass over a contact that is empty, as the guard does
  rw [← Store.taken?_supplied .email nofun, ← Store.taken?_supplied .mobile nofun]
  refine .check (eval_givenEmailFree consistent none fun _ => supplied_ne_empty) fun email => ?_
  refine .check (eval_givenMobileFree consistent none fun _ => supplied_ne_empty) fun mobile => ?_
  refine .digest fun hash made => ?_
  have free : memory.store.conflict? none (newUser request sex status hash).claimed = none :=
    Store.conflict?_of_free none (NewUser.claimed_of _) fun field => by
      cases field with
      | account => exact account
      | email => exact email
      | mobile => exact mobile
  let memory := memory.withDigests (memory.usage.digests + 1)
  refine (add_decides hasher memory consistent.keyed read free).mono ?_
  rintro _ after ⟨id, drawn, rfl, written⟩
  exact ⟨hash, id, made, drawn, newUser_described sexRead statusRead hash id now, written⟩

/-- The empty email is not kept, and the same request does not pass a second time. -/
theorem createUser_decided_twice :
    let request : CreateRequest := { account := "alice", password := "secret1", email := some "" }
    let first := (createUser request).run (Memory.platform .still .plain) .empty
    let second := (createUser request).run (Memory.platform .still .plain) first.state
    (∃ user, first.result = .ok user ∧ user.email = none ∧
      first.state.store.entries = [("u-1", user)]) ∧
    second.result = .error (.alreadyExists .account "alice") ∧
    second.state.store = first.state.store := by
  intro request first second
  have created := createUser_decided .still .plain .empty .empty .epoch rfl request
  have refused := createUser_decided .still .plain first.state
    (Memory.run_reachable .still .plain _ .empty .empty) .epoch rfl request
  have passed : (request.refusals .still .plain .empty).findSome? id = none := by decide
  have known : (request.refusals .still .plain first.state).findSome? id =
      some (.alreadyExists .account "alice") := by decide
  rw [Program.Decides, passed] at created
  rw [Program.Decides, known] at refused
  obtain ⟨user, made, hash, _, -, ⟨⟩, described, entries⟩ := created
  refine ⟨⟨user, made, ?_, entries⟩, refused⟩
  exact Option.eq_none_iff_forall_ne_some.2 fun text held =>
    ((described.email text).1 held).2 (Option.some.inj ((described.email text).1 held).1).symm

end UserDirectory
