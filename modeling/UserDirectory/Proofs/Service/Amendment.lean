import UserDirectory.Proofs.Service.Decision
import UserDirectory.Proofs.Store.Rows

/-!
What an update of a user comes to. Every failure is listed in the order in which it is looked for;
past them all the row is as before but for what the request supplies, and every other row is as it
was. What a user has already does not stand in the user's own way.
-/

namespace UserDirectory

open Service Program

def Store.missing? (store : Store) (id : String) : Option Failure :=
  if ∃ row ∈ store.rows, row.IsLive ∧ row.id.text = id then none
  else some (.notFound ("User '" ++ id ++ "' not found"))

/-- All that keeps a user from being updated, in the order in which it is looked for. -/
def UpdateRequest.refusals (request : UpdateRequest) (store : Store) : List (Option Failure) :=
  [broken (UserId.ofText request.id), broken (checkField Rule.nickname request.nickname),
    broken (checkField Rule.remark request.remark), broken (checkField Rule.email request.email),
    broken (checkField Rule.mobile request.mobile), broken (readCode Sex.ofCode request.sex),
    broken (readCode Status.ofCode request.status), store.missing? request.id,
    store.taken? request.id .email request.email, store.taken? request.id .mobile request.mobile]

/-- A user with what a request supplies, also where it is empty, and all else as before. -/
structure UpdateRequest.Amends (request : UpdateRequest) (before : User) (now : Instant)
    (user : User) : Prop where
  id : user.id = before.id
  account : user.account = before.account
  passwordHash : user.passwordHash = before.passwordHash
  nickname : user.nickname = request.nickname.or before.nickname
  remark : user.remark = request.remark.or before.remark
  deptId : user.deptId = request.deptId.or before.deptId
  postIds : user.postIds = request.postIds.or before.postIds
  email : user.email = request.email.or before.email
  mobile : user.mobile = request.mobile.or before.mobile
  sex : user.sex.map Sex.code = request.sex.or (before.sex.map Sex.code)
  avatar : user.avatar = request.avatar.or before.avatar
  status : user.status.code = request.status.getD before.status.code
  loginIp : user.loginIp = before.loginIp
  loginDate : user.loginDate = before.loginDate
  tenantId : user.tenantId = before.tenantId
  createBy : user.createBy = before.createBy
  createdAt : user.createdAt = before.createdAt
  updateBy : user.updateBy = request.updateBy.or before.updateBy
  updatedAt : user.updatedAt = now
  deletedAt : user.deletedAt = before.deletedAt

section Looking

variable {supplies : Supplies} {hasher : Hasher} {memory : Memory}

theorem Program.Decides.found (consistent : memory.store.Consistent) {id : UserId}
    {next : User → Program α} {more : List (Option Failure)} {wanted : α → Memory → Prop}
    (onward : ∀ row, memory.store.liveRow? id = some row →
      (next row).Decides supplies hasher memory more wanted) :
    (requireLive id >>= next).Decides supplies hasher memory
      (memory.store.missing? id.text :: more) wanted := by
  have known (row : User) : memory.store.liveRow? id = some row ↔
      row ∈ memory.store.rows ∧ row.IsLive ∧ row.id.text = id.text := by
    rw [Store.liveRow?_eq_some_iff consistent.keyed]
    exact and_congr_right' (and_congr_right' ⟨congrArg UserId.text, UserId.text_injective⟩)
  cases looked : memory.store.liveRow? id with
  | none =>
    have missing : memory.store.missing? id.text = failed (.error (notFound id) : Except _ User) :=
      if_neg fun ⟨row, here⟩ => absurd (looked.symm.trans ((known row).2 here)) nofun
    rw [missing]
    exact .step (eval_requireLive_missing looked) rfl fun _ passed => by cases passed
  | some row =>
    have present : memory.store.missing? id.text = failed (.ok row) :=
      if_pos ⟨row, (known row).1 looked⟩
    rw [present]
    refine .step (eval_requireLive looked) rfl fun _ same => ?_
    exact Except.ok.inj same ▸ onward row looked

/-- What the user has already need not be looked up. -/
theorem Store.Consistent.taken?_changed {store : Store} (consistent : store.Consistent)
    {row : User} (member : row ∈ store.live) (field : UniqueField) (contact : field ≠ .account)
    (value : Option String) :
    store.taken? row.id.text field (changed value (row.unique field)) =
      store.taken? row.id.text field value := by
  rw [← taken?_supplied field contact value, changed]
  cases given : supplied value with
  | none => rfl
  | some text =>
    by_cases own : row.unique field = some text
    · rw [Option.filter_some, if_neg (by simpa using own), ← own]
      exact (consistent.taken?_own member field).symm
    · rw [Option.filter_some, if_pos (by simpa using own)]

/-- Past the guard, a live row takes what a patch supplies. -/
theorem update_decides (patch : Patch) {row : User} {now : Instant}
    (found : memory.store.liveRow? patch.id = some row)
    (free : memory.store.conflict? (some patch.id) patch.claimed = none)
    (read : supplies.instant memory.usage.instants = .ok now) :
    (ask (.update patch) >>= requireFound patch.id).Decides supplies hasher memory []
      fun user after => user = patch.apply row now ∧
        after.store = memory.store.put patch.id.text user := by
  let after : Memory :=
    { store := memory.store.put patch.id.text (patch.apply row now)
      usage := { memory.usage with instants := memory.usage.instants + 1 } }
  have updated : (Memory.platform supplies hasher).answer (.update patch) memory =
      (.ok (some (patch.apply row now)), after) := by
    simp only [Memory.platform, Memory.answer, Memory.update, found, free, Memory.alter,
      Memory.readInstant, Usage.readInstant, read, after]
    rfl
  exact .of_eval (eval_bind_ok (eval_ask.trans updated)) ⟨rfl, rfl⟩

end Looking

theorem changes_amend {request : UpdateRequest} {sex : Option Sex} {status : Option Status}
    (sexRead : readCode Sex.ofCode request.sex = .ok sex)
    (statusRead : readCode Status.ofCode request.status = .ok status) (id : UserId)
    (before : User) (now : Instant) :
    request.Amends before now ((changes request id sex status).apply before now) where
  id := rfl
  account := rfl
  passwordHash := rfl
  nickname := Option.orElse_eq_or
  remark := Option.orElse_eq_or
  deptId := Option.orElse_eq_or
  postIds := Option.orElse_eq_or
  email := Option.orElse_eq_or
  mobile := Option.orElse_eq_or
  sex := by
    rw [← code_of_readCode (fun _ _ => Sex.ofCode_eq_ok.1) sexRead]
    cases sex <;> rfl
  avatar := Option.orElse_eq_or
  status := by
    rw [← code_of_readCode (fun _ _ => Status.ofCode_eq_ok.1) statusRead]
    cases status <;> rfl
  loginIp := rfl
  loginDate := rfl
  tenantId := rfl
  createBy := rfl
  createdAt := rfl
  updateBy := Option.orElse_eq_or
  updatedAt := rfl
  deletedAt := rfl

theorem updateUser_decides {supplies : Supplies} (hasher : Hasher) {memory : Memory}
    (consistent : memory.store.Consistent) {now : Instant}
    (read : supplies.instant memory.usage.instants = .ok now) (request : UpdateRequest) :
    (updateUser request).Decides supplies hasher memory (request.refusals memory.store)
      fun user after => ∃ before ∈ memory.store.rows,
        before.IsLive ∧ before.id.text = request.id ∧ request.Amends before now user ∧
        after.store.entries = memory.store.entries.map fun entry =>
          if entry.1 = request.id then (request.id, user) else entry := by
  refine .onward eval_event ?_
  simp only [readUpdate, checkProfile, require_bind_bind, require_pure_bind]
  refine .require fun id named => .require fun _ _ => .require fun _ _ => .require fun _ _ =>
    .require fun _ _ => .require fun sex sexRead => .require fun status statusRead => ?_
  have text : request.id = id.text := UserId.ofText_eq_ok.1 named
  rw [text]
  refine .found consistent fun row found => ?_
  obtain ⟨member, own⟩ := consistent.liveRow?_eq_some.1 found
  subst own
  -- the look-ups pass over a contact that the user has already, the guard does not
  rw [← consistent.taken?_changed member .email nofun,
    ← consistent.taken?_changed member .mobile nofun]
  refine .check (eval_givenEmailFree consistent (some row.id) fun _ => changed_ne_empty)
    fun email => ?_
  refine .check (eval_givenMobileFree consistent (some row.id) fun _ => changed_ne_empty)
    fun mobile => ?_
  let patch := changes request row.id sex status
  have free : memory.store.conflict? (some row.id) patch.claimed = none :=
    Store.conflict?_of_free (some row.id) patch.claimed_of fun field => by
      cases field with
      | account => rfl
      | email => exact (consistent.taken?_changed member .email nofun _).symm.trans email
      | mobile => exact (consistent.taken?_changed member .mobile nofun _).symm.trans mobile
  refine (update_decides patch found free read).mono ?_
  rintro _ after ⟨rfl, written⟩
  obtain ⟨inside, alive, -⟩ := (Store.liveRow?_eq_some_iff consistent.keyed).1 found
  refine ⟨row, inside, alive, rfl, changes_amend sexRead statusRead _ _ _, ?_⟩
  rw [written]
  exact Store.entries_put_known (Option.filter_eq_some_iff.1 found).1 _

theorem UpdateRequest.taken_of_mem_refusals {request : UpdateRequest} {store : Store}
    {field : UniqueField} {text : String}
    (refused : some (.alreadyExists field text) ∈ request.refusals store) :
    (field = .email ∧ store.taken? request.id .email request.email ≠ none) ∨
      (field = .mobile ∧ store.taken? request.id .mobile request.mobile ≠ none) := by
  have rule {α : Type} (checked : Except FieldError α) :
      some (.alreadyExists field text) ≠ broken checked := by cases checked <;> nofun
  have present : some (.alreadyExists field text) ≠ store.missing? request.id := by
    unfold Store.missing?
    split <;> nofun
  simp only [refusals, List.mem_cons, List.not_mem_nil, rule, present, false_or, or_false]
    at refused
  have of_field (own : UniqueField) (value : Option String)
      (taken : some (.alreadyExists field text) = store.taken? request.id own value) :
      field = own ∧ store.taken? request.id own value ≠ none := by
    obtain ⟨_, -, same⟩ := Store.alreadyExists_of_taken? taken.symm
    exact ⟨(Failure.alreadyExists.inj same).1, taken ▸ nofun⟩
  exact refused.imp (of_field .email _) (of_field .mobile _)

/-- What becomes of a request for an update, over a store that calls can make and with a clock that
goes. Nobody is refused the email or the mobile number that is their own already. -/
theorem updateUser_decided (supplies : Supplies) (hasher : Hasher) (memory : Memory)
    (reachable : memory.store.Reachable) (now : Instant)
    (read : supplies.instant memory.usage.instants = .ok now) (request : UpdateRequest) :
    (updateUser request).Decides supplies hasher memory (request.refusals memory.store)
      (fun user after => ∃ before ∈ memory.store.rows,
        before.IsLive ∧ before.id.text = request.id ∧ request.Amends before now user ∧
        after.store.entries = memory.store.entries.map fun entry =>
          if entry.1 = request.id then (request.id, user) else entry) ∧
    ∀ row ∈ memory.store.rows, row.IsLive → row.id.text = request.id → ∀ text,
      let result := ((updateUser request).run (Memory.platform supplies hasher) memory).result
      (request.email = row.email → result ≠ .error (.alreadyExists .email text)) ∧
      (request.mobile = row.mobile → result ≠ .error (.alreadyExists .mobile text)) := by
  have consistent := reachable.consistent
  have decides := updateUser_decides hasher consistent read request
  refine ⟨decides, fun row member alive named text => ?_⟩
  have live : row ∈ memory.store.live := List.mem_filter.2 ⟨member, decide_eq_true alive⟩
  constructor
  · intro same refused
    rcases UpdateRequest.taken_of_mem_refusals (decides.mem_refusals refused) with
        ⟨-, taken⟩ | ⟨⟨⟩, -⟩
    rw [same, ← named] at taken
    exact taken (consistent.taken?_own live .email)
  · intro same refused
    rcases UpdateRequest.taken_of_mem_refusals (decides.mem_refusals refused) with
        ⟨⟨⟩, -⟩ | ⟨-, taken⟩
    rw [same, ← named] at taken
    exact taken (consistent.taken?_own live .mobile)

/-- The number may be submitted again, and the empty email is kept as it is. -/
theorem updateUser_decided_again :
    let new : NewUser := { account := "alice", mobile := some "13800138000" }
    let before := (Memory.answer .still (.save new) .empty).2
    let request : UpdateRequest := { id := "u-1", email := some "", mobile := some "13800138000" }
    let outcome := (updateUser request).run (Memory.platform .still .plain) before
    ∃ user, outcome.result = .ok user ∧ user.account = "alice" ∧ user.email = some "" ∧
      user.mobile = some "13800138000" ∧ outcome.state.store.entries = [("u-1", user)] := by
  intro new before request outcome
  have updated := (updateUser_decided .still .plain before
    (.answer .still .empty (.save new) .empty) .epoch rfl request).1
  have passed : (request.refusals before.store).findSome? id = none := by decide
  rw [Program.Decides, passed] at updated
  obtain ⟨user, made, row, member, -, -, amends, entries⟩ := updated
  obtain rfl : row = User.ofNew .first new .epoch := List.mem_singleton.1 member
  exact ⟨user, made, amends.account, amends.email, amends.mobile, entries⟩

end UserDirectory
