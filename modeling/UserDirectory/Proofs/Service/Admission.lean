import UserDirectory.Proofs.Service.Credentials
import UserDirectory.Proofs.Store.Alike
import UserDirectory.Proofs.Store.Frame

/-!
Which password lets a user in. In a session begun with the empty store every hash is made of the
password that its user was given last, so the answer to credentials can be read off the history.
-/

namespace UserDirectory

open Service Program

/-- A digest is matched by the password that it was made of, and by no other. -/
def Hasher.Faithful (hasher : Hasher) : Prop :=
  ∀ number password stored, hasher.hash number password = .ok stored →
    ∀ other, hasher.verify other stored = true ↔ other = password

theorem Hasher.plain_faithful : Hasher.plain.Faithful := by
  intro number password stored made other
  obtain rfl := Except.ok.inj made
  rw [plain, decide_eq_true_iff, String.append_right_inj, eq_comm]

theorem User.Locked.accepts {hasher : Hasher} (faithful : hasher.Faithful) {row : User}
    {password : String} (locked : row.Locked hasher password) (other : String) :
    row.passwordHash.any (hasher.verify other) = true ↔ other = password := by
  obtain ⟨number, stored, made, held⟩ := locked
  rw [held, Option.any_some]
  exact faithful number password stored made other

def Store.admitted? (hasher : Hasher) (store : Store) (account password : String) : Option User :=
  (store.liveWith? fun row => row.account = account).filter fun user =>
    (Rule.account account).toBool && user.passwordHash.any (hasher.verify password) &&
      user.status = .enabled

theorem verifyCredentials_result (supplies : Supplies) (hasher : Hasher) (memory : Memory)
    (account password : String) :
    ((verifyCredentials account password).run (Memory.platform supplies hasher) memory).result =
      (memory.store.admitted? hasher account password).elim
        (.error (.unauthorized "Invalid account or password")) .ok := by
  change (run _ (if (Rule.account account).toBool = false then _ else _) _).result = _
  unfold Store.admitted?
  cases valid : (Rule.account account).toBool with
  | false =>
    rw [if_pos rfl]
    cases memory.store.liveWith? fun row => row.account = account with
    | none => rfl
    | some user => rfl
  | true =>
    rw [if_neg nofun]
    have asked : (ask (.findByAccount account)).eval (Memory.platform supplies hasher) memory =
        (.ok (memory.store.liveWith? fun row => row.account = account), memory) := rfl
    refine (congrArg Prod.fst (eval_bind_ok asked)).trans ?_
    cases found : memory.store.liveWith? fun row => row.account = account with
    | none => rfl
    | some user =>
      cases held : user.passwordHash with
      | none =>
        simp only [Option.filter_some, held, Option.any_none, Bool.and_false, Bool.false_and]
        rfl
      | some stored =>
        simp only [Option.filter_some, held, Option.any_some, Bool.true_and]
        change (run _ (if (hasher.verify password stored && user.status = .enabled) = true
          then done user else fail _) memory).result = _
        split
        next right => rfl
        next wrong => rfl

section Answer

variable {supplies : Supplies} {hasher : Hasher} {memory : Memory} {account password : String}

theorem verifyCredentials_eq_ok {user : User} :
    ((verifyCredentials account password).run (Memory.platform supplies hasher)
        memory).result = .ok user ↔
      memory.store.admitted? hasher account password = some user := by
  rw [verifyCredentials_result]
  cases memory.store.admitted? hasher account password with
  | none => exact ⟨nofun, nofun⟩
  | some other =>
    constructor
    · intro answered
      exact congrArg some (Except.ok.inj answered)
    · intro same
      exact congrArg Except.ok (Option.some.inj same)

theorem refused_alike {failure : Failure}
    (failed : ((verifyCredentials account password).run (Memory.platform supplies hasher)
      memory).result = .error failure) : failure = .unauthorized "Invalid account or password" := by
  rw [verifyCredentials_result] at failed
  cases admitted : memory.store.admitted? hasher account password with
  | none =>
    rw [admitted] at failed
    exact (Except.error.inj failed).symm
  | some other =>
    rw [admitted] at failed
    cases failed

end Answer

/-- The password that a user was given last. -/
def lastPassword? (history : List Served) (id : UserId) : Option String :=
  (history.filterMap fun served => served.given? id).getLast?

theorem lastPassword?_append (history : List Served) (served : Served) (id : UserId) :
    lastPassword? (history ++ [served]) id =
      (served.given? id).or (lastPassword? history id) := by
  rw [lastPassword?, List.filterMap_append, List.getLast?_append, List.filterMap_cons]
  cases served.given? id with
  | none => rfl
  | some password => rfl

namespace Session

variable {settings : Settings} {supplies : Supplies} {hasher : Hasher} {layout : Layout}

/-- In every row the account satisfies its rule, and the hash is made of the password given last. -/
structure Guarded (hasher : Hasher) (session : Session) : Prop where
  consistent : session.memory.store.Consistent
  account : ∀ entry ∈ session.memory.store.entries, Rule.account entry.2.account = .ok ()
  locked : ∀ entry ∈ session.memory.store.entries, ∃ password,
    lastPassword? session.history entry.2.id = some password ∧ entry.2.Locked hasher password

theorem guarded_empty : Guarded hasher ⟨.empty, []⟩ where
  consistent := Store.empty_consistent
  account _ member := absurd member List.not_mem_nil
  locked _ member := absurd member List.not_mem_nil

theorem mem_serve {session : Session} {operation : Operation} {entry : String × User} :
    entry ∈ (session.serve settings supplies hasher layout operation).memory.store.entries ↔
      entry ∈ ((operation.program settings).run (Memory.platform supplies hasher)
        session.memory).state.store.entries :=
  (layout.perm session.history.length _).mem_iff

theorem serve_credited {session : Session} (consistent : session.memory.store.Consistent)
    {operation : Operation} {key : String} {row : User}
    (member : (key, row) ∈
      (session.serve settings supplies hasher layout operation).memory.store.entries) :
    operation.Credited hasher session.memory.store key row
      (Served.given? ⟨operation, ((operation.program settings).run
        (Memory.platform supplies hasher) session.memory).result⟩ row.id) :=
  (operation.leads (Memory.platform_over supplies hasher) settings session.memory rfl).credited
    consistent (mem_serve.1 member)

theorem Guarded.serve {session : Session} (guarded : session.Guarded hasher)
    (operation : Operation) :
    (session.serve settings supplies hasher layout operation).Guarded hasher where
  consistent :=
    (Memory.run_consistent supplies hasher _ session.memory guarded.consistent).of_perm
      (layout.perm session.history.length _)
  account entry member := (serve_credited guarded.consistent member).account guarded.account
  locked entry member := by
    have locked := (serve_credited guarded.consistent member).locked guarded.locked
    rwa [← lastPassword?_append] at locked

theorem Guarded.run {session : Session} (guarded : session.Guarded hasher)
    (operations : List Operation) :
    (session.run settings supplies hasher layout operations).Guarded hasher := by
  induction operations generalizing session with
  | nil => exact guarded
  | cons operation rest ih => exact ih (guarded.serve operation)

/-- Who is let in, and with which password, is read off the live rows and the history. -/
theorem Guarded.admitted?_eq_some (faithful : hasher.Faithful) {session : Session}
    (guarded : session.Guarded hasher) {account password : String} {user : User} :
    session.memory.store.admitted? hasher account password = some user ↔
      user ∈ session.memory.store.live ∧ user.account = account ∧ user.IsEnabled ∧
        lastPassword? session.history user.id = some password := by
  have unique (x y : User) (first : decide (x.account = account) = true)
      (second : decide (y.account = account) = true) : ¬x.Apart y :=
    fun apart => apart.account ((of_decide_eq_true first).trans (of_decide_eq_true second).symm)
  rw [Store.admitted?, Option.filter_eq_some_iff, guarded.consistent.liveWith?_eq_some unique]
  simp only [Bool.and_eq_true, decide_eq_true_iff]
  constructor
  · rintro ⟨⟨live, rfl⟩, ⟨-, accepted⟩, enabled⟩
    obtain ⟨key, member, -⟩ := Store.mem_live.1 live
    obtain ⟨last, known, locked⟩ := guarded.locked (key, user) member
    obtain rfl := (locked.accepts faithful password).1 accepted
    exact ⟨live, rfl, enabled, known⟩
  · rintro ⟨live, rfl, enabled, known⟩
    obtain ⟨key, member, -⟩ := Store.mem_live.1 live
    obtain ⟨last, known', locked⟩ := guarded.locked (key, user) member
    obtain rfl := Option.some.inj (known.symm.trans known')
    have valid : (Rule.account user.account).toBool = true := by
      rw [guarded.account (key, user) member]
      rfl
    exact ⟨⟨live, rfl⟩, ⟨valid, (locked.accepts faithful password).2 rfl⟩, enabled⟩

/-- An operation that gives a user no password and does not name the user for deletion leaves the
user live, with the account and the hash as they were. -/
theorem Guarded.serve_keeps {session : Session} (guarded : session.Guarded hasher)
    (operation : Operation) {user : User} (live : user ∈ session.memory.store.live)
    (ungiven : Served.given? ⟨operation, ((operation.program settings).run
      (Memory.platform supplies hasher) session.memory).result⟩ user.id = none)
    (spared : user.id.text ∉ operation.deletes) :
    ∃ later ∈ (session.serve settings supplies hasher layout operation).memory.store.live,
      later.id = user.id ∧ later.account = user.account ∧
        later.passwordHash = user.passwordHash := by
  obtain ⟨key, member, alive⟩ := Store.mem_live.1 live
  have own : key = user.id.text := guarded.consistent.keyed _ member
  -- no row goes, so there is still one under the key; as nothing was given it is the row before
  obtain ⟨later, there, becomes⟩ :=
    Memory.run_becomes supplies hasher (operation.program settings) session.memory _ member
  have next : (key, later) ∈
      (session.serve settings supplies hasher layout operation).memory.store.entries :=
    mem_serve.2 there
  have credited := serve_credited guarded.consistent next
  rw [becomes.id, ungiven] at credited
  cases credited with
  | kept old before keeps =>
    obtain rfl : user = old := Store.row_unique member before
    have stays : later.IsLive := (keeps.live (own ▸ spared)).2 alive
    exact ⟨later, Store.mem_live.2 ⟨key, next, stays⟩, keeps.id, keeps.account,
      keeps.passwordHash⟩

variable (settings supplies layout)

/-- In a session begun with the empty store, credentials are good for a user exactly if the user is
live, enabled and the holder of the account, and the password is the one given last; all others are
refused alike. And whatever comes next leaves the hash of a user alone who is given no password. -/
theorem run_admits (faithful : hasher.Faithful) (operations : List Operation) :
    let session := run settings supplies hasher layout operations ⟨.empty, []⟩
    (∀ account password,
      let answer := ((verifyCredentials account password).run (Memory.platform supplies hasher)
        session.memory).result
      (∀ user : User, answer = .ok user ↔
        user ∈ session.memory.store.live ∧ user.account = account ∧ user.IsEnabled ∧
          lastPassword? session.history user.id = some password) ∧
      ∀ failure, answer = .error failure →
        failure = .unauthorized "Invalid account or password") ∧
    ∀ operation : Operation, ∀ user ∈ session.memory.store.live,
      Served.given? ⟨operation, ((operation.program settings).run
        (Memory.platform supplies hasher) session.memory).result⟩ user.id = none →
      user.id.text ∉ operation.deletes →
      ∃ later ∈ (session.serve settings supplies hasher layout operation).memory.store.live,
        later.id = user.id ∧ later.account = user.account ∧
          later.passwordHash = user.passwordHash := by
  intro session
  have guarded : session.Guarded hasher := guarded_empty.run operations
  refine ⟨?_, fun operation user => guarded.serve_keeps operation⟩
  intro account password answer
  refine ⟨fun user => ?_, fun failure failed => refused_alike failed⟩
  rw [← guarded.admitted?_eq_some faithful]
  exact verifyCredentials_eq_ok

def returning : List Operation :=
  [.createUser { account := "alice", password := "first1" }, .deleteUser "u-1",
    .createUser { account := "alice", password := "second2" }, .changeUserStatus "u-2" 0 none,
    .resetPassword "u-2" "third3" none, .changeUserStatus "u-2" 1 none]

def returned : User :=
  .ofNew .second { account := "alice", passwordHash := some "#third3" } .epoch

theorem return_admits :
    Hasher.plain.Faithful ∧
      let session := run .utc .still .plain .steady returning ⟨.empty, []⟩
      let answer password := ((verifyCredentials "alice" password).run
        (Memory.platform .still .plain) session.memory).result
      answer "third3" = .ok returned ∧ answer "second2" ≠ .ok returned ∧
      (∀ failure, answer "second2" = .error failure →
        failure = .unauthorized "Invalid account or password") ∧
      ∃ later ∈ (session.serve .utc .still .plain .steady (.deleteUser "u-1")).memory.store.live,
        later.id = .second ∧ later.account = "alice" ∧ later.passwordHash = some "#third3" := by
  refine ⟨Hasher.plain_faithful, ?_⟩
  intro session answer
  have admits := run_admits .utc .still .steady Hasher.plain_faithful returning
  have live : returned ∈ session.memory.store.live := by decide +kernel
  have known : lastPassword? session.history returned.id = some "third3" := by decide +kernel
  refine ⟨?_, ?_, (admits.1 "alice" "second2").2, ?_⟩
  · exact ((admits.1 "alice" "third3").1 returned).2 ⟨live, rfl, rfl, known⟩
  · intro answered
    have last := (((admits.1 "alice" "second2").1 returned).1 answered).2.2.2
    exact absurd (known.symm.trans last) (by decide)
  · exact admits.2 (.deleteUser "u-1") returned live rfl (by decide)

end Session

end UserDirectory
