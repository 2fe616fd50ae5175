import UserDirectory.Proofs.Service.Interference
import UserDirectory.Proofs.Service.Run

namespace UserDirectory

open Service Program

def Past.Quiet (past : Past) : Prop :=
  ∀ move ∈ past.moves, move.call.writes = false ∧ move.after.store = move.before.store

theorem Past.quiet_start : Past.Quiet {} := fun _ member => absurd member List.not_mem_nil

theorem Past.Quiet.after {past : Past} (quiet : past.Quiet) {role : Role} {wanted : Call}
    (reads : wanted.writes = false) (before : Memory) :
    (past.after role wanted before).Quiet := by
  intro move member
  rcases List.mem_append.1 member with earlier | last
  · exact quiet move earlier
  · rw [List.mem_singleton.1 last]
    exact ⟨reads, congrArg Memory.store (Memory.answer_reads role.supplies before reads)⟩

section Reading

variable {role : Role} {past : Past}

def Program.Reads (role : Role) (program : Program α) : Prop :=
  ∀ past : Past, past.Quiet → program.Always role (fun past _ => past.Quiet) past

/-- What comes after reading may take for granted that nothing is written yet. -/
theorem Program.Reads.followed {program : Program α} (reads : program.Reads role)
    {holds : Past → Option (Except Failure β) → Prop} {next : α → Program β}
    (unfinished : ∀ past, past.Quiet → holds past none)
    (failed : ∀ past failure, past.Quiet → holds past (some (.error failure)))
    (onward : ∀ past value, past.Quiet → (next value).Always role holds past)
    (quiet : past.Quiet) : (program >>= next).Always role holds past := by
  refine always_bind.2 ((reads past quiet).mono fun past outcome quiet => ?_)
  match outcome with
  | none => exact unfinished past quiet
  | some (.ok value) => exact onward past value quiet
  | some (.error failure) => exact failed past failure quiet

theorem Program.OnlyReads.reads {program : Program α} (makes : program.OnlyReads) :
    program.Reads role := by
  induction program with
  | done value => exact fun _ quiet => quiet
  | fail failure => exact fun _ quiet => quiet
  | log event rest ih => exact ih makes
  | now rest ih =>
    exact fun past quiet => ⟨quiet, fun instant => ih instant (makes instant) past quiet,
      fun _ => quiet⟩
  | digest password rest ih =>
    exact fun past quiet => ⟨quiet, fun number => ih _ (makes _) _ quiet⟩
  | verify password stored rest ih => exact fun past quiet => ⟨quiet, ih _ (makes _) past quiet⟩
  | call wanted rest ih =>
    exact fun past quiet => ⟨quiet, fun before _ =>
      ih _ (makes.2 _) _ (quiet.after makes.1 before)⟩

end Reading

section Passing

variable {supplies : Supplies} {hasher : Hasher} {memory : Memory}

theorem eval_requireFree {platform : Platform σ} {state : σ} {field : UniqueField} {value : String}
    {owner : Option UserId} {found : Option User}
    (own : ∀ user, found = some user → some user.id = owner) :
    (requireFree field value owner found).eval platform state = (.ok (), state) := by
  cases found with
  | none => rfl
  | some user =>
    rw [requireFree, if_pos (own user rfl)]
    rfl

/-- Where no live row but the owner's has a value, a look-up for the value can find the owner
only. -/
theorem Store.found_own {store : Store} {owner : Option UserId} {wanted : User → Bool}
    (free : ∀ row ∈ store.others owner, wanted row = false) (user : User)
    (found : store.liveWith? wanted = some user) : some user.id = owner := by
  obtain ⟨⟨key, member⟩, alive, holds⟩ := liveWith?_eq_some found
  apply Decidable.byContradiction
  intro other
  rw [free user (mem_others.2 ⟨key, member, alive, other⟩)] at holds
  cases holds

theorem eval_requireAccountFree {account : String}
    (free : ∀ row ∈ memory.store.others none, row.account ≠ account) :
    (requireAccountFree account).eval (Memory.platform supplies hasher) memory =
      (.ok (), memory) := by
  rw [requireAccountFree, eval_bind, eval_ask]
  exact eval_requireFree (Store.found_own fun row member => decide_eq_false (free row member))

theorem eval_requireEmailFree {email : String} {owner : Option UserId}
    (free : ∀ row ∈ memory.store.others owner, row.email ≠ some email) :
    (requireEmailFree email owner).eval (Memory.platform supplies hasher) memory =
      (.ok (), memory) := by
  rw [requireEmailFree, eval_bind, eval_ask]
  exact eval_requireFree (Store.found_own fun row member => decide_eq_false (free row member))

theorem eval_requireMobileFree {mobile : String} {owner : Option UserId}
    (free : ∀ row ∈ memory.store.others owner, row.mobile ≠ some mobile) :
    (requireMobileFree mobile owner).eval (Memory.platform supplies hasher) memory =
      (.ok (), memory) := by
  rw [requireMobileFree, eval_bind, eval_ask]
  exact eval_requireFree (Store.found_own fun row member => decide_eq_false (free row member))

theorem eval_whenGiven {platform : Platform σ} {state : σ} {value : Option String}
    {check : String → Program Unit}
    (passes : ∀ text, value = some text → (check text).eval platform state = (.ok (), state)) :
    (whenGiven value check).eval platform state = (.ok (), state) := by
  cases value with
  | none => rfl
  | some text => exact passes text rfl

theorem eval_requireLive {id : UserId} {row : User} (found : memory.store.liveRow? id = some row) :
    (requireLive id).eval (Memory.platform supplies hasher) memory = (.ok row, memory) := by
  have answered : (Memory.platform supplies hasher).answer (.findById id) memory =
      (.ok (some row), memory) := congrArg (Except.ok · , memory) found
  rw [requireLive, eval_bind, eval_ask, answered]
  rfl

theorem eval_requireLive_missing {id : UserId} (missing : memory.store.liveRow? id = none) :
    (requireLive id).eval (Memory.platform supplies hasher) memory =
      (.error (notFound id), memory) := by
  have answered : (Memory.platform supplies hasher).answer (.findById id) memory =
      (.ok none, memory) := congrArg (Except.ok · , memory) missing
  rw [requireLive, eval_bind, eval_ask, answered]
  rfl

/-- Where the guard lets the new user in, every check before it passes. -/
theorem eval_enroll {request : CreateRequest} {sex : Option Sex} {status : Option Status}
    {hash : String} (free : memory.store.conflict? none
      (newUser request sex status hash).claimed = none)
    (made : hasher.hash memory.usage.digests request.password = .ok hash) :
    (enroll request sex status).eval (Memory.platform supplies hasher) memory =
      (add (newUser request sex status hash)).eval (Memory.platform supplies hasher)
        (memory.withDigests (memory.usage.digests + 1)) := by
  have unclaimed := Store.conflict?_eq_none.1 free
  have claims {value : Option String} {text : String} (given : supplied value = some text) :
      text ∈ nonEmptyText (supplied value) :=
    mem_nonEmptyText.2 ⟨given, (mem_nonEmptyText.1 given).2⟩
  have email (text : String) (given : supplied request.email = some text) :
      (requireEmailFree text none).eval (Memory.platform supplies hasher) memory =
        (.ok (), memory) :=
    eval_requireEmailFree fun row member => (unclaimed row member).2.1 text (claims given)
  have mobile (text : String) (given : supplied request.mobile = some text) :
      (requireMobileFree text none).eval (Memory.platform supplies hasher) memory =
        (.ok (), memory) :=
    eval_requireMobileFree fun row member => (unclaimed row member).2.2 text (claims given)
  have digested : (digestOf request.password).eval (Memory.platform supplies hasher) memory =
      (.ok hash, memory.withDigests (memory.usage.digests + 1)) :=
    eval_digestOf.trans (congrArg (·, _) made)
  rw [enroll, eval_bind_ok (eval_requireAccountFree fun row member =>
    (unclaimed row member).1 request.account rfl), eval_bind_ok (eval_whenGiven email),
    eval_bind_ok (eval_whenGiven mobile), eval_bind_ok digested]

theorem eval_amend {request : UpdateRequest} {id : UserId} {sex : Option Sex}
    {status : Option Status} {row : User} (consistent : memory.store.Consistent)
    (found : memory.store.liveRow? id = some row)
    (free : memory.store.conflict? (some id) (changes request id sex status).claimed = none) :
    (amend request id sex status).eval (Memory.platform supplies hasher) memory =
      (ask (.update (changes request id sex status)) >>= requireFound id).eval
        (Memory.platform supplies hasher) memory := by
  have unclaimed := Store.conflict?_eq_none.1 free
  -- the guard excepts the id of the patch, the checks that of the row found
  have own : row.id = id :=
    UserId.text_injective (consistent.keyed _ (Store.liveRow?_eq_some.1 found).1).symm
  have claims {value current : Option String} {text : String}
      (given : changed value current = some text) : text ∈ nonEmptyText value :=
    (Option.filter_eq_some_iff.1 given).1
  have email (text : String) (given : changed request.email row.email = some text) :
      (requireEmailFree text (some row.id)).eval (Memory.platform supplies hasher) memory =
        (.ok (), memory) := by
    rw [own]
    exact eval_requireEmailFree fun other member => (unclaimed other member).2.1 text (claims given)
  have mobile (text : String) (given : changed request.mobile row.mobile = some text) :
      (requireMobileFree text (some row.id)).eval (Memory.platform supplies hasher) memory =
        (.ok (), memory) := by
    rw [own]
    exact eval_requireMobileFree fun other member =>
      (unclaimed other member).2.2 text (claims given)
  rw [amend, eval_bind_ok (eval_requireLive found), eval_bind_ok (eval_whenGiven email),
    eval_bind_ok (eval_whenGiven mobile)]

end Passing

end UserDirectory
