import UserDirectory.Proofs.Service.Checks
import UserDirectory.Proofs.Store.Alike
import UserDirectory.Proofs.Store.Conflict

/-!
What an operation comes to, told by the failures that may end it, in the order in which they are
looked for. The first that there is is the answer, and nothing is written; where there is none, the
operation is done. The look-ups for a value in use and the store's own guard look for the same
failure, for no two live rows share a value.
-/

namespace UserDirectory

open Service Program

def failed : Except Failure α → Option Failure
  | .ok _ => none
  | .error failure => some failure

def broken (checked : Except FieldError α) : Option Failure :=
  failed (checked.mapError FieldError.failure)

/-- What a check says that has but this failure to find. -/
def verdict : Option Failure → Except Failure Unit
  | none => .ok ()
  | some failure => .error failure

theorem failed_verdict (refusal : Option Failure) : failed (verdict refusal) = refusal := by
  cases refusal <;> rfl

/-- The program fails with the first of the refusals and writes nothing, or there are no refusals
and it comes to what is wanted. -/
def Program.Decides (supplies : Supplies) (hasher : Hasher) (program : Program α) (before : Memory)
    (refusals : List (Option Failure)) (wanted : α → Memory → Prop) : Prop :=
  let ran := program.eval (Memory.platform supplies hasher) before
  match refusals.findSome? id with
  | some failure => ran.1 = .error failure ∧ ran.2.store = before.store
  | none => ∃ value, ran.1 = .ok value ∧ wanted value ran.2

section Rules

variable {supplies : Supplies} {hasher : Hasher} {before : Memory}
  {more : List (Option Failure)} {wanted : α → Memory → Prop}

theorem Program.Decides.mono {program : Program α} {refusals : List (Option Failure)}
    {less : α → Memory → Prop} (decides : program.Decides supplies hasher before refusals less)
    (onward : ∀ value after, less value after → wanted value after) :
    program.Decides supplies hasher before refusals wanted := by
  unfold Decides at decides ⊢
  split at decides
  next failure first => exact decides
  next none =>
    obtain ⟨value, result, holds⟩ := decides
    exact ⟨value, result, onward value _ holds⟩

theorem Program.Decides.mem_refusals {program : Program α} {refusals : List (Option Failure)}
    (decides : program.Decides supplies hasher before refusals wanted) {failure : Failure}
    (stopped : (program.eval (Memory.platform supplies hasher) before).1 = .error failure) :
    some failure ∈ refusals := by
  unfold Decides at decides
  split at decides
  next first found =>
    obtain ⟨refusal, member, rfl⟩ := List.exists_of_findSome?_eq_some found
    exact Except.error.inj (stopped.symm.trans decides.1) ▸ member
  next none =>
    obtain ⟨value, result, -⟩ := decides
    cases stopped.symm.trans result

theorem Program.Decides.of_eval {program : Program α} {value : α} {after : Memory}
    (ran : program.eval (Memory.platform supplies hasher) before = (.ok value, after))
    (holds : wanted value after) : program.Decides supplies hasher before [] wanted := by
  rw [Decides, ran]
  exact ⟨value, rfl, holds⟩

/-- The rule for a step that writes nothing: its failure is the first to look for. -/
theorem Program.Decides.step {program : Program β} {next : β → Program α}
    {result : Except Failure β} {after : Memory}
    (ran : program.eval (Memory.platform supplies hasher) before = (result, after))
    (same : after.store = before.store)
    (onward : ∀ value, result = .ok value →
      (next value).Decides supplies hasher after more wanted) :
    (program >>= next).Decides supplies hasher before (failed result :: more) wanted := by
  cases result with
  | error failure =>
    have stopped : (program >>= next).eval (Memory.platform supplies hasher) before =
        (.error failure, after) := by rw [eval_bind, ran]
    exact ⟨congrArg Prod.fst stopped, (congrArg (·.2.store) stopped).trans same⟩
  | ok value =>
    have decides := onward value rfl
    rw [Decides, same] at decides
    rw [Decides, eval_bind_ok ran]
    exact decides

theorem Program.Decides.onward {refusals : List (Option Failure)} {program : Program β}
    {next : β → Program α} {value : β}
    (ran : program.eval (Memory.platform supplies hasher) before = (.ok value, before))
    (onward : (next value).Decides supplies hasher before refusals wanted) :
    (program >>= next).Decides supplies hasher before refusals wanted := by
  rw [Decides, eval_bind_ok ran]
  exact onward

theorem Program.Decides.check {refusal : Option Failure} {program : Program Unit}
    {next : Unit → Program α}
    (ran : program.eval (Memory.platform supplies hasher) before = (verdict refusal, before))
    (onward : refusal = none → (next ()).Decides supplies hasher before more wanted) :
    (program >>= next).Decides supplies hasher before (refusal :: more) wanted := by
  rw [← failed_verdict refusal]
  refine .step ran rfl fun _ passed => onward ?_
  rw [← failed_verdict refusal, passed]
  rfl

theorem Program.Decides.require {checked : Except FieldError β} {next : β → Program α}
    (onward : ∀ value, checked = .ok value →
      (next value).Decides supplies hasher before more wanted) :
    (Program.require checked >>= next).Decides supplies hasher before (broken checked :: more)
      wanted := by
  have ran : (Program.require checked).eval (Memory.platform supplies hasher) before =
      (checked.mapError FieldError.failure, before) := by cases checked <;> rfl
  refine .step ran rfl fun value passed => onward value ?_
  cases checked with
  | ok checked => exact congrArg Except.ok (Except.ok.inj passed)
  | error error => cases passed

theorem Program.Decides.digest {password : String} {next : String → Program α}
    (onward : ∀ hash, hasher.hash before.usage.digests password = .ok hash →
      (next hash).Decides supplies hasher (before.withDigests (before.usage.digests + 1)) more
        wanted) :
    (digestOf password >>= next).Decides supplies hasher before
      (failed (hasher.hash before.usage.digests password) :: more) wanted :=
  .step eval_digestOf rfl onward

theorem require_bind_bind {checked : Except FieldError β} {read : β → Except FieldError γ}
    {next : γ → Program α} :
    (require (checked >>= read) >>= next) =
      require checked >>= fun value => require (read value) >>= next := by
  cases checked <;> rfl

theorem require_pure_bind {value : β} {next : β → Program α} :
    (require (pure value) >>= next) = next value := rfl

end Rules

theorem code_of_readCode {read : Int → Except FieldError α} {code : α → Int}
    (means : ∀ number value, read number = .ok value → number = code value) {given : Option Int}
    {value : Option α} (passed : readCode read given = .ok value) : value.map code = given := by
  cases given with
  | none =>
    cases passed
    rfl
  | some number =>
    rw [readCode] at passed
    cases meant : read number with
    | error error =>
      rw [meant] at passed
      cases passed
    | ok meaning =>
      rw [meant] at passed
      cases passed
      exact congrArg some (means number meaning meant).symm

section Taken

instance (field : UniqueField) (text : String) : Decidable (field.Guards text) :=
  inferInstanceAs (Decidable (_ ∨ _))

/-- The refusal of a value that a live user with another id than `owner` has, in a field where no
two may have it. -/
def Store.taken? (store : Store) (owner : Option String) (field : UniqueField)
    (value : Option String) : Option Failure :=
  (value.filter fun text => field.Guards text ∧ ∃ row ∈ store.rows, row.IsLive ∧
    some row.id.text ≠ owner ∧ row.unique field = some text).map (.alreadyExists field)

theorem User.Apart.unique_ne {a b : User} (apart : a.Apart b) {field : UniqueField} {text : String}
    (guarded : field.Guards text) (held : a.unique field = some text) :
    b.unique field ≠ some text := by
  cases field with
  | account => exact fun other => apart.account (Option.some.inj (held.trans other.symm))
  | email => exact apart.email text (guarded.resolve_left nofun) held
  | mobile => exact apart.mobile text (guarded.resolve_left nofun) held

namespace Store

variable {store : Store} {owner : Option UserId} {field : UniqueField}

theorem taken?_eq_none {value : Option String} :
    store.taken? (owner.map UserId.text) field value = none ↔
      ∀ text, value = some text → field.Guards text →
        ∀ row ∈ store.others owner, row.unique field ≠ some text := by
  have other (row : User) : some row.id.text = owner.map UserId.text ↔ some row.id = owner :=
    (Option.map_injective fun _ _ => UserId.text_injective).eq_iff (a := some row.id)
  simp only [taken?, Option.map_eq_none_iff, Option.filter_eq_none_iff, decide_eq_true_iff,
    ne_eq, other, mem_others_iff]
  constructor
  · exact fun free text given guarded row member held =>
      free text given ⟨guarded, row, member.1, member.2.1, member.2.2, held⟩
  · rintro free text given ⟨guarded, row, member, alive, foreign, held⟩
    exact free text given guarded row ⟨member, alive, foreign⟩ held

theorem alreadyExists_of_taken? {owner value : Option String} {failure : Failure}
    (taken : store.taken? owner field value = some failure) :
    ∃ text, value = some text ∧ failure = .alreadyExists field text := by
  obtain ⟨text, kept, rfl⟩ := Option.map_eq_some_iff.1 taken
  exact ⟨text, (Option.filter_eq_some_iff.1 kept).1, rfl⟩

theorem taken?_eq_some {text : String} (guarded : field.Guards text) {row : User}
    (member : row ∈ store.others owner) (held : row.unique field = some text) :
    store.taken? (owner.map UserId.text) field (some text) = some (.alreadyExists field text) := by
  cases taken : store.taken? (owner.map UserId.text) field (some text) with
  | none => exact absurd held (taken?_eq_none.1 taken text rfl guarded row member)
  | some failure =>
    obtain ⟨_, given, rfl⟩ := alreadyExists_of_taken? taken
    rw [Option.some.inj given]

theorem taken?_supplied {owner : Option String} (field : UniqueField)
    (contact : field ≠ .account) (value : Option String) :
    store.taken? owner field (supplied value) = store.taken? owner field value := by
  rw [taken?, taken?, supplied, nonEmptyText, Option.filter_filter]
  congr 2
  funext text
  have nonempty (guarded : field.Guards text) : text.isEmpty = false := by
    simpa using guarded.resolve_left contact
  rw [Bool.eq_iff_iff, Bool.and_eq_true, decide_eq_true_iff]
  exact and_iff_right_of_imp fun taken => by simp [nonempty taken.1]

/-- Where no claimed value is taken, the guard lets the write in. -/
theorem conflict?_of_free (owner : Option UserId) {claimed : Claimed}
    {brought : UniqueField → Option String}
    (claims : claimed.Of brought)
    (free : ∀ field, store.taken? (owner.map UserId.text) field (brought field) = none) :
    store.conflict? owner claimed = none := by
  rw [← Option.not_isSome_iff_eq_none, conflict?_isSome claims]
  rintro ⟨field, value, conflicts⟩
  obtain ⟨row, member, held⟩ := conflicts.taken
  exact taken?_eq_none.1 (free field) value conflicts.brought conflicts.guarded row member held

section Consistent

variable (consistent : store.Consistent)
include consistent

theorem Consistent.eq_of_unique {a b : User} (memberA : a ∈ store.live) (memberB : b ∈ store.live)
    {text : String} (guarded : field.Guards text) (heldA : a.unique field = some text)
    (heldB : b.unique field = some text) : a = b :=
  consistent.eq_of_not_apart memberA memberB fun apart => apart.unique_ne guarded heldA heldB

/-- What a live user has, no other live user has. -/
theorem Consistent.taken?_own {row : User} (member : row ∈ store.live) (field : UniqueField) :
    store.taken? (some row.id.text) field (row.unique field) = none := by
  change store.taken? ((some row.id).map UserId.text) field _ = none
  refine taken?_eq_none.2 fun text held guarded other among has => ?_
  obtain ⟨key, inside, alive, foreign⟩ := mem_others.1 among
  obtain rfl := consistent.eq_of_unique (mem_live.2 ⟨key, inside, alive⟩) member guarded has held
  exact foreign rfl

/-- A look-up finds the one live user who has a value, so it tells whether it is taken. -/
theorem Consistent.eval_requireFree {platform : Platform σ} {state : σ} {text : String}
    (owner : Option UserId) (guarded : field.Guards text) {wanted : User → Bool}
    (holds : ∀ row, wanted row = true ↔ row.unique field = some text) :
    (requireFree field text owner (store.liveWith? wanted)).eval platform state =
      (verdict (store.taken? (owner.map UserId.text) field (some text)), state) := by
  have found (row : User) : store.liveWith? wanted = some row ↔
      row ∈ store.live ∧ row.unique field = some text := by
    rw [consistent.liveWith?_eq_some fun x y first second apart =>
      apart.unique_ne guarded ((holds x).1 first) ((holds y).1 second), holds]
  have among {row : User} (member : row ∈ store.others owner) :
      row ∈ store.live ∧ some row.id ≠ owner := by
    obtain ⟨key, inside, alive, foreign⟩ := mem_others.1 member
    exact ⟨mem_live.2 ⟨key, inside, alive⟩, foreign⟩
  by_cases taken : ∃ row ∈ store.others owner, row.unique field = some text
  · obtain ⟨row, member, held⟩ := taken
    rw [taken?_eq_some guarded member held, (found row).2 ⟨(among member).1, held⟩, requireFree,
      if_neg (among member).2]
    rfl
  · have free : store.taken? (owner.map UserId.text) field (some text) = none :=
      taken?_eq_none.2 fun _ given _ row member held => taken ⟨row, member, held.trans given.symm⟩
    rw [free]
    refine UserDirectory.eval_requireFree fun row first => ?_
    obtain ⟨member, held⟩ := (found row).1 first
    obtain ⟨key, inside, alive⟩ := mem_live.1 member
    by_contra foreign
    exact taken ⟨row, mem_others.2 ⟨key, inside, alive, foreign⟩, held⟩

end Consistent

end Store

end Taken

section Checks

variable {supplies : Supplies} {hasher : Hasher} {memory : Memory}
  (consistent : memory.store.Consistent)
include consistent

theorem eval_requireAccountFree_live (account : String) :
    (requireAccountFree account).eval (Memory.platform supplies hasher) memory =
      (verdict (memory.store.taken? none .account (some account)), memory) := by
  rw [requireAccountFree, eval_bind, eval_ask]
  exact consistent.eval_requireFree none (.inl rfl) fun row => by simp [User.unique]

theorem eval_givenEmailFree (owner : Option UserId) {email : Option String}
    (nonempty : ∀ text, email = some text → text ≠ "") :
    (whenGiven email fun text => requireEmailFree text owner).eval
        (Memory.platform supplies hasher) memory =
      (verdict (memory.store.taken? (owner.map UserId.text) .email email), memory) := by
  cases email with
  | none => rfl
  | some text =>
    rw [whenGiven, requireEmailFree, eval_bind, eval_ask]
    exact consistent.eval_requireFree owner (.inr (nonempty text rfl)) fun row => by
      simp [User.unique]

theorem eval_givenMobileFree (owner : Option UserId) {mobile : Option String}
    (nonempty : ∀ text, mobile = some text → text ≠ "") :
    (whenGiven mobile fun text => requireMobileFree text owner).eval
        (Memory.platform supplies hasher) memory =
      (verdict (memory.store.taken? (owner.map UserId.text) .mobile mobile), memory) := by
  cases mobile with
  | none => rfl
  | some text =>
    rw [whenGiven, requireMobileFree, eval_bind, eval_ask]
    exact consistent.eval_requireFree owner (.inr (nonempty text rfl)) fun row => by
      simp [User.unique]

end Checks

end UserDirectory
