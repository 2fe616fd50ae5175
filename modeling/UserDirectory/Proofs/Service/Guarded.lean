import UserDirectory.Proofs.Service.Failing
import UserDirectory.Proofs.Service.Refusal

/-!
Which writes of a program the guard admits, and whether the program ends for a value in use. There
is one rule for each step that a program is made of: a step that brings nothing to a unique field
does not end for one, and a look-up stands before all that comes after it.
-/

namespace UserDirectory

open Service Program

/-- What the checks before a write have seen to: it is not refused for a value in use, and the user
it is for is still there. -/
def Told.Admitted : Told → Prop
  | ⟨.save _, reply⟩ => Untaken reply
  | ⟨.update _, reply⟩ => Untaken reply ∧ reply ≠ .ok none
  | ⟨.changeStatus _ _ _, reply⟩ => reply ≠ .ok false
  | _ => True

def Call.Free (wanted : Call) : Prop := ∀ reply, Told.Admitted ⟨wanted, reply⟩

theorem Call.free_of_reads {wanted : Call} (reads : wanted.writes = false) : wanted.Free := by
  intro reply
  cases wanted with
  | save new => cases reads
  | update patch => cases reads
  | changeStatus id status updateBy => cases reads
  | _ => trivial

theorem Call.free_delete (id : UserId) : (Call.delete id).Free := fun _ => trivial

/-- Every write of the program is admitted, and the program ends for a value in use exactly where
`refusal` says so. -/
structure Program.Agrees (supplies : Supplies) (hasher : Hasher) (program : Program α)
    (before : Memory) (refusal : Option Failure) : Prop where
  admitted : ∀ told ∈ program.told (Memory.platform supplies hasher) before, told.Admitted
  result : ∀ field value,
    (program.eval (Memory.platform supplies hasher) before).1 =
        .error (.alreadyExists field value) ↔
      refusal = some (.alreadyExists field value)

theorem untaken_instants (first last : Option String) (offset : Offset) :
    Untaken (CreationRange.instants first last offset) := by
  have dates : Untaken ((CreationRange.dates first last).mapError
      CreationRange.DateError.failure) := .mapError fun _ => nofun
  have midnight (date : Option Date) : Untaken (CreationRange.midnight offset date) := by
    unfold CreationRange.midnight
    split
    next => exact .ok _
    next =>
      split
      next => exact .ok _
      next => exact .error nofun
  have dayAfter (date : Option Date) : Untaken (CreationRange.dayAfter date) := by
    unfold CreationRange.dayAfter
    split
    next => exact .ok _
    next =>
      split
      next => exact .ok _
      next => exact .error nofun
  exact dates.bind fun range => (midnight _).bind fun start => (dayAfter _).bind fun next =>
    (midnight next).bind fun stop => .ok _

section Steps

variable {supplies : Supplies} {hasher : Hasher} {before : Memory}

theorem Program.Makes.told_allowed {platform : Platform σ} {allowed : Call → Prop}
    {program : Program α} (makes : program.Makes allowed) {state : σ} :
    ∀ told ∈ program.told platform state, allowed told.call := by
  induction program generalizing state with
  | done value => exact List.forall_mem_nil _
  | fail failure => exact List.forall_mem_nil _
  | log event rest ih => exact ih makes
  | now rest ih =>
    cases read : platform.now state with
    | mk reading after =>
      cases reading with
      | ok instant =>
        simp only [Program.told, read]
        exact ih instant (makes instant)
      | error failure =>
        simp only [Program.told, read]
        exact List.forall_mem_nil _
  | digest password rest ih => exact ih _ (makes _)
  | verify password stored rest ih => exact ih _ (makes _)
  | call wanted rest ih => exact List.forall_mem_cons.2 ⟨makes.1, ih _ (makes.2 _)⟩

theorem Program.OnlyReads.admitted {program : Program α} (reads : program.OnlyReads) :
    ∀ told ∈ program.told (Memory.platform supplies hasher) before, told.Admitted :=
  fun told member => Call.free_of_reads (reads.told_allowed told member) told.reply

/-- The rule for a program that nothing has to be checked for. -/
theorem Program.Makes.agrees {program : Program α} (makes : program.Makes Call.Free)
    (untaken : Untaken (program.eval (Memory.platform supplies hasher) before).1) :
    program.Agrees supplies hasher before none :=
  ⟨fun told member => makes.told_allowed told member told.reply,
    fun field value => iff_of_false (untaken.ne field value) nofun⟩

theorem agrees_done (value : α) : (done value).Agrees supplies hasher before none :=
  Makes.agrees trivial (.ok value)

theorem agrees_ofExcept {result : Except Failure α} (untaken : Untaken result) :
    (ofExcept result).Agrees supplies hasher before none :=
  (asks_ofExcept result).makes.agrees (eval_ofExcept ▸ untaken)

theorem agrees_require (checked : Except FieldError α) :
    (require checked).Agrees supplies hasher before none := by
  refine (asks_require checked).makes.agrees ?_
  cases checked with
  | ok value => exact .ok value
  | error error => exact .error nofun

theorem agrees_inCalendar (value : Option α) :
    (inCalendar value).Agrees supplies hasher before none := by
  refine (asks_inCalendar value).makes.agrees ?_
  cases value with
  | some found => exact .ok found
  | none => exact .error nofun

theorem agrees_requireFound (id : UserId) (found : Option User) :
    (requireFound id found).Agrees supplies hasher before none := by
  refine (asks_requireFound id found).makes.agrees ?_
  cases found with
  | some user => exact .ok user
  | none => exact .error nofun

theorem agrees_requireDone (id : UserId) (found : Bool) :
    (requireDone id found).Agrees supplies hasher before none := by
  refine (asks_requireDone id found).makes.agrees ?_
  cases found with
  | true => exact .ok ()
  | false => exact .error nofun

theorem agrees_ask {wanted : Call}
    (admitted : Told.Admitted ⟨wanted, (before.answer supplies wanted).1⟩)
    (untaken : Untaken (before.answer supplies wanted).1) :
    (ask wanted).Agrees supplies hasher before none where
  admitted := by
    have silent (reply : Except Failure wanted.Reply) (after : Memory) :
        (ofExcept reply).told (Memory.platform supplies hasher) after = [] := by cases reply <;> rfl
    refine List.forall_mem_cons.2 ⟨admitted, ?_⟩
    rw [silent]
    exact List.forall_mem_nil _
  result field value := by
    rw [eval_ask]
    exact iff_of_false (untaken.ne field value) nofun

theorem agrees_look {wanted : Call} (reads : wanted.writes = false) :
    (ask wanted).Agrees supplies hasher before none := by
  refine agrees_ask (Call.free_of_reads reads _) ?_
  cases wanted with
  | save new => cases reads
  | update patch => cases reads
  | delete id => cases reads
  | changeStatus id status updateBy => cases reads
  | _ => exact .ok _

theorem Program.Agrees.logged {level : Level} {message : String}
    {fields : List (String × EventValue)} {next : Unit → Program α} {refusal : Option Failure}
    (rest : (next ()).Agrees supplies hasher before refusal) :
    (event level message fields >>= next).Agrees supplies hasher before refusal :=
  ⟨rest.admitted, rest.result⟩

theorem Program.Agrees.bind {program : Program α} {next : α → Program β}
    (first : program.Agrees supplies hasher before none)
    (onward : ∀ value after,
      program.eval (Memory.platform supplies hasher) before = (.ok value, after) →
      (next value).Agrees supplies hasher after none) :
    (program >>= next).Agrees supplies hasher before none where
  admitted := by
    rw [told_bind, List.forall_mem_append]
    refine ⟨first.admitted, ?_⟩
    split
    next value after ran => exact (onward value after ran).admitted
    next failure after ran => exact List.forall_mem_nil _
  result field value := by
    rw [eval_bind]
    split
    next found after ran => exact (onward found after ran).result field value
    next failure after ran =>
      have same := first.result field value
      rw [ran] at same
      exact iff_of_false (fun refused => by cases refused; cases same.1 rfl)
        (Option.some_ne_none _).symm

theorem Program.Agrees.past {program : Program α} {next : α → Program β} {value : α}
    {after : Memory} {refusal : Option Failure} (reads : program.OnlyReads)
    (ran : program.eval (Memory.platform supplies hasher) before = (.ok value, after))
    (onward : (next value).Agrees supplies hasher after refusal) :
    (program >>= next).Agrees supplies hasher before refusal where
  admitted := by
    rw [told_bind_ok ran, List.forall_mem_append]
    exact ⟨reads.admitted, onward.admitted⟩
  result := by
    rw [eval_bind_ok ran]
    exact onward.result

/-- The rule for a look-up: what it refuses is refused first. -/
theorem Program.Agrees.check {check : Program Unit} {next : Unit → Program α}
    {refusal : Option Failure} {more : Option Failure} (reads : check.OnlyReads)
    (ran : check.eval (Memory.platform supplies hasher) before = (verdict refusal, before))
    (onward : refusal = none → (next ()).Agrees supplies hasher before more) :
    (check >>= next).Agrees supplies hasher before (refusal.or more) := by
  cases refusal with
  | none => exact .past reads ran (onward rfl)
  | some failure =>
    refine ⟨?_, fun field value => ?_⟩
    · rw [told_bind, ran]
      exact List.forall_mem_append.2 ⟨reads.admitted, List.forall_mem_nil _⟩
    · rw [eval_bind, ran]
      simp [verdict]

theorem agrees_clock (neutral : supplies.Neutral) : clock.Agrees supplies hasher before none :=
  Makes.agrees (fun _ => trivial) (eval_clock ▸ neutral.instant _)

theorem agrees_digestOf (neutral : hasher.Neutral) (password : String) :
    (digestOf password).Agrees supplies hasher before none :=
  (asks_digestOf password).makes.agrees (eval_digestOf ▸ neutral _ password)

theorem agrees_verified (password stored : String) :
    (verified password stored).Agrees supplies hasher before none :=
  Makes.agrees (fun _ => trivial) (.ok _)

theorem agrees_rejected {checked : Except FieldError β} {next : β → Program α} {broken : FieldError}
    (rejected : checked = .error broken) :
    (require checked >>= next).Agrees supplies hasher before none := by
  rw [rejected]
  exact (agrees_require _).bind nofun

theorem eval_digestOf_store {password hash : String} {after : Memory}
    (ran : (digestOf password).eval (Memory.platform supplies hasher) before = (.ok hash, after)) :
    after.store = before.store :=
  congrArg (·.2.store) (ran.symm.trans eval_digestOf)

theorem agrees_requireLive (id : UserId) :
    (requireLive id).Agrees supplies hasher before none :=
  (agrees_look rfl).bind fun found _ _ => agrees_requireFound id found

theorem agrees_counting (counting : Counting) (scope : Filter) (windows : Windows) :
    (counting.program scope windows).Agrees supplies hasher before none := by
  cases counting with
  | byCount =>
    exact (agrees_look rfl).bind fun _ _ _ => (agrees_look rfl).bind fun _ _ _ =>
      (agrees_look rfl).bind fun _ _ _ => (agrees_look rfl).bind fun _ _ _ =>
      (agrees_look rfl).bind fun _ _ _ => (agrees_look rfl).bind fun _ _ _ => agrees_done _
  | byAggregate => exact agrees_look rfl

theorem agrees_verifyCredentials (account password : String) :
    (verifyCredentials account password).Agrees supplies hasher before none := by
  have refused (memory : Memory) : (fail (.unauthorized "Invalid account or password") :
      Program User).Agrees supplies hasher memory none := Makes.agrees trivial (.error nofun)
  refine .logged ?_
  split
  next invalid => exact refused before
  next valid =>
    refine (agrees_look rfl).bind fun found _ _ => ?_
    split
    next => exact refused _
    next =>
      split
      next => exact refused _
      next =>
        refine (agrees_verified password _).bind fun same _ _ => ?_
        split
        next => exact agrees_done _
        next => exact refused _

theorem deleteItem_agrees (item : String) (tally : Tally) :
    (deleteItem item tally).Agrees supplies hasher before none := by
  refine (makes_deleteItem Call.free_delete item tally).agrees ?_
  unfold deleteItem
  split
  next error broken => exact .ok _
  next id known =>
    cases answered : (Memory.platform supplies hasher).answer (.delete id) before with
    | mk reply after =>
      simp only [eval, run, answered]
      split
      next => exact .ok _
      next => exact .ok _
      next => exact .error (by rintro _ _ ⟨⟩)
      next => exact .ok _

theorem deleteItems_agrees (items : List String) (tally : Tally) :
    (deleteItems items tally).Agrees supplies hasher before none := by
  induction items generalizing tally before with
  | nil => exact agrees_done tally
  | cons item rest ih =>
    exact (deleteItem_agrees item tally).bind fun value after _ => ih value

/-- Past the check that a user is there, the user is there. -/
theorem liveRow?_of_eval {id : UserId} {row : User} {after : Memory}
    (ran : (requireLive id).eval (Memory.platform supplies hasher) before = (.ok row, after)) :
    before.store.liveRow? id = some row ∧ after = before := by
  cases looked : before.store.liveRow? id with
  | none =>
    cases (eval_requireLive_missing looked).symm.trans ran
  | some present =>
    cases (eval_requireLive looked).symm.trans ran
    exact ⟨rfl, rfl⟩

end Steps

section Writes

variable {supplies : Supplies} {hasher : Hasher} {memory : Memory} (neutral : supplies.Neutral)
include neutral

theorem agrees_add {new : NewUser} (free : memory.store.conflict? none new.claimed = none) :
    (add new).Agrees supplies hasher memory none := by
  have untaken := Memory.save_untaken neutral free
  have asked : (ask (.save new)).Agrees supplies hasher memory none := agrees_ask untaken untaken
  exact asked.bind fun user after _ => .logged (agrees_done user)

theorem agrees_update {patch : Patch} {row : User}
    (found : memory.store.liveRow? patch.id = some row)
    (free : memory.store.conflict? (some patch.id) patch.claimed = none) :
    (ask (.update patch)).Agrees supplies hasher memory none :=
  have untaken := Memory.update_untaken neutral free
  agrees_ask ⟨untaken, Memory.update_found found⟩ untaken

theorem agrees_changeStatus {id : UserId} {row : User}
    (found : memory.store.liveRow? id = some row) (status : Status) (updateBy : Option String) :
    (ask (.changeStatus id status updateBy)).Agrees supplies hasher memory none :=
  agrees_ask (Memory.changeStatus_found found status updateBy)
    ((Memory.alter_untaken neutral _ _).map _)

theorem agrees_delete (id : UserId) : (ask (.delete id)).Agrees supplies hasher memory none :=
  agrees_ask trivial ((Memory.alter_untaken neutral _ _).map _)

end Writes

end UserDirectory
