import Mathlib.Tactic.MkIffOfInductiveProp
import UserDirectory.Proofs.Service.CreationRange
import UserDirectory.Proofs.Service.Decision
import UserDirectory.Proofs.Service.Failing

/-!
Requests are checked before the store is asked anything. A request that breaks a rule is refused
after one event; a request that breaks none reaches the store before any password is digested or
compared. A batch reaches the store whole, which then judges each id in it by itself.
-/

namespace UserDirectory

open Service Program CreationRange

@[mk_iff]
structure WellFormedProfile (nickname remark email mobile : Option String)
    (sex status : Option Int) : Prop where
  nickname : ∀ text, nickname = some text → Rule.nickname text = .ok ()
  remark : ∀ text, remark = some text → Rule.remark text = .ok ()
  email : ∀ text, email = some text → Rule.email text = .ok ()
  mobile : ∀ text, mobile = some text → Rule.mobile text = .ok ()
  sex : ∀ code, sex = some code → ∃ sex : Sex, code = sex.code
  status : ∀ code, status = some code → ∃ status : Status, code = status.code

@[mk_iff]
structure CreateRequest.WellFormed (request : CreateRequest) : Prop where
  account : Rule.account request.account = .ok ()
  password : Rule.password request.password = .ok ()
  profile : WellFormedProfile request.nickname request.remark request.email request.mobile
    request.sex request.status

@[mk_iff]
structure UpdateRequest.WellFormed (request : UpdateRequest) : Prop where
  id : Rule.id request.id = .ok ()
  profile : WellFormedProfile request.nickname request.remark request.email request.mobile
    request.sex request.status

@[mk_iff]
structure ListRequest.WellFormed (request : ListRequest) : Prop where
  status : ∀ code, request.status = some code → ∃ status : Status, code = status.code
  dates : ∃ first last, Reads request.startDate first ∧ Reads request.endDate last ∧
    InOrder first last

namespace Operation

def WellFormed : Operation → Prop
  | createUser request => request.WellFormed
  | getUser id => Rule.id id = .ok ()
  | updateUser request => request.WellFormed
  | deleteUser id => Rule.id id = .ok ()
  | batchDeleteUsers ids => ids ≠ []
  | changeUserStatus id status _ => Rule.id id = .ok () ∧ ∃ known : Status, status = known.code
  | resetPassword id password _ => Rule.id id = .ok () ∧ Rule.password password = .ok ()
  | checkAccountExists account => Rule.account account = .ok ()
  | getUserStatistics _ => True
  | listUsers request => request.WellFormed
  | verifyCredentials account _ => Rule.account account = .ok ()

def Refusal : Operation → Failure → Prop
  | verifyCredentials _ _, failure => failure = .unauthorized "Invalid account or password"
  | _, failure => ∃ message, failure = .badRequest message

/-- No date that is computed on the way to the store leaves the calendar. -/
def InCalendar (settings : Settings) (platform : Platform σ) (state : σ) : Operation → Prop
  | getUserStatistics _ => ∃ now windows, (platform.now state).1 = .ok now ∧
      Windows.at? now settings.offset = some windows
  | listUsers request => ¬BreaksOff request.startDate request.endDate settings.offset
  | _ => True

end Operation

/-- Events and the clock apart, the first thing that a program does is a call. -/
def Program.CallsFirst (platform : Platform σ) : Program α → σ → Prop
  | done _, _ => False
  | fail _, _ => False
  | log _ rest, state => rest.CallsFirst platform state
  | now rest, state =>
    match platform.now state with
    | (.ok instant, after) => (rest instant).CallsFirst platform after
    | (.error _, _) => False
  | digest _ _, _ => False
  | verify _ _ _, _ => False
  | call _ _, _ => True

/-- The first thing that an operation does is to ask the store: it makes a call, or hands over the
whole batch. -/
def Operation.AsksStore (settings : Settings) (platform : Platform σ) (state : σ) :
    Operation → Prop
  | batchDeleteUsers ids => ids ≠ [] ∧ ∃ event report,
      Service.batchDeleteUsers ids = log event (deleteItems ids {} >>= report)
  | operation => (operation.program settings).CallsFirst platform state

/-- A program that ends in a bad request unless a rule is met, and asks the store first if it is and
the dates stay inside the calendar. -/
structure Program.Screens (program : Program α) (platform : Platform σ) (state : σ)
    (rule inside : Prop) : Prop where
  refused : ¬rule → ∃ message, program = fail (.badRequest message)
  passed : rule → inside → program.CallsFirst platform state

section Screening

variable {platform : Platform σ} {state : σ} {rule more inside : Prop} {program : Program α}

theorem Program.Screens.of_callsFirst (asks : inside → program.CallsFirst platform state) :
    program.Screens platform state True inside :=
  ⟨fun broken => absurd trivial broken, fun _ => asks⟩

theorem Program.Screens.congr (screens : program.Screens platform state more inside)
    (same : rule ↔ more) : program.Screens platform state rule inside := by
  rwa [propext same]

theorem Program.Screens.require {checked : Except FieldError β} {next : β → Program α}
    (checks : (∃ value, checked = .ok value) ↔ rule)
    (onward : ∀ value, (next value).Screens platform state more inside) :
    (Program.require checked >>= next).Screens platform state (rule ∧ more) inside := by
  cases checked with
  | ok value => exact (onward value).congr (and_iff_right (checks.1 ⟨value, rfl⟩))
  | error error =>
    have broken : ¬rule := fun met => nomatch checks.2 met
    exact ⟨fun _ => ⟨error.message, rfl⟩, fun both => absurd both.1 broken⟩

theorem Program.Screens.checked {checked : Except FieldError β} {next : β → Program α}
    (checks : (∃ value, checked = .ok value) ↔ rule)
    (onward : ∀ value, (next value).CallsFirst platform state) :
    (Program.require checked >>= next).Screens platform state rule inside :=
  congr (.require checks fun value => .of_callsFirst fun _ => onward value)
    (and_iff_left trivial).symm

theorem passes_unit {checked : Except FieldError Unit} :
    (∃ value, checked = .ok value) ↔ checked = .ok () :=
  ⟨fun ⟨_, passed⟩ => passed, fun passed => ⟨(), passed⟩⟩

theorem passes_ofText {text : String} :
    (∃ id, UserId.ofText text = .ok id) ↔ Rule.id text = .ok () := by
  simp only [UserId.ofText_eq_ok]
  constructor
  · rintro ⟨id, rfl⟩
    exact id.valid
  · exact fun valid => ⟨⟨text, valid⟩, rfl⟩

theorem passes_checkField {check : String → Except FieldError Unit} {value : Option String} :
    (∃ passed, checkField check value = .ok passed) ↔
      ∀ text, value = some text → check text = .ok () := by
  cases value with
  | none => exact iff_of_true ⟨(), rfl⟩ nofun
  | some text =>
    rw [passes_unit]
    simp only [checkField, Option.some.injEq, forall_eq']

theorem passes_readCode {read : Int → Except FieldError β} {code : β → Int}
    (means : ∀ number value, read number = .ok value ↔ number = code value) {given : Option Int} :
    (∃ value, readCode read given = .ok value) ↔
      ∀ number, given = some number → ∃ value, number = code value := by
  constructor
  · rintro ⟨value, passed⟩ number rfl
    rw [readCode] at passed
    cases meant : read number with
    | ok meaning => exact ⟨meaning, (means number meaning).1 meant⟩
    | error error =>
      rw [meant] at passed
      cases passed
  · intro known
    cases given with
    | none => exact ⟨none, rfl⟩
    | some number =>
      obtain ⟨meaning, coded⟩ := known number rfl
      exact ⟨some meaning, congrArg (Except.map some) ((means number meaning).2 coded)⟩

theorem passes_readSex {given : Option Int} :
    (∃ value, readCode Sex.ofCode given = .ok value) ↔
      ∀ code, given = some code → ∃ sex : Sex, code = sex.code :=
  passes_readCode fun _ _ => Sex.ofCode_eq_ok

theorem passes_readStatus {given : Option Int} :
    (∃ value, readCode Status.ofCode given = .ok value) ↔
      ∀ code, given = some code → ∃ status : Status, code = status.code :=
  passes_readCode fun _ _ => Status.ofCode_eq_ok

theorem Program.Screens.profile {nickname remark email mobile : Option String}
    {sex status : Option Int} {next : Option Sex → Option Status → Program α}
    (onward : ∀ sex status, (next sex status).CallsFirst platform state) :
    (Program.require (checkField Rule.nickname nickname) >>= fun _ =>
      Program.require (checkField Rule.remark remark) >>= fun _ =>
      Program.require (checkField Rule.email email) >>= fun _ =>
      Program.require (checkField Rule.mobile mobile) >>= fun _ =>
      Program.require (readCode Sex.ofCode sex) >>= fun sex =>
      Program.require (readCode Status.ofCode status) >>= next sex).Screens platform state
        (WellFormedProfile nickname remark email mobile sex status) inside := by
  refine .congr ?_ (wellFormedProfile_iff ..)
  exact .require passes_checkField fun _ => .require passes_checkField fun _ =>
    .require passes_checkField fun _ => .require passes_checkField fun _ =>
    .require passes_readSex fun sex => .checked passes_readStatus (onward sex)

/-- The dates of a listing are read before the store is asked. -/
theorem Program.Screens.ranged {first last : Option String} {offset : Offset}
    {next : Option Instant × Option Instant → Program α}
    (onward : ∀ bounds, (next bounds).CallsFirst platform state) :
    (ofExcept (instants first last offset) >>= next).Screens platform state
      (∃ a b, CreationRange.Reads first a ∧ CreationRange.Reads last b ∧ InOrder a b)
      (¬BreaksOff first last offset) := by
  constructor
  · intro unread
    cases read : dates first last with
    | error error =>
      rw [instants_of_error read]
      exact ⟨error.message, rfl⟩
    | ok both => exact absurd ⟨both.1, both.2, dates_eq_ok.1 read⟩ unread
  · intro readable whole
    obtain ⟨a, b, read⟩ := readable
    have within : ¬Overruns a b offset := fun overruns =>
      whole ⟨a, b, read.1, read.2.1, read.2.2, overruns⟩
    obtain ⟨bounds, made, -⟩ := instants_spans (dates_eq_ok.2 read) within
    rw [made]
    exact onward bounds

end Screening

structure Operation.ChecksFirst (operation : Operation) (settings : Settings)
    (platform : Platform σ) (state : σ) : Prop where
  refused : ¬operation.WellFormed → ∃ event failure, operation.Refusal failure ∧
    operation.program settings = log event (fail failure)
  passed : operation.WellFormed → operation.InCalendar settings platform state →
    operation.AsksStore settings platform state

section Operations

variable (settings : Settings) (platform : Platform σ) (state : σ)

theorem createUser_screens (request : CreateRequest) :
    (Program.require (readCreate request) >>= fun codes =>
      enroll request codes.1 codes.2).Screens platform state request.WellFormed True := by
  simp only [readCreate, checkProfile, require_bind_bind, require_pure_bind]
  refine .congr ?_ request.wellFormed_iff
  exact .require passes_unit fun _ => .require passes_unit fun _ => .profile fun _ _ => trivial

theorem updateUser_screens (request : UpdateRequest) :
    (Program.require (readUpdate request) >>= fun parts =>
      amend request parts.1 parts.2.1 parts.2.2).Screens platform state request.WellFormed
        True := by
  simp only [readUpdate, checkProfile, require_bind_bind, require_pure_bind]
  refine .congr ?_ request.wellFormed_iff
  exact .require passes_ofText fun _ => .profile fun _ _ => trivial

theorem listUsers_screens (request : ListRequest) :
    (Program.require (readCode Status.ofCode request.status) >>= fun status =>
      ofExcept (instants request.startDate request.endDate settings.offset) >>= fun bounds =>
      ask (.list ⟨request.filter status bounds, Paging.page request.page,
        Paging.size request.pageSize⟩)).Screens platform state request.WellFormed
          (¬BreaksOff request.startDate request.endDate settings.offset) := by
  refine .congr ?_ request.wellFormed_iff
  exact .require passes_readStatus fun _ => .ranged fun _ => trivial

variable {settings platform state}

theorem Operation.checksFirst_of_screens {operation : Operation}
    {event : Event} {rest : Program operation.Result}
    (logs : operation.program settings = log event rest)
    (refusal : ∀ message, operation.Refusal (.badRequest message))
    (asks : (operation.program settings).CallsFirst platform state →
      operation.AsksStore settings platform state)
    (screens : rest.Screens platform state operation.WellFormed
      (operation.InCalendar settings platform state)) :
    operation.ChecksFirst settings platform state where
  refused broken := by
    obtain ⟨message, ended⟩ := screens.refused broken
    exact ⟨event, .badRequest message, refusal message, logs.trans (congrArg (log event) ended)⟩
  passed wellFormed inside := asks (logs ▸ screens.passed wellFormed inside)

theorem passes_status {code : Int} :
    (∃ value, Status.ofCode code = .ok value) ↔ ∃ status : Status, code = status.code :=
  exists_congr fun _ => Status.ofCode_eq_ok

theorem batchDeleteUsers_checksFirst (ids : List String) :
    (Operation.batchDeleteUsers ids).ChecksFirst settings platform state := by
  cases ids with
  | nil => exact ⟨fun _ => ⟨_, _, ⟨_, rfl⟩, rfl⟩, fun any => absurd rfl any⟩
  | cons item rest =>
    have any : item :: rest ≠ [] := List.cons_ne_nil item rest
    exact ⟨fun empty => absurd any empty, fun _ _ => ⟨any, _, _, rfl⟩⟩

theorem getUserStatistics_checksFirst (tenantId : Option String) :
    (Operation.getUserStatistics tenantId).ChecksFirst settings platform state := by
  refine ⟨fun broken => absurd trivial broken, ?_⟩
  rintro - ⟨now, windows, read, found⟩
  cases clocked : platform.now state with
  | mk reading after =>
    rw [clocked] at read
    obtain rfl : reading = .ok now := read
    change CallsFirst platform (Program.now fun now =>
      inCalendar (Windows.at? now settings.offset) >>= _) state
    simp only [CallsFirst, clocked, found]
    cases settings.counting with
    | byCount => trivial
    | byAggregate => trivial

theorem verifyCredentials_checksFirst (account password : String) :
    (Operation.verifyCredentials account password).ChecksFirst settings platform state := by
  constructor
  · intro malformed
    have broken : (Rule.account account).toBool = false := by
      cases checked : Rule.account account with
      | ok value => exact absurd checked malformed
      | error error => rfl
    refine ⟨⟨.info, "Verifying credentials", [("account", .text account)]⟩, _, rfl, ?_⟩
    change verifyCredentials account password = _
    simp only [verifyCredentials, broken]
    rfl
  · intro wellFormed _
    have passed : (Rule.account account).toBool = true := congrArg Except.toBool wellFormed
    change (verifyCredentials account password).CallsFirst platform state
    simp only [verifyCredentials, passed]
    trivial

/-- Every operation checks what it is asked before it asks the store. -/
theorem Operation.checksFirst (operation : Operation) :
    operation.ChecksFirst settings platform state := by
  have refused (message : String) : ∃ text, Failure.badRequest message = .badRequest text :=
    ⟨message, rfl⟩
  cases operation with
  | createUser request =>
    exact checksFirst_of_screens rfl refused id (createUser_screens platform state request)
  | getUser text =>
    exact checksFirst_of_screens rfl refused id (.checked passes_ofText fun _ => trivial)
  | updateUser request =>
    exact checksFirst_of_screens rfl refused id (updateUser_screens platform state request)
  | deleteUser text =>
    exact checksFirst_of_screens rfl refused id (.checked passes_ofText fun _ => trivial)
  | batchDeleteUsers ids => exact batchDeleteUsers_checksFirst ids
  | changeUserStatus text status updateBy =>
    exact checksFirst_of_screens rfl refused id
      (.require passes_ofText fun _ => .checked passes_status fun _ => trivial)
  | resetPassword text password updateBy =>
    exact checksFirst_of_screens rfl refused id
      (.require passes_ofText fun _ => .checked passes_unit fun _ => trivial)
  | checkAccountExists account =>
    exact checksFirst_of_screens rfl refused id (.checked passes_unit fun _ => trivial)
  | getUserStatistics tenantId => exact getUserStatistics_checksFirst tenantId
  | listUsers request =>
    exact checksFirst_of_screens rfl refused id
      (listUsers_screens settings platform state request)
  | verifyCredentials account password => exact verifyCredentials_checksFirst account password

end Operations

section Calling

variable {platform : Platform σ} {state : σ}

theorem Program.CallsFirst.told_ne_nil {program : Program α}
    (asks : program.CallsFirst platform state) : program.told platform state ≠ [] := by
  induction program generalizing state with
  | done value => exact asks.elim
  | fail failure => exact asks.elim
  | log event rest ih => exact ih asks
  | now rest ih =>
    cases clocked : platform.now state with
    | mk reading after =>
      simp only [CallsFirst, clocked] at asks
      cases reading with
      | ok instant =>
        simp only [told, clocked]
        exact ih instant asks
      | error failure => exact asks.elim
  | digest password rest ih => exact asks.elim
  | verify password stored rest ih => exact asks.elim
  | call wanted rest ih => exact List.cons_ne_nil _ _

theorem deleteItems_told_ne_nil {items : List String} {item : String} (member : item ∈ items)
    (valid : Rule.id item = .ok ()) (tally : Tally) :
    (deleteItems items tally).told platform state ≠ [] := by
  induction items generalizing tally with
  | nil => cases member
  | cons first rest ih =>
    cases named : UserId.ofText first with
    | ok id =>
      simp only [deleteItems, deleteItem, named]
      exact List.cons_ne_nil _ _
    | error broken =>
      have other : item ≠ first := by
        rintro rfl
        obtain ⟨id, known⟩ := passes_ofText.2 valid
        rw [named] at known
        cases known
      have skipped : (deleteItem first tally).eval platform state =
          (.ok (tally.addFailure first), state) := by
        simp only [deleteItem, named]
        rfl
      rw [deleteItems, told_bind_ok skipped]
      intro silent
      exact ih ((List.mem_cons.1 member).resolve_left other) _ (List.append_eq_nil_iff.1 silent).2

/-- Only a batch without an id in it is handed over without a call. -/
theorem Operation.AsksStore.called {settings : Settings} {operation : Operation}
    (asks : operation.AsksStore settings platform state)
    (silent : ((operation.program settings).run platform state).calls = []) :
    ∃ ids, operation = .batchDeleteUsers ids ∧ ∀ id ∈ ids, Rule.id id ≠ .ok () := by
  rw [← told_calls, List.map_eq_nil_iff] at silent
  cases operation with
  | batchDeleteUsers ids =>
    refine ⟨ids, rfl, fun id member valid => ?_⟩
    obtain ⟨any, event, report, handed⟩ := asks
    have heard : (deleteItems ids {} >>= report).told platform state = [] := by
      rw [← silent]
      exact congrArg (·.told platform state) handed.symm
    rw [told_bind, List.append_eq_nil_iff] at heard
    exact deleteItems_told_ne_nil member valid {} heard.1
  | _ => exact absurd silent (CallsFirst.told_ne_nil asks)

end Calling

/-- What is asked is checked before the store is. Where it breaks a rule the operation logs one
event and refuses: it makes no call, digests no password, draws no id and leaves everything as it
was. Where it breaks none, and no date leaves the calendar, the first thing to come is a call, or
the batch is handed to the store, which makes a call if there is an id in it. -/
theorem Operation.checks_first (settings : Settings) (platform : Platform σ) (state : σ)
    (operation : Operation) :
    let outcome := (operation.program settings).run platform state
    (¬operation.WellFormed → ∃ event failure, operation.Refusal failure ∧
      operation.program settings = log event (fail failure) ∧
      outcome = ⟨.error failure, state, [], [event]⟩) ∧
    (operation.WellFormed → operation.InCalendar settings platform state →
      operation.AsksStore settings platform state ∧
      (outcome.calls = [] →
        ∃ ids, operation = .batchDeleteUsers ids ∧ ∀ id ∈ ids, Rule.id id ≠ .ok ())) := by
  intro outcome
  have checks : operation.ChecksFirst settings platform state := operation.checksFirst
  constructor
  · intro malformed
    obtain ⟨event, failure, refusal, ends⟩ := checks.refused malformed
    refine ⟨event, failure, refusal, ends, ?_⟩
    change (operation.program settings).run platform state = _
    rw [ends]
    rfl
  · intro wellFormed inside
    have asks := checks.passed wellFormed inside
    exact ⟨asks, asks.called⟩

/-- A status that is none is refused before the user is looked for, one that is known after. -/
theorem Operation.checks_first_twice :
    let platform := Memory.platform .still .plain
    let change (status : Int) := (Operation.changeUserStatus "u-1" status none).program .utc
    ((∃ event failure, failure.isBadRequest = true ∧
        (change 2).run platform .empty = ⟨.error failure, .empty, [], [event]⟩) ∧
      ((change 1).run platform .empty).calls ≠ []) := by
  intro platform change
  have known : Rule.id "u-1" = .ok () := rfl
  have unknown : ¬(Operation.changeUserStatus "u-1" 2 none).WellFormed := by
    rintro ⟨-, status, code⟩
    cases status <;> cases code
  constructor
  · obtain ⟨event, failure, ⟨message, rfl⟩, -, refused⟩ :=
      (checks_first .utc platform .empty (.changeUserStatus "u-1" 2 none)).1 unknown
    exact ⟨event, _, rfl, refused⟩
  · intro silent
    obtain ⟨ids, other, -⟩ := ((checks_first .utc platform .empty
      (.changeUserStatus "u-1" 1 none)).2 ⟨known, .enabled, rfl⟩ trivial).2 silent
    cases other

end UserDirectory
