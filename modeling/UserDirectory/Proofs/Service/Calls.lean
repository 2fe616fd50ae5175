import UserDirectory.Proofs.Service.Interleaving

/-!
Which calls a program may make, whatever it is told on the way. `Program.Makes` bounds the calls;
`Program.Asks` says besides that a call that fails ends the program with its own failure, which is
so in every operation but the deletion of a batch.
-/

namespace UserDirectory

open Service

namespace Program

def Makes (allowed : Call → Prop) : Program α → Prop
  | done _ => True
  | fail _ => True
  | log _ rest => rest.Makes allowed
  | now rest => ∀ instant, (rest instant).Makes allowed
  | digest _ rest => ∀ result, (rest result).Makes allowed
  | verify _ _ rest => ∀ same, (rest same).Makes allowed
  | call wanted rest => allowed wanted ∧ ∀ reply, (rest reply).Makes allowed

/-- The program makes allowed calls only, and ends with the failure of the first that fails. -/
def Asks (allowed : Call → Prop) : Program α → Prop
  | done _ => True
  | fail _ => True
  | log _ rest => rest.Asks allowed
  | now rest => ∀ instant, (rest instant).Asks allowed
  | digest _ rest => ∀ result, (rest result).Asks allowed
  | verify _ _ rest => ∀ same, (rest same).Asks allowed
  | call wanted rest => allowed wanted ∧ (∀ failure, rest (.error failure) = fail failure) ∧
      ∀ reply, (rest (.ok reply)).Asks allowed

variable {allowed : Call → Prop}

theorem Makes.mono {weaker : Call → Prop} (weaken : ∀ wanted, allowed wanted → weaker wanted)
    {program : Program α} (makes : program.Makes allowed) : program.Makes weaker := by
  induction program with
  | done value => trivial
  | fail failure => trivial
  | log event rest ih => exact ih makes
  | now rest ih => exact fun instant => ih instant (makes instant)
  | digest password rest ih => exact fun result => ih result (makes result)
  | verify password stored rest ih => exact fun same => ih same (makes same)
  | call wanted rest ih => exact ⟨weaken wanted makes.1, fun reply => ih reply (makes.2 reply)⟩

theorem makes_any (program : Program α) : program.Makes fun _ => True := by
  induction program with
  | done value => trivial
  | fail failure => trivial
  | log event rest ih => exact ih
  | now rest ih => exact ih
  | digest password rest ih => exact ih
  | verify password stored rest ih => exact ih
  | call wanted rest ih => exact ⟨trivial, ih⟩

theorem Makes.bind {program : Program α} {next : α → Program β}
    (first : program.Makes allowed) (second : ∀ value, (next value).Makes allowed) :
    (program >>= next).Makes allowed := by
  change (program.bind next).Makes allowed
  induction program with
  | done value => exact second value
  | fail failure => trivial
  | log event rest ih => exact ih first
  | now rest ih => exact fun instant => ih instant (first instant)
  | digest password rest ih => exact fun result => ih result (first result)
  | verify password stored rest ih => exact fun same => ih same (first same)
  | call wanted rest ih => exact ⟨first.1, fun reply => ih reply (first.2 reply)⟩

theorem Asks.makes {program : Program α} (asks : program.Asks allowed) :
    program.Makes allowed := by
  induction program with
  | done value => trivial
  | fail failure => trivial
  | log event rest ih => exact ih asks
  | now rest ih => exact fun instant => ih instant (asks instant)
  | digest password rest ih => exact fun result => ih result (asks result)
  | verify password stored rest ih => exact fun same => ih same (asks same)
  | call wanted rest ih =>
    obtain ⟨may, ends, onward⟩ := asks
    refine ⟨may, fun reply => ?_⟩
    cases reply with
    | ok value => exact ih (.ok value) (onward value)
    | error failure =>
      rw [ends failure]
      trivial

theorem Asks.bind {program : Program α} {next : α → Program β}
    (first : program.Asks allowed) (second : ∀ value, (next value).Asks allowed) :
    (program >>= next).Asks allowed := by
  change (program.bind next).Asks allowed
  induction program with
  | done value => exact second value
  | fail failure => trivial
  | log event rest ih => exact ih first
  | now rest ih => exact fun instant => ih instant (first instant)
  | digest password rest ih => exact fun result => ih result (first result)
  | verify password stored rest ih => exact fun same => ih same (first same)
  | call wanted rest ih =>
    obtain ⟨may, ends, onward⟩ := first
    refine ⟨may, fun failure => ?_, fun reply => ih (.ok reply) (onward reply)⟩
    change (rest (.error failure)).bind next = fail failure
    rw [ends failure]
    rfl

section Steps

theorem asks_ofExcept (result : Except Failure α) : (ofExcept result).Asks allowed := by
  cases result with
  | ok value => trivial
  | error failure => trivial

theorem asks_require (checked : Except FieldError α) : (require checked).Asks allowed := by
  cases checked with
  | ok value => trivial
  | error error => trivial

theorem asks_inCalendar (value : Option α) : (inCalendar value).Asks allowed := by
  cases value with
  | some found => trivial
  | none => trivial

theorem asks_digestOf (password : String) : (digestOf password).Asks allowed :=
  fun result => asks_ofExcept result

theorem asks_ask {wanted : Call} (may : allowed wanted) : (ask wanted).Asks allowed :=
  ⟨may, fun _ => rfl, fun _ => trivial⟩

end Steps

end Program

open Program

section Parts

variable {allowed : Call → Prop}

theorem asks_requireFree (field : UniqueField) (value : String) (owner : Option UserId)
    (found : Option User) : (requireFree field value owner found).Asks allowed := by
  cases found with
  | none => trivial
  | some user =>
    rw [requireFree]
    split
    next own => trivial
    next other => trivial

theorem asks_requireAccountFree {account : String} (may : allowed (.findByAccount account)) :
    (requireAccountFree account).Asks allowed :=
  (asks_ask may).bind (asks_requireFree .account account none)

theorem asks_requireEmailFree {email : String} (may : allowed (.findByEmail email))
    (owner : Option UserId) : (requireEmailFree email owner).Asks allowed :=
  (asks_ask may).bind (asks_requireFree .email email owner)

theorem asks_requireMobileFree {mobile : String} (may : allowed (.findByMobile mobile))
    (owner : Option UserId) : (requireMobileFree mobile owner).Asks allowed :=
  (asks_ask may).bind (asks_requireFree .mobile mobile owner)

theorem asks_whenGiven {value : Option String} {check : String → Program Unit}
    (asks : ∀ text, value = some text → (check text).Asks allowed) :
    (whenGiven value check).Asks allowed := by
  cases value with
  | none => trivial
  | some text => exact asks text rfl

theorem asks_requireFound (id : UserId) (found : Option User) :
    (requireFound id found).Asks allowed := by
  cases found with
  | none => trivial
  | some user => trivial

theorem asks_requireLive {id : UserId} (may : allowed (.findById id)) :
    (requireLive id).Asks allowed :=
  (asks_ask may).bind (asks_requireFound id)

theorem asks_requireDone (id : UserId) (found : Bool) : (requireDone id found).Asks allowed := by
  cases found with
  | true => trivial
  | false => trivial

theorem asks_countEach {scope : Filter} {windows : Windows}
    (may : ∀ filter, allowed (.count filter)) : (countEach scope windows).Asks allowed :=
  (asks_ask (may _)).bind fun _ => (asks_ask (may _)).bind fun _ =>
  (asks_ask (may _)).bind fun _ => (asks_ask (may _)).bind fun _ =>
  (asks_ask (may _)).bind fun _ => (asks_ask (may _)).bind fun _ => trivial

abbrev Program.OnlyReads (program : Program α) : Prop :=
  program.Makes fun wanted => wanted.writes = false

theorem onlyReads_requireAccountFree (account : String) :
    (requireAccountFree account).OnlyReads :=
  have reads : (Call.findByAccount account).writes = false := rfl
  (asks_requireAccountFree reads).makes

theorem onlyReads_givenEmailFree (value : Option String) (owner : Option UserId) :
    (whenGiven value fun email => requireEmailFree email owner).OnlyReads :=
  have reads (email : String) : (Call.findByEmail email).writes = false := rfl
  (asks_whenGiven fun email _ => asks_requireEmailFree (reads email) owner).makes

theorem onlyReads_givenMobileFree (value : Option String) (owner : Option UserId) :
    (whenGiven value fun mobile => requireMobileFree mobile owner).OnlyReads :=
  have reads (mobile : String) : (Call.findByMobile mobile).writes = false := rfl
  (asks_whenGiven fun mobile _ => asks_requireMobileFree (reads mobile) owner).makes

theorem onlyReads_requireLive (id : UserId) : (requireLive id).OnlyReads :=
  have reads : (Call.findById id).writes = false := rfl
  (asks_requireLive reads).makes

end Parts

theorem Memory.answer_reads (supplies : Supplies) (memory : Memory) {wanted : Call}
    (reads : wanted.writes = false) : (memory.answer supplies wanted).2 = memory := by
  cases wanted with
  | save new => cases reads
  | update patch => cases reads
  | delete id => cases reads
  | changeStatus id status updateBy => cases reads
  | _ => rfl

/-- A call that the live rows alone decide. There may be many with an empty email or an empty mobile
number, so a look-up for one would tell which of them comes first. -/
def Call.SeesLive : Call → Prop
  | findByIdIncludingDeleted _ => False
  | findByEmail email => email ≠ ""
  | findByMobile mobile => mobile ≠ ""
  | _ => True

namespace Operation

def writes : Operation → Bool
  | createUser _ | updateUser _ | deleteUser _ | batchDeleteUsers _ | changeUserStatus _ _ _
  | resetPassword _ _ _ => true
  | _ => false

def batches : Operation → Bool
  | batchDeleteUsers _ => true
  | _ => false

def May (operation : Operation) (wanted : Call) : Prop :=
  wanted.SeesLive ∧ (wanted.writes = true → operation.writes = true)

end Operation

section Operations

theorem supplied_ne_empty {value : Option String} {text : String}
    (given : supplied value = some text) : text ≠ "" := by
  rw [supplied, nonEmptyText, Option.filter_eq_some_iff, Bool.not_eq_true',
    ← Bool.not_eq_true, String.isEmpty_iff] at given
  exact given.2

theorem changed_ne_empty {value current : Option String} {text : String}
    (given : changed value current = some text) : text ≠ "" :=
  supplied_ne_empty (Option.filter_eq_some_iff.1 given).1

variable {allowed : Call → Prop}

/-- What is asked before a new user is saved. -/
theorem asks_enroll {request : CreateRequest} {sex : Option Sex} {status : Option Status}
    (account : ∀ account, allowed (.findByAccount account))
    (email : ∀ email, email ≠ "" → allowed (.findByEmail email))
    (mobile : ∀ mobile, mobile ≠ "" → allowed (.findByMobile mobile))
    (save : ∀ new, allowed (.save new)) : (enroll request sex status).Asks allowed := by
  refine (asks_requireAccountFree (account _)).bind fun _ => ?_
  refine (asks_whenGiven fun text given =>
    asks_requireEmailFree (email text (supplied_ne_empty given)) none).bind fun _ => ?_
  refine (asks_whenGiven fun text given =>
    asks_requireMobileFree (mobile text (supplied_ne_empty given)) none).bind fun _ => ?_
  refine (asks_digestOf _).bind fun hash => ?_
  exact (asks_ask (save _)).bind fun user => trivial

theorem asks_amend {request : UpdateRequest} {id : UserId} {sex : Option Sex}
    {status : Option Status} (find : allowed (.findById id))
    (email : ∀ email, email ≠ "" → allowed (.findByEmail email))
    (mobile : ∀ mobile, mobile ≠ "" → allowed (.findByMobile mobile))
    (update : ∀ patch, allowed (.update patch)) : (amend request id sex status).Asks allowed := by
  refine (asks_requireLive find).bind fun current => ?_
  refine (asks_whenGiven fun text given =>
    asks_requireEmailFree (email text (changed_ne_empty given)) _).bind fun _ => ?_
  refine (asks_whenGiven fun text given =>
    asks_requireMobileFree (mobile text (changed_ne_empty given)) _).bind fun _ => ?_
  exact (asks_ask (update _)).bind (asks_requireFound id)

theorem asks_verifyCredentials {account password : String}
    (find : allowed (.findByAccount account)) :
    (verifyCredentials account password).Asks allowed := by
  change Asks allowed (if (Rule.account account).toBool = false then _ else _)
  split
  next invalid => trivial
  next valid =>
    refine (asks_ask find).bind fun found => ?_
    split
    next => trivial
    next user =>
      split
      next => trivial
      next stored =>
        intro same
        change Asks allowed (if _ then _ else _)
        split
        next => trivial
        next => trivial

/-- An operation on single users, or on none, makes no call but those that it may make, and the
first that fails ends it. -/
theorem Operation.asks (settings : Settings) {operation : Operation}
    (single : operation.batches = false) :
    (operation.program settings).Asks operation.May := by
  cases operation with
  | createUser request =>
    refine (asks_require _).bind fun read => asks_enroll ?_ ?_ ?_ ?_
    · exact fun account => ⟨trivial, nofun⟩
    · exact fun email given => ⟨given, nofun⟩
    · exact fun mobile given => ⟨given, nofun⟩
    · exact fun new => ⟨trivial, fun _ => rfl⟩
  | getUser id => exact (asks_require _).bind fun known => asks_requireLive ⟨trivial, nofun⟩
  | updateUser request =>
    refine (asks_require _).bind fun read => asks_amend ?_ ?_ ?_ ?_
    · exact ⟨trivial, nofun⟩
    · exact fun email given => ⟨given, nofun⟩
    · exact fun mobile given => ⟨given, nofun⟩
    · exact fun patch => ⟨trivial, fun _ => rfl⟩
  | deleteUser id =>
    refine (asks_require _).bind fun known => ?_
    exact (asks_ask ⟨trivial, fun _ => rfl⟩).bind (asks_requireDone known)
  | batchDeleteUsers ids => cases single
  | changeUserStatus id status updateBy =>
    refine (asks_require _).bind fun known => (asks_require _).bind fun status => ?_
    refine (asks_requireLive ⟨trivial, nofun⟩).bind fun _ => ?_
    exact (asks_ask ⟨trivial, fun _ => rfl⟩).bind (asks_requireDone known)
  | resetPassword id password updateBy =>
    refine (asks_require _).bind fun known => (asks_require _).bind fun _ => ?_
    refine (asks_requireLive ⟨trivial, nofun⟩).bind fun _ => (asks_digestOf _).bind fun hash => ?_
    refine (asks_ask ⟨trivial, fun _ => rfl⟩).bind fun found => ?_
    exact (asks_requireFound known found).bind fun _ => trivial
  | checkAccountExists account =>
    refine (asks_require _).bind fun _ => ?_
    exact (asks_ask ⟨trivial, nofun⟩).bind fun found => trivial
  | getUserStatistics tenantId =>
    refine fun instant => (asks_inCalendar _).bind fun windows => ?_
    change (settings.counting.program _ _).Asks _
    cases settings.counting with
    | byCount => exact asks_countEach fun filter => ⟨trivial, nofun⟩
    | byAggregate => exact asks_ask ⟨trivial, nofun⟩
  | listUsers request =>
    refine (asks_require _).bind fun status => (asks_ofExcept _).bind fun range => ?_
    exact asks_ask ⟨trivial, nofun⟩
  | verifyCredentials account password => exact asks_verifyCredentials ⟨trivial, nofun⟩

theorem makes_deleteItem (remove : ∀ id, allowed (.delete id)) (item : String) (tally : Tally) :
    (deleteItem item tally).Makes allowed := by
  unfold deleteItem
  split
  next error broken => trivial
  next id known =>
    refine ⟨remove id, fun reply => ?_⟩
    dsimp only
    split
    next => trivial
    next => trivial
    next => trivial
    next failure _ => trivial

theorem makes_deleteItems (remove : ∀ id, allowed (.delete id)) (ids : List String)
    (tally : Tally) : (deleteItems ids tally).Makes allowed := by
  induction ids generalizing tally with
  | nil => trivial
  | cons item rest ih => exact (makes_deleteItem remove item tally).bind ih

theorem Operation.makes (settings : Settings) (operation : Operation) :
    (operation.program settings).Makes operation.May := by
  cases single : operation.batches with
  | false => exact (Operation.asks settings single).makes
  | true =>
    cases operation with
    | batchDeleteUsers ids =>
      refine (asks_require _).makes.bind fun _ => ?_
      refine (makes_deleteItems (fun id => ⟨trivial, fun _ => rfl⟩) ids {}).bind fun tally => ?_
      trivial
    | _ => cases single

end Operations

end UserDirectory
