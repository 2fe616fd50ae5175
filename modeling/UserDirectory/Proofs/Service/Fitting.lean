import UserDirectory.Proofs.Database.Schema
import UserDirectory.Proofs.Service.Guarded
import UserDirectory.Proofs.Service.Validation

namespace UserDirectory

open Service Program Sql Database

section Makes

variable {allowed : Call → Prop}

theorem Program.makes_require {checked : Except FieldError β} {next : β → Program α}
    (onward : ∀ value, checked = .ok value → (next value).Makes allowed) :
    (require checked >>= next).Makes allowed := by
  cases checked with
  | ok value => exact onward value rfl
  | error error => trivial

theorem Call.fits_of_reads {wanted : Call} (reads : wanted.writes = false) : wanted.Fits := by
  cases wanted with
  | save new => cases reads
  | update patch => cases reads
  | delete id => cases reads
  | changeStatus id status updateBy => cases reads
  | _ => trivial

theorem Program.OnlyReads.fits {program : Program α} (reads : program.OnlyReads) :
    program.Makes Call.Fits :=
  reads.mono fun _ => Call.fits_of_reads

end Makes

theorem Sex.code_known (sex : Sex) : sex.code = 0 ∨ sex.code = 1 := by
  cases sex
  · exact .inl rfl
  · exact .inr rfl

theorem Status.code_known (status : Status) : status.code = 0 ∨ status.code = 1 := by
  cases status
  · exact .inl rfl
  · exact .inr rfl

theorem FittingProfile.of_checks {nickname remark email mobile : Option String} {sex : Option Sex}
    {status : Option Status}
    (nicknamePassed : checkField Rule.nickname nickname = .ok ())
    (remarkPassed : checkField Rule.remark remark = .ok ())
    (emailPassed : checkField Rule.email email = .ok ())
    (mobilePassed : checkField Rule.mobile mobile = .ok ()) :
    FittingProfile nickname remark email mobile sex status where
  nickname text given :=
    Rule.nickname_length_le (passes_checkField.1 ⟨(), nicknamePassed⟩ text given)
  remark text given := Rule.remark_length_le (passes_checkField.1 ⟨(), remarkPassed⟩ text given)
  email text given := Rule.email_length_le (passes_checkField.1 ⟨(), emailPassed⟩ text given)
  mobile text given := by
    have length := Rule.mobile_length (passes_checkField.1 ⟨(), mobilePassed⟩ text given)
    omega
  sex value _ := value.code_known
  status value _ := value.code_known

theorem FittingProfile.supplied {nickname remark email mobile : Option String} {sex : Option Sex}
    {status : Option Status}
    (fits : FittingProfile nickname remark email mobile sex status) :
    FittingProfile nickname remark (supplied email) (supplied mobile) sex status :=
  { fits with
    email := fun text given => fits.email text (mem_nonEmptyText.1 given).1
    mobile := fun text given => fits.mobile text (mem_nonEmptyText.1 given).1 }

section Operations

theorem createUser_fits (request : CreateRequest) :
    (createUser request).Makes Call.Fits := by
  change (require (readCreate request) >>= fun codes => enroll request codes.1 codes.2).Makes _
  simp only [readCreate, checkProfile, require_bind_bind, require_pure_bind]
  refine makes_require fun _ account => makes_require fun _ _ => makes_require fun _ nickname =>
    makes_require fun _ remark => makes_require fun _ email => makes_require fun _ mobile =>
    makes_require fun sex _ => makes_require fun status _ => ?_
  refine (onlyReads_requireAccountFree _).fits.bind fun _ => ?_
  refine (onlyReads_givenEmailFree _ none).fits.bind fun _ => ?_
  refine (onlyReads_givenMobileFree _ none).fits.bind fun _ => ?_
  refine (asks_digestOf _).makes.bind fun hash => ?_
  have fits : Call.Fits (.save (newUser request sex status hash)) :=
    ⟨Rule.account_length_le account, .supplied (.of_checks nickname remark email mobile)⟩
  exact (asks_ask fits).makes.bind fun user => trivial

theorem updateUser_fits (request : UpdateRequest) :
    (updateUser request).Makes Call.Fits := by
  change (require (readUpdate request) >>= fun parts =>
    amend request parts.1 parts.2.1 parts.2.2).Makes _
  simp only [readUpdate, checkProfile, require_bind_bind, require_pure_bind]
  refine makes_require fun id _ => makes_require fun _ nickname =>
    makes_require fun _ remark => makes_require fun _ email => makes_require fun _ mobile =>
    makes_require fun sex _ => makes_require fun status _ => ?_
  refine (onlyReads_requireLive id).fits.bind fun current => ?_
  refine (onlyReads_givenEmailFree _ _).fits.bind fun _ => ?_
  refine (onlyReads_givenMobileFree _ _).fits.bind fun _ => ?_
  have fits : Call.Fits (.update (changes request id sex status)) :=
    ⟨id.length_le, .of_checks nickname remark email mobile⟩
  exact (asks_ask fits).makes.bind fun found => (asks_requireFound id found).makes

theorem changeUserStatus_fits (text : String) (code : Int) (updateBy : Option String) :
    (changeUserStatus text code updateBy).Makes Call.Fits := by
  refine makes_require fun id _ => makes_require fun status _ => ?_
  refine (onlyReads_requireLive id).fits.bind fun _ => ?_
  have fits : Call.Fits (.changeStatus id status updateBy) := ⟨id.length_le, status.code_known⟩
  exact (asks_ask fits).makes.bind fun found => (asks_requireDone id found).makes

theorem resetPassword_fits (text password : String) (updateBy : Option String) :
    (resetPassword text password updateBy).Makes Call.Fits := by
  refine makes_require fun id _ => makes_require fun _ _ => ?_
  refine (onlyReads_requireLive id).fits.bind fun _ => (asks_digestOf _).makes.bind fun hash => ?_
  have fits : Call.Fits (.update { id, passwordHash := some hash, updateBy }) :=
    ⟨id.length_le, .of_checks rfl rfl rfl rfl⟩
  exact (asks_ask fits).makes.bind fun found =>
    (asks_requireFound id found).makes.bind fun _ => trivial

/-- Past its checks, an operation makes calls only that fit. -/
theorem Operation.makes_fitting (settings : Settings) (operation : Operation) :
    (operation.program settings).Makes Call.Fits := by
  have deletes (id : UserId) : Call.Fits (.delete id) := id.length_le
  cases writes : operation.writes with
  | false =>
    refine (operation.makes settings).mono fun wanted may => Call.fits_of_reads ?_
    rw [← Bool.not_eq_true]
    intro writing
    rw [may.2 writing] at writes
    cases writes
  | true =>
    cases operation with
    | createUser request => exact createUser_fits request
    | updateUser request => exact updateUser_fits request
    | deleteUser text =>
      refine makes_require fun id _ => ?_
      exact (asks_ask (deletes id)).makes.bind fun found => (asks_requireDone id found).makes
    | batchDeleteUsers ids =>
      refine makes_require fun _ _ => ?_
      exact (makes_deleteItems deletes ids {}).bind fun tally => trivial
    | changeUserStatus text code updateBy => exact changeUserStatus_fits text code updateBy
    | resetPassword text password updateBy => exact resetPassword_fits text password updateBy
    | _ => cases writes

end Operations

namespace Database

namespace Connection

variable (settings : Settings) (supplies : Supplies) (hasher : Hasher)

def operate (peer : Peer Table) (connection : Connection Table) (operation : Operation) :
    Outcome (Connection Table) operation.Result :=
  (operation.program settings).run (platform supplies hasher peer) connection

def serve (peer : Peer Table) (operations : List Operation) (connection : Connection Table) :
    Connection Table :=
  operations.foldl (fun connection operation =>
    (connection.operate settings supplies hasher peer operation).state) connection

theorem operate_unrefused (refusal : Row → DatabaseError) {connection : Connection Table}
    (admitted : connection.Admitted) (operation : Operation) :
    connection.operate settings supplies hasher (Table.strict refusal) operation =
        connection.operate settings supplies hasher Table.peer operation ∧
      (connection.operate settings supplies hasher Table.peer operation).state.Admitted := by
  obtain ⟨result, ⟨state, kept⟩, calls, events⟩ :=
    (operation.makes_fitting settings).run_mirrors (platform_unrefused supplies hasher refusal)
      ⟨rfl, admitted⟩
  refine ⟨?_, kept⟩
  calc connection.operate settings supplies hasher (Table.strict refusal) operation
      = ⟨_, _, _, _⟩ := rfl
    _ = ⟨_, _, _, _⟩ := by rw [result, state, calls, events]

theorem serve_unrefused (refusal : Row → DatabaseError) (operations : List Operation)
    {connection : Connection Table} (admitted : connection.Admitted) :
    connection.serve settings supplies hasher (Table.strict refusal) operations =
        connection.serve settings supplies hasher Table.peer operations ∧
      (connection.serve settings supplies hasher Table.peer operations).Admitted := by
  induction operations generalizing connection with
  | nil => exact ⟨rfl, admitted⟩
  | cons operation rest ih =>
    obtain ⟨same, kept⟩ :=
      operate_unrefused settings supplies hasher refusal admitted operation
    rw [serve, List.foldl_cons, same]
    exact ih kept

end Connection

end Database

/-- Whatever is asked, an operation makes only calls whose values fit the columns: an id of at most
64 characters, an account of at most 50, a nickname of at most 30, a remark of at most 500, an email
of at most 254, a mobile number of at most 20, and codes that are zero or one. So a database with
the schema never refuses a statement for a length, a code or a missing value: after any operations
over admitted rows, an operation comes to the same there as over a database that refuses nothing,
and the rows that it leaves are admitted again. Whatever the bits, an id is made of them that the
column of ids admits. -/
theorem Operation.never_refused (settings : Settings) (operation : Operation) :
    (∀ (σ : Type) (platform : Platform σ) (state : σ),
      ∀ call ∈ ((operation.program settings).run platform state).calls, call.Fits) ∧
    (∀ (supplies : Supplies) (hasher : Hasher) (refusal : Row → DatabaseError)
      (earlier : List Operation) (connection : Connection Table), connection.Admitted →
      let ran (peer : Peer Table) := Connection.operate settings supplies hasher peer
        (connection.serve settings supplies hasher peer earlier) operation
      ran (Table.strict refusal) = ran Table.peer ∧ (ran Table.peer).state.Admitted) ∧
    ∀ high low : UInt64, ∃ id : UserId, UserId.random high low = .ok id ∧ id.text.length ≤ 64 ∧
      Column.id.Admits (.text id.text) := by
  refine ⟨fun σ platform state => ?_, fun supplies hasher refusal earlier connection admitted => ?_,
    fun high low => ?_⟩
  · rw [← told_calls]
    exact List.forall_mem_map.2 (operation.makes_fitting settings).told_allowed
  · obtain ⟨same, kept⟩ :=
      connection.serve_unrefused settings supplies hasher refusal earlier admitted
    intro ran
    simp only [ran, same]
    exact Connection.operate_unrefused settings supplies hasher refusal kept operation
  · obtain ⟨id, made, -⟩ := UserId.exists_random high low
    exact ⟨id, made, id.length_le, Column.admits_id id⟩

def CreateRequest.chinese : CreateRequest where
  account := "alice"
  password := "abc123"
  nickname := some (String.ofList (List.replicate 30 '汉'))

/-- The nickname is not refused, and neither is a status that is changed afterwards. -/
theorem Operation.chinese_never_refused :
    let ran (peer : Peer Table) := Connection.operate .utc .still .plain peer
      (Connection.serve .utc .still .plain peer [.createUser .chinese] ⟨[], {}, []⟩)
      (.changeUserStatus "u-1" 0 none)
    Connection.Admitted ⟨[], {}, []⟩ ∧
      ran (Table.strict fun _ => .noRows) = ran Table.peer ∧
      (ran Table.peer).result.toBool = true ∧ (ran Table.peer).state.peer.length = 1 := by
  intro ran
  have empty : Connection.Admitted ⟨[], {}, []⟩ := List.forall_mem_nil _
  obtain ⟨-, unrefused, -⟩ := Operation.never_refused .utc (.changeUserStatus "u-1" 0 none)
  refine ⟨empty, (unrefused .still .plain _ [.createUser .chinese] _ empty).1, ?_, ?_⟩
  · decide +kernel
  · decide +kernel

end UserDirectory
