import UserDirectory.Proofs.Except
import UserDirectory.Sql.Table

/-!
Rows and the users read off them. A row is read back as a user exactly if it is the row of that
user, so nothing of a user is lost in the table and nothing is made up.
-/

namespace UserDirectory

open Sql

namespace Sql

theorem Row.cell_fetched (row : Row) (column : Column) :
    Fetched.cell row.fetched column.name = .ok (row column) := by
  cases column <;> rfl

namespace Fetched

structure Reads (read : Cell → Option α) (keep : α → Cell) : Prop where
  kept : ∀ cell value, read cell = some value ↔ cell = keep value
  present : ∀ value, keep value ≠ .null

theorem reads_text : Reads Cell.text? Cell.text where
  kept cell value := by cases cell <;> simp [Cell.text?]
  present _ := nofun

theorem reads_integer : Reads Cell.integer? Cell.integer where
  kept cell value := by cases cell <;> simp [Cell.integer?]
  present _ := nofun

theorem reads_instant : Reads Cell.instant? Cell.instant where
  kept cell value := by cases cell <;> simp [Cell.instant?]
  present _ := nofun

variable {read : Cell → Option α} {keep : α → Cell} (reads : Reads read keep) {row : Row}
  {column : Column}
include reads

theorem Reads.optional_eq_ok {value : Option α} :
    optional read row.fetched column.name = .ok value ↔
      row column = (value.map keep).getD .null := by
  simp only [optional, row.cell_fetched, Except.bind_eq_ok, Except.ok.injEq, exists_eq_left']
  unfold valueOf
  by_cases missing : row column = .null
  · rw [if_pos missing, missing]
    cases value with
    | none => exact iff_of_true rfl rfl
    | some value => exact iff_of_false nofun (reads.present value).symm
  · rw [if_neg missing]
    cases value with
    | none =>
      refine iff_of_false ?_ missing
      split <;> nofun
    | some value =>
      rw [Option.map_some, Option.getD_some, ← reads.kept]
      cases read (row column) with
      | none => exact iff_of_false nofun nofun
      | some found => simp

theorem Reads.required_eq_ok {value : α} :
    required read row.fetched column.name = .ok value ↔ row column = keep value := by
  simp only [required, Except.bind_eq_ok, reads.optional_eq_ok]
  constructor
  · rintro ⟨found, kept, present⟩
    cases found with
    | none => cases present
    | some found =>
      obtain rfl := Except.ok.inj present
      exact kept
  · intro kept
    exact ⟨some value, kept, rfl⟩

end Fetched

end Sql

namespace User

/-- A code is read as what it stands for, and no other code is. -/
theorem codeOf_eq_ok {name : String} {meaning : Int → Except FieldError α} {code : α → Int}
    (small : ∀ value, -128 ≤ code value ∧ code value ≤ 127)
    (means : ∀ number value, meaning number = .ok value ↔ number = code value) {number : Int}
    {value : α} : codeOf name meaning number = .ok value ↔ number = code value := by
  simp only [codeOf, Except.mapError_eq_ok]
  by_cases within : -128 ≤ number ∧ number ≤ 127
  · rw [smallCode, if_pos within, ← means]
    exact Except.mapError_eq_ok
  · rw [smallCode, if_neg within]
    refine iff_of_false nofun ?_
    rintro rfl
    exact within (small value)

theorem statusCode_eq_ok {number : Int} {status : Status} :
    codeOf "status" Status.ofCode number = .ok status ↔ number = status.code :=
  codeOf_eq_ok (fun value => by cases value <;> decide) fun _ _ => Status.ofCode_eq_ok

theorem sexCode_eq_ok {number : Int} {sex : Sex} :
    codeOf "sex" Sex.ofCode number = .ok sex ↔ number = sex.code :=
  codeOf_eq_ok (fun value => by cases value <;> decide) fun _ _ => Sex.ofCode_eq_ok

theorem givenSex_eq_ok {code : Option Int} {next : Option Sex → Except Failure α} {result : α} :
    (match code with
      | none => pure none >>= next
      | some code => (codeOf "sex" Sex.ofCode code).map some >>= next) = .ok result ↔
      ∃ sex : Option Sex, code = sex.map Sex.code ∧ next sex = .ok result := by
  cases code with
  | none =>
    constructor
    · exact fun read => ⟨none, rfl, read⟩
    · rintro ⟨sex, meant, read⟩
      obtain rfl := Option.map_eq_none_iff.1 meant.symm
      exact read
  | some code =>
    have given (sex : Option Sex) : (codeOf "sex" Sex.ofCode code).map some = .ok sex ↔
        some code = sex.map Sex.code := by
      cases sex with
      | none => cases codeOf "sex" Sex.ofCode code <;> exact iff_of_false nofun nofun
      | some sex =>
        rw [Option.map_some, Option.some.injEq, ← sexCode_eq_ok]
        cases codeOf "sex" Sex.ofCode code <;> simp [Except.map]
    simp only [Except.bind_eq_ok, given]

/-- A row is read as a user exactly if it is the row of that user. -/
theorem ofFetched_eq_ok {row : Sql.Row} {user : User} :
    ofFetched row.fetched = .ok user ↔ row = user.row := by
  simp only [ofFetched, Except.bind_eq_ok, Except.mapError_eq_ok, Fetched.reads_text.required_eq_ok,
    Fetched.reads_integer.optional_eq_ok]
  constructor
  · rintro ⟨idText, atId, id, named, code, atSex, given⟩
    obtain ⟨sex, rfl, read⟩ := givenSex_eq_ok.1 given
    simp only [Except.bind_eq_ok, Except.mapError_eq_ok, Fetched.reads_text.optional_eq_ok,
      Fetched.reads_text.required_eq_ok, Fetched.reads_integer.required_eq_ok,
      Fetched.reads_instant.optional_eq_ok, Fetched.reads_instant.required_eq_ok,
      statusCode_eq_ok] at read
    obtain ⟨number, atStatus, status, rfl, account, atAccount, passwordHash, atPasswordHash,
      nickname, atNickname, remark, atRemark, deptId, atDeptId, postIds, atPostIds, email, atEmail,
      mobile, atMobile, avatar, atAvatar, loginIp, atLoginIp, loginDate, atLoginDate, tenantId,
      atTenantId, createBy, atCreateBy, createdAt, atCreatedAt, updateBy, atUpdateBy, updatedAt,
      atUpdatedAt, deletedAt, atDeletedAt, made⟩ := read
    obtain rfl := Except.ok.inj made
    obtain rfl := UserId.ofText_eq_ok.1 named
    funext column
    cases column <;> assumption
  · rintro rfl
    refine ⟨_, rfl, user.id, UserId.ofText_eq_ok.2 rfl, _, rfl,
      givenSex_eq_ok.2 ⟨user.sex, rfl, ?_⟩⟩
    simp only [Except.bind_eq_ok, Except.mapError_eq_ok, Fetched.reads_text.optional_eq_ok,
      Fetched.reads_text.required_eq_ok, Fetched.reads_integer.required_eq_ok,
      Fetched.reads_instant.optional_eq_ok, Fetched.reads_instant.required_eq_ok,
      statusCode_eq_ok]
    exact ⟨_, rfl, _, rfl, _, rfl, _, rfl, _, rfl, _, rfl, _, rfl, _, rfl, _, rfl, _, rfl, _, rfl,
      _, rfl, _, rfl, _, rfl, _, rfl, _, rfl, _, rfl, _, rfl, _, rfl, rfl⟩

end User

end UserDirectory
