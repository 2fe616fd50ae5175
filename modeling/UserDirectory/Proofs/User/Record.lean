import UserDirectory.Proofs.Keyed
import UserDirectory.Proofs.Time.InstantText
import UserDirectory.User.Record

/-!
Users read from their own records. Each field is found under its own name and read as what was
written there, whatever the order of the members. So a record loses the password hash alone, unless
a time of the user is written like another one.
-/

namespace UserDirectory

namespace Json

def members : Json → List (String × Json)
  | object members => members
  | _ => []

section Members

variable {members : List (String × Json)} {name : String}

/-- Where no name is there twice, a member is found wherever it stands. -/
theorem member?_eq_some (distinct : (members.map Prod.fst).Nodup) {value : Json}
    (member : (name, value) ∈ members) : member? name members = some value := by
  have reversed : (members.reverse.map Prod.fst).Nodup := by
    rw [List.map_reverse]
    exact List.nodup_reverse.2 distinct
  exact congrArg (Option.map Prod.snd) (find?_key_eq_some reversed (List.mem_reverse.2 member))

theorem member?_eq_none (absent : name ∉ members.map Prod.fst) : member? name members = none := by
  have missing : name ∉ members.reverse.map Prod.fst := by
    rw [List.map_reverse, List.mem_reverse]
    exact absent
  exact congrArg (Option.map Prod.snd) (find?_key_eq_none missing)

end Members

end Json

namespace User

theorem readOptional?_known {read : Json → Option α} {members : List (String × Json)}
    {name : String} {known : Json}
    (found : Json.member? name members = some known) (shown : known ≠ .null) :
    readOptional? read members name = (read known).map some := by
  rw [readOptional?, found]
  cases known with
  | null => exact absurd rfl shown
  | _ => rfl

section Fields

variable {members : List (String × Json)} (distinct : (members.map Prod.fst).Nodup) {name : String}
include distinct

theorem readRequired?_member {read : Json → Option α} {value : Json} {meaning : α}
    (member : (name, value) ∈ members) (reads : read value = some meaning) :
    readRequired? read members name = some meaning := by
  rw [readRequired?, Json.member?_eq_some distinct member]
  exact reads

/-- What is absent is written as null, and nothing else is. -/
theorem readOptional?_member {read : Json → Option β} {write : α → Json} {back : α → β}
    {value : Option α} (member : (name, .ofOption (value.map write)) ∈ members)
    (reads : ∀ given, read (write given) = some (back given))
    (shown : ∀ given, write given ≠ .null) :
    readOptional? read members name = some (value.map back) := by
  have found := Json.member?_eq_some distinct member
  cases value with
  | none =>
    rw [readOptional?, found]
    rfl
  | some given =>
    exact (readOptional?_known found (shown given)).trans (congrArg (Option.map some) (reads given))

end Fields

theorem readOptional?_absent {read : Json → Option α} {members : List (String × Json)}
    {name : String} (absent : name ∉ members.map Prod.fst) :
    readOptional? read members name = some none := by
  rw [readOptional?, Json.member?_eq_none absent]

theorem readTime?_timeJson (time : Instant) : readTime? (timeJson time) = some time.written := by
  rw [timeJson, readTime?, String.toList_ofList, time.ofText?_text]

theorem readId?_text (id : UserId) : readId? (.text id.text) = some id := by
  rw [readId?, UserId.ofText_eq_ok.2 rfl]
  rfl

theorem readName?_sex (sex : Sex) : readName? Sex.ofName? (.text sex.name) = some sex := by
  cases sex <;> decide

theorem readName?_status (status : Status) :
    readName? Status.ofName? (.text status.name) = some status := by
  cases status <;> decide

theorem record_names (user : User) :
    user.record.members.map Prod.fst = fieldNames.filter fun name =>
      name ≠ "password_hash" ∧ (name = "deleted_at" → user.deletedAt ≠ none) := by
  unfold record
  cases user.deletedAt with
  | none => rfl
  | some time => rfl

theorem record_distinct (user : User) : (user.record.members.map Prod.fst).Nodup := by
  have distinct : fieldNames.Nodup := by decide
  rw [record_names]
  exact distinct.filter _

/-- What a record tells of a user: all but the password hash, and the times as they are written. -/
def recorded (user : User) : User :=
  { user with
    passwordHash := none
    loginDate := user.loginDate.map Instant.written
    createdAt := user.createdAt.written
    updatedAt := user.updatedAt.written
    deletedAt := user.deletedAt.map Instant.written }

def times (user : User) : List Instant :=
  [user.createdAt, user.updatedAt] ++ user.loginDate.toList ++ user.deletedAt.toList

theorem map_written_eq_self {time : Option Instant} :
    time.map Instant.written = time ↔ ∀ known ∈ time, ¬known.CarriedWithin := by
  cases time with
  | none => simp
  | some known => simp [Instant.written_eq_self_iff]

theorem recorded_eq_iff {user : User} :
    user.recorded = { user with passwordHash := none } ↔
      ∀ time ∈ user.times, ¬time.CarriedWithin := by
  have parts : user.recorded = { user with passwordHash := none } ↔
      user.loginDate.map Instant.written = user.loginDate ∧
        user.createdAt.written = user.createdAt ∧ user.updatedAt.written = user.updatedAt ∧
        user.deletedAt.map Instant.written = user.deletedAt := by
    simp only [recorded, User.mk.injEq, true_and]
  rw [parts]
  simp only [map_written_eq_self, Instant.written_eq_self_iff, times, List.forall_mem_append,
    List.forall_mem_cons, Option.mem_toList]
  simp only [Option.mem_def]
  constructor
  · rintro ⟨login, created, updated, deleted⟩
    exact ⟨⟨⟨created, updated, List.forall_mem_nil _⟩, login⟩, deleted⟩
  · rintro ⟨⟨⟨created, updated, -⟩, login⟩, deleted⟩
    exact ⟨login, created, updated, deleted⟩

/-- A record is read in whatever order its members are. -/
theorem ofMembers?_record (user : User) {members : List (String × Json)}
    (order : members.Perm user.record.members) : ofMembers? members = some user.recorded := by
  have distinct : (members.map Prod.fst).Nodup :=
    (order.map Prod.fst).nodup_iff.2 user.record_distinct
  have noHash : "password_hash" ∉ members.map Prod.fst := by
    rw [(order.map Prod.fst).mem_iff, record_names]
    simp
  -- the fields by their places in a record
  have placed (index : Nat) {entry : String × Json}
      (here : user.record.members[index]? = some entry) : entry ∈ members :=
    order.mem_iff.2 (List.mem_of_getElem? here)
  have text (index : Nat) {name : String} {value : Option String}
      (here : user.record.members[index]? = some (name, .optionalText value)) :
      readOptional? readText? members name = some value := by
    rw [← Option.map_id_apply (x := value)]
    exact readOptional?_member distinct (placed index here) (fun _ => rfl) (fun _ => nofun)
  have account : readRequired? readText? members "account" = some user.account :=
    readRequired?_member distinct (placed 1 rfl) rfl
  have sex : readOptional? (readName? Sex.ofName?) members "sex" = some user.sex := by
    have member := placed 8 rfl
    rw [Json.optionalText, Option.map_map] at member
    rw [← Option.map_id_apply (x := user.sex)]
    exact readOptional?_member distinct member readName?_sex (fun _ => nofun)
  have loginDate : readOptional? readTime? members "login_date" =
      some (user.loginDate.map Instant.written) :=
    readOptional?_member distinct (placed 12 rfl) readTime?_timeJson (fun _ => nofun)
  have deletedAt : readOptional? readTime? members "deleted_at" =
      some (user.deletedAt.map Instant.written) := by
    cases deleted : user.deletedAt with
    | none =>
      apply readOptional?_absent
      rw [(order.map Prod.fst).mem_iff, record_names, deleted]
      decide
    | some time =>
      have last : user.record.members[18]? = some ("deleted_at", timeJson time) := by
        rw [record, deleted]
        rfl
      have member : ("deleted_at", .ofOption ((some time).map timeJson)) ∈ members :=
        placed 18 last
      exact readOptional?_member distinct member readTime?_timeJson (fun _ => nofun)
  simp only [ofMembers?, readRequired?_member distinct (placed 0 rfl) (readId?_text user.id),
    account, readOptional?_absent noHash, text 2 rfl, text 3 rfl, text 4 rfl, text 5 rfl,
    text 6 rfl, text 7 rfl, sex, text 9 rfl,
    readRequired?_member distinct (placed 10 rfl) (readName?_status user.status), text 11 rfl,
    loginDate, text 13 rfl, text 14 rfl,
    readRequired?_member distinct (placed 15 rfl) (readTime?_timeJson user.createdAt),
    text 16 rfl,
    readRequired?_member distinct (placed 17 rfl) (readTime?_timeJson user.updatedAt), deletedAt,
    Option.bind_eq_bind, Option.bind_some]
  rfl

/-- A user is read from its own record with every field but the password hash, which the record does
not show, and with its times as they are written. So every other field is the same exactly if no time
carries a second on within its minute. The time of deletion is shown exactly if there is one. -/
theorem ofJson?_record (user : User) :
    ∃ members, user.record = .object members ∧
      ofJson? user.record = some user.recorded ∧
      (user.recorded = { user with passwordHash := none } ↔
        ∀ time ∈ user.times, ¬time.CarriedWithin) ∧
      "password_hash" ∉ members.map Prod.fst ∧
      ("deleted_at" ∈ members.map Prod.fst ↔ ¬user.IsLive) := by
  refine ⟨user.record.members, rfl, user.ofMembers?_record (.refl _), recorded_eq_iff, ?_, ?_⟩
  · rw [record_names]
    simp
  · rw [record_names]
    simp [fieldNames]

end User

def Instant.carriedOn : Instant := ⟨1791979230, 1700000000, by decide, by decide⟩

/-- What is written, and read, is a time of the second after it. -/
theorem User.record_carriedOn :
    let user := User.ofNew ⟨"u-1", rfl⟩ { account := "alice" } .carriedOn
    let next : Instant := ⟨1791979231, 700000000, by decide, by decide⟩
    String.ofList Instant.carriedOn.text = "2026-10-14T12:00:31.700Z" ∧
      ofJson? user.record = some { user with createdAt := next, updatedAt := next } ∧
      ofJson? user.record ≠ some { user with passwordHash := none } := by
  intro user next
  have written : Instant.carriedOn.written = next := dif_pos (by decide)
  have read : ofJson? user.record = some { user with createdAt := next, updatedAt := next } := by
    rw [← written]
    exact user.ofMembers?_record (.refl _)
  refine ⟨by decide +kernel, read, ?_⟩
  rw [read]
  decide

end UserDirectory
