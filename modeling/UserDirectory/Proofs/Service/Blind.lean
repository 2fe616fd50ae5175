import UserDirectory.Proofs.Service.Parallel

/-!
Operations are blind to password digests. Each operation, run beside itself over stores that differ
in digests only, stays in step with itself; the two that digest a password stay in step with
themselves for another password.
-/

namespace UserDirectory

open Program

section Veil

variable {user other : User} (same : user.veiled = other.veiled)
include same

theorem User.id_eq_of_veiled : user.id = other.id := by
  have shown : user.veiled.id = other.veiled.id := congrArg User.id same
  exact shown

theorem User.account_eq_of_veiled : user.account = other.account := by
  have shown : user.veiled.account = other.veiled.account := congrArg User.account same
  exact shown

theorem User.email_eq_of_veiled : user.email = other.email := by
  have shown : user.veiled.email = other.veiled.email := congrArg User.email same
  exact shown

theorem User.mobile_eq_of_veiled : user.mobile = other.mobile := by
  have shown : user.veiled.mobile = other.veiled.mobile := congrArg User.mobile same
  exact shown

end Veil

namespace Service

def SameUser (user other : User) : Prop := user.veiled = other.veiled

def SameFound (found other : Option User) : Prop := found.map User.veiled = other.map User.veiled

section Parts

variable {pending : Option (String × String)}

theorem SameFound.cases {found other : Option User} (same : SameFound found other) :
    (found = none ∧ other = none) ∨
      ∃ user twin, found = some user ∧ other = some twin ∧ SameUser user twin := by
  cases found with
  | none =>
    cases other with
    | none => exact .inl ⟨rfl, rfl⟩
    | some twin => cases same
  | some user =>
    cases other with
    | none => cases same
    | some twin => exact .inr ⟨user, twin, rfl, rfl, Option.some.inj same⟩

theorem parallel_requireFree (field : UniqueField) (value : String) (owner : Option UserId)
    {found other : Option User} (same : SameFound found other) :
    Parallel Eq pending (requireFree field value owner found)
      (requireFree field value owner other) := by
  obtain ⟨rfl, rfl⟩ | ⟨user, twin, rfl, rfl, alike⟩ := same.cases
  · exact .done rfl
  · simp only [requireFree, User.id_eq_of_veiled alike]
    split
    next own => exact .done rfl
    next taken => exact .fail _

theorem parallel_requireFound (id : UserId) {found other : Option User}
    (same : SameFound found other) :
    Parallel SameUser pending (requireFound id found) (requireFound id other) := by
  obtain ⟨rfl, rfl⟩ | ⟨user, twin, rfl, rfl, alike⟩ := same.cases
  · exact .fail _
  · exact .done alike

theorem parallel_requireAccountFree (account : String) :
    Parallel Eq pending (requireAccountFree account) (requireAccountFree account) := by
  have sees : (Call.findByAccount account).SeesLive := trivial
  exact (parallel_ask sees).bind fun _ _ same => parallel_requireFree .account account none same

theorem parallel_requireEmailFree {email : String} (given : email ≠ "") (owner : Option UserId) :
    Parallel Eq pending (requireEmailFree email owner) (requireEmailFree email owner) := by
  have sees : (Call.findByEmail email).SeesLive := given
  exact (parallel_ask sees).bind fun _ _ same => parallel_requireFree .email email owner same

theorem parallel_requireMobileFree {mobile : String} (given : mobile ≠ "")
    (owner : Option UserId) :
    Parallel Eq pending (requireMobileFree mobile owner) (requireMobileFree mobile owner) := by
  have sees : (Call.findByMobile mobile).SeesLive := given
  exact (parallel_ask sees).bind fun _ _ same => parallel_requireFree .mobile mobile owner same

theorem parallel_whenGiven {value : Option String} {check : String → Program Unit}
    (parallel : ∀ text, value = some text → Parallel Eq pending (check text) (check text)) :
    Parallel Eq pending (whenGiven value check) (whenGiven value check) := by
  cases value with
  | none => exact .done rfl
  | some text => exact parallel text rfl

theorem parallel_requireLive (id : UserId) :
    Parallel SameUser pending (requireLive id) (requireLive id) := by
  have sees : (Call.findById id).SeesLive := trivial
  exact (parallel_ask sees).bind fun _ _ same => parallel_requireFound id same

theorem parallel_requireDone (id : UserId) (found : Bool) :
    Parallel Eq pending (requireDone id found) (requireDone id found) := by
  cases found with
  | true => exact .done rfl
  | false => exact .fail _

theorem parallel_add {new other : NewUser} (same : new.veiled = other.veiled) :
    Parallel SameUser pending (add new) (add other) := by
  refine (parallel_save same).bind fun user twin alike => ?_
  rw [User.id_eq_of_veiled alike, User.account_eq_of_veiled alike]
  exact (parallel_event ..).followed fun _ => .done alike

end Parts

section Operations

variable {pending : Option (String × String)}

theorem readCreate_password (request : CreateRequest) {password other : String}
    (valid : Rule.password password = .ok ()) (otherValid : Rule.password other = .ok ()) :
    readCreate { request with password } = readCreate { request with password := other } := by
  simp only [readCreate, valid, otherValid]

theorem parallel_createUser (request : CreateRequest) {password other : String}
    (valid : Rule.password password = .ok ()) (otherValid : Rule.password other = .ok ()) :
    Parallel SameUser (some (password, other)) (createUser { request with password })
      (createUser { request with password := other }) := by
  refine (parallel_event ..).followed fun _ => ?_
  rw [readCreate_password request valid otherValid]
  refine (parallel_require _).followed fun read => ?_
  refine (parallel_requireAccountFree request.account).followed fun _ => ?_
  refine (parallel_whenGiven fun email given =>
    parallel_requireEmailFree (supplied_ne_empty given) none).followed fun _ => ?_
  refine (parallel_whenGiven fun mobile given =>
    parallel_requireMobileFree (supplied_ne_empty given) none).followed fun _ => ?_
  exact Parallel.digestOf fun hash other => parallel_add rfl

theorem parallel_getUser (id : String) :
    Parallel SameUser pending (getUser id) (getUser id) := by
  refine (parallel_event ..).followed fun _ => ?_
  exact (parallel_require _).followed fun known => parallel_requireLive known

theorem parallel_updateUser (request : UpdateRequest) :
    Parallel SameUser pending (updateUser request) (updateUser request) := by
  refine (parallel_event ..).followed fun _ => (parallel_require _).followed fun read => ?_
  refine (parallel_requireLive read.1).bind fun user twin alike => ?_
  simp only [User.id_eq_of_veiled alike, User.email_eq_of_veiled alike,
    User.mobile_eq_of_veiled alike]
  refine (parallel_whenGiven fun email given =>
    parallel_requireEmailFree (changed_ne_empty given) _).followed fun _ => ?_
  refine (parallel_whenGiven fun mobile given =>
    parallel_requireMobileFree (changed_ne_empty given) _).followed fun _ => ?_
  exact (parallel_update rfl).bind fun _ _ same => parallel_requireFound read.1 same

theorem parallel_deleteUser (id : String) :
    Parallel Eq pending (deleteUser id) (deleteUser id) := by
  refine (parallel_event ..).followed fun _ => (parallel_require _).followed fun known => ?_
  have sees : (Call.delete known).SeesLive := trivial
  exact (parallel_ask sees).followed fun found => parallel_requireDone known found

theorem parallel_deleteItem (item : String) (tally : Tally) :
    Parallel Eq pending (deleteItem item tally) (deleteItem item tally) := by
  unfold deleteItem
  split
  next error _ => exact (parallel_event ..).followed fun _ => .done rfl
  next id _ =>
    have sees : (Call.delete id).SeesLive := trivial
    refine .call rfl sees fun reply other alike => ?_
    obtain rfl : reply = other := Call.alikeReplies_delete alike
    split
    next deleted => exact .done rfl
    next missing => exact (parallel_event ..).followed fun _ => .done rfl
    next outside => exact .fail _
    next failure _ => exact (parallel_event ..).followed fun _ => .done rfl

theorem parallel_deleteItems (ids : List String) (tally : Tally) :
    Parallel Eq pending (deleteItems ids tally) (deleteItems ids tally) := by
  induction ids generalizing tally with
  | nil => exact .done rfl
  | cons item rest ih =>
    exact (parallel_deleteItem item tally).followed fun counted => ih counted

theorem parallel_batchDeleteUsers (ids : List String) :
    Parallel Eq pending (batchDeleteUsers ids) (batchDeleteUsers ids) := by
  refine (parallel_event ..).followed fun _ => (parallel_require _).followed fun _ => ?_
  refine (parallel_deleteItems ids {}).followed fun tally => ?_
  exact (parallel_event ..).followed fun _ => .done rfl

theorem parallel_changeUserStatus (id : String) (status : Int) (updateBy : Option String) :
    Parallel Eq pending (changeUserStatus id status updateBy)
      (changeUserStatus id status updateBy) := by
  refine (parallel_event ..).followed fun _ => (parallel_require _).followed fun known => ?_
  refine (parallel_require _).followed fun status => ?_
  refine (parallel_requireLive known).bind fun _ _ _ => ?_
  have sees : (Call.changeStatus known status updateBy).SeesLive := trivial
  exact (parallel_ask sees).followed fun found => parallel_requireDone known found

theorem parallel_resetPassword (id : String) (updateBy : Option String) {password other : String}
    (valid : Rule.password password = .ok ()) (otherValid : Rule.password other = .ok ()) :
    Parallel Eq (some (password, other)) (resetPassword id password updateBy)
      (resetPassword id other updateBy) := by
  refine (parallel_event ..).followed fun _ => (parallel_require _).followed fun known => ?_
  rw [valid, otherValid]
  refine (parallel_require _).followed fun _ => (parallel_requireLive known).bind fun _ _ _ => ?_
  refine Parallel.digestOf fun hash otherHash => ?_
  have same : ({ id := known, passwordHash := some hash, updateBy } : Patch).veiled =
      ({ id := known, passwordHash := some otherHash, updateBy } : Patch).veiled := rfl
  refine (parallel_update same).bind fun _ _ found => ?_
  exact (parallel_requireFound known found).bind fun _ _ _ => .done rfl

theorem parallel_checkAccountExists (account : String) :
    Parallel Eq pending (checkAccountExists account) (checkAccountExists account) := by
  refine (parallel_event ..).followed fun _ => (parallel_require _).followed fun _ => ?_
  have sees : (Call.findByAccount account).SeesLive := trivial
  refine (parallel_ask sees).bind fun found other same => .done ?_
  obtain ⟨rfl, rfl⟩ | ⟨user, twin, rfl, rfl, -⟩ := SameFound.cases same
  · rfl
  · rfl

theorem parallel_count (filter : Filter) :
    Parallel (fun number other : Nat => number = other) pending (ask (.count filter))
      (ask (.count filter)) := by
  have sees : (Call.count filter).SeesLive := trivial
  exact parallel_ask sees

theorem parallel_countEach (scope : Filter) (windows : Windows) :
    Parallel Eq pending (countEach scope windows) (countEach scope windows) := by
  refine (parallel_count scope).followed fun total => ?_
  refine (parallel_count (scope.withStatus .enabled)).followed fun active => ?_
  refine (parallel_count (scope.withStatus .disabled)).followed fun inactive => ?_
  refine (parallel_count (scope.createdSince windows.today)).followed fun today => ?_
  refine (parallel_count (scope.createdSince windows.thisWeek)).followed fun thisWeek => ?_
  refine (parallel_count (scope.createdSince windows.thisMonth)).followed fun thisMonth => ?_
  exact .done rfl

theorem parallel_getUserStatistics (settings : Settings) (tenantId : Option String) :
    Parallel Eq pending (getUserStatistics settings tenantId)
      (getUserStatistics settings tenantId) := by
  refine (parallel_event ..).followed fun _ => parallel_clock.followed fun now => ?_
  refine (parallel_inCalendar _).followed fun windows => ?_
  refine (parallel_event ..).followed fun _ => ?_
  cases settings.counting with
  | byCount => exact parallel_countEach _ windows
  | byAggregate =>
    have sees : (Call.statistics (Filter.ofTenant (supplied tenantId)) windows).SeesLive := trivial
    exact parallel_ask sees

theorem parallel_listUsers (settings : Settings) (request : ListRequest) :
    Parallel (fun page other : Page => page.veiled = other.veiled) pending
      (listUsers settings request) (listUsers settings request) := by
  refine (parallel_event ..).followed fun _ => (parallel_require _).followed fun status => ?_
  refine (parallel_ofExcept_self _).followed fun range => ?_
  have sees (query : Query) : (Call.list query).SeesLive := trivial
  exact parallel_ask (sees _)

end Operations

end Service

end UserDirectory
