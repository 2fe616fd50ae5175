import UserDirectory.Command.Basic
import UserDirectory.Proofs.Command.Line
import UserDirectory.Proofs.Text.Decimal

/-!
Command lines that are written for a command: its name, its options with their values, in any
order, and its positionals behind two hyphens. Each is read back as that command, with its very
values.
-/

namespace UserDirectory

open Line

def numeral (n : Int) : String := String.ofList (Text.signedDigits n)

theorem readInt?_numeral (n : Int) : Text.readInt? (numeral n).toList = some n := by
  rw [numeral, String.toList_ofList, Text.readInt?_signedDigits]

namespace UserCommand

def name : UserCommand → String
  | createUser _ => "create-user"
  | getUser _ => "get-user"
  | updateUser _ => "update-user"
  | deleteUser _ => "delete-user"
  | batchDelete _ => "batch-delete"
  | setStatus _ _ _ => "set-status"
  | resetPassword _ _ _ => "reset-password"
  | checkAccount _ => "check-account"
  | stats _ => "stats"
  | listUsers _ => "list-users"

def texts : UserCommand → List (String × Option String)
  | createUser request => [
      ("account", some request.account), ("password", some request.password),
      ("nickname", request.nickname), ("remark", request.remark), ("dept-id", request.deptId),
      ("post-ids", request.postIds), ("email", request.email), ("mobile", request.mobile),
      ("avatar", request.avatar), ("tenant-id", request.tenantId),
      ("create-by", request.createBy)]
  | updateUser request => [
      ("nickname", request.nickname), ("remark", request.remark), ("dept-id", request.deptId),
      ("post-ids", request.postIds), ("email", request.email), ("mobile", request.mobile),
      ("avatar", request.avatar), ("update-by", request.updateBy)]
  | setStatus _ _ updateBy => [("update-by", updateBy)]
  | resetPassword _ password updateBy => [("password", some password), ("update-by", updateBy)]
  | stats tenantId => [("tenant-id", tenantId)]
  | listUsers request => [
      ("account", request.account), ("email", request.email), ("mobile", request.mobile),
      ("dept-id", request.deptId), ("tenant-id", request.tenantId),
      ("start-date", request.startDate), ("end-date", request.endDate)]
  | getUser _ | deleteUser _ | batchDelete _ | checkAccount _ => []

def numbers : UserCommand → List (String × Option Int)
  | createUser request => [("sex", request.sex), ("status", request.status)]
  | updateUser request => [("sex", request.sex), ("status", request.status)]
  | listUsers request => [
      ("page", some request.page), ("page-size", some request.pageSize),
      ("status", request.status)]
  | _ => []

def options (command : UserCommand) : List (String × Option String) :=
  command.texts ++ command.numbers.map fun option => (option.1, option.2.map numeral)

def present (command : UserCommand) : List (String × String) :=
  command.options.filterMap fun option => option.2.map (option.1, ·)

def positionals : UserCommand → Given
  | getUser id | updateUser { id, .. } | deleteUser id | resetPassword id _ _ => [("id", [id])]
  | batchDelete ids => [("ids", ids)]
  | setStatus id status _ => [("id", [id]), ("status", [numeral status])]
  | checkAccount account => [("account", [account])]
  | createUser _ | stats _ | listUsers _ => []

def pageDefaults : List (String × String) := [("page", "1"), ("page-size", "15")]

/-- The options that are as good as there where they are left out. -/
def defaults : UserCommand → List (String × String)
  | listUsers _ => pageDefaults
  | _ => []

/-- Whether options are those of a command, in any order; one with its default may be left out. -/
def ShownBy (command : UserCommand) (shown : List (String × String)) : Prop :=
  ∃ left, (shown ++ left).Perm command.present ∧ ∀ option ∈ left, option ∈ command.defaults

def line (command : UserCommand) (shown : List (String × String)) : List String :=
  command.name ::
    (shown.map optionText ++ "--" :: command.positionals.flatMap Prod.snd)

def IsSmall (n : Int) : Prop := -128 ≤ n ∧ n ≤ 127

def IsWide (n : Int) : Prop := -9223372036854775808 ≤ n ∧ n ≤ 9223372036854775807

/-- Whether the numbers of a command have room in their words, and an id is named at all. -/
def Fits : UserCommand → Prop
  | createUser request =>
    (∀ code ∈ request.sex, IsSmall code) ∧ ∀ code ∈ request.status, IsSmall code
  | updateUser request =>
    (∀ code ∈ request.sex, IsSmall code) ∧ ∀ code ∈ request.status, IsSmall code
  | batchDelete ids => ids ≠ []
  | setStatus _ status _ => IsSmall status
  | listUsers request =>
    IsWide request.page ∧ IsWide request.pageSize ∧ ∀ code ∈ request.status, IsSmall code
  | getUser _ | deleteUser _ | resetPassword _ _ _ | checkAccount _ | stats _ => True

section Form

def form (command : UserCommand) : Form :=
  (Command.forms.find? fun form => form.command = command.name).getD ⟨"", []⟩

theorem form_found (command : UserCommand) :
    Command.forms.find? (fun form => form.command = command.name) = some command.form := by
  cases command <;> rfl

theorem form_plain (command : UserCommand) : command.form.Plain := by
  have plain : ∀ form ∈ Command.forms, ∀ parameter ∈ form.parameters,
      parameter.name ≠ "help" ∧ '=' ∉ parameter.name.toList := by decide
  exact plain _ (List.mem_of_find?_eq_some command.form_found)

theorem names_distinct (command : UserCommand) :
    (command.options.map Prod.fst ++ command.positionals.names).Nodup := by
  refine of_decide_eq_true ?_
  cases command <;> rfl

theorem mem_present {command : UserCommand} {name value : String} :
    (name, value) ∈ command.present ↔ (name, some value) ∈ command.options := by
  constructor
  · intro there
    obtain ⟨⟨other, given⟩, among, same⟩ := List.mem_filterMap.1 there
    obtain ⟨found, rfl, pair⟩ := Option.map_eq_some_iff.1 same
    obtain ⟨rfl, rfl⟩ := Prod.mk.inj pair
    exact among
  · exact fun among => List.mem_filterMap.2 ⟨(name, some value), among, rfl⟩

theorem present_sublist (command : UserCommand) :
    (command.present.map Prod.fst).Sublist (command.options.map Prod.fst) := by
  rw [present]
  induction command.options with
  | nil => exact .slnil
  | cons option options ih =>
    obtain ⟨name, value⟩ := option
    cases value with
    | none => exact ih.cons name
    | some value => exact ih.cons_cons name

theorem accepts_numeral {least most n : Int} (fits : least ≤ n ∧ n ≤ most) :
    (ValueKind.integer least most).accepts (numeral n) = true := by
  simp [ValueKind.accepts, readInt?_numeral, fits]

theorem texts_named (command : UserCommand) :
    (command.texts.all fun option => command.form.hasOption option.1 .text) = true := by
  cases command <;> rfl

theorem takes_number {form : Form} {name : String} {least most : Int} {number : Option Int}
    (fits : ∀ n ∈ number, least ≤ n ∧ n ≤ most)
    (has : form.hasOption name (.integer least most) = true) :
    ∀ n ∈ number, form.Takes (name, numeral n) :=
  fun n given => takes_of_hasOption has (accepts_numeral (fits n given))

theorem takes_numbers {command : UserCommand} (fits : command.Fits) :
    ∀ option ∈ command.numbers, ∀ n ∈ option.2, command.form.Takes (option.1, numeral n) := by
  cases command with
  | createUser request =>
    simp only [numbers, List.forall_mem_cons]
    exact ⟨takes_number fits.1 rfl, takes_number fits.2 rfl, List.forall_mem_nil _⟩
  | updateUser request =>
    simp only [numbers, List.forall_mem_cons]
    exact ⟨takes_number fits.1 rfl, takes_number fits.2 rfl, List.forall_mem_nil _⟩
  | listUsers request =>
    obtain ⟨page, pageSize, status⟩ := fits
    simp only [numbers, List.forall_mem_cons]
    exact ⟨takes_number (fun _ given => Option.some.inj given ▸ page) rfl,
      takes_number (fun _ given => Option.some.inj given ▸ pageSize) rfl,
      takes_number status rfl, List.forall_mem_nil _⟩
  | _ => exact List.forall_mem_nil _

theorem takes_present {command : UserCommand} (fits : command.Fits) :
    ∀ option ∈ command.present, command.form.Takes option := by
  rintro ⟨name, value⟩ member
  rcases List.mem_append.1 (mem_present.1 member) with text | number
  · exact takes_of_hasOption (List.all_eq_true.1 command.texts_named _ text) rfl
  · obtain ⟨⟨name, n⟩, listed, same⟩ := List.mem_map.1 number
    obtain ⟨rfl, written⟩ := Prod.mk.inj same
    obtain ⟨n, rfl, rfl⟩ := Option.map_eq_some_iff.1 written
    exact takes_numbers fits _ listed n rfl

def userId : Parameter := { name := "id", role := .positional, required := true }

theorem places_positionals {command : UserCommand} (fits : command.Fits) :
    command.form.Places (command.positionals.flatMap Prod.snd) command.positionals := by
  cases command with
  | createUser request => exact places_none
  | getUser id => exact places_one userId rfl rfl rfl
  | updateUser request => exact places_one userId rfl rfl rfl
  | deleteUser id => exact places_one userId rfl rfl rfl
  | batchDelete ids =>
    have texts : (batchDelete ids).positionals.flatMap Prod.snd = ids := List.append_nil ids
    rw [texts]
    exact places_several { name := "ids", role := .positionals, required := true } rfl rfl fits
      fun _ _ => rfl
  | setStatus id status updateBy =>
    exact places_two userId
      { name := "status", role := .positional, kind := Command.small, required := true }
      rfl rfl rfl rfl rfl (accepts_numeral fits)
  | resetPassword id password updateBy => exact places_one userId rfl rfl rfl
  | checkAccount account =>
    exact places_one { name := "account", role := .positional, required := true } rfl rfl rfl
  | stats tenantId => exact places_none
  | listUsers request => exact places_none

theorem required_present (command : UserCommand) :
    (command.form.parameters.all fun parameter => !parameter.required ||
      command.positionals.names.contains parameter.name ||
      command.texts.any fun option => option.1 = parameter.name && option.2.isSome) = true := by
  cases command <;> rfl

theorem text_not_default {command : UserCommand} {option : String × Option String}
    (member : option ∈ command.texts) (value : String) :
    (option.1, value) ∉ command.defaults := by
  have apart : (command.texts.all fun option => command.defaults.all fun default =>
      decide (default.1 ≠ option.1)) = true := by cases command <;> rfl
  intro among
  have different := List.all_eq_true.1 (List.all_eq_true.1 apart option member) _ among
  exact of_decide_eq_true different rfl

end Form

/-- Whether the values of a command are those given, or are defaults where none is given. -/
structure ReadAs (command : UserCommand) (given : Given) : Prop where
  texts : ∀ option ∈ command.texts, Command.text? given option.1 = option.2
  numbers : ∀ option ∈ command.numbers, Command.integer? given option.1 = option.2 ∨
    ∃ n, option.2 = some n ∧ (option.1, numeral n) ∈ command.defaults ∧
      Command.integer? given option.1 = none
  positionals : ∀ entry ∈ command.positionals, given.values? entry.1 = some entry.2

theorem text?_absent {given : Given} {name : String} (absent : name ∉ given.names) :
    Command.text? given name = none := by
  rw [Command.text?, values?_eq_none absent]
  rfl

section Shown

variable {command : UserCommand} {shown left : List (String × String)}
  (perm : (shown ++ left).Perm command.present)
include perm

theorem distinct_of_perm :
    ((shown ++ left).map Prod.fst ++ command.positionals.names).Nodup := by
  have names : ((shown ++ left).map Prod.fst ++ command.positionals.names).Perm
      (command.present.map Prod.fst ++ command.positionals.names) := (perm.map _).append_right _
  exact names.nodup_iff.2
    (command.names_distinct.sublist (command.present_sublist.append_right _))

theorem distinct_shown : (entries shown ++ command.positionals).names.Nodup := by
  rw [names_append, names_entries]
  refine (distinct_of_perm perm).sublist (List.Sublist.append_right ?_ _)
  rw [List.map_append]
  exact List.sublist_append_left _ _

theorem text?_none {name : String} (among : (name, none) ∈ command.options) :
    Command.text? (entries shown ++ command.positionals) name = none := by
  obtain ⟨distinct, -, apart⟩ := List.nodup_append.1 command.names_distinct
  apply text?_absent
  rw [names_append, names_entries, List.mem_append]
  rintro (inShown | inPlace)
  · obtain ⟨⟨other, value⟩, member, rfl⟩ := List.mem_map.1 inShown
    have there := mem_present.1 (perm.mem_iff.1 (List.mem_append_left left member))
    exact nomatch List.inj_on_of_nodup_map distinct among there rfl
  · exact apart name (List.mem_map_of_mem among) name inPlace rfl

variable (spared : ∀ option ∈ left, option ∈ command.defaults)
include spared

/-- An option is read as the value it has, or it has its default and is left out. -/
theorem text?_option {name : String} {value : Option String}
    (among : (name, value) ∈ command.options) :
    Command.text? (entries shown ++ command.positionals) name = value ∨
      ∃ default, value = some default ∧ (name, default) ∈ command.defaults ∧
        Command.text? (entries shown ++ command.positionals) name = none := by
  cases value with
  | none => exact .inl (text?_none perm among)
  | some value =>
    rcases List.mem_append.1 (perm.mem_iff.2 (mem_present.2 among)) with isShown | isLeft
    · refine .inl ?_
      have member : (name, [value]) ∈ entries shown ++ command.positionals :=
        List.mem_append_left _ (List.mem_map_of_mem isShown)
      rw [Command.text?, values?_eq_some (distinct_shown perm) member]
      rfl
    · refine .inr ⟨value, rfl, spared _ isLeft, text?_absent ?_⟩
      have distinct := distinct_of_perm perm
      rw [List.map_append, List.append_assoc] at distinct
      obtain ⟨-, others, apartShown⟩ := List.nodup_append.1 distinct
      obtain ⟨-, -, apartPlaces⟩ := List.nodup_append.1 others
      have inLeft : name ∈ left.map Prod.fst := List.mem_map_of_mem isLeft
      rw [names_append, names_entries, List.mem_append]
      rintro (inShown | inPlace)
      · exact apartShown name inShown name (List.mem_append_left _ inLeft) rfl
      · exact apartPlaces name inLeft name inPlace rfl

theorem text?_text :
    ∀ option ∈ command.texts,
      Command.text? (entries shown ++ command.positionals) option.1 = option.2 := by
  intro option member
  have among : option ∈ command.options := List.mem_append_left _ member
  rcases text?_option perm spared among with read | ⟨value, -, default, -⟩
  · exact read
  · exact absurd default (text_not_default member value)

theorem integer?_number :
    ∀ option ∈ command.numbers,
      Command.integer? (entries shown ++ command.positionals) option.1 = option.2 ∨
        ∃ n, option.2 = some n ∧ (option.1, numeral n) ∈ command.defaults ∧
          Command.integer? (entries shown ++ command.positionals) option.1 = none := by
  rintro ⟨name, number⟩ member
  have among : (name, number.map numeral) ∈ command.options :=
    List.mem_append_right _ (List.mem_map.2 ⟨(name, number), member, rfl⟩)
  rw [Command.integer?]
  rcases text?_option perm spared among with read | ⟨value, written, default, read⟩
  · refine .inl ?_
    rw [read]
    cases number with
    | none => rfl
    | some n => exact readInt?_numeral n
  · obtain ⟨n, rfl, rfl⟩ := Option.map_eq_some_iff.1 written
    refine .inr ⟨n, rfl, default, ?_⟩
    rw [read]
    rfl

theorem readAs_shown : command.ReadAs (entries shown ++ command.positionals) where
  texts := text?_text perm spared
  numbers := integer?_number perm spared
  positionals _ member := values?_eq_some (distinct_shown perm) (List.mem_append_right _ member)

theorem required_given :
    ∀ parameter ∈ command.form.parameters, parameter.required = true →
      parameter.name ∈ (entries shown ++ command.positionals).names := by
  intro parameter member required
  have there := List.all_eq_true.1 command.required_present parameter member
  simp only [required, Bool.not_true, Bool.false_or, Bool.or_eq_true, List.contains_iff_mem,
    List.any_eq_true, Bool.and_eq_true, decide_eq_true_eq] at there
  rw [names_append, names_entries, List.mem_append]
  rcases there with place | ⟨⟨name, value⟩, among, same, isSome⟩
  · exact .inr place
  · obtain ⟨value, rfl⟩ := Option.isSome_iff_exists.1 isSome
    obtain rfl : name = parameter.name := same
    refine .inl ?_
    have present := mem_present.2 (List.mem_append_left _ among)
    rcases List.mem_append.1 (perm.mem_iff.2 present) with isShown | isLeft
    · exact List.mem_map_of_mem isShown
    · exact absurd (spared _ isLeft) (text_not_default among value)

end Shown

section Reading

variable {command : UserCommand}

theorem ReadAs.numbers_eq {given : Given} (reads : command.ReadAs given)
    (strict : command.defaults = []) :
    ∀ option ∈ command.numbers, Command.integer? given option.1 = option.2 := by
  intro option member
  rcases reads.numbers option member with read | ⟨n, -, among, -⟩
  · exact read
  · rw [strict] at among
    exact absurd among List.not_mem_nil

theorem text_of_text? {given : Given} {name value : String}
    (read : Command.text? given name = some value) : Command.text given name = value := by
  rw [Command.text, read]
  rfl

theorem text?_positional {given : Given} {name value : String}
    (read : given.values? name = some [value]) : Command.text? given name = some value := by
  rw [Command.text?, read]
  rfl

theorem text_positional {given : Given} {name value : String}
    (read : given.values? name = some [value]) : Command.text given name = value :=
  text_of_text? (text?_positional read)

theorem getD_number {read : Option Int} {name : String} {n default : Int}
    (reads : read = some n ∨
      ∃ m, some n = some m ∧ (name, numeral m) ∈ pageDefaults ∧ read = none)
    (only : ∀ option ∈ pageDefaults,
      option.1 = name → Text.readInt? option.2.toList = some default) :
    read.getD default = n := by
  rcases reads with rfl | ⟨m, same, among, rfl⟩
  · rfl
  · obtain rfl := Option.some.inj same
    have written := only _ among rfl
    rw [readInt?_numeral] at written
    exact (Option.some.inj written).symm

/-- A command is made again from what is given of it. -/
theorem ofGiven?_of_readAs {given : Given} (reads : command.ReadAs given) :
    Command.ofGiven? command.name given = some (.user command) := by
  have texts := reads.texts
  have positionals := reads.positionals
  cases command with
  | createUser request =>
    have numbers := reads.numbers_eq rfl
    simp only [UserCommand.texts, UserCommand.numbers, List.forall_mem_cons] at texts numbers
    obtain ⟨account, password, nickname, remark, deptId, postIds, email, mobile, avatar, tenantId,
      createBy, -⟩ := texts
    obtain ⟨sex, status, -⟩ := numbers
    have same : Command.createRequest given = request := by
      simp only [Command.createRequest, text_of_text? account, text_of_text? password, nickname,
        remark, deptId, postIds, email, mobile, avatar, tenantId, createBy, sex, status]
    exact congrArg (fun request => some (Command.user (createUser request))) same
  | getUser id =>
    have same := text_positional (positionals _ List.mem_cons_self)
    exact congrArg (fun id => some (Command.user (getUser id))) same
  | updateUser request =>
    have numbers := reads.numbers_eq rfl
    have id := text_positional (positionals _ List.mem_cons_self)
    simp only [UserCommand.texts, UserCommand.numbers, List.forall_mem_cons] at texts numbers
    obtain ⟨nickname, remark, deptId, postIds, email, mobile, avatar, updateBy, -⟩ := texts
    obtain ⟨sex, status, -⟩ := numbers
    have same : Command.updateRequest given = request := by
      simp only [Command.updateRequest, id, nickname, remark, deptId, postIds, email, mobile,
        avatar, updateBy, sex, status]
    exact congrArg (fun request => some (Command.user (updateUser request))) same
  | deleteUser id =>
    have same := text_positional (positionals _ List.mem_cons_self)
    exact congrArg (fun id => some (Command.user (deleteUser id))) same
  | batchDelete ids =>
    have same : (given.values? "ids").getD [] = ids := by
      rw [positionals _ List.mem_cons_self]
      rfl
    exact congrArg (fun ids => some (Command.user (batchDelete ids))) same
  | setStatus id status updateBy =>
    simp only [UserCommand.texts, List.forall_mem_cons] at texts
    have sameId := positionals _ List.mem_cons_self
    have written := positionals _ (List.mem_cons_of_mem _ List.mem_cons_self)
    have sameStatus : Command.integer? given "status" = some status := by
      rw [Command.integer?, text?_positional written]
      exact readInt?_numeral status
    simp only [Command.ofGiven?, name, text_positional sameId, sameStatus,
      texts.1, Option.getD_some]
  | resetPassword id password updateBy =>
    have sameId := text_positional (positionals _ List.mem_cons_self)
    simp only [UserCommand.texts, List.forall_mem_cons] at texts
    obtain ⟨samePassword, sameUpdateBy, -⟩ := texts
    simp only [Command.ofGiven?, name, sameId, text_of_text? samePassword, sameUpdateBy]
  | checkAccount account =>
    have same := text_positional (positionals _ List.mem_cons_self)
    exact congrArg (fun account => some (Command.user (checkAccount account))) same
  | stats tenantId =>
    exact congrArg (fun id => some (Command.user (stats id))) (texts _ List.mem_cons_self)
  | listUsers request =>
    have numbers := reads.numbers
    simp only [UserCommand.texts, UserCommand.numbers, List.forall_mem_cons] at texts numbers
    obtain ⟨account, email, mobile, deptId, tenantId, startDate, endDate, -⟩ := texts
    obtain ⟨page, pageSize, status, -⟩ := numbers
    have samePage : (Command.integer? given "page").getD 1 = request.page :=
      getD_number page (by decide)
    have sameSize : (Command.integer? given "page-size").getD 15 = request.pageSize :=
      getD_number pageSize (by decide)
    have noDefault : ∀ text, ("status", text) ∉ pageDefaults := by
      simp [pageDefaults]
    have sameStatus : Command.integer? given "status" = request.status :=
      status.resolve_right fun ⟨n, _, among, _⟩ => noDefault _ among
    have same : Command.listRequest given = request := by
      simp only [Command.listRequest, samePage, sameSize, account, email, mobile, sameStatus,
        deptId, tenantId, startDate, endDate]
    exact congrArg (fun request => some (Command.user (listUsers request))) same

end Reading

theorem name_ne (command : UserCommand) : command.name ≠ "help" ∧ command.name ≠ "--" := by
  have names : ∀ form ∈ Command.forms, form.command ≠ "help" ∧ form.command ≠ "--" := by decide
  have named : command.form.command = command.name := by
    simpa using List.find?_some command.form_found
  rw [← named]
  exact names _ (List.mem_of_find?_eq_some command.form_found)

/-- A command line is read as the command that it was written for. -/
theorem ofArguments_line {command : UserCommand} (fits : command.Fits)
    {shown : List (String × String)} (told : command.ShownBy shown) :
    Command.ofArguments (command.line shown) = .ok (.user command) := by
  obtain ⟨left, perm, spared⟩ := told
  have takes : ∀ option ∈ shown, command.form.Takes option := fun option member =>
    takes_present fits option (perm.mem_iff.1 (List.mem_append_left left member))
  have read := read_line command.form_plain takes (places_positionals fits) (distinct_shown perm)
    (required_given perm spared)
  obtain ⟨help, hyphens⟩ := command.name_ne
  rw [Command.ofArguments, line, read_command command.form_found help hyphens, read]
  simp only [Except.map, bind, Except.bind, ofGiven?_of_readAs (readAs_shown perm spared)]

end UserCommand

end UserDirectory
