import UserDirectory.Proofs.Command.Report
import UserDirectory.Proofs.Command.Written
import UserDirectory.Proofs.Service.Interleaving
import UserDirectory.Proofs.Service.Run

/-!
User commands from the command line to what they print. What is written for a command is read as
that command, which comes to what the service operation of its arguments comes to: it leaves what
the operation leaves, fails as it fails, and prints its result.
-/

namespace UserDirectory

open Line

namespace UserCommand

def operation : UserCommand → Operation
  | createUser request => .createUser request
  | getUser id => .getUser id
  | updateUser request => .updateUser request
  | deleteUser id => .deleteUser id
  | batchDelete ids => .batchDeleteUsers ids
  | setStatus id status updateBy => .changeUserStatus id status updateBy
  | resetPassword id password updateBy => .resetPassword id password updateBy
  | checkAccount account => .checkAccountExists account
  | stats tenantId => .getUserStatistics tenantId
  | listUsers request => .listUsers request

def printed : (command : UserCommand) → command.operation.Result → Json
  | createUser _, user => User.record user
  | getUser _, user => User.record user
  | updateUser _, user => User.record user
  | deleteUser id, () => .object [("id", .text id), ("deleted", .bool true)]
  | batchDelete _, tally => Tally.report tally
  | setStatus id status _, () => .object [("id", .text id), ("status", .ofInt status)]
  | resetPassword id _ _, () => .object [("id", .text id), ("password_reset", .bool true)]
  | checkAccount account, held => .object [("account", .text account), ("exists", .bool held)]
  | stats _, statistics => Statistics.report statistics
  | listUsers _, page => Page.report page

/-- The result of a command, as read from what the command prints. Where there is nothing to read,
the arguments have to be there. -/
def ofPrinted? : (command : UserCommand) → Json → Option command.operation.Result
  | createUser _, json => User.ofJson? json
  | getUser _, json => User.ofJson? json
  | updateUser _, json => User.ofJson? json
  | deleteUser id, json =>
    if User.readRequired? User.readText? json.members "id" = some id ∧
        User.readRequired? Json.flag? json.members "deleted" = some true then
      some ()
    else none
  | batchDelete _, json => Tally.ofReport? json
  | setStatus id status _, json =>
    if User.readRequired? User.readText? json.members "id" = some id ∧
        User.readRequired? Json.whole? json.members "status" = some status then
      some ()
    else none
  | resetPassword id _ _, json =>
    if User.readRequired? User.readText? json.members "id" = some id ∧
        User.readRequired? Json.flag? json.members "password_reset" = some true then
      some ()
    else none
  | checkAccount account, json =>
    if User.readRequired? User.readText? json.members "account" = some account then
      User.readRequired? Json.flag? json.members "exists"
    else none
  | stats _, json => Statistics.ofReport? json
  | listUsers _, json => Page.ofReport? json

/-- What is told of a result: all of it, but for what the records of its users leave out. -/
def told : (command : UserCommand) → command.operation.Result → command.operation.Result
  | createUser _, user => User.recorded user
  | getUser _, user => User.recorded user
  | updateUser _, user => User.recorded user
  | listUsers _, page => { page with users := page.users.map User.recorded }
  | _, result => result

theorem ofPrinted?_printed (command : UserCommand) (result : command.operation.Result) :
    command.ofPrinted? (command.printed result) = some (command.told result) := by
  cases command with
  | createUser request => exact User.ofMembers?_record result (.refl _)
  | getUser id => exact User.ofMembers?_record result (.refl _)
  | updateUser request => exact User.ofMembers?_record result (.refl _)
  | deleteUser id => exact if_pos ⟨rfl, rfl⟩
  | batchDelete ids => exact Tally.ofReport?_report result
  | setStatus id status updateBy => exact if_pos ⟨rfl, rfl⟩
  | resetPassword id password updateBy => exact if_pos ⟨rfl, rfl⟩
  | checkAccount account => exact if_pos rfl
  | stats tenantId => exact Statistics.ofReport?_report result
  | listUsers request => exact Page.ofReport?_report result

theorem program_eq (settings : Service.Settings) (command : UserCommand) :
    command.program settings = (command.operation.program settings).bind fun result =>
      .done (command.printed result) := by
  cases command <;> rfl

end UserCommand

/-- What is made of a result changes nothing else that a run shows. -/
theorem Program.run_map (platform : Platform σ) (program : Program α) (change : α → β)
    (state : σ) :
    (program.bind fun value => done (change value)).run platform state =
      { result := (program.run platform state).result.map change
        state := (program.run platform state).state
        calls := (program.run platform state).calls
        events := (program.run platform state).events } := by
  induction program generalizing state with
  | done value => rfl
  | fail failure => rfl
  | log event rest ih => simp only [bind, run, ih]
  | now rest ih =>
    simp only [bind, run]
    split
    next instant after read => exact ih instant after
    next failure after read => rfl
  | digest password rest ih => exact ih _ _
  | verify password stored rest ih => exact ih _ _
  | call wanted rest ih => simp only [bind, run, ih]

/-- The command line is faithful to the service. A command written as its name, its options in any
order and its positionals behind two hyphens is read as that command, with its very values. Run over
any store in memory, it leaves the memory as the operation of its arguments leaves it, with the same
calls and events, fails as that fails, and prints what that comes to. What it prints tells the
result, but for what the records of users leave out. -/
theorem UserCommand.line_faithful {command : UserCommand} (fits : command.Fits)
    {shown : List (String × String)} (told : command.ShownBy shown) :
    Command.ofArguments (command.line shown) = .ok (.user command) ∧
    (∀ settings supplies hasher (memory : Memory),
      let platform := Memory.platform supplies hasher
      let served := (command.operation.program settings).run platform memory
      (command.program settings).run platform memory =
        { result := served.result.map command.printed
          state := served.state
          calls := served.calls
          events := served.events }) ∧
    ∀ result, command.ofPrinted? (command.printed result) = some (command.told result) := by
  refine ⟨ofArguments_line fits told, fun settings supplies hasher memory => ?_,
    command.ofPrinted?_printed⟩
  intro platform served
  rw [program_eq]
  exact Program.run_map platform _ _ memory

/-- A user is added with an empty value and with values that look like options, and listed from a
negative page, the usual page size left out. -/
theorem UserCommand.line_faithful_odd :
    let add := createUser {
      account := "bob", password := "--x=1", nickname := some "", remark := some "-h"
      sex := some 0 }
    let list := listUsers { page := -3, pageSize := 15, account := some "" }
    let bob : User := .ofNew .first {
      account := "bob", passwordHash := some "#--x=1", nickname := some "", remark := some "-h"
      sex := some .female } .epoch
    let run (command : UserCommand) :=
      (command.program .utc).run (Memory.platform .still .plain) .empty
    (add.Fits ∧ add.ShownBy [("remark", "-h"), ("sex", "0"), ("password", "--x=1"),
        ("nickname", ""), ("account", "bob")] ∧
      Command.ofArguments ["create-user", "--remark=-h", "--sex=0", "--password=--x=1",
        "--nickname=", "--account=bob", "--"] = .ok (.user add) ∧
      (run add).result = .ok bob.record ∧ (run add).state.store.rows = [bob]) ∧
    list.Fits ∧ list.ShownBy [("account", ""), ("page", "-3")] ∧
      Command.ofArguments ["list-users", "--account=", "--page=-3", "--"] = .ok (.user list) := by
  intro add list bob run
  have zero : numeral 0 = "0" := congrArg String.ofList (Text.digits_of_lt (by decide))
  have minusThree : numeral (-3) = "-3" :=
    congrArg (fun digits => String.ofList ('-' :: digits)) (Text.digits_of_lt (by decide))
  have fifteen : numeral 15 = "15" := by
    have digits : Text.digits 15 = ['1', '5'] := by
      rw [Text.digits_of_le (by decide), Text.digits_of_lt (by decide)]
      rfl
    exact congrArg String.ofList digits
  have addFits : add.Fits :=
    ⟨fun _ given => Option.some.inj given ▸ ⟨by decide, by decide⟩, nofun⟩
  have addTold : add.ShownBy [("remark", "-h"), ("sex", "0"), ("password", "--x=1"),
      ("nickname", ""), ("account", "bob")] := by
    have present : add.present = [("account", "bob"), ("password", "--x=1"), ("nickname", ""),
      ("remark", "-h"), ("sex", numeral 0)] := rfl
    refine ⟨[], ?_, List.forall_mem_nil _⟩
    rw [present, zero]
    decide
  have listFits : list.Fits := ⟨⟨by decide, by decide⟩, ⟨by decide, by decide⟩, nofun⟩
  have listTold : list.ShownBy [("account", ""), ("page", "-3")] := by
    have present : list.present = [("account", ""), ("page", numeral (-3)),
      ("page-size", numeral 15)] := rfl
    refine ⟨[("page-size", "15")], ?_, ?_⟩
    · rw [present, minusThree, fifteen]
      exact .refl _
    · exact List.forall_mem_singleton.2 (List.mem_cons_of_mem _ List.mem_cons_self)
  obtain ⟨added, ran, -⟩ := line_faithful addFits addTold
  have listed := (line_faithful listFits listTold).1
  refine ⟨⟨addFits, addTold, added, ?_, ?_⟩, listFits, listTold, listed⟩
  · exact congrArg Outcome.result (ran .utc .still .plain .empty)
  · exact congrArg (fun outcome => outcome.state.store.rows) (ran .utc .still .plain .empty)

end UserDirectory
