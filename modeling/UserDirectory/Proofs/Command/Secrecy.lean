import UserDirectory.Command.Report
import UserDirectory.Proofs.Service.Blind
import UserDirectory.Proofs.Service.Invisible

/-!
Passwords and their digests stay secret. Commands that differ in passwords only, over stores that
differ in digests only, show the same results and the same events, however the passwords are
digested.
-/

namespace UserDirectory

open Service Program

/-- A record shows nothing of the digest. -/
theorem User.record_eq_of_veiled {user twin : User} (same : user.veiled = twin.veiled) :
    user.record = twin.record := by
  have shown : user.veiled.record = twin.veiled.record := congrArg User.record same
  exact shown

theorem Page.report_veiled (page : Page) : page.veiled.report = page.report := by
  have records : page.veiled.users.map User.record = page.users.map User.record := List.map_map
  rw [report, records]
  rfl

namespace UserCommand

def password? : UserCommand → Option String
  | createUser request => some request.password
  | resetPassword _ password _ => some password
  | _ => none

def veiled : UserCommand → UserCommand
  | createUser request => createUser { request with password := "" }
  | resetPassword id _ updateBy => resetPassword id "" updateBy
  | command => command

variable {command other : UserCommand}

/-- Two commands that differ in their passwords only are two of a kind, or one. -/
theorem veiled_cases (same : command.veiled = other.veiled) :
    (∃ (request : CreateRequest) (x y : String),
        command = createUser { request with password := x } ∧
          other = createUser { request with password := y }) ∨
      (∃ id x y updateBy, command = resetPassword id x updateBy ∧
        other = resetPassword id y updateBy) ∨
      (command = other ∧ command.password? = none) := by
  cases command with
  | createUser first =>
    cases other with
    | createUser second =>
      have rest : ({ first with password := "" } : CreateRequest) =
          { second with password := "" } := createUser.inj same
      refine .inl ⟨first, first.password, second.password, rfl, ?_⟩
      have whole : ({ first with password := second.password } : CreateRequest) = second :=
        congrArg (fun request : CreateRequest => { request with password := second.password }) rest
      exact congrArg createUser whole.symm
    | _ => cases same
  | resetPassword id x updateBy =>
    cases other with
    | resetPassword id' y updateBy' =>
      obtain ⟨rfl, -, rfl⟩ := resetPassword.inj same
      exact .inr (.inl ⟨id, x, y, updateBy, rfl, rfl⟩)
    | _ => cases same
  | _ =>
    cases other with
    | createUser | resetPassword => cases same
    | _ => exact .inr (.inr ⟨same, rfl⟩)

variable (settings : Settings)

theorem parallel_self (free : command.password? = none) :
    Parallel Eq none (command.program settings) (command.program settings) := by
  cases command with
  | createUser request => cases free
  | resetPassword id password updateBy => cases free
  | getUser id => exact (parallel_getUser id).map fun _ _ => User.record_eq_of_veiled
  | updateUser request =>
    exact (parallel_updateUser request).map fun _ _ => User.record_eq_of_veiled
  | deleteUser id => exact (parallel_deleteUser id).map fun _ _ _ => rfl
  | batchDelete ids =>
    exact (parallel_batchDeleteUsers ids).map fun _ _ same => congrArg Tally.report same
  | setStatus id status updateBy =>
    exact (parallel_changeUserStatus id status updateBy).map fun _ _ _ => rfl
  | checkAccount account =>
    refine (parallel_checkAccountExists account).map fun held _ same => ?_
    rw [same]
  | stats tenantId =>
    exact (parallel_getUserStatistics settings tenantId).map fun _ _ same =>
      congrArg Statistics.report same
  | listUsers request =>
    refine (parallel_listUsers settings request).map fun page twin same => ?_
    rw [← page.report_veiled, same, twin.report_veiled]

/-- Two commands that differ in their passwords only, with nothing wrong with either password, are
two programs in step. -/
theorem parallel (same : command.veiled = other.veiled)
    (valid : ∀ password, command.password? = some password → Rule.password password = .ok ())
    (otherValid : ∀ password, other.password? = some password → Rule.password password = .ok ()) :
    ∃ pending, Parallel Eq pending (command.program settings) (other.program settings) ∧
      ∀ x y, pending = some (x, y) → command.password? = some x ∧ other.password? = some y := by
  obtain ⟨request, x, y, rfl, rfl⟩ | ⟨id, x, y, updateBy, rfl, rfl⟩ | ⟨rfl, free⟩ :=
    veiled_cases same
  · refine ⟨some (x, y), ?_, fun _ _ given => ?_⟩
    · exact (parallel_createUser request (valid x rfl) (otherValid y rfl)).map fun _ _ =>
        User.record_eq_of_veiled
    · cases given
      exact ⟨rfl, rfl⟩
  · refine ⟨some (x, y), ?_, fun _ _ given => ?_⟩
    · exact (parallel_resetPassword id updateBy (valid x rfl) (otherValid y rfl)).map fun _ _ _ =>
        rfl
    · cases given
      exact ⟨rfl, rfl⟩
  · exact ⟨none, parallel_self settings free, nofun⟩

end UserCommand

/-- What a command shows: its result, as it is printed, and its events. -/
structure Shown where
  result : Except Failure Json
  events : List Event

structure Visit where
  command : UserCommand
  digests : Nat
  shown : Shown

/-- Nothing is wrong with the password of the command, if it has one, and it can be digested. -/
def Visit.Accepted (hasher : Hasher) (visit : Visit) : Prop :=
  ∀ password, visit.command.password? = some password →
    Rule.password password = .ok () ∧ ∃ hash, hasher.hash visit.digests password = .ok hash

def Layout.arranged (layout : Layout) (number : Nat) (memory : Memory) : Memory :=
  { memory with store := layout.arrange number memory.store }

/-- Commands one after another over one memory, from the command of that number on. -/
def UserCommand.visits (settings : Settings) (supplies : Supplies) (hasher : Hasher)
    (layout : Layout) : Nat → List UserCommand → Memory → List Visit
  | _, [], _ => []
  | number, command :: rest, memory =>
    let outcome := (command.program settings).run (Memory.platform supplies hasher) memory
    ⟨command, memory.usage.digests, outcome.result, outcome.events⟩ ::
      visits settings supplies hasher layout (number + 1) rest
        (layout.arranged number outcome.state)

/-- Layouts that keep stores in one order which differ in digests only. -/
def Layout.InStep (first second : Layout) : Prop :=
  ∀ number a b, a.veiled = b.veiled →
    (first.arrange number a).veiled = (second.arrange number b).veiled

theorem Layout.steady_inStep : Layout.steady.InStep .steady := fun _ _ _ same => same

/-- Two memories that differ in digests only. Either their rows stand in one order, and will after
every command, or they stand in any order in consistent stores. -/
inductive Memory.DigestsDiffer (first second : Layout) (a b : Memory) : Prop
  | ordered (same : a.veiled = b.veiled) (inStep : first.InStep second)
  | permuted (consistent : a.store.Consistent)
      (rows : b.store.veiled.entries.Perm a.store.veiled.entries)
      (usage : a.veiled.usage = b.veiled.usage)

theorem Store.Consistent.veiled {store : Store} (consistent : store.Consistent) :
    store.veiled.Consistent where
  keyed entry member := by
    obtain ⟨before, placed, rfl⟩ := List.mem_map.1 member
    exact consistent.keyed before placed
  apart x memberX y memberY different aliveX aliveY := by
    obtain ⟨a, placedA, rfl⟩ := List.mem_map.1 memberX
    obtain ⟨b, placedB, rfl⟩ := List.mem_map.1 memberY
    have apart := consistent.apart a placedA b placedB different aliveX aliveY
    exact ⟨apart.account, apart.email, apart.mobile⟩

section Accepted

variable {settings : Settings} {supplies : Supplies} {hasher : Hasher} {layout : Layout}

theorem UserCommand.command_mem {number : Nat} {commands : List UserCommand} {memory : Memory}
    {visit : Visit}
    (member : visit ∈ visits settings supplies hasher layout number commands memory) :
    visit.command ∈ commands := by
  induction commands generalizing number memory with
  | nil => exact absurd member List.not_mem_nil
  | cons command rest ih =>
    rcases List.mem_cons.1 member with rfl | later
    · exact List.mem_cons_self
    · exact List.mem_cons_of_mem _ (ih later)

/-- Where every password can be digested, passwords need only follow the rule. -/
theorem UserCommand.visits_accepted
    (digests : ∀ number password, ∃ hash, hasher.hash number password = .ok hash)
    {commands : List UserCommand}
    (valid : ∀ command ∈ commands, ∀ password, command.password? = some password →
      Rule.password password = .ok ()) (number : Nat) (memory : Memory) :
    ∀ visit ∈ visits settings supplies hasher layout number commands memory,
      visit.Accepted hasher := by
  intro visit member password given
  exact ⟨valid visit.command (command_mem member) password given, digests visit.digests password⟩

end Accepted

section Visits

variable (settings : Settings) {supplies : Supplies} {first second : Hasher}
  {layout otherLayout : Layout}

/-- Commands served in step, over memories that answer alike under the veil before every command. -/
theorem UserCommand.visits_shown {left : Memory → Memory → Prop}
    (mirrors : (Memory.platform supplies .plain).Mirrors (Memory.platform supplies .plain)
      Call.SeesLive left)
    (arranged : ∀ number a b, left (Memory.veiled a) (Memory.veiled b) →
      left (layout.arranged number a).veiled (otherLayout.arranged number b).veiled)
    {commands others : List UserCommand} (same : commands.map veiled = others.map veiled)
    (number : Nat) {a b : Memory} (start : left a.veiled b.veiled)
    (accepted : ∀ visit ∈ visits settings supplies first layout number commands a,
      visit.Accepted first)
    (otherAccepted : ∀ visit ∈ visits settings supplies second otherLayout number others b,
      visit.Accepted second) :
    (visits settings supplies first layout number commands a).map Visit.shown =
      (visits settings supplies second otherLayout number others b).map Visit.shown := by
  -- on the commands to come; `left` holds before each of them, under the veil
  induction commands generalizing others number a b with
  | nil =>
    obtain rfl : others = [] := List.map_eq_nil_iff.1 same.symm
    rfl
  | cons command rest ih =>
    cases others with
    | nil => cases same
    | cons other otherRest =>
      obtain ⟨alike, onward⟩ := List.cons.inj same
      have here := accepted _ List.mem_cons_self
      have otherHere := otherAccepted _ List.mem_cons_self
      obtain ⟨pending, inStep, passwords⟩ := parallel settings alike
        (fun password given => (here password given).1)
        (fun password given => (otherHere password given).1)
      have hashed (x y : String) (given : pending = some (x, y)) :
          (∃ hash, first.hash a.usage.digests x = .ok hash) ∧
            ∃ hash, second.hash b.usage.digests y = .ok hash :=
        ⟨(here x (passwords x y given).1).2, (otherHere y (passwords x y given).2).2⟩
      have shown := inStep.run mirrors start hashed
      have after := ih onward (number + 1) (arranged number _ _ shown.state)
        (fun visit member => accepted visit (List.mem_cons_of_mem _ member))
        (fun visit member => otherAccepted visit (List.mem_cons_of_mem _ member))
      simp only [visits, List.map_cons, after, shown.result, shown.events]

theorem Layout.arranged_congr (inStep : layout.InStep otherLayout) (number : Nat) {a b : Memory}
    (same : a.veiled = b.veiled) :
    (layout.arranged number a).veiled = (otherLayout.arranged number b).veiled := by
  have stores := inStep number a.store b.store (congrArg Memory.store same)
  have usage : a.veiled.usage = b.veiled.usage := congrArg Memory.usage same
  show Memory.mk (layout.arrange number a.store).veiled a.veiled.usage =
    ⟨(otherLayout.arrange number b.store).veiled, b.veiled.usage⟩
  rw [stores, usage]

/-- No user command leaks a password or a digest. Take two memories that differ in digests only and
two series of commands that differ in passwords only, where nothing is wrong with the passwords and
each can be digested, be it by two digests. Command by command, both series show the same result,
printed or failed with, and the same events. -/
theorem UserCommand.visits_leak_nothing {a b : Memory}
    (differ : a.DigestsDiffer layout otherLayout b) {commands others : List UserCommand}
    (same : commands.map veiled = others.map veiled)
    (accepted : ∀ visit ∈ visits settings supplies first layout 0 commands a,
      visit.Accepted first)
    (otherAccepted : ∀ visit ∈ visits settings supplies second otherLayout 0 others b,
      visit.Accepted second) :
    (visits settings supplies first layout 0 commands a).map Visit.shown =
      (visits settings supplies second otherLayout 0 others b).map Visit.shown := by
  cases differ with
  | ordered start inStep =>
    have mirrors := (Memory.platform supplies .plain).mirrors_self Call.SeesLive
    exact visits_shown settings mirrors (fun number _ _ => Layout.arranged_congr inStep number) same
      0 start accepted otherAccepted
  | permuted consistent rows usage =>
    have start : a.veiled.Alike supplies b.veiled :=
      Memory.alike_of_perm consistent.veiled rows usage
    have arranged (number : Nat) (c d : Memory) (alike : c.veiled.Alike supplies d.veiled) :
        (layout.arranged number c).veiled.Alike supplies
          (otherLayout.arranged number d).veiled :=
      alike.arranged ((layout.perm number c.store).map _) ((otherLayout.perm number d.store).map _)
    exact visits_shown settings (Memory.platform_mirrors supplies .plain) arranged same 0 start
      accepted otherAccepted

end Visits

namespace UserCommand

def errands (first second : String) : List UserCommand :=
  [.createUser { account := "bob", password := first }, .resetPassword "u-3" second none,
    .listUsers {}]

def keeping (digest : Option String) : Memory where
  store :=
    { entries := [("u-3", { Session.alice with passwordHash := digest })]
      distinct := List.nodup_singleton _ }

theorem errands_leak_nothing :
    (keeping (some "#pw0")).DigestsDiffer .steady .steady (keeping none) ∧
      (visits .utc .still .plain .steady 0 (errands "pw1" "pw2")
          (keeping (some "#pw0"))).map Visit.shown =
        (visits .utc .still (Password.hasher .usual fun _ => .ofWords 1 2) .steady 0
          (errands "word1" "word2") (keeping none)).map Visit.shown := by
  have differ : (keeping (some "#pw0")).DigestsDiffer .steady .steady (keeping none) :=
    .ordered rfl Layout.steady_inStep
  have valid (first second : String) (one : Rule.password first = .ok ())
      (two : Rule.password second = .ok ()) :
      ∀ command ∈ errands first second, ∀ password, command.password? = some password →
        Rule.password password = .ok () := by
    simp only [errands, List.forall_mem_cons, password?, Option.some.injEq, forall_eq', one, two]
    decide
  have accepted := valid "pw1" "pw2" (by decide) (by decide)
  have otherAccepted := valid "word1" "word2" (by decide) (by decide)
  exact ⟨differ, visits_leak_nothing .utc differ rfl
    (visits_accepted (fun _ _ => ⟨_, rfl⟩) accepted 0 _)
    (visits_accepted (fun _ _ => ⟨_, rfl⟩) otherAccepted 0 _)⟩

end UserCommand

end UserDirectory
