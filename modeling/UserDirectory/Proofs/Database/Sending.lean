import UserDirectory.Database.Connection
import UserDirectory.Proofs.Database.Steps
import UserDirectory.Proofs.Service.Run

/-!
What is sent to a database. The requests of an exchange on users do not depend on the answers: they
are sent in one order, and the exchange may break off before the last of them.
-/

namespace UserDirectory

open Sql Database

def Call.statements (id : UserId) (now : Instant) : Call → List Statement
  | save new => [.save new id now]
  | update changes => [.patch changes now]
  | delete user => [.delete user now]
  | findById user => [.find .live .id user.text]
  | findByIdIncludingDeleted user => [.find .all .id user.text]
  | findByAccount account => [.find .live .account account]
  | findByEmail email => [.find .live .email email]
  | findByMobile mobile => [.find .live .mobile mobile]
  | list query => [.count query.filter.liveConditions, .list query]
  | count filter => [.count filter.liveConditions]
  | changeStatus user status updateBy => [.changeStatus user status updateBy now]
  | statistics scope windows => [.statistics windows scope.liveConditions]

/-- Whether a call is given an id and a time out of the supplies, where it takes them. -/
def Call.Draws (supplies : Supplies) (usage : Usage) (id : UserId) (now : Instant) : Call → Prop
  | save _ =>
    supplies.identifier usage.identifiers = .ok id ∧ supplies.instant usage.instants = .ok now
  | update _ => supplies.instant usage.instants = .ok now
  | delete _ => supplies.instant usage.instants = .ok now
  | changeStatus _ _ _ => supplies.instant usage.instants = .ok now
  | _ => True

namespace Database

namespace Exchange

/-- The statements are sent in this order; the exchange may break off before the last of them. -/
structure Sends (exchange : Exchange α) (statements : List Statement) : Prop where
  shows {σ : Type} (peer : Peer σ) (state : σ) :
    exchange.Shows peer state fun result _ steps =>
      ∃ sent, sent <+: statements ∧ steps.map Step.request = sent.map Request.users ∧
        ∀ value, result = .ok value → sent = statements

theorem sends_done {value : α} : (done value).Sends [] :=
  ⟨fun _ _ => ⟨[], List.nil_prefix, rfl, fun _ _ => rfl⟩⟩

theorem sends_ofExcept {result : Except Failure α} : (ofExcept result).Sends [] := by
  cases result with
  | ok value => exact sends_done
  | error failure => exact ⟨fun _ _ => ⟨[], List.nil_prefix, rfl, nofun⟩⟩

theorem sends_ask {statement : Statement} {failure : DatabaseError → Failure} :
    (ask (.users statement) failure).Sends [statement] :=
  ⟨fun _ _ => shows_ask (fun _ _ _ => ⟨[statement], List.prefix_rfl, rfl, fun _ _ => rfl⟩)
    fun _ _ _ => ⟨[statement], List.prefix_rfl, rfl, nofun⟩⟩

theorem Sends.bind {exchange : Exchange α} {next : α → Exchange β} {front back : List Statement}
    (sends : exchange.Sends front) (onward : ∀ value, (next value).Sends back) :
    (exchange >>= next).Sends (front ++ back) := by
  refine ⟨fun peer state => shows_bind.2 (Shows.mono (sends.shows peer state) ?_)⟩
  rintro (failure | value) after made ⟨sent, begun, same, completed⟩
  · exact ⟨sent, begun.trans (List.prefix_append front back), same, nofun⟩
  · obtain rfl := completed value rfl
    refine Shows.mono ((onward value).shows peer after) ?_
    rintro result last more ⟨later, begun, next, completed⟩
    refine ⟨sent ++ later, (List.prefix_append_right_inj sent).2 begun, ?_,
      fun value succeeded => congrArg (sent ++ ·) (completed value succeeded)⟩
    rw [List.map_append, List.map_append, same, next]

end Exchange

namespace UserStore

open Exchange

theorem firstUser_sends (answer : Answer) : (firstUser answer).Sends [] := by
  unfold firstUser
  split
  next => exact sends_done
  next => exact .bind sends_ofExcept fun _ => sends_done

theorem save_sends (new : NewUser) (id : UserId) (now : Instant) :
    (save new id now).Sends [.save new id now] :=
  .bind sends_ask fun _ => .bind sends_ofExcept fun _ => sends_ofExcept

theorem update_sends (changes : Patch) (now : Instant) :
    (update changes now).Sends [.patch changes now] :=
  .bind sends_ask fun answer => firstUser_sends answer

theorem delete_sends (id : UserId) (now : Instant) :
    (delete id now).Sends [.delete id now] :=
  .bind sends_ask fun _ => sends_done

theorem changeStatus_sends (id : UserId) (status : Status) (updateBy : Option String)
    (now : Instant) :
    (changeStatus id status updateBy now).Sends [.changeStatus id status updateBy now] :=
  .bind sends_ask fun _ => sends_done

theorem find_sends (scope : Scope) (column : Column) (value : String) :
    (find scope column value).Sends [.find scope column value] :=
  .bind sends_ask fun answer => firstUser_sends answer

theorem count_sends (filter : Filter) :
    (count filter).Sends [.count filter.liveConditions] :=
  .bind sends_ask fun _ => .bind sends_ofExcept fun _ => .bind sends_ofExcept fun _ => sends_done

theorem list_sends (query : Query) :
    (list query).Sends [.count query.filter.liveConditions, .list query] :=
  .bind (count_sends query.filter) fun _ => .bind sends_ask fun _ => .bind sends_ofExcept fun _ =>
    sends_done

theorem statistics_sends (scope : Filter) (windows : Windows) :
    (statistics scope windows).Sends [.statistics windows scope.liveConditions] :=
  .bind sends_ask fun _ => .bind sends_ofExcept fun _ => .bind sends_ofExcept fun _ =>
    .bind sends_ofExcept fun _ => .bind sends_ofExcept fun _ => .bind sends_ofExcept fun _ =>
    .bind sends_ofExcept fun _ => .bind sends_ofExcept fun _ => sends_done

end UserStore

namespace Connection

/-- What a call leaves behind on a connection: the statements sent, in their order and all of them
if the call succeeds; none where there is no id or no time for it. -/
def Carries (supplies : Supplies) (connection : Connection σ) (call : Call)
    (answered : Except Failure call.Reply × Connection σ) : Prop :=
  ∃ sent : List Statement,
    answered.2.requests = (sent.map Request.users).reverse ++ connection.requests ∧
    ((sent = [] ∧ ∃ failure, answered.1 = .error failure) ∨
      ∃ id now, call.Draws supplies connection.usage id now ∧ sent <+: call.statements id now ∧
        ∀ reply, answered.1 = .ok reply → sent = call.statements id now)

variable {supplies : Supplies} {peer : Peer σ} {call : Call}

theorem hold_carries {exchange : Exchange call.Reply} (id : UserId) (now : Instant)
    (sends : exchange.Sends (call.statements id now)) {connection : Connection σ}
    (drawn : call.Draws supplies connection.usage id now) (usage : Usage) :
    connection.Carries supplies call ({ connection with usage }.hold peer exchange) := by
  obtain ⟨sent, begun, same, completed⟩ := sends.shows peer connection.peer
  rw [Exchange.steps_requests] at same
  refine ⟨sent, ?_, .inr ⟨id, now, drawn, begun, completed⟩⟩
  rw [← same]
  rfl

theorem timed_carries {exchange : Instant → Exchange call.Reply} (id : UserId)
    (sends : ∀ now, (exchange now).Sends (call.statements id now)) {connection : Connection σ}
    {usage : Usage} (instants : usage.instants = connection.usage.instants)
    (drawn : ∀ now, supplies.instant connection.usage.instants = .ok now →
      call.Draws supplies connection.usage id now) :
    connection.Carries supplies call
      ({ connection with usage }.timed supplies peer exchange) := by
  unfold timed Usage.readInstant
  rw [instants]
  cases read : supplies.instant connection.usage.instants with
  | error failure => exact ⟨[], rfl, .inl ⟨rfl, failure, rfl⟩⟩
  | ok now => exact hold_carries id now (sends now) (drawn now read) _

theorem save_carries (new : NewUser) (connection : Connection σ) :
    connection.Carries supplies (.save new) (connection.save supplies peer new) := by
  unfold save Usage.drawIdentifier
  cases drawn : supplies.identifier connection.usage.identifiers with
  | error failure => exact ⟨[], rfl, .inl ⟨rfl, failure, rfl⟩⟩
  | ok id => exact timed_carries id (UserStore.save_sends new id) rfl fun now read => ⟨drawn, read⟩

theorem answer_carries (call : Call) (connection : Connection σ) :
    connection.Carries supplies call (connection.answer supplies peer call) := by
  -- the id and the time of a call that takes none do not matter
  have held {call : Call} {exchange : Exchange call.Reply}
      (sends : exchange.Sends (call.statements .first .epoch))
      (free : call.Draws supplies connection.usage .first .epoch) :
      connection.Carries supplies call (connection.hold peer exchange) :=
    hold_carries .first .epoch sends free connection.usage
  cases call with
  | save new => exact save_carries new connection
  | update changes =>
    exact timed_carries .first (UserStore.update_sends changes) rfl fun _ read => read
  | delete user => exact timed_carries .first (UserStore.delete_sends user) rfl fun _ read => read
  | findById user => exact held (UserStore.find_sends .live .id user.text) trivial
  | findByIdIncludingDeleted user =>
    exact held (UserStore.find_sends .all .id user.text) trivial
  | findByAccount account =>
    exact held (UserStore.find_sends .live .account account) trivial
  | findByEmail email => exact held (UserStore.find_sends .live .email email) trivial
  | findByMobile mobile => exact held (UserStore.find_sends .live .mobile mobile) trivial
  | list query => exact held (UserStore.list_sends query) trivial
  | count filter => exact held (UserStore.count_sends filter) trivial
  | changeStatus user status updateBy =>
    exact timed_carries .first (UserStore.changeStatus_sends user status updateBy) rfl
      fun _ read => read
  | statistics scope windows =>
    exact held (UserStore.statistics_sends scope windows) trivial

end Connection

end Database

end UserDirectory
