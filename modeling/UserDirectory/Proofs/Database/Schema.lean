import UserDirectory.Proofs.Service.Run
import UserDirectory.Proofs.Sql.Fitting

/-!
A database with the schema. It refuses a statement that would write a row with a value that its
column does not admit. Over admitted rows it refuses no statement of a call that fits, so it answers
such a call like a database that refuses nothing.
-/

namespace UserDirectory

open Sql Database

namespace Sql.Table

/-- The other side of a connection to a table with the schema: it refuses, and leaves the table as
it is, where a row would be written that is not admitted. -/
def strict (refusal : Row → DatabaseError) : Peer Table := fun request table =>
  match request with
  | .users statement =>
    match (table.written statement).find? fun row => !decide row.Admitted with
    | some row => (.error (refusal row), table)
    | none => peer request table
  | _ => peer request table

/-- Over admitted rows a statement that fits is not refused, and leaves admitted rows. -/
theorem strict_users {refusal : Row → DatabaseError} {statement : Statement}
    (fits : statement.Fits) {table : Table} (admitted : ∀ row ∈ table, row.Admitted) :
    strict refusal (.users statement) table = peer (.users statement) table ∧
      ∀ row ∈ (peer (.users statement) table).2, row.Admitted := by
  constructor
  · have passed : (table.written statement).find? (fun row => !decide row.Admitted) = none := by
      rw [List.find?_eq_none]
      intro row member
      simp [fits table admitted row member]
    simp only [strict, passed]
  · intro row member
    exact (mem_run member).elim (admitted row) (fits table admitted row)

-- a nickname of one character too many
example :
    let nickname := String.ofList (List.replicate 31 '汉')
    let statement := Statement.save { account := "alice", nickname := some nickname } .first .epoch
    (strict (fun _ => .noRows) (.users statement) []).1 = .error .noRows := by
  rfl

end Sql.Table

namespace Database

def Connection.Admitted (connection : Connection Table) : Prop :=
  ∀ row ∈ connection.peer, row.Admitted

/-- What is done over a connection to a table with the schema comes to the same over one that
refuses nothing, and leaves admitted rows. -/
structure Connection.Unrefused (strict lenient : Except Failure α × Connection Table) : Prop where
  same : strict = lenient
  admitted : lenient.2.Admitted

namespace Connection

variable {refusal : Row → DatabaseError} {connection : Connection Table}
  (admitted : connection.Admitted)
include admitted

theorem hold_unrefused {exchange : Exchange α} {statements : List Statement}
    (sends : exchange.Sends statements) (fits : ∀ statement ∈ statements, statement.Fits) :
    Unrefused (connection.hold (Table.strict refusal) exchange)
      (connection.hold Table.peer exchange) := by
  let asked (request : Request) : Prop :=
    ∃ statement : Statement, request = .users statement ∧ statement.Fits
  have only : ∀ request ∈ (exchange.hold Table.peer connection.peer).requests, asked request := by
    obtain ⟨sent, begun, made, -⟩ := sends.shows Table.peer connection.peer
    rw [← Exchange.steps_requests, made]
    exact List.forall_mem_map.2 fun statement member =>
      ⟨statement, rfl, fits statement (begun.mem member)⟩
  have alike : ∀ request, asked request → ∀ table : Table, (∀ row ∈ table, row.Admitted) →
      Table.strict refusal request table = Table.peer request table ∧
        ∀ row ∈ (Table.peer request table).2, row.Admitted := by
    rintro request ⟨statement, rfl, fit⟩ table rows
    exact Table.strict_users fit rows
  obtain ⟨same, kept⟩ := Exchange.hold_congr alike admitted only
  constructor
  · rw [hold, same]
    rfl
  · exact kept

theorem timed_unrefused {supplies : Supplies} {exchange : Instant → Exchange α}
    {statements : Instant → List Statement} (sends : ∀ now, (exchange now).Sends (statements now))
    (fits : ∀ now, ∀ statement ∈ statements now, statement.Fits) :
    Unrefused (connection.timed supplies (Table.strict refusal) exchange)
      (connection.timed supplies Table.peer exchange) := by
  unfold timed Usage.readInstant
  cases supplies.instant connection.usage.instants with
  | error failure => exact ⟨rfl, admitted⟩
  | ok now =>
    have used : Connection.Admitted
        { connection with
          usage := { connection.usage with instants := connection.usage.instants + 1 } } := admitted
    exact hold_unrefused used (sends now) (fits now)

theorem answer_unrefused {supplies : Supplies} {call : Call} (fits : call.Fits) :
    Unrefused (connection.answer supplies (Table.strict refusal) call)
      (connection.answer supplies Table.peer call) := by
  have held {exchange : Exchange call.Reply}
      (sends : exchange.Sends (call.statements .first .epoch)) :
      Unrefused (connection.hold (Table.strict refusal) exchange)
        (connection.hold Table.peer exchange) :=
    hold_unrefused admitted sends (fits.statements .first .epoch)
  have timed {exchange : Instant → Exchange call.Reply}
      (sends : ∀ now, (exchange now).Sends (call.statements .first now)) :
      Unrefused (connection.timed supplies (Table.strict refusal) exchange)
        (connection.timed supplies Table.peer exchange) :=
    timed_unrefused admitted sends (fits.statements .first)
  cases call with
  | save new =>
    unfold answer save Usage.drawIdentifier
    cases supplies.identifier connection.usage.identifiers with
    | error failure => exact ⟨rfl, admitted⟩
    | ok id =>
      have used : Connection.Admitted
          { connection with
            usage := { connection.usage with
              identifiers := connection.usage.identifiers + 1 } } := admitted
      exact timed_unrefused used (UserStore.save_sends new id) (fits.statements id)
  | update changes => exact timed (UserStore.update_sends changes)
  | delete user => exact timed (UserStore.delete_sends user)
  | findById user => exact held (UserStore.find_sends .live .id user.text)
  | findByIdIncludingDeleted user => exact held (UserStore.find_sends .all .id user.text)
  | findByAccount account => exact held (UserStore.find_sends .live .account account)
  | findByEmail email => exact held (UserStore.find_sends .live .email email)
  | findByMobile mobile => exact held (UserStore.find_sends .live .mobile mobile)
  | list query => exact held (UserStore.list_sends query)
  | count filter => exact held (UserStore.count_sends filter)
  | changeStatus user status updateBy =>
    exact timed (UserStore.changeStatus_sends user status updateBy)
  | statistics scope windows => exact held (UserStore.statistics_sends scope windows)

end Connection

theorem Connection.platform_unrefused (supplies : Supplies) (hasher : Hasher)
    (refusal : Row → DatabaseError) :
    (Connection.platform supplies hasher (Table.strict refusal)).Mirrors
      (Connection.platform supplies hasher Table.peer) Call.Fits
      fun strict lenient => strict = lenient ∧ lenient.Admitted where
  now := by
    rintro a b ⟨rfl, admitted⟩
    exact ⟨rfl, rfl, admitted⟩
  digest := by
    rintro password a b ⟨rfl, admitted⟩
    exact ⟨rfl, rfl, admitted⟩
  verify := rfl
  answer := by
    rintro wanted fits a b ⟨rfl, admitted⟩
    obtain ⟨same, kept⟩ := answer_unrefused admitted fits
    exact ⟨congrArg Prod.fst same, congrArg Prod.snd same, kept⟩

end Database

end UserDirectory
