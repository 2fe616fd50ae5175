import UserDirectory.Database.Target
import UserDirectory.Database.UserStore
import UserDirectory.Migration.Run
import UserDirectory.Service.Platform

namespace UserDirectory.Database

/-- What one request does to the other side of a connection, whose state is of type `σ`. -/
abbrev Peer (σ : Type) := Request → σ → Except DatabaseError Answer × σ

abbrev Network (σ : Type) := Target → Except DatabaseError σ

def Network.unreachable {σ : Type} : Network σ :=
  fun _ => .error (.connection "Network is unreachable (os error 101)")

/-- Where no connection is allowed, or no time to make it, none is tried. -/
def connect (network : Network σ) (database : Configuration.Database) : Except Failure σ := do
  let target ← (Target.ofDatabase database).mapError TargetError.failure
  let made := if database.maxConnections = 0 ∨ database.connectTimeout = 0 then
      .error .noConnection
    else network target
  made.mapError (DatabaseError.failure "connect to PostgreSQL")

structure Held (σ α : Type) where
  result : Except Failure α
  state : σ
  requests : List Request
  events : List Event

def Exchange.hold (peer : Peer σ) : Exchange α → σ → Held σ α
  | .done value, state => ⟨.ok value, state, [], []⟩
  | .fail failure, state => ⟨.error failure, state, [], []⟩
  | .log event rest, state =>
    let held := rest.hold peer state
    { held with events := event :: held.events }
  | .send request rest, state =>
    let (answer, state) := peer request state
    let held := (rest answer).hold peer state
    { held with requests := request :: held.requests }

/-- An open connection: the other side, the supplies used up, and the requests made, the last one
first. -/
structure Connection (σ : Type) where
  peer : σ
  usage : Usage := {}
  requests : List Request := []

namespace Connection

def hold (peer : Peer σ) (exchange : Exchange α) (connection : Connection σ) :
    Except Failure α × Connection σ :=
  let held := exchange.hold peer connection.peer
  (held.result,
    { connection with
      peer := held.state
      requests := held.requests.reverse ++ connection.requests })

def timed (supplies : Supplies) (peer : Peer σ) (exchange : Instant → Exchange α)
    (connection : Connection σ) : Except Failure α × Connection σ :=
  match connection.usage.readInstant supplies with
  | (.error failure, usage) => (.error failure, { connection with usage })
  | (.ok now, usage) => hold peer (exchange now) { connection with usage }

def save (supplies : Supplies) (peer : Peer σ) (new : NewUser) (connection : Connection σ) :
    Except Failure User × Connection σ :=
  match connection.usage.drawIdentifier supplies with
  | (.error failure, usage) => (.error failure, { connection with usage })
  | (.ok id, usage) => timed supplies peer (UserStore.save new id) { connection with usage }

def answer (supplies : Supplies) (peer : Peer σ) (call : Call) (connection : Connection σ) :
    Except Failure call.Reply × Connection σ :=
  match call with
  | .save new => connection.save supplies peer new
  | .update changes => connection.timed supplies peer (UserStore.update changes)
  | .delete id => connection.timed supplies peer (UserStore.delete id)
  | .findById id => connection.hold peer (UserStore.find .live .id id.text)
  | .findByIdIncludingDeleted id => connection.hold peer (UserStore.find .all .id id.text)
  | .findByAccount account => connection.hold peer (UserStore.find .live .account account)
  | .findByEmail email => connection.hold peer (UserStore.find .live .email email)
  | .findByMobile mobile => connection.hold peer (UserStore.find .live .mobile mobile)
  | .list query => connection.hold peer (UserStore.list query)
  | .count filter => connection.hold peer (UserStore.count filter)
  | .changeStatus id status updateBy =>
    connection.timed supplies peer (UserStore.changeStatus id status updateBy)
  | .statistics scope windows => connection.hold peer (UserStore.statistics scope windows)

def platform (supplies : Supplies) (hasher : Hasher) (peer : Peer σ) :
    Platform (Connection σ) where
  now connection :=
    let (instant, usage) := connection.usage.readInstant supplies
    (instant, { connection with usage })
  digest password connection :=
    let (digest, usage) := connection.usage.makeDigest hasher password
    (digest, { connection with usage })
  verify := hasher.verify
  answer := answer supplies peer

end Connection

end UserDirectory.Database
