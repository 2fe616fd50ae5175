import UserDirectory.Store.Call
import UserDirectory.Store.Supplies

namespace UserDirectory

structure Memory where
  store : Store := {}
  usage : Usage := {}

namespace Memory

def readInstant (supplies : Supplies) (memory : Memory) : Except Failure Instant × Memory :=
  let (instant, usage) := memory.usage.readInstant supplies
  (instant, { memory with usage })

def drawIdentifier (supplies : Supplies) (memory : Memory) : Except Failure UserId × Memory :=
  let (id, usage) := memory.usage.drawIdentifier supplies
  (id, { memory with usage })

/-- The uniqueness guard comes first; an id is drawn only for a user that passes it. -/
def save (supplies : Supplies) (new : NewUser) (memory : Memory) : Except Failure User × Memory :=
  match memory.store.conflict? none new.claimed with
  | some (field, value) => (.error (.alreadyExists field value), memory)
  | none =>
    match memory.drawIdentifier supplies with
    | (.error failure, memory) => (.error failure, memory)
    | (.ok id, memory) =>
      if (memory.store.row? id).isSome then
        (.error (.internal ("Generated user ID '" ++ id.text ++ "' is already taken")), memory)
      else
        match memory.readInstant supplies with
        | (.error failure, memory) => (.error failure, memory)
        | (.ok now, memory) =>
          let user := User.ofNew id new now
          (.ok user, { memory with store := memory.store.put user.id.text user })

/-- Puts what `change` makes of the live row under `id` into its place; the clock is read only
where there is such a row. -/
def alter (supplies : Supplies) (id : UserId) (change : User → Instant → User)
    (memory : Memory) : Except Failure (Option User) × Memory :=
  match memory.store.liveRow? id with
  | none => (.ok none, memory)
  | some row =>
    match memory.readInstant supplies with
    | (.error failure, memory) => (.error failure, memory)
    | (.ok now, memory) =>
      let changed := change row now
      (.ok (some changed), { memory with store := memory.store.put id.text changed })

def update (supplies : Supplies) (patch : Patch) (memory : Memory) :
    Except Failure (Option User) × Memory :=
  match memory.store.liveRow? patch.id with
  | none => (.ok none, memory)
  | some _ =>
    match memory.store.conflict? (some patch.id) patch.claimed with
    | some (field, value) => (.error (.alreadyExists field value), memory)
    | none => memory.alter supplies patch.id patch.apply

def delete (supplies : Supplies) (id : UserId) (memory : Memory) : Except Failure Bool × Memory :=
  let (deleted, memory) := memory.alter supplies id fun row now =>
    { row with deletedAt := some now }
  (deleted.map Option.isSome, memory)

def changeStatus (supplies : Supplies) (id : UserId) (status : Status)
    (updateBy : Option String) (memory : Memory) : Except Failure Bool × Memory :=
  let (changed, memory) := memory.alter supplies id fun row now =>
    { row with status, updateBy := updateBy <|> row.updateBy, updatedAt := now }
  (changed.map Option.isSome, memory)

def statistics (store : Store) (scope : Filter) (windows : Windows) : Statistics where
  total := store.count scope
  active := store.count (scope.withStatus .enabled)
  inactive := store.count (scope.withStatus .disabled)
  today := store.count (scope.createdSince windows.today)
  thisWeek := store.count (scope.createdSince windows.thisWeek)
  thisMonth := store.count (scope.createdSince windows.thisMonth)

def answer (supplies : Supplies) (call : Call) (memory : Memory) :
    Except Failure call.Reply × Memory :=
  match call with
  | .save new => memory.save supplies new
  | .update patch => memory.update supplies patch
  | .delete id => memory.delete supplies id
  | .findById id => (.ok (memory.store.liveRow? id), memory)
  | .findByIdIncludingDeleted id => (.ok (memory.store.row? id), memory)
  | .findByAccount account =>
    (.ok (memory.store.liveWith? fun row => row.account = account), memory)
  | .findByEmail email =>
    (.ok (memory.store.liveWith? fun row => row.email = some email), memory)
  | .findByMobile mobile =>
    (.ok (memory.store.liveWith? fun row => row.mobile = some mobile), memory)
  | .list query => (.ok (memory.store.page query), memory)
  | .count filter => (.ok (memory.store.count filter), memory)
  | .changeStatus id status updateBy => memory.changeStatus supplies id status updateBy
  | .statistics scope windows => (.ok (statistics memory.store scope windows), memory)

end Memory

end UserDirectory
