import UserDirectory.Proofs.Store.Change
import UserDirectory.Proofs.Store.Order

/-!
Stores with a veil over the password digests in them. The store in memory keeps digests and never
looks at them, so a veiled store answers every call as the store does, under the veil.
-/

namespace UserDirectory

def User.veiled (user : User) : User := { user with passwordHash := none }

def NewUser.veiled (new : NewUser) : NewUser := { new with passwordHash := none }

def Patch.veiled (patch : Patch) : Patch := { patch with passwordHash := none }

def Page.veiled (page : Page) : Page := { page with users := page.users.map User.veiled }

namespace Store

def veiled (store : Store) : Store where
  entries := store.entries.map fun entry => (entry.1, entry.2.veiled)
  distinct := by
    rw [List.map_map]
    exact store.distinct

variable (store : Store)

theorem keys_veiled : store.veiled.keys = store.keys := List.map_map

theorem rows_veiled : store.veiled.rows = store.rows.map User.veiled := by
  rw [rows, veiled, List.map_map, rows, List.map_map]
  rfl

theorem row?_veiled (id : UserId) : store.veiled.row? id = (store.row? id).map User.veiled := by
  unfold row? veiled
  dsimp only
  induction store.entries with
  | nil => rfl
  | cons entry rest ih =>
    rw [List.map_cons, List.lookup_cons, List.lookup_cons, ih]
    split <;> rfl

theorem live_veiled : store.veiled.live = store.live.map User.veiled := by
  rw [live, rows_veiled, List.filter_map, live]
  rfl

theorem liveRow?_veiled (id : UserId) :
    store.veiled.liveRow? id = (store.liveRow? id).map User.veiled := by
  rw [liveRow?, row?_veiled, Option.filter_map, liveRow?]
  rfl

theorem liveWith?_veiled {wanted : User → Bool} (blind : ∀ user, wanted user.veiled = wanted user) :
    store.veiled.liveWith? wanted = (store.liveWith? wanted).map User.veiled := by
  rw [liveWith?, live_veiled, List.find?_map, liveWith?]
  congr 2
  funext user
  exact blind user

theorem others_veiled (owner : Option UserId) :
    store.veiled.others owner = (store.others owner).map User.veiled := by
  rw [others, live_veiled, List.filter_map, others]
  rfl

theorem conflict?_veiled (owner : Option UserId) (claimed : Claimed) :
    store.veiled.conflict? owner claimed = store.conflict? owner claimed := by
  simp only [conflict?, others_veiled, List.any_map]
  rfl

theorem selection_veiled (filter : Filter) :
    store.veiled.selection filter = (store.selection filter).map User.veiled := by
  rw [selection, live_veiled, List.filter_map, selection]
  rfl

theorem count_veiled (filter : Filter) : store.veiled.count filter = store.count filter := by
  rw [count, selection_veiled, List.length_map, count]

theorem precedes_veiled (a b : User) : precedes a b = precedes a.veiled b.veiled := rfl

theorem page_veiled (query : Query) : store.veiled.page query = (store.page query).veiled := by
  have sorted : ((store.selection query.filter).map User.veiled).mergeSort precedes =
      ((store.selection query.filter).mergeSort precedes).map User.veiled :=
    (List.map_mergeSort fun a _ b _ => precedes_veiled a b).symm
  simp only [page, selection_veiled, sorted, Page.veiled, List.length_map, List.map_drop,
    List.map_take]

theorem eq_of_entries {a b : Store} (same : a.entries = b.entries) : a = b := by
  obtain ⟨entries, distinct⟩ := a
  obtain rfl : entries = b.entries := same
  rfl

theorem put_veiled (key : String) (row : User) :
    (store.put key row).veiled = store.veiled.put key row.veiled := by
  apply eq_of_entries
  have keys := store.keys_veiled
  by_cases present : key ∈ store.keys
  · have placed : (store.veiled.put key row.veiled).entries = store.veiled.entries.map fun entry =>
        if entry.1 = key then (key, row.veiled) else entry := if_pos (keys ▸ present)
    rw [placed]
    simp only [veiled, put, if_pos present, List.map_map]
    apply List.map_congr_left
    intro entry _
    simp only [Function.comp_apply]
    split <;> rfl
  · have placed : (store.veiled.put key row.veiled).entries =
        store.veiled.entries ++ [(key, row.veiled)] := if_neg (keys ▸ present)
    rw [placed]
    simp only [veiled, put, if_neg present, List.map_append]
    rfl

theorem statistics_veiled (scope : Filter) (windows : Windows) :
    Memory.statistics store.veiled scope windows = Memory.statistics store scope windows := by
  simp only [Memory.statistics, count_veiled]

end Store

theorem NewUser.claimed_veiled (new : NewUser) : new.veiled.claimed = new.claimed := rfl

theorem Patch.claimed_veiled (patch : Patch) : patch.veiled.claimed = patch.claimed := rfl

theorem User.ofNew_veiled (id : UserId) (new : NewUser) (now : Instant) :
    User.ofNew id new.veiled now = (User.ofNew id new now).veiled := rfl

theorem Patch.apply_veiled (patch : Patch) (row : User) (now : Instant) :
    patch.veiled.apply row.veiled now = (patch.apply row now).veiled := rfl

namespace Call

def veiled : Call → Call
  | save new => save new.veiled
  | update patch => update patch.veiled
  | call => call

def veilReply : (call : Call) → call.Reply → call.veiled.Reply
  | save _, user => User.veiled user
  | update _, found => Option.map User.veiled found
  | delete _, deleted => deleted
  | findById _, found => Option.map User.veiled found
  | findByIdIncludingDeleted _, found => Option.map User.veiled found
  | findByAccount _, found => Option.map User.veiled found
  | findByEmail _, found => Option.map User.veiled found
  | findByMobile _, found => Option.map User.veiled found
  | list _, page => Page.veiled page
  | count _, number => number
  | changeStatus _ _ _, changed => changed
  | statistics _ _, counted => counted

theorem flag_unveiled (reply : Except Failure Bool) : reply.map (fun found => found) = reply :=
  congrFun Except.map_id reply

end Call

namespace Memory

/-- The number of digests made is under the veil too. -/
def veiled (memory : Memory) : Memory where
  store := memory.store.veiled
  usage := { memory.usage with digests := 0 }

variable (supplies : Supplies) (memory : Memory)

theorem alter_veiled (id : UserId) {change veiledChange : User → Instant → User}
    (same : ∀ row now, veiledChange row.veiled now = (change row now).veiled) :
    memory.veiled.alter supplies id veiledChange =
      ((memory.alter supplies id change).1.map (Option.map User.veiled),
        (memory.alter supplies id change).2.veiled) := by
  simp only [alter, veiled, Store.liveRow?_veiled]
  cases memory.store.liveRow? id with
  | none => rfl
  | some row =>
    simp only [Option.map_some, readInstant, Usage.readInstant]
    cases supplies.instant memory.usage.instants with
    | error failure => rfl
    | ok now =>
      simp only [same, Except.map, Option.map_some, Store.put_veiled]

theorem save_veiled (new : NewUser) :
    memory.veiled.save supplies new.veiled =
      ((memory.save supplies new).1.map User.veiled, (memory.save supplies new).2.veiled) := by
  simp only [save, veiled, Store.conflict?_veiled, new.claimed_veiled]
  cases memory.store.conflict? none new.claimed with
  | some taken => rfl
  | none =>
    simp only [drawIdentifier, Usage.drawIdentifier]
    cases supplies.identifier memory.usage.identifiers with
    | error failure => rfl
    | ok id =>
      simp only [Store.row?_veiled, Option.isSome_map]
      split
      next used => rfl
      next fresh =>
        simp only [readInstant, Usage.readInstant]
        cases supplies.instant memory.usage.instants with
        | error failure => rfl
        | ok now =>
          simp only [Except.map, User.ofNew_veiled, Store.put_veiled]
          rfl

theorem update_veiled (patch : Patch) :
    memory.veiled.update supplies patch.veiled =
      ((memory.update supplies patch).1.map (Option.map User.veiled),
        (memory.update supplies patch).2.veiled) := by
  have named : memory.veiled.store.liveRow? patch.veiled.id =
      (memory.store.liveRow? patch.id).map User.veiled := memory.store.liveRow?_veiled patch.id
  have guard : memory.veiled.store.conflict? (some patch.veiled.id) patch.veiled.claimed =
      memory.store.conflict? (some patch.id) patch.claimed :=
    memory.store.conflict?_veiled (some patch.id) patch.claimed
  simp only [update, named, guard]
  cases memory.store.liveRow? patch.id with
  | none => rfl
  | some row =>
    simp only [Option.map_some]
    cases memory.store.conflict? (some patch.id) patch.claimed with
    | some taken => rfl
    | none => exact memory.alter_veiled supplies patch.id patch.apply_veiled

theorem flag_veiled (id : UserId) (change : User → Instant → User)
    (same : ∀ row now, change row.veiled now = (change row now).veiled) :
    (memory.veiled.alter supplies id change).1.map Option.isSome =
        (memory.alter supplies id change).1.map Option.isSome ∧
      (memory.veiled.alter supplies id change).2 = (memory.alter supplies id change).2.veiled := by
  rw [memory.alter_veiled supplies id same]
  refine ⟨?_, rfl⟩
  cases (memory.alter supplies id change).1 with
  | error failure => rfl
  | ok found => cases found <;> rfl

/-- Under the veil a memory answers as it does without. -/
theorem answer_veiled (wanted : Call) :
    memory.veiled.answer supplies wanted.veiled =
      ((memory.answer supplies wanted).1.map wanted.veilReply,
        (memory.answer supplies wanted).2.veiled) := by
  have found {x y : Option User} (same : x = y.map User.veiled) :
      ((.ok x, memory.veiled) : Except Failure (Option User) × Memory) =
        ((.ok y : Except Failure (Option User)).map (Option.map User.veiled), memory.veiled) := by
    rw [same]
    rfl
  cases wanted with
  | save new => exact memory.save_veiled supplies new
  | update patch => exact memory.update_veiled supplies patch
  | delete id =>
    obtain ⟨reply, after⟩ := memory.flag_veiled supplies id
      (fun row now => { row with deletedAt := some now }) fun _ _ => rfl
    exact Prod.ext (reply.trans (Call.flag_unveiled _).symm) after
  | changeStatus id status updateBy =>
    obtain ⟨reply, after⟩ := memory.flag_veiled supplies id
      (fun row now =>
        { row with status, updateBy := updateBy <|> row.updateBy, updatedAt := now }) fun _ _ => rfl
    exact Prod.ext (reply.trans (Call.flag_unveiled _).symm) after
  | findById id => exact found (memory.store.liveRow?_veiled id)
  | findByIdIncludingDeleted id => exact found (memory.store.row?_veiled id)
  | findByAccount account => exact found (memory.store.liveWith?_veiled fun _ => rfl)
  | findByEmail email => exact found (memory.store.liveWith?_veiled fun _ => rfl)
  | findByMobile mobile => exact found (memory.store.liveWith?_veiled fun _ => rfl)
  | list query =>
    exact congrArg (fun page : Page => (Except.ok page, memory.veiled))
      (memory.store.page_veiled query)
  | count filter =>
    exact congrArg (fun number : Nat => (Except.ok number, memory.veiled))
      (memory.store.count_veiled filter)
  | statistics scope windows =>
    exact congrArg (fun counted : Statistics => (Except.ok counted, memory.veiled))
      (memory.store.statistics_veiled scope windows)

end Memory

end UserDirectory
