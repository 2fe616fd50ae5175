import UserDirectory.User.Filter
import UserDirectory.User.Page
import UserDirectory.User.Patch

/-!
The store in memory: rows under keys, in the order in which they were added. Deleted rows stay and
are marked. No two live rows share an account, a non-empty email or a non-empty mobile number.
-/

namespace UserDirectory

structure Claimed where
  account : Option String
  email : Option String
  mobile : Option String

def nonEmptyText (value : Option String) : Option String := value.filter fun text => !text.isEmpty

def NewUser.claimed (new : NewUser) : Claimed :=
  ⟨some new.account, nonEmptyText new.email, nonEmptyText new.mobile⟩

def Patch.claimed (patch : Patch) : Claimed :=
  ⟨none, nonEmptyText patch.email, nonEmptyText patch.mobile⟩

structure Store where
  entries : List (String × User) := []
  /-- No key is there twice. -/
  distinct : (entries.map Prod.fst).Nodup := by simp
deriving DecidableEq

namespace Store

def keys (store : Store) : List String := store.entries.map Prod.fst

def rows (store : Store) : List User := store.entries.map Prod.snd

def row? (store : Store) (id : UserId) : Option User := store.entries.lookup id.text

def liveRow? (store : Store) (id : UserId) : Option User :=
  (store.row? id).filter fun row => row.IsLive

def live (store : Store) : List User := store.rows.filter fun row => row.IsLive

def liveWith? (store : Store) (wanted : User → Bool) : Option User := store.live.find? wanted

/-- Puts a row under a key: in the place of the row that is there, else behind all others. -/
def put (store : Store) (key : String) (row : User) : Store where
  entries :=
    if key ∈ store.keys then
      store.entries.map fun entry => if entry.1 = key then (key, row) else entry
    else store.entries ++ [(key, row)]
  distinct := by
    split
    next present =>
      have same : (fun entry : String × User => (if entry.1 = key then (key, row) else entry).1) =
          Prod.fst := by
        funext entry
        split
        next here => exact here.symm
        next elsewhere => rfl
      rw [List.map_map, Function.comp_def, same]
      exact store.distinct
    next absent =>
      rw [List.map_append]
      refine List.nodup_append.2 ⟨store.distinct, by simp, ?_⟩
      intro known member key' added same
      have equal : known = key := same.trans (List.mem_singleton.1 added)
      exact absent (equal ▸ member)

def others (store : Store) (owner : Option UserId) : List User :=
  store.live.filter fun row => some row.id ≠ owner

/-- The first unique field, in the order account, email, mobile, whose claimed value another live
row holds, with that value. -/
def conflict? (store : Store) (owner : Option UserId) (claimed : Claimed) :
    Option (UniqueField × String) :=
  let taken (field : UniqueField) (holds : User → String → Bool) (value : Option String) :=
    (value.filter fun text => (store.others owner).any fun row => holds row text).map (field, ·)
  taken .account (fun row text => row.account = text) claimed.account <|>
  taken .email (fun row text => row.email = some text) claimed.email <|>
  taken .mobile (fun row text => row.mobile = some text) claimed.mobile

def selection (store : Store) (filter : Filter) : List User := store.live.filter filter.selects

def count (store : Store) (filter : Filter) : Nat := (store.selection filter).length

/-- The order of listings: newest first, and the greater id first among users of one instant. -/
def precedes (a b : User) : Bool :=
  b.createdAt < a.createdAt || (a.createdAt = b.createdAt && b.id.text ≤ a.id.text)

def page (store : Store) (query : Query) : Page :=
  let selected := store.selection query.filter
  { users := ((selected.mergeSort precedes).drop query.skip).take query.limit
    total := selected.length
    page := query.page
    pageSize := query.pageSize }

end Store

end UserDirectory
