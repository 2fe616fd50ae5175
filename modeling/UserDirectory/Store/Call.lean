import UserDirectory.Store.Basic
import UserDirectory.User.Statistics

/-!
The calls that user operations make on a store, and what each of them answers. A call is atomic:
nothing happens to the store while it is answered.
-/

namespace UserDirectory

inductive Call
  | save (new : NewUser)
  | update (patch : Patch)
  | delete (id : UserId)
  | findById (id : UserId)
  | findByIdIncludingDeleted (id : UserId)
  | findByAccount (account : String)
  | findByEmail (email : String)
  | findByMobile (mobile : String)
  | list (query : Query)
  | count (filter : Filter)
  | changeStatus (id : UserId) (status : Status) (updateBy : Option String)
  | statistics (scope : Filter) (windows : Windows)

namespace Call

def Reply : Call → Type
  | save _ => User
  | update _ => Option User
  | delete _ => Bool
  | findById _ => Option User
  | findByIdIncludingDeleted _ => Option User
  | findByAccount _ => Option User
  | findByEmail _ => Option User
  | findByMobile _ => Option User
  | list _ => Page
  | count _ => Nat
  | changeStatus _ _ _ => Bool
  | statistics _ _ => Statistics

def nothing? : (call : Call) → Option call.Reply
  | save _ => none
  | update _ => some (none : Option User)
  | delete _ => some false
  | findById _ => some (none : Option User)
  | findByIdIncludingDeleted _ => some (none : Option User)
  | findByAccount _ => some (none : Option User)
  | findByEmail _ => some (none : Option User)
  | findByMobile _ => some (none : Option User)
  | list query => some (⟨[], 0, query.page, query.pageSize⟩ : Page)
  | count _ => some (0 : Nat)
  | changeStatus _ _ _ => some false
  | statistics _ _ => none

def name : Call → String
  | save _ => "save"
  | update _ => "update"
  | delete _ => "delete"
  | findById _ => "find_by_id"
  | findByIdIncludingDeleted _ => "find_by_id_including_deleted"
  | findByAccount _ => "find_by_account"
  | findByEmail _ => "find_by_email"
  | findByMobile _ => "find_by_mobile"
  | list _ => "list"
  | count _ => "count"
  | changeStatus _ _ _ => "change_status"
  | statistics _ _ => "user_stats"

end Call

end UserDirectory
