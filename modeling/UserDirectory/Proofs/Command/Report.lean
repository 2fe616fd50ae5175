import UserDirectory.Command.Report
import UserDirectory.Proofs.User.Record

/-!
Results read from their own reports. Each part of a result is reported under its own name, so that
a report tells the result, but for what the records of its users leave out.
-/

namespace UserDirectory

namespace Json

def whole? : Json → Option Int
  | number value 0 => some value
  | _ => none

def natural? (json : Json) : Option Nat := json.whole?.bind Int.toNat?

def flag? : Json → Option Bool
  | bool value => some value
  | _ => none

def list? (read : Json → Option α) : Json → Option (List α)
  | array items => items.mapM read
  | _ => none

theorem list?_map {read : Json → Option β} {write : α → Json} {back : α → β}
    (reads : ∀ given, read (write given) = some (back given)) (items : List α) :
    list? read (.array (items.map write)) = some (items.map back) := by
  rw [list?, List.mapM_map]
  induction items with
  | nil => rfl
  | cons item rest ih =>
    rw [List.mapM_cons, ih, Function.comp_apply, reads]
    rfl

end Json

open Json User

def Page.ofReport? (report : Json) : Option Page := do
  let count := readRequired? natural? report.members
  some {
    users := ← readRequired? (list? User.ofJson?) report.members "users"
    total := ← count "total"
    page := ← count "page"
    pageSize := ← count "page_size" }

def Statistics.ofReport? (report : Json) : Option Statistics := do
  let count := readRequired? natural? report.members
  some {
    total := ← count "total_users"
    active := ← count "active_users"
    inactive := ← count "inactive_users"
    today := ← count "today_registered"
    thisWeek := ← count "this_week_registered"
    thisMonth := ← count "this_month_registered" }

def Tally.ofReport? (report : Json) : Option Tally := do
  let count := readRequired? natural? report.members
  some {
    succeeded := ← count "success_count"
    failed := ← count "failed_count"
    failedItems := ← readRequired? (list? readText?) report.members "failed_ids" }

theorem Page.ofReport?_report (page : Page) :
    Page.ofReport? page.report = some { page with users := page.users.map User.recorded } := by
  have users : readRequired? (list? User.ofJson?) page.report.members "users" =
      some (page.users.map User.recorded) :=
    list?_map (fun user => user.ofMembers?_record (.refl _)) page.users
  rw [ofReport?, users]
  rfl

theorem Statistics.ofReport?_report (statistics : Statistics) :
    Statistics.ofReport? statistics.report = some statistics := rfl

theorem Tally.ofReport?_report (tally : Tally) : Tally.ofReport? tally.report = some tally := by
  have items : readRequired? (list? readText?) tally.report.members "failed_ids" =
      some (tally.failedItems.map fun item => item) :=
    list?_map (fun item => (rfl : readText? (.text item) = some item)) tally.failedItems
  rw [List.map_id'] at items
  rw [ofReport?, items]
  rfl

end UserDirectory
