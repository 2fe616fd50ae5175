import UserDirectory.Proofs.Service.CreationRange
import UserDirectory.Proofs.Statistics.Census
import UserDirectory.Proofs.Time.Boundary
import UserDirectory.Proofs.Time.DateText

/-!
Statistics and listings agree. The periods of the statistics begin at instants that are read off the
clock, the range of a listing at a date that is written down and read again; both come to the same
local midnight, and so to the same users.
-/

namespace UserDirectory

open Service CreationRange

theorem Date.reads_text (date : Date) :
    Reads (some (String.ofList date.text)) (some date) := by
  have read : Date.ofText? (String.ofList date.text).toList = some date := by
    rw [String.toList_ofList, Date.ofText?_text]
  refine ⟨_, mem_nonEmptyText.2 ⟨rfl, fun empty => ?_⟩, read⟩
  rw [empty] at read
  cases read

/-- A range from a date on begins at the midnight of the date, and has no end. -/
theorem CreationRange.instants_text {date : Date} {offset : Offset} {start : Instant}
    (begins : date.midnight? offset = some start) :
    instants (some (String.ofList date.text)) none offset = .ok (some start, none) := by
  have read : dates (some (String.ofList date.text)) none = .ok (some date, none) :=
    dates_eq_ok.2 ⟨date.reads_text, rfl, fun _ _ _ absent => nomatch absent⟩
  rw [instants_of_dates read]
  simp only [midnight, begins]
  rfl

/-- Every page of a listing, whatever its number and size, tells that so many users are found. -/
def Store.Finds (store : Store) (settings : Settings) (request : ListRequest) (total : Nat) :
    Prop :=
  ∀ (supplies : Supplies) (hasher : Hasher) (usage : Usage) (page pageSize : Int), ∃ shown : Page,
    ((listUsers settings { request with page, pageSize }).run (Memory.platform supplies hasher)
      { store, usage }).result = .ok shown ∧ shown.total = total

/-- A listing finds as many users as a count with its filter. -/
theorem Store.finds_count {store : Store} {settings : Settings} {request : ListRequest}
    {status : Option Status} {bounds : Option Instant × Option Instant}
    (coded : readCode Status.ofCode request.status = .ok status)
    (ranged : instants request.startDate request.endDate settings.offset = .ok bounds) :
    store.Finds settings request (store.count (request.filter status bounds)) := by
  intro supplies hasher usage page pageSize
  let query : Query :=
    ⟨request.filter status bounds, Paging.page page, Paging.size pageSize⟩
  refine ⟨store.page query, ?_, rfl⟩
  change ((listUsers settings { request with page, pageSize }).eval
    (Memory.platform supplies hasher) { store, usage }).1 = _
  rw [listUsers_eval]
  simp only [coded, ranged]
  rfl

section Tenant

variable {store : Store} {settings : Settings} {tenantId : Option String}

theorem Store.finds_members :
    store.Finds settings { tenantId } (store.count (.ofTenant (supplied tenantId))) :=
  @finds_count store settings { tenantId } none (none, none) rfl rfl

theorem Store.finds_withStatus (status : Status) :
    store.Finds settings { tenantId, status := some status.code }
      (store.count ((Filter.ofTenant (supplied tenantId)).withStatus status)) :=
  @finds_count store settings { tenantId, status := some status.code } (some status) (none, none)
    (congrArg (Except.map some) (Status.ofCode_eq_ok.2 rfl)) rfl

theorem Store.finds_createdSince {date : Date} {start : Instant}
    (begins : date.midnight? settings.offset = some start) :
    store.Finds settings { tenantId, startDate := some (String.ofList date.text) }
      (store.count ((Filter.ofTenant (supplied tenantId)).createdSince start)) :=
  @finds_count store settings { tenantId, startDate := some (String.ofList date.text) } none
    (some start, none) rfl (instants_text begins)

end Tenant

/-- The statistics of a tenant and the listings of its users count the same users: all of them,
those of either status, and those who registered from today on and from the first of the month on,
the dates written down. East of UTC there are no statistics in the first month of the calendar. -/
theorem getUserStatistics_listed (supplies : Supplies) (hasher : Hasher) (memory : Memory)
    (offset : Offset) (tenantId : Option String) (now : Instant)
    (read : supplies.instant memory.usage.instants = .ok now) (inside : now.WellInside) :
    let settings : Settings := ⟨offset, .byCount⟩
    let counted := ((getUserStatistics settings tenantId).run (Memory.platform supplies hasher)
      memory).result
    let finds := memory.store.Finds settings
    ∃ today first : Date, now.localDate? offset = some today ∧
      (first.year = today.year ∧ first.month = today.month ∧ first.day = 1) ∧
      if 0 < offset.seconds ∧ today.year = -262143 ∧ today.month = 1 then
        counted = .error .outOfCalendar
      else ∃ statistics, counted = .ok statistics ∧
        finds { tenantId } statistics.total ∧
        finds { tenantId, status := some 1 } statistics.active ∧
        finds { tenantId, status := some 0 } statistics.inactive ∧
        finds { tenantId, startDate := some (String.ofList today.text) } statistics.today ∧
        finds { tenantId, startDate := some (String.ofList first.text) }
          statistics.thisMonth := by
  intro settings counted finds
  obtain ⟨today, here⟩ := inside.localDate offset
  obtain ⟨first, toFirst, -, civil⟩ := today.exists_first
  refine ⟨today, first, here, civil, ?_⟩
  have known := today.first_le_monthStart
  have east := offset.withinDay
  have result : counted = _ := getUserStatistics_result read hasher offset tenantId
  split
  next early =>
    have broken := today.monthStart_eq_first.2 early.2
    rw [result, Windows.at?_eq_none here (by omega)]
  next notEarly =>
    have begun : ¬(today.monthStart = Date.first ∧ 0 < offset.seconds) := fun ⟨broken, east⟩ =>
      notEarly ⟨east, today.monthStart_eq_first.1 broken⟩
    obtain ⟨windows, found, -⟩ := Windows.at?_beginOn here inside (by omega)
    obtain ⟨today', monday, first', week, here', -, toFirst', day, -, month, -⟩ :=
      Windows.at?_eq_some found
    obtain rfl := Option.some.inj (here.symm.trans here')
    obtain rfl := Option.some.inj (toFirst.symm.trans toFirst')
    rw [found] at result
    exact ⟨_, result, Store.finds_members, Store.finds_withStatus .enabled,
      Store.finds_withStatus .disabled, Store.finds_createdSince day,
      Store.finds_createdSince month⟩

theorem newYear_listed :
    let finds := Store.newYear.Finds ⟨.eight, .byCount⟩
    finds {} 2 ∧ finds { status := some 1 } 2 ∧ finds { status := some 0 } 0 ∧
      finds { startDate := some "1970-01-01" } 1 := by
  intro finds
  obtain ⟨today, first, here, -, agree⟩ := getUserStatistics_listed .still .plain
    { store := .newYear } .eight none .epoch rfl (by decide)
  obtain rfl : ⟨0, by decide⟩ = today := Option.some.inj here
  rw [if_neg (by decide)] at agree
  obtain ⟨statistics, counted, all, active, inactive, since, -⟩ := agree
  obtain rfl : ⟨2, 2, 0, 1, 1, 1⟩ = statistics := Except.ok.inj counted
  exact ⟨all, active, inactive, since⟩

/-- Nineteen days into the calendar, eight hours east, the listing finds no users, but none are
counted. -/
theorem dawn_listed :
    Instant.dawn.WellInside ∧ Store.empty.Finds ⟨.eight, .byCount⟩ {} 0 ∧
      ((getUserStatistics ⟨.eight, .byCount⟩ none).run
        (Memory.platform { Supplies.still with instant _ := .ok .dawn } .plain)
        .empty).result = .error .outOfCalendar :=
  ⟨by decide, Store.finds_members, rfl⟩

end UserDirectory
