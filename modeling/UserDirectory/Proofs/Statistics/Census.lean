import UserDirectory.Proofs.Statistics.Aggregate
import UserDirectory.Proofs.Statistics.Interleaved
import UserDirectory.Proofs.Time.LocalDate

/-!
The statistics as facts of the calendar. The store compares times of registration with three
instants; where no user registers in the future, that comes to asking for the local date on which
a user registered.
-/

namespace UserDirectory

open Service Program

namespace Date

def SameMonth (today date : Date) : Prop := date.year = today.year ∧ date.month = today.month

def SameWeek (today date : Date) : Prop :=
  today.weekStart ≤ date.number ∧ date.number ≤ today.weekStart + 6

instance (today date : Date) : Decidable (SameMonth today date) :=
  inferInstanceAs (Decidable (_ ∧ _))

instance (today date : Date) : Decidable (SameWeek today date) :=
  inferInstanceAs (Decidable (_ ∧ _))

theorem sameWeek_iff {today date : Date} (notLater : date ≤ today) :
    SameWeek today date ↔ today.weekStart ≤ date.number := by
  have earlier : date.number ≤ today.number := notLater
  unfold SameWeek weekStart sinceMonday
  omega

end Date

def User.registeredOn (user : User) (offset : Offset) (wanted : Date → Bool) : Bool :=
  (user.createdAt.localDate? offset).any wanted

/-- Where the dates wanted are those from a day of the calendar on, a user who did not register
after today is one of them by the local day alone. -/
theorem User.registeredOn_iff {user : User} {offset : Offset} {today : Date}
    (past : user.createdAt.localDay offset ≤ today.number) {wanted : Date → Bool} {least : Int}
    (begun : Date.first ≤ least)
    (agree : ∀ date, date ≤ today → (wanted date = true ↔ least ≤ date.number)) :
    user.registeredOn offset wanted = true ↔ least ≤ user.createdAt.localDay offset := by
  rw [User.registeredOn, Option.any_eq_true]
  constructor
  · rintro ⟨date, registered, isWanted⟩
    have number := Instant.localDate?_eq_some.1 registered
    rw [← number] at past ⊢
    exact (agree date past).1 isWanted
  · intro reached
    have within : Date.first ≤ user.createdAt.localDay offset ∧
        user.createdAt.localDay offset ≤ Date.last :=
      ⟨Int.le_trans begun reached, Int.le_trans past today.inCalendar.2⟩
    refine ⟨⟨_, within⟩, Instant.localDate?_eq_some.2 rfl, ?_⟩
    exact (agree ⟨_, within⟩ past).2 reached

def census (users : List User) (offset : Offset) (today : Date) : Statistics where
  total := users.length
  active := users.countP fun user => user.status = .enabled
  inactive := users.countP fun user => user.status = .disabled
  today := users.countP fun user => user.registeredOn offset fun date => date = today
  thisWeek := users.countP fun user => user.registeredOn offset fun date =>
    today.SameWeek date ∧ today.SameMonth date
  thisMonth := users.countP fun user => user.registeredOn offset fun date => today.SameMonth date

theorem User.registeredOn_mono {user : User} {offset : Offset} {wanted wider : Date → Bool}
    (weaken : ∀ date, wanted date = true → wider date = true)
    (registered : user.registeredOn offset wanted = true) :
    user.registeredOn offset wider = true := by
  rw [User.registeredOn, Option.any_eq_true] at registered ⊢
  obtain ⟨date, found, isWanted⟩ := registered
  exact ⟨date, found, weaken date isWanted⟩

theorem census_consistent (users : List User) (offset : Offset) (today : Date) :
    (census users offset today).Consistent where
  parts := countP_statuses users
  week := by
    apply List.countP_mono_left
    intro user _ registered
    refine User.registeredOn_mono (fun date isToday => ?_) registered
    obtain rfl : date = today := of_decide_eq_true isToday
    exact decide_eq_true ⟨(Date.sameWeek_iff (Int.le_refl _)).2 date.weekStart_le, rfl, rfl⟩
  month := by
    apply List.countP_mono_left
    intro user _ registered
    refine User.registeredOn_mono (fun date sameBoth => ?_) registered
    exact decide_eq_true (of_decide_eq_true sameBoth).2
  all := List.countP_le_length

/-- The live users of a tenant; all live users where no tenant is named, or one without a name. -/
def Store.members (store : Store) (tenantId : Option String) : List User :=
  if tenantId = none ∨ tenantId = some "" then store.live
  else store.live.filter fun user => user.tenantId = tenantId

theorem Store.selection_ofTenant (store : Store) (tenantId : Option String) :
    store.selection (.ofTenant (supplied tenantId)) = store.members tenantId := by
  cases tenantId with
  | none => exact List.filter_eq_self.2 fun _ _ => rfl
  | some tenant =>
    by_cases unnamed : tenant = ""
    · obtain rfl := unnamed
      exact List.filter_eq_self.2 fun _ _ => rfl
    · have named : supplied (some tenant) = some tenant := mem_nonEmptyText.2 ⟨rfl, unnamed⟩
      rw [named, members, if_neg (by simp [unnamed])]
      rfl

theorem Store.members_live (store : Store) {tenantId : Option String} {user : User}
    (member : user ∈ store.members tenantId) : user ∈ store.live := by
  rw [← store.selection_ofTenant] at member
  exact (List.mem_filter.1 member).1

section Past

variable {store : Store} {tenantId : Option String} {offset : Offset} {today : Date}
  (past : ∀ user ∈ store.members tenantId, user.createdAt.localDay offset ≤ today.number)
include past

/-- A period counts the users of the dates wanted where both are told by the same local days. -/
theorem Store.count_since {start : Instant} {least : Int} {wanted : Date → Bool}
    (begun : Date.first ≤ least)
    (starts : ∀ instant, start ≤ instant ↔ least ≤ instant.localDay offset)
    (agree : ∀ date, date ≤ today → (wanted date = true ↔ least ≤ date.number)) :
    store.count ((Filter.ofTenant (supplied tenantId)).createdSince start) =
      (store.members tenantId).countP fun user => user.registeredOn offset wanted := by
  rw [count_createdSince rfl, selection_ofTenant]
  apply List.countP_congr
  intro user member
  rw [decide_eq_true_iff, starts, User.registeredOn_iff (past user member) begun agree]

/-- Counted in periods that begin today, on Monday and on the first of the month, users who did not
register after today are counted by their local dates. -/
theorem Memory.statistics_eq_census {windows : Windows} (begins : windows.BeginOn today offset) :
    Memory.statistics store (.ofTenant (supplied tenantId)) windows =
      census (store.members tenantId) offset today := by
  have monthKnown := today.first_le_monthStart
  have monthBegun (date : Date) (notLater : date ≤ today) :
      today.SameMonth date ↔ today.monthStart ≤ date.number := Date.same_month_iff notLater
  have weekKnown : Date.first ≤ max today.weekStart today.monthStart :=
    Int.le_trans monthKnown (Int.le_max_right ..)
  have weekBegun (date : Date) (notLater : date ≤ today) :
      (today.SameWeek date ∧ today.SameMonth date) ↔
        max today.weekStart today.monthStart ≤ date.number := by
    rw [Date.sameWeek_iff notLater, monthBegun date notLater, Int.max_le]
  have dayBegun (date : Date) (notLater : date ≤ today) :
      date = today ↔ today.number ≤ date.number := by
    obtain ⟨number, within⟩ := date
    have earlier : number ≤ today.number := notLater
    constructor
    · rintro rfl
      exact Int.le_refl number
    · intro reached
      obtain rfl := Int.le_antisymm earlier reached
      rfl
  simp only [Memory.statistics, census, Statistics.mk.injEq]
  refine ⟨?_, ?_, ?_, ?_, ?_, ?_⟩
  · rw [Store.count, Store.selection_ofTenant]
  · rw [Store.count_withStatus rfl, Store.selection_ofTenant]
  · rw [Store.count_withStatus rfl, Store.selection_ofTenant]
  · refine Store.count_since past today.inCalendar.1 begins.today fun date notLater => ?_
    rw [decide_eq_true_iff, dayBegun date notLater]
  · refine Store.count_since past weekKnown (fun instant => ?_) fun date notLater => ?_
    · rw [begins.thisWeek, Int.max_le]
    · rw [decide_eq_true_iff, weekBegun date notLater]
  · refine Store.count_since past monthKnown begins.thisMonth fun date notLater => ?_
    rw [decide_eq_true_iff, monthBegun date notLater]

end Past

theorem getUserStatistics_result {supplies : Supplies} {memory : Memory} {now : Instant}
    (read : supplies.instant memory.usage.instants = .ok now) (hasher : Hasher) (offset : Offset)
    (tenantId : Option String) :
    ((getUserStatistics ⟨offset, .byCount⟩ tenantId).run (Memory.platform supplies hasher)
        memory).result =
      match Windows.at? now offset with
      | some windows =>
        .ok (Memory.statistics memory.store (.ofTenant (supplied tenantId)) windows)
      | none => .error .outOfCalendar := by
  let used : Memory :=
    { memory with usage := { memory.usage with instants := memory.usage.instants + 1 } }
  have clocked : clock.eval (Memory.platform supplies hasher) memory = (.ok now, used) := by
    rw [eval_clock]
    simp only [Memory.platform, Memory.readInstant, Usage.readInstant, read, used]
  change ((getUserStatistics ⟨offset, .byCount⟩ tenantId).eval (Memory.platform supplies hasher)
    memory).1 = _
  unfold getUserStatistics info
  rw [eval_bind_ok eval_event, eval_bind_ok clocked]
  cases Windows.at? now offset with
  | some windows => rfl
  | none => rfl

/-- Well inside the calendar, and with no user registered in the future, the statistics are a census
of the live users of the tenant. East of Greenwich the first month of the calendar is broken off: it
began before the first instant. -/
theorem getUserStatistics_census (supplies : Supplies) (hasher : Hasher) (memory : Memory)
    (offset : Offset) (tenantId : Option String) (now : Instant)
    (read : supplies.instant memory.usage.instants = .ok now) (inside : now.WellInside)
    (past : ∀ user ∈ memory.store.live, user.createdAt ≤ now) :
    ∃ today, now.localDate? offset = some today ∧
      ((getUserStatistics ⟨offset, .byCount⟩ tenantId).run (Memory.platform supplies hasher)
          memory).result =
        (if 0 < offset.seconds ∧ today.year = -262143 ∧ today.month = 1 then .error .outOfCalendar
        else .ok (census (memory.store.members tenantId) offset today)) ∧
      (census (memory.store.members tenantId) offset today).Consistent := by
  obtain ⟨today, here⟩ := inside.localDate offset
  have known := today.first_le_monthStart
  have east := offset.withinDay
  have notLater : ∀ user ∈ memory.store.members tenantId,
      user.createdAt.localDay offset ≤ today.number := by
    intro user member
    rw [Instant.localDate?_eq_some.1 here]
    exact Instant.localDay_mono (past user (memory.store.members_live member)) offset
  refine ⟨today, here, ?_, census_consistent ..⟩
  rw [getUserStatistics_result read]
  simp only [← today.monthStart_eq_first]
  by_cases early : today.monthStart * 86400 - offset.seconds < Date.first * 86400
  · rw [Windows.at?_eq_none here early, if_pos (by omega)]
  · obtain ⟨windows, found, begins⟩ := Windows.at?_beginOn here inside (by omega)
    rw [found, if_neg (by omega)]
    exact congrArg Except.ok (Memory.statistics_eq_census notLater begins)

def Offset.eight : Offset := ⟨28800, by decide⟩

/-- Two users who registered on the afternoon and in the evening of 1969-12-31, which eight hours
east are two dates, of one week and of two months. -/
def Store.newYear : Store :=
  let three : Instant := ⟨-32400, 0, by decide, Instant.epoch.nano_lt⟩
  let seven : Instant := ⟨-18000, 0, by decide, Instant.epoch.nano_lt⟩
  (Store.empty.put "u-1" (User.ofNew .first { account := "alice" } three)).put "u-2"
    (User.ofNew .second { account := "bob" } seven)

theorem newYear_census :
    ((getUserStatistics ⟨.eight, .byCount⟩ none).run (Memory.platform .still .plain)
      { store := .newYear }).result = .ok ⟨2, 2, 0, 1, 1, 1⟩ := by
  obtain ⟨today, here, counted, -⟩ := getUserStatistics_census .still .plain
    { store := .newYear } .eight none .epoch rfl (by decide) (by decide)
  obtain rfl : ⟨0, by decide⟩ = today := Option.some.inj here
  exact counted

def Instant.dawn : Instant :=
  ⟨(Date.first + 19) * 86400, 0, by decide, Instant.epoch.nano_lt⟩

/-- Nineteen days into the calendar there are no statistics, not even of no users. -/
theorem dawn_breaks_off :
    Instant.dawn.WellInside ∧ (∀ user ∈ Store.empty.live, user.createdAt ≤ .dawn) ∧
      ((getUserStatistics ⟨.eight, .byCount⟩ none).run
        (Memory.platform { Supplies.still with instant _ := .ok .dawn } .plain)
        .empty).result = .error .outOfCalendar :=
  ⟨by decide, by decide, rfl⟩

end UserDirectory
