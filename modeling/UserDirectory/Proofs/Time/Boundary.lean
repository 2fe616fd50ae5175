import UserDirectory.Proofs.Time.LocalDate

/-!
Where local days, weeks and months begin. Each boundary is the one instant at which the clocks of an
offset show midnight on a date: today, the Monday before, or the first of the month. They lead up to
the present, depend on the local date alone, and move with it. The first month of the calendar is
the exception: east of UTC it began before the first instant.
-/

namespace UserDirectory

/-- The clocks at an offset show midnight, and a date begins. -/
structure Instant.Begins (start : Instant) (date : Date) (offset : Offset) : Prop where
  onDate : start.localDate? offset = some date
  midnight : (start.second + offset.seconds) % 86400 = 0
  whole : start.nano = 0

namespace Date

theorem midnight?_eq_some_iff {date : Date} {offset : Offset} {start : Instant} :
    date.midnight? offset = some start ↔ start.Begins date offset := by
  constructor
  · intro begins
    obtain ⟨second, still⟩ := midnight?_eq_some begins
    have day : start.second + offset.seconds = date.number * 86400 := by omega
    refine ⟨Instant.localDate?_eq_some.2 ?_, by omega, still⟩
    rw [Instant.localDay, day]
    omega
  · rintro ⟨onDate, midnight, whole⟩
    have number := Instant.localDate?_eq_some.1 onDate
    obtain ⟨second, nano, within, least⟩ := start
    obtain rfl : nano = 0 := whole
    have day : date.number * 86400 - offset.seconds = second := by
      rw [Instant.localDay] at number
      dsimp only at number midnight
      omega
    rw [midnight?, day]
    exact dif_pos ⟨within, least⟩

/-- A date begins at no other instant. -/
theorem begins_iff {date : Date} {offset : Offset} {start : Instant}
    (begins : date.midnight? offset = some start) (instant : Instant) :
    instant.Begins date offset ↔ instant = start := by
  rw [← midnight?_eq_some_iff, begins, Option.some.injEq, eq_comm]

theorem exists_first (date : Date) :
    ∃ first, date.addDays? (1 - date.day) = some first ∧ first.number = date.monthStart ∧
      first.year = date.year ∧ first.month = date.month ∧ first.day = 1 := by
  obtain ⟨counted, length, place, inside⟩ := date.number_eq
  have positive := date.day_pos
  have earlier := date.monthStart_le
  have known := date.first_le_monthStart
  have within : Date.first ≤ date.monthStart ∧ date.monthStart ≤ Date.last :=
    ⟨known, Int.le_trans earlier date.inCalendar.2⟩
  have named : date.month - 1 + 1 = date.month := rfl
  have begun : date.monthStart + epoch =
      daysBeforeYear date.year + daysBeforeMonth date.year (date.month - 1 + 1) + (0 : Nat) := by
    rw [named]
    unfold monthStart
    omega
  have civil := civil_unique ⟨date.monthStart, within⟩ 0 begun place (by omega)
  exact ⟨⟨date.monthStart, within⟩, dif_pos within, rfl, civil⟩

theorem exists_monday {date : Date} (room : Date.first + 6 ≤ date.number) :
    ∃ monday, date.addDays? (-date.sinceMonday) = some monday ∧ monday.number = date.weekStart ∧
      monday.sinceMonday = 0 ∧ monday ≤ date ∧ date.number ≤ monday.number + 6 := by
  have latest := date.inCalendar.2
  have within : Date.first ≤ date.weekStart ∧ date.weekStart ≤ Date.last := by
    simp only [Date.first, Date.last, weekStart, sinceMonday] at *
    omega
  have monday : (⟨date.weekStart, within⟩ : Date).sinceMonday = 0 := by
    simp only [weekStart, sinceMonday]
    omega
  have recent : date.number ≤ date.weekStart + 6 := by
    simp only [weekStart, sinceMonday]
    omega
  exact ⟨⟨date.weekStart, within⟩, dif_pos within, rfl, monday, date.weekStart_le, recent⟩

theorem weekStart_mono {a b : Date} (sooner : a ≤ b) : a.weekStart ≤ b.weekStart := by
  have days : a.number ≤ b.number := sooner
  unfold weekStart sinceMonday
  omega

theorem monthStart_mono {a b : Date} (sooner : a ≤ b) : a.monthStart ≤ b.monthStart := by
  by_cases begun : b.monthStart ≤ a.number
  · obtain ⟨year, month⟩ := (same_month_iff sooner).2 begun
    exact Int.le_of_eq (monthStart_congr year month)
  · have earlier := a.monthStart_le
    omega

/-- Only the first of the days can lack a midnight. -/
theorem exists_begins (date : Date) (offset : Offset)
    (inside : ¬(date = earliest ∧ 0 < offset.seconds)) :
    ∃ start, date.midnight? offset = some start :=
  Option.ne_none_iff_exists'.1 fun missing => inside (midnight?_eq_none_iff.1 missing)

theorem exists_begins_later {date : Date} (later : first < date.number) (offset : Offset) :
    ∃ start, date.midnight? offset = some start := by
  apply date.exists_begins offset
  intro early
  rw [early.1] at later
  exact absurd later (Int.lt_irrefl first)

end Date

namespace Instant

theorem later_mono {a b c d : Instant} (left : a ≤ c) (right : b ≤ d) :
    a.later b ≤ c.later d := by
  obtain ⟨first, second⟩ := later_le_iff.1 ((le_total (c.later d) (c.later d)).elim id id)
  exact later_le (le_trans left first) (le_trans right second)

theorem addMillis?_day {instant : Instant} (whole : instant.nano = 0) :
    instant.addMillis? 86400000 = ofSecond? (instant.second + 86400) := by
  have seconds : Int.tdiv 86400000 1000 = 86400 := rfl
  have nanos : Int.tmod 86400000 1000 * 1000000 = 0 := rfl
  unfold addMillis?
  simp only [seconds, nanos, whole]
  rfl

/-- The day of an instant, leap seconds included, ends after it: twenty-four hours after it began,
the local date is another. -/
theorem exists_tomorrow {now day : Instant} {today : Date} {offset : Offset}
    (inside : now.WellInside) (here : now.localDate? offset = some today)
    (begins : today.midnight? offset = some day) :
    day ≤ now ∧ ∃ tomorrow, day.addMillis? 86400000 = some tomorrow ∧ now < tomorrow := by
  have number := localDate?_eq_some.1 here
  obtain ⟨second, still⟩ := Date.midnight?_eq_some begins
  have late := inside.2
  have early := day.inCalendar.1
  unfold localDay at number
  simp only [Date.first, Date.last] at late early
  have valid : (Date.first * 86400 ≤ day.second + 86400 ∧
      day.second + 86400 < (Date.last + 1) * 86400) ∧
      0 < 2000000000 := by
    simp only [Date.first, Date.last]
    omega
  have ends : day.addMillis? 86400000 =
      some ⟨day.second + 86400, 0, valid.1, valid.2⟩ :=
    (addMillis?_day still).trans (dif_pos valid)
  refine ⟨(Date.midnight?_le_iff begins now).2 (Int.le_of_eq number), _, ends, ?_⟩
  rw [lt_iff]
  dsimp only
  omega

end Instant

namespace Windows

structure NoLater (a b : Windows) : Prop where
  today : a.today ≤ b.today
  thisWeek : a.thisWeek ≤ b.thisWeek
  thisMonth : a.thisMonth ≤ b.thisMonth

/-- On one local date the periods stay the same. -/
theorem at?_congr {a b : Instant} {offset : Offset} {today : Date}
    (first : a.localDate? offset = some today) (second : b.localDate? offset = some today) :
    Windows.at? a offset = Windows.at? b offset := by
  simp only [Windows.at?, Instant.startOfMonth?, Instant.startOfWeek?, Instant.startOfDay?, first,
    second]

/-- As the clock moves on, so do the periods. -/
theorem at?_mono {earlier later : Instant} {offset : Offset} {a b : Windows}
    (sooner : earlier ≤ later) (first : Windows.at? earlier offset = some a)
    (second : Windows.at? later offset = some b) : a.NoLater b := by
  obtain ⟨today, monday, start, week, here, toMonday, toStart, day, weekBegins, month, clamped⟩ :=
    at?_eq_some first
  obtain ⟨today', monday', start', week', here', toMonday', toStart', day', weekBegins', month',
    clamped'⟩ := at?_eq_some second
  have days : today ≤ today' := by
    change today.number ≤ today'.number
    rw [Instant.localDate?_eq_some.1 here, Instant.localDate?_eq_some.1 here']
    exact Instant.localDay_mono sooner offset
  have mondays : monday ≤ monday' := by
    change monday.number ≤ monday'.number
    rw [Date.ofNumber?_eq_some toMonday, Date.ofNumber?_eq_some toMonday']
    exact Date.weekStart_mono days
  have starts : start ≤ start' := by
    change start.number ≤ start'.number
    rw [Date.ofNumber?_eq_some toStart, Date.ofNumber?_eq_some toStart']
    exact Date.monthStart_mono days
  have months := Date.midnight?_mono starts month month'
  refine ⟨Date.midnight?_mono days day day', ?_, months⟩
  rw [clamped, clamped']
  exact Instant.later_mono (Date.midnight?_mono mondays weekBegins weekBegins') months

/-- The boundaries of a reading of the clock well inside the calendar. Day, week and month begin at
the one local midnight of the date, of the Monday before it and of the first of its month; the
periods nest and end in the present, depend on the local date alone and move with the clock. East of
UTC the first month of the calendar began before the first instant, and so has no beginning. -/
theorem at?_boundaries (now : Instant) (offset : Offset) (inside : now.WellInside) :
    ∃ (today monday first : Date) (day week : Instant),
      now.localDate? offset = some today ∧
      (monday.sinceMonday = 0 ∧ monday ≤ today ∧ today.number ≤ monday.number + 6) ∧
      (first.year = today.year ∧ first.month = today.month ∧ first.day = 1) ∧
      (now.startOfDay? offset = some day ∧
        ∀ instant, instant.Begins today offset ↔ instant = day) ∧
      (now.startOfWeek? offset = some week ∧
        ∀ instant, instant.Begins monday offset ↔ instant = week) ∧
      (∀ other, other.localDate? offset = some today →
        Windows.at? other offset = Windows.at? now offset) ∧
      if 0 < offset.seconds ∧ today.year = -262143 ∧ today.month = 1 then
        now.startOfMonth? offset = none ∧ Windows.at? now offset = none
      else ∃ (month tomorrow : Instant) (windows : Windows),
        (now.startOfMonth? offset = some month ∧
          ∀ instant, instant.Begins first offset ↔ instant = month) ∧
        (Windows.at? now offset = some windows ∧
          windows = ⟨day, week.later month, month⟩) ∧
        (windows.thisMonth ≤ windows.thisWeek ∧ windows.thisWeek ≤ windows.today ∧
          windows.today ≤ now) ∧
        (windows.today.addMillis? 86400000 = some tomorrow ∧ now < tomorrow) ∧
        ∀ other later, now ≤ other → Windows.at? other offset = some later →
          windows.NoLater later := by
  obtain ⟨today, here⟩ := inside.localDate offset
  have number := Instant.localDate?_eq_some.1 here
  have room : Date.first + 7 ≤ today.number := by
    have early := inside.1
    have within := offset.withinDay
    simp only [Date.first, Instant.localDay] at *
    omega
  obtain ⟨monday, toMonday, mondayIs, isMonday, before, recent⟩ :=
    today.exists_monday (by omega)
  obtain ⟨first, toFirst, firstIs, year, month, isFirst⟩ := today.exists_first
  obtain ⟨day, dayBegins⟩ := today.exists_begins_later (by omega) offset
  obtain ⟨week, weekBegins⟩ := monday.exists_begins_later (by omega) offset
  have startOfDay := (Instant.startOfDay?_eq here).trans dayBegins
  have startOfWeek := Instant.startOfWeek?_eq here
  rw [toMonday, Option.bind_some, weekBegins] at startOfWeek
  have startOfMonth := Instant.startOfMonth?_eq here
  rw [toFirst, Option.bind_some] at startOfMonth
  refine ⟨today, monday, first, day, week, here, ⟨isMonday, before, recent⟩, ⟨year, month, isFirst⟩,
    ⟨startOfDay, Date.begins_iff dayBegins⟩, ⟨startOfWeek, Date.begins_iff weekBegins⟩,
    fun other there => ?_, ?_⟩
  · exact at?_congr there here
  have broken : first = .earliest ↔ today.year = -262143 ∧ today.month = 1 := by
    rw [← Date.monthStart_eq_first, ← firstIs]
    exact ⟨fun same => by rw [same]; rfl, fun same => Date.eq_of_number same⟩
  split
  next early =>
    have missing : first.midnight? offset = none :=
      Date.midnight?_eq_none_iff.2 ⟨broken.2 early.2, early.1⟩
    rw [← startOfMonth] at missing
    exact ⟨missing, by rw [Windows.at?, missing]; rfl⟩
  next notEarly =>
    have begun : ¬(first = .earliest ∧ 0 < offset.seconds) := by
      intro early
      exact notEarly ⟨early.2, broken.1 early.1⟩
    obtain ⟨start, begins⟩ := first.exists_begins offset begun
    have found : Windows.at? now offset = some ⟨day, week.later start, start⟩ := by
      simp only [Windows.at?, startOfMonth, begins, startOfWeek, startOfDay, Option.bind_eq_bind,
        Option.bind_some]
    obtain ⟨nested, nested'⟩ := Windows.at?_nested found
    obtain ⟨begun, tomorrow, ends, unfinished⟩ := Instant.exists_tomorrow inside here dayBegins
    exact ⟨start, tomorrow, _, ⟨startOfMonth.trans begins, Date.begins_iff begins⟩, ⟨found, rfl⟩,
      ⟨nested, nested', begun⟩, ⟨ends, unfinished⟩,
      fun other later sooner made => at?_mono sooner found made⟩

end Windows

def Offset.minute : Offset := ⟨60, by decide⟩

def Instant.leap : Instant := ⟨1483228799, 1500000000, by decide, by decide⟩

/-- One minute east the leap second belongs to the first minute of 2017, a Sunday: day, month and
the counted part of the week had all begun a minute before. -/
theorem Windows.at?_boundaries_leap :
    let start : Instant := ⟨1483228740, 0, by decide, Instant.epoch.nano_lt⟩
    Instant.leap.WellInside ∧ Windows.at? .leap .minute = some ⟨start, start, start⟩ ∧
      start ≤ .leap ∧ ∃ tomorrow, start.addMillis? 86400000 = some tomorrow ∧ .leap < tomorrow := by
  obtain ⟨today, monday, first, day, week, here, -, -, -, -, -, periods⟩ :=
    at?_boundaries .leap .minute (by decide)
  obtain rfl : ⟨17167, by decide⟩ = today := Option.some.inj here
  rw [if_neg (by decide)] at periods
  obtain ⟨month, tomorrow, windows, -, ⟨found, -⟩, ⟨-, -, begun⟩, ends, -⟩ := periods
  cases found
  exact ⟨by decide, rfl, begun, tomorrow, ends⟩

def Instant.firstNoon : Instant :=
  ⟨(Date.first + 30) * 86400 + 43200, 0, by decide, Instant.epoch.nano_lt⟩

/-- Thirty days into the calendar, one minute east, the month has no beginning. -/
theorem Windows.none_at_firstNoon :
    Instant.firstNoon.WellInside ∧ Instant.firstNoon.startOfMonth? .minute = none ∧
      Windows.at? .firstNoon .minute = none :=
  ⟨by decide, rfl, rfl⟩

end UserDirectory
