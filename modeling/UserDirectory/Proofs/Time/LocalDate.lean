import UserDirectory.Proofs.Time.Calendar

/-!
Local dates and the midnights that begin them. An instant lies in a period that begins at a local
midnight exactly if its local day is not before the date of that midnight, leap seconds included.
-/

namespace UserDirectory

namespace Instant

def localDay (instant : Instant) (offset : Offset) : Int :=
  (instant.second + offset.seconds) / 86400

theorem localDay_mono {a b : Instant} (sooner : a ≤ b) (offset : Offset) :
    a.localDay offset ≤ b.localDay offset := by
  rw [le_iff] at sooner
  unfold localDay
  omega

theorem localDate?_eq_some {instant : Instant} {offset : Offset} {date : Date} :
    instant.localDate? offset = some date ↔ date.number = instant.localDay offset := by
  constructor
  · exact Date.ofNumber?_eq_some
  · intro same
    obtain ⟨number, within⟩ := date
    obtain rfl : number = instant.localDay offset := same
    exact dif_pos within

/-- At least eight days from either end of the calendar. -/
def WellInside (now : Instant) : Prop :=
  (Date.first + 8) * 86400 ≤ now.second ∧ now.second ≤ (Date.last - 7) * 86400

instance (now : Instant) : Decidable now.WellInside := inferInstanceAs (Decidable (_ ∧ _))

theorem WellInside.localDate {now : Instant} (inside : now.WellInside) (offset : Offset) :
    ∃ today, now.localDate? offset = some today := by
  obtain ⟨begun, unfinished⟩ := inside
  have east := offset.withinDay
  simp only [Date.first, Date.last] at begun unfinished
  exact ⟨⟨now.localDay offset, by unfold localDay; omega⟩, localDate?_eq_some.2 rfl⟩

theorem not_le {a b : Instant} : ¬a ≤ b ↔ b < a := by
  rw [le_iff, lt_iff]
  omega

theorem later_le_iff {a b c : Instant} : a.later b ≤ c ↔ a ≤ c ∧ b ≤ c := by
  constructor
  · intro both
    refine ⟨?_, le_trans (le_later a b) both⟩
    unfold later at both
    split at both
    next sooner => exact le_trans sooner both
    next notSooner => exact both
  · rintro ⟨left, right⟩
    exact later_le left right

end Instant

namespace Date

/-- A local midnight lies before every instant of its day and of the days after it. -/
theorem midnight?_le_iff {date : Date} {offset : Offset} {start : Instant}
    (begins : date.midnight? offset = some start) (instant : Instant) :
    start ≤ instant ↔ date.number ≤ instant.localDay offset := by
  obtain ⟨second, still⟩ := midnight?_eq_some begins
  rw [Instant.le_iff]
  unfold Instant.localDay
  omega

theorem exists_midnight {date : Date} {offset : Offset}
    (begun : first * 86400 ≤ date.number * 86400 - offset.seconds)
    (unfinished : date.number * 86400 - offset.seconds < (last + 1) * 86400) :
    ∃ start, date.midnight? offset = some start ∧
      ∀ instant, start ≤ instant ↔ date.number ≤ instant.localDay offset := by
  have begins : ∃ start, date.midnight? offset = some start :=
    ⟨_, dif_pos ⟨⟨begun, unfinished⟩, by decide⟩⟩
  obtain ⟨start, begins⟩ := begins
  exact ⟨start, begins, midnight?_le_iff begins⟩

theorem exists_midnight_before {date : Date} {days : Int} {offset : Offset} (past : days ≤ 0)
    (begun : first * 86400 ≤ (date.number + days) * 86400 - offset.seconds)
    (unfinished : date.number * 86400 - offset.seconds < (last + 1) * 86400) :
    ∃ start, ((date.addDays? days).bind fun day => day.midnight? offset) = some start ∧
      ∀ instant, start ≤ instant ↔ date.number + days ≤ instant.localDay offset := by
  have east := offset.withinDay
  have within : first ≤ date.number + days ∧ date.number + days ≤ last := by
    have known := date.inCalendar
    simp only [first, last] at *
    omega
  have made : date.addDays? days = some ⟨date.number + days, within⟩ := dif_pos within
  rw [made, Option.bind_some]
  exact exists_midnight begun (by dsimp only; omega)

theorem midnight?_eq_none {date : Date} {offset : Offset}
    (early : date.number * 86400 - offset.seconds < first * 86400) :
    date.midnight? offset = none :=
  dif_neg fun valid => absurd valid.1.1 (by omega)

def latest : Date := ⟨last, by decide⟩

theorem eq_of_number {a b : Date} (same : a.number = b.number) : a = b := by
  cases a
  cases b
  cases same
  rfl

/-- Offsets are less than a day, so only the first of all days can begin outside the calendar. -/
theorem midnight?_eq_none_iff {date : Date} {offset : Offset} :
    date.midnight? offset = none ↔ date = earliest ∧ 0 < offset.seconds := by
  have known := date.inCalendar
  have within := offset.withinDay
  constructor
  · intro missing
    have early : date.number * 86400 - offset.seconds < first * 86400 := by
      refine Int.not_le.1 fun begun => ?_
      obtain ⟨start, begins, -⟩ := exists_midnight begun (by simp only [last]; omega)
      rw [begins] at missing
      cases missing
    simp only [first] at early
    exact ⟨eq_of_number (by simp only [earliest, first]; omega), by omega⟩
  · rintro ⟨rfl, east⟩
    exact midnight?_eq_none (by simp only [earliest]; omega)

theorem addDays?_one_eq_none_iff {date : Date} : date.addDays? 1 = none ↔ date = latest := by
  have known := date.inCalendar
  unfold addDays? ofNumber?
  constructor
  · intro missing
    split at missing
    next within => cases missing
    next outside =>
      simp only [first, last] at outside
      exact eq_of_number (by simp only [latest, last]; omega)
  · rintro rfl
    exact dif_neg (by decide)

end Date

/-- The periods that begin on a date, on the Monday before it and on the first of its month, the
week not before the month, told by the local days of the instants in them. -/
structure Windows.BeginOn (windows : Windows) (date : Date) (offset : Offset) : Prop where
  today : ∀ instant, windows.today ≤ instant ↔ date.number ≤ instant.localDay offset
  thisWeek : ∀ instant, windows.thisWeek ≤ instant ↔
    date.weekStart ≤ instant.localDay offset ∧ date.monthStart ≤ instant.localDay offset
  thisMonth : ∀ instant, windows.thisMonth ≤ instant ↔ date.monthStart ≤ instant.localDay offset

section Today

variable {now : Instant} {offset : Offset} {today : Date}
  (here : now.localDate? offset = some today)
include here

/-- There are such periods if the month has begun in the calendar. -/
theorem Windows.at?_beginOn (inside : now.WellInside)
    (begun : Date.first * 86400 ≤ today.monthStart * 86400 - offset.seconds) :
    ∃ windows, Windows.at? now offset = some windows ∧ windows.BeginOn today offset := by
  have number : today.number = now.localDay offset := Instant.localDate?_eq_some.1 here
  have unfinished : today.number * 86400 - offset.seconds < (Date.last + 1) * 86400 := by
    have late := inside.2
    simp only [Date.last, Instant.localDay] at *
    omega
  have weekBegun : Date.first * 86400 ≤ today.weekStart * 86400 - offset.seconds := by
    have early := inside.1
    simp only [Date.first, Date.weekStart, Date.sinceMonday, Instant.localDay] at *
    omega
  have monthBack := today.monthStart_le
  have weekBack := today.weekStart_le
  obtain ⟨day, dayBegins, day_le⟩ := Date.exists_midnight (by omega) unfinished
  obtain ⟨week, weekBegins, week_le⟩ :=
    Date.exists_midnight_before (by unfold Date.weekStart at weekBack; omega) weekBegun unfinished
  obtain ⟨month, monthBegins, month_le⟩ :=
    Date.exists_midnight_before (by unfold Date.monthStart at monthBack; omega) begun unfinished
  refine ⟨⟨day, week.later month, month⟩, ?_, day_le, fun instant => ?_, month_le⟩
  · simp only [Windows.at?, Instant.startOfMonth?_eq here, Instant.startOfWeek?_eq here,
      Instant.startOfDay?_eq here, dayBegins, weekBegins, monthBegins, Option.bind_eq_bind,
      Option.bind_some]
  · rw [Instant.later_le_iff, week_le, month_le]
    rfl

theorem Windows.at?_eq_none
    (early : today.monthStart * 86400 - offset.seconds < Date.first * 86400) :
    Windows.at? now offset = none := by
  have noMonth :
      ((today.addDays? (1 - today.day)).bind fun day => day.midnight? offset) = none := by
    rw [Option.bind_eq_none_iff]
    intro day made
    apply Date.midnight?_eq_none
    rw [Date.ofNumber?_eq_some made]
    exact early
  rw [Windows.at?, Instant.startOfMonth?_eq here, noMonth]
  rfl

end Today

end UserDirectory
