import UserDirectory.Time.Boundary

namespace UserDirectory

namespace Instant

theorem le_iff {a b : Instant} :
    a ≤ b ↔ a.second < b.second ∨ (a.second = b.second ∧ a.nano ≤ b.nano) := Iff.rfl

theorem le_refl (a : Instant) : a ≤ a := .inr ⟨rfl, Nat.le_refl _⟩

theorem le_trans {a b c : Instant} (first : a ≤ b) (second : b ≤ c) : a ≤ c := by
  rw [le_iff] at *
  omega

theorem le_total (a b : Instant) : a ≤ b ∨ b ≤ a := by
  rw [le_iff, le_iff]
  omega

theorem le_later (a b : Instant) : b ≤ a.later b := by
  unfold later
  split
  next sooner => exact (le_total b b).elim id id
  next notSooner => exact (le_total a b).resolve_left notSooner

theorem later_le {a b c : Instant} (left : a ≤ c) (right : b ≤ c) : a.later b ≤ c := by
  unfold later
  split
  next sooner => exact right
  next notSooner => exact left

theorem lt_iff {a b : Instant} :
    a < b ↔ a.second < b.second ∨ (a.second = b.second ∧ a.nano < b.nano) := Iff.rfl

theorem lt_trans {a b c : Instant} (first : a < b) (second : b < c) : a < c := by
  rw [lt_iff] at *
  omega

theorem lt_irrefl (a : Instant) : ¬a < a := by
  rw [lt_iff]
  omega

theorem lt_trichotomy (a b : Instant) : a < b ∨ a = b ∨ b < a := by
  by_cases same : a.second = b.second ∧ a.nano = b.nano
  · exact .inr (.inl (by cases a; cases b; cases same.1; cases same.2; rfl))
  · rw [lt_iff, lt_iff]
    omega

end Instant

theorem Date.ofNumber?_eq_some {number : Int} {date : Date}
    (made : Date.ofNumber? number = some date) : date.number = number := by
  unfold Date.ofNumber? at made
  split at made
  next within => rw [← Option.some.inj made]
  next outside => cases made

theorem Date.midnight?_eq_some {date : Date} {offset : Offset} {instant : Instant}
    (made : date.midnight? offset = some instant) :
    instant.second = date.number * 86400 - offset.seconds ∧ instant.nano = 0 := by
  unfold Date.midnight? Instant.ofSecond? Instant.make? at made
  split at made
  next valid => rw [← Option.some.inj made]; exact ⟨rfl, rfl⟩
  next invalid => cases made

theorem Date.midnight?_mono {a b : Date} (sooner : a ≤ b) {offset : Offset} {first second : Instant}
    (begins : a.midnight? offset = some first) (follows : b.midnight? offset = some second) :
    first ≤ second := by
  obtain ⟨start, still⟩ := midnight?_eq_some begins
  obtain ⟨later, quiet⟩ := midnight?_eq_some follows
  have days : a.number ≤ b.number := sooner
  rw [Instant.le_iff]
  omega

theorem Date.addDays?_le {date back : Date} {days : Int} (past : days ≤ 0)
    (made : date.addDays? days = some back) : back ≤ date := by
  have number := ofNumber?_eq_some made
  change back.number ≤ date.number
  omega

section Today

variable {now : Instant} {offset : Offset} {today : Date}
  (here : now.localDate? offset = some today)
include here

theorem Instant.startOfDay?_eq : now.startOfDay? offset = today.midnight? offset := by
  rw [startOfDay?, here]
  rfl

theorem Instant.startOfWeek?_eq :
    now.startOfWeek? offset =
      (today.addDays? (-today.sinceMonday)).bind fun day => day.midnight? offset := by
  rw [startOfWeek?, here]
  rfl

theorem Instant.startOfMonth?_eq :
    now.startOfMonth? offset =
      (today.addDays? (1 - today.day)).bind fun day => day.midnight? offset := by
  rw [startOfMonth?, here]
  rfl

end Today

/-- The periods begin at the midnights of the date, of a Monday and of a first of the month. -/
theorem Windows.at?_eq_some {now : Instant} {offset : Offset} {windows : Windows}
    (made : Windows.at? now offset = some windows) :
    ∃ (today monday first : Date) (week : Instant), now.localDate? offset = some today ∧
      today.addDays? (-today.sinceMonday) = some monday ∧
      today.addDays? (1 - today.day) = some first ∧
      today.midnight? offset = some windows.today ∧ monday.midnight? offset = some week ∧
      first.midnight? offset = some windows.thisMonth ∧
      windows.thisWeek = week.later windows.thisMonth := by
  simp only [Windows.at?, Instant.startOfMonth?, Instant.startOfWeek?, Instant.startOfDay?,
    Option.bind_eq_bind, Option.bind_eq_some_iff, Option.some.injEq] at made
  obtain ⟨month, ⟨today, here, first, back, begun⟩, week, ⟨_, here', monday, back', begun'⟩, day,
    ⟨_, here'', begun''⟩, rfl⟩ := made
  obtain rfl := Option.some.inj (here.symm.trans here')
  obtain rfl := Option.some.inj (here.symm.trans here'')
  exact ⟨today, monday, first, week, here, back', back, begun'', begun', begun, rfl⟩

theorem Windows.at?_nested {now : Instant} {offset : Offset} {windows : Windows}
    (made : Windows.at? now offset = some windows) :
    windows.thisMonth ≤ windows.thisWeek ∧ windows.thisWeek ≤ windows.today := by
  obtain ⟨today, monday, first, week, here, toMonday, toFirst, day, weekBegins, month, clamped⟩ :=
    at?_eq_some made
  have monthBack : (1 : Int) - today.day ≤ 0 := by rw [Date.day]; omega
  have weekBack : -today.sinceMonday ≤ 0 := by rw [Date.sinceMonday]; omega
  have monthSooner := Date.midnight?_mono (Date.addDays?_le monthBack toFirst) month day
  have weekSooner := Date.midnight?_mono (Date.addDays?_le weekBack toMonday) weekBegins day
  rw [clamped]
  exact ⟨week.le_later windows.thisMonth, Instant.later_le weekSooner monthSooner⟩

end UserDirectory
