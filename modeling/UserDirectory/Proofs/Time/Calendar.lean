import Mathlib.Algebra.GroupWithZero.Nat
import UserDirectory.Proofs.Time.Windows

/-!
The civil calendar. Every day lies in one year and in one month of it, so the days of a month are
those from its first day on that the calendar counts before the next month begins.
-/

namespace UserDirectory

namespace Date

theorem sum_monthLengths (year : Int) :
    (monthLengths year).sum = if IsLeap year then 366 else 365 := by
  simp only [monthLengths]
  split <;> rfl

theorem daysBeforeYear_succ (year : Int) :
    daysBeforeYear (year + 1) = daysBeforeYear year + (monthLengths year).sum := by
  rw [sum_monthLengths]
  simp only [daysBeforeYear, IsLeap]
  split <;> omega

theorem daysBeforeYear_mono {a b : Int} (sooner : a ≤ b) :
    daysBeforeYear a ≤ daysBeforeYear b := by
  simp only [daysBeforeYear]
  omega

/-- The mean length of a year gives the year of a day up to one. -/
theorem year_near (days : Int) :
    daysBeforeYear (days * 400 / 146097) ≤ days ∧
      days < daysBeforeYear (days * 400 / 146097 + 1 + 1 + 1) := by
  simp only [daysBeforeYear]
  omega

theorem yearOf_spec (number : Int) :
    daysBeforeYear (yearOf number) ≤ number + epoch ∧
      number + epoch < daysBeforeYear (yearOf number + 1) := by
  obtain ⟨least, most⟩ := year_near (number + epoch)
  unfold yearOf
  dsimp only
  split
  next early =>
    rw [Int.add_sub_cancel]
    exact ⟨least, early⟩
  next notEarly =>
    split
    next late => exact ⟨late, most⟩
    next notLate => exact ⟨Int.not_lt.1 notEarly, Int.not_le.1 notLate⟩

/-- A day lies in one year only. -/
theorem yearOf_unique {number year : Int} (begun : daysBeforeYear year ≤ number + epoch)
    (unfinished : number + epoch < daysBeforeYear (year + 1)) : yearOf number = year := by
  obtain ⟨first, last⟩ := yearOf_spec number
  have notEarlier : ¬yearOf number + 1 ≤ year := fun earlier =>
    absurd (daysBeforeYear_mono earlier) (by omega)
  have notLater : ¬year + 1 ≤ yearOf number := fun later =>
    absurd (daysBeforeYear_mono later) (by omega)
  omega

theorem splitMonths_spec {lengths : List Nat} {day : Nat} (within : day < lengths.sum) :
    ∃ length, lengths[(splitMonths lengths day).1]? = some length ∧
      (splitMonths lengths day).2 < length ∧
      (lengths.take (splitMonths lengths day).1).sum + (splitMonths lengths day).2 = day := by
  induction lengths generalizing day with
  | nil => exact absurd within (Nat.not_lt_zero day)
  | cons length rest ih =>
    rw [List.sum_cons] at within
    simp only [splitMonths]
    split
    next here => exact ⟨length, rfl, here, Nat.zero_add day⟩
    next later =>
      obtain ⟨found, place, inside, total⟩ := @ih (day - length) (by omega)
      refine ⟨found, place, inside, ?_⟩
      rw [List.take_succ_cons, List.sum_cons]
      omega

theorem splitMonths_unique {lengths : List Nat} {month length day : Nat}
    (place : lengths[month]? = some length) (inside : day < length) :
    splitMonths lengths ((lengths.take month).sum + day) = (month, day) := by
  induction lengths generalizing month with
  | nil => cases place
  | cons first rest ih =>
    cases month with
    | zero =>
      obtain rfl := Option.some.inj place
      simp [splitMonths, inside]
    | succ month =>
      rw [List.getElem?_cons_succ] at place
      have later : ¬first + (rest.take month).sum + day < first := by omega
      have shorter : first + (rest.take month).sum + day - first =
          (rest.take month).sum + day := by omega
      rw [List.take_succ_cons, List.sum_cons, splitMonths, if_neg later, shorter, ih place]

theorem daysBeforeMonth_eq (year : Int) (month : Nat) :
    daysBeforeMonth year month = ((monthLengths year).take (month - 1)).sum :=
  (List.sum_eq_foldl_nat ..).symm

/-- Year, month and day say which date it is, and the day is one of that month. -/
theorem number_eq (date : Date) :
    date.number + epoch =
      daysBeforeYear date.year + daysBeforeMonth date.year date.month + (date.day - 1) ∧
    ∃ length, (monthLengths date.year)[date.month - 1]? = some length ∧ date.day ≤ length := by
  obtain ⟨begun, unfinished⟩ : daysBeforeYear date.year ≤ date.number + epoch ∧
    date.number + epoch < daysBeforeYear (date.year + 1) := yearOf_spec date.number
  rw [daysBeforeYear_succ] at unfinished
  have within : date.dayOfYear < (monthLengths date.year).sum := by
    simp only [dayOfYear]
    omega
  obtain ⟨length, place, inside, total⟩ := splitMonths_spec within
  have counted : (date.dayOfYear : Int) = date.number + epoch - daysBeforeYear date.year := by
    simp only [dayOfYear]
    omega
  refine ⟨?_, length, place, inside⟩
  rw [daysBeforeMonth_eq, month, day, Nat.add_sub_cancel]
  omega

theorem civil_unique (date : Date) {year : Int} {month length : Nat} (day : Nat)
    (counted : date.number + epoch =
      daysBeforeYear year + daysBeforeMonth year (month + 1) + day)
    (place : (monthLengths year)[month]? = some length) (inside : day < length) :
    date.year = year ∧ date.month = month + 1 ∧ date.day = day + 1 := by
  rw [daysBeforeMonth_eq, Nat.add_sub_cancel] at counted
  have within : ((monthLengths year).take month).sum + day < (monthLengths year).sum := by
    have parts : ((monthLengths year).take month).sum + ((monthLengths year).drop month).sum =
        (monthLengths year).sum := by
      rw [← List.sum_append, List.take_append_drop]
    obtain ⟨bound, rfl⟩ := List.getElem?_eq_some_iff.1 place
    rw [List.drop_eq_getElem_cons bound, List.sum_cons] at parts
    omega
  have sameYear : date.year = year := by
    apply yearOf_unique
    · omega
    · rw [daysBeforeYear_succ]
      omega
  have sameDay : date.dayOfYear = ((monthLengths year).take month).sum + day := by
    simp only [dayOfYear, sameYear]
    omega
  refine ⟨sameYear, ?_, ?_⟩
  · rw [Date.month, sameYear, sameDay, splitMonths_unique place inside]
  · rw [Date.day, sameYear, sameDay, splitMonths_unique place inside]

theorem day_pos (date : Date) : 1 ≤ date.day := Nat.le_add_left 1 _

def monthStart (date : Date) : Int := date.number + (1 - date.day)

def weekStart (date : Date) : Int := date.number + -date.sinceMonday

theorem monthStart_le (date : Date) : date.monthStart ≤ date.number := by
  have positive := date.day_pos
  unfold monthStart
  omega

theorem weekStart_le (date : Date) : date.weekStart ≤ date.number := by
  unfold weekStart sinceMonday
  omega

theorem monthStart_congr {a b : Date} (year : a.year = b.year) (month : a.month = b.month) :
    a.monthStart = b.monthStart := by
  have countedA := a.number_eq.1
  have countedB := b.number_eq.1
  rw [year, month] at countedA
  unfold monthStart
  omega

/-- The days from the first of a month on, up to a date in it, are days of that month. -/
theorem same_month_iff {date other : Date} (notLater : other ≤ date) :
    (other.year = date.year ∧ other.month = date.month) ↔ date.monthStart ≤ other.number := by
  constructor
  · rintro ⟨year, month⟩
    rw [← monthStart_congr year month]
    exact other.monthStart_le
  · intro begun
    obtain ⟨counted, length, place, inside⟩ := date.number_eq
    have earlier : other.number ≤ date.number := notLater
    have positive := date.day_pos
    have named : date.month - 1 + 1 = date.month := rfl
    unfold monthStart at begun
    have civil := civil_unique other (other.number - date.monthStart).toNat
      (by rw [named]; unfold monthStart; omega) place (by unfold monthStart; omega)
    rw [named] at civil
    exact ⟨civil.1, civil.2.1⟩

def earliest : Date := ⟨first, by decide⟩

theorem earliest_le (date : Date) : earliest ≤ date := date.inCalendar.1

theorem earliest_monthStart : earliest.monthStart = first := by decide

theorem first_le_monthStart (date : Date) : first ≤ date.monthStart := by
  by_cases within : date.monthStart ≤ first
  · obtain ⟨year, month⟩ := (same_month_iff date.earliest_le).2 within
    exact Int.le_of_eq (earliest_monthStart.symm.trans (monthStart_congr year month))
  · omega

/-- The first month of the calendar is January of its first year. -/
theorem monthStart_eq_first (date : Date) :
    date.monthStart = first ↔ date.year = -262143 ∧ date.month = 1 := by
  have year : earliest.year = -262143 := by decide
  have month : earliest.month = 1 := by decide
  rw [← year, ← month]
  constructor
  · intro begun
    have same := (same_month_iff date.earliest_le).2 (Int.le_of_eq begun)
    exact ⟨same.1.symm, same.2.symm⟩
  · rintro ⟨sameYear, sameMonth⟩
    rw [monthStart_congr sameYear sameMonth, earliest_monthStart]

end Date

end UserDirectory
