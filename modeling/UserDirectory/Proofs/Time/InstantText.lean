import UserDirectory.Proofs.Time.DateText
import UserDirectory.Time.InstantText

/-!
Instants written and read back. The fraction is cut only where nothing but zeros is lost, and the
sixtieth second is written for leap seconds at the end of a minute alone. A second that is carried on
elsewhere is written like the second after it, and that one is read.
-/

namespace UserDirectory.Instant

open Text

theorem make?_eq (instant : Instant) : make? instant.second instant.nano = some instant :=
  dif_pos ⟨instant.inCalendar, instant.nano_lt⟩

/-- Whether a second is carried on though it does not end its minute. -/
def CarriedWithin (instant : Instant) : Prop :=
  1000000000 ≤ instant.nano ∧ instant.second % 60 ≠ 59

instance (instant : Instant) : Decidable instant.CarriedWithin :=
  inferInstanceAs (Decidable (_ ∧ _))

/-- The instant that the text of an instant names. -/
def written (instant : Instant) : Instant :=
  if within : instant.CarriedWithin then
    { second := instant.second + 1
      nano := instant.nano - 1000000000
      inCalendar := by
        obtain ⟨-, notEnd⟩ := within
        have bounds := instant.inCalendar
        simp only [Date.first, Date.last] at bounds ⊢
        omega
      nano_lt := by
        have least := instant.nano_lt
        omega }
  else instant

theorem written_of_carried {instant : Instant} (within : instant.CarriedWithin) :
    instant.written.second = instant.second + 1 ∧
      instant.written.nano = instant.nano - 1000000000 := by
  rw [written, dif_pos within]
  exact ⟨rfl, rfl⟩

theorem written_eq_self_iff {instant : Instant} :
    instant.written = instant ↔ ¬instant.CarriedWithin := by
  constructor
  · intro same within
    have next := (written_of_carried within).1
    rw [same] at next
    omega
  · exact fun notWithin => dif_neg notWithin

/-- Digits of a fraction stand for as many powers of ten less. -/
theorem readFraction?_fixedDigits {width n : Nat} {rest : List Char} (positive : 0 < width)
    (fits : width ≤ 9) (small : n < 10 ^ width) (ended : rest.head?.any Char.isDigit = false) :
    readFraction? ('.' :: (fixedDigits width n ++ rest)) = some (n * 10 ^ (9 - width), rest) := by
  have digital := fixedDigits_isDigit width n
  have short : (fixedDigits width n).length ≤ 9 := by
    rw [length_fixedDigits]
    exact fits
  have stops : rest.dropWhile Char.isDigit = rest := by
    cases rest with
    | nil => rfl
    | cons c rest =>
      have other : c.isDigit = false := ended
      exact List.dropWhile_cons_of_neg (by rw [other]; exact Bool.false_ne_true)
  rw [readFraction?, spanDigits_append digital short ended]
  split
  next none => exact absurd (congrArg Prod.fst none) (fixedDigits_ne_nil positive n)
  next found =>
    cases found
    rw [ofDigits_fixedDigits small, length_fixedDigits, stops]
    rfl

theorem readFraction?_fractionText {nano : Nat} (small : nano < 1000000000) (rest : List Char) :
    readFraction? (fractionText nano ++ 'Z' :: rest) = some (nano, 'Z' :: rest) := by
  rw [fractionText]
  split
  next none => rw [none]; rfl
  next =>
    split
    next millis =>
      rw [List.cons_append, readFraction?_fixedDigits (by decide) (by decide) (by omega) rfl]
      congr 2
      omega
    next =>
      split
      next micros =>
        rw [List.cons_append, readFraction?_fixedDigits (by decide) (by decide) (by omega) rfl]
        congr 2
        omega
      next =>
        rw [List.cons_append, readFraction?_fixedDigits (by decide) (by decide) (by omega) rfl,
          Nat.sub_self, Nat.pow_zero, Nat.mul_one]

def shownSecond (instant : Instant) : Nat :=
  instant.secondOfDay % 60 + if 1000000000 ≤ instant.nano then 1 else 0

theorem clockText_append (instant : Instant) (rest : List Char) :
    instant.clockText ++ rest = fixedDigits 2 (instant.secondOfDay / 3600) ++
      ':' :: (fixedDigits 2 (instant.secondOfDay / 60 % 60) ++
      ':' :: (fixedDigits 2 instant.shownSecond ++
      (fractionText (instant.nano % 1000000000) ++ rest))) := by
  simp only [clockText, shownSecond, List.append_assoc, List.cons_append]

theorem head?_fractionText (nano : Nat) (rest : List Char) :
    (fractionText nano ++ 'Z' :: rest).head?.any Char.isDigit = false := by
  rw [fractionText]
  split
  next => rfl
  next =>
    split
    next => rfl
    next => split <;> rfl

theorem second_eq (instant : Instant) :
    instant.date.number * 86400 + (instant.secondOfDay / 3600 : Nat) * 3600 +
      (instant.secondOfDay / 60 % 60 : Nat) * 60 + (instant.secondOfDay % 60 : Nat) =
    instant.second := by
  simp only [date, secondOfDay]
  omega

/-- The sixtieth second is shown for a leap second that ends its minute. -/
theorem shownSecond_spec (instant : Instant) :
    instant.shownSecond ≤ 60 ∧
      instant.second + (min instant.shownSecond 59 : Nat) =
        instant.written.second + (instant.secondOfDay % 60 : Nat) ∧
      instant.nano % 1000000000 + (if instant.shownSecond = 60 then 1000000000 else 0) =
        instant.written.nano := by
  have least := instant.nano_lt
  have minute : ((instant.secondOfDay % 60 : Nat) : Int) = instant.second % 60 := by
    rw [secondOfDay]
    omega
  by_cases leap : 1000000000 ≤ instant.nano
  · have shown : instant.shownSecond = instant.secondOfDay % 60 + 1 := by
      rw [shownSecond, if_pos leap]
    by_cases ends : instant.second % 60 = 59
    · have whole : instant.written = instant :=
        written_eq_self_iff.2 fun within => within.2 ends
      rw [whole, shown, if_pos (by omega)]
      omega
    · obtain ⟨second, nano⟩ := written_of_carried ⟨leap, ends⟩
      rw [second, nano, shown, if_neg (by omega)]
      omega
  · have whole : instant.written = instant :=
      written_eq_self_iff.2 fun within => leap within.1
    have plain : instant.shownSecond = instant.secondOfDay % 60 := by
      rw [shownSecond, if_neg leap, Nat.add_zero]
    rw [whole, plain, if_neg (by omega)]
    omega

theorem readMark?_skipBlanks {mark : Char} (shown : isBlank mark = false) (rest : List Char) :
    Date.readMark? mark (skipBlanks (mark :: rest)) = some rest := by
  rw [skipBlanks_cons shown, Date.readMark?_cons]

theorem readSeparator?_cons (rest : List Char) : readSeparator? ('T' :: rest) = some rest := rfl

theorem readOffset?_zulu : readOffset? (skipBlanks ['Z']) = some (0, []) := rfl

/-- What is read is what is written: the instant itself, unless it carries on a second within its
minute. -/
theorem ofText?_text (instant : Instant) : ofText? instant.text = some instant.written := by
  obtain ⟨month, day⟩ := instant.date.month_day_le
  obtain ⟨sixty, second, nano⟩ := instant.shownSecond_spec
  have whole : instant.secondOfDay < 86400 := by
    rw [secondOfDay]
    omega
  have greenwich : Offset.ofSeconds? 0 = some .utc := rfl
  have hyphen : isBlank '-' = false := rfl
  have colon : isBlank ':' = false := rfl
  have valid : instant.secondOfDay / 3600 < 24 ∧ instant.secondOfDay / 60 % 60 < 60 ∧
      instant.shownSecond ≤ 60 ∧ (skipBlanks []).isEmpty = true :=
    ⟨by omega, by omega, sixty, rfl⟩
  have shown : instant.text = _ := (List.append_assoc ..).trans (Date.text_append ..)
  rw [shown, List.cons_append, clockText_append]
  refine (bind_read (Date.readYear?_yearText rfl _)).trans ?_
  refine (bind_read (readMark?_skipBlanks hyphen _)).trans ?_
  refine (bind_read (Date.readPart?_fixedDigits rfl (by omega))).trans ?_
  refine (bind_read (readMark?_skipBlanks hyphen _)).trans ?_
  refine (bind_read (Date.readPart?_fixedDigits rfl (by omega))).trans ?_
  refine (bind_read (readSeparator?_cons _)).trans ?_
  refine (bind_read (Date.readPart?_fixedDigits rfl (by omega))).trans ?_
  refine (bind_read (readMark?_skipBlanks colon _)).trans ?_
  refine (bind_read (Date.readPart?_fixedDigits rfl (by omega))).trans ?_
  refine (bind_read (readMark?_skipBlanks colon _)).trans ?_
  refine (bind_read (Date.readPart?_fixedDigits (head?_fractionText ..) (by omega))).trans ?_
  refine (bind_read (readFraction?_fractionText (Nat.mod_lt _ (by decide)) _)).trans ?_
  refine (bind_read readOffset?_zulu).trans ?_
  refine (bind_read instant.date.ofCivil?_civil).trans ?_
  refine (bind_read greenwich).trans ?_
  refine (if_pos valid).trans ?_
  have east : Offset.utc.seconds = 0 := rfl
  have named : instant.date.number * 86400 + (instant.secondOfDay / 3600 : Nat) * 3600 +
      (instant.secondOfDay / 60 % 60 : Nat) * 60 + (min instant.shownSecond 59 : Nat) =
      instant.written.second := by
    have whole := instant.second_eq
    omega
  dsimp only
  rw [nano, east, Int.sub_zero, named, make?_eq]

end UserDirectory.Instant
