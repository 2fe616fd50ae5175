import UserDirectory.Proofs.Text.Decimal
import UserDirectory.Proofs.Time.Calendar
import UserDirectory.Time.DateText

/-!
Dates written and read back. Year, month and day name a date, and each of them is read up to the
hyphen behind it, so every date is read from its own text, with a signed year or without a sign.
-/

namespace UserDirectory.Date

open Text

theorem ofNumber?_number (date : Date) : ofNumber? date.number = some date :=
  dif_pos date.inCalendar

theorem monthLength_le {year : Int} {month length : Nat}
    (place : (monthLengths year)[month]? = some length) : month < 12 ∧ length ≤ 31 := by
  obtain ⟨bound, rfl⟩ := List.getElem?_eq_some_iff.1 place
  have twelve : (monthLengths year).length = 12 := rfl
  have most : ∀ length ∈ monthLengths year, length ≤ 31 := by
    simp only [monthLengths]
    split <;> decide
  exact ⟨twelve ▸ bound, most _ (List.getElem_mem bound)⟩

theorem month_pos (date : Date) : 1 ≤ date.month := Nat.le_add_left 1 _

theorem month_day_le (date : Date) : date.month ≤ 12 ∧ date.day ≤ 31 := by
  obtain ⟨-, length, place, inside⟩ := date.number_eq
  obtain ⟨month, days⟩ := monthLength_le place
  have positive := date.month_pos
  omega

theorem ofCivil?_civil (date : Date) : ofCivil? date.year date.month date.day = some date := by
  obtain ⟨counted, length, place, inside⟩ := date.number_eq
  have named : daysBeforeYear date.year - epoch + daysBeforeMonth date.year date.month +
      ((date.day : Int) - 1) = date.number := by omega
  rw [ofCivil?, place]
  dsimp only
  rw [if_pos ⟨date.month_pos, date.day_pos, inside⟩, named, ofNumber?_number]

section Reading

variable {rest : List Char}

theorem readMark?_cons (mark : Char) (rest : List Char) :
    readMark? mark (mark :: rest) = some rest := if_pos rfl

theorem readYear?_minus (text : List Char) :
    readYear? ('-' :: text) =
      (readDigits? text.length text).map fun (n, rest) => (-(n : Int), rest) := rfl

theorem readYear?_plus (text : List Char) :
    readYear? ('+' :: text) =
      (readDigits? text.length text).map fun (n, rest) => ((n : Int), rest) := rfl

variable (ended : rest.head?.any Char.isDigit = false)
include ended

theorem readPart?_fixedDigits {n : Nat} (small : n < 100) :
    readPart? (fixedDigits 2 n ++ rest) = some (n, rest) := by
  rw [readPart?, skipBlanks_digits (fixedDigits_isDigit 2 n) (fixedDigits_ne_nil (by decide) n)]
  exact readDigits?_fixedDigits (by decide) (by decide) small ended

theorem readDigits?_paddedDigits (n : Nat) :
    readDigits? (paddedDigits 4 n ++ rest).length (paddedDigits 4 n ++ rest) = some (n, rest) := by
  have fits : (paddedDigits 4 n).length ≤ (paddedDigits 4 n ++ rest).length := by
    rw [List.length_append]
    exact Nat.le_add_right _ _
  rw [readDigits?_append (paddedDigits_isDigit 4 n) fits ended
    (paddedDigits_ne_nil (by decide) n), ofDigits_paddedDigits]

theorem readYear?_unsigned {n : Nat} (small : n < 10000) :
    readYear? (fixedDigits 4 n ++ rest) = some ((n : Int), rest) := by
  have digital := fixedDigits_isDigit 4 n
  have read : readDigits? 4 (fixedDigits 4 n ++ rest) = some (n, rest) :=
    readDigits?_fixedDigits (by decide) (by decide) small ended
  obtain ⟨c, front, shown⟩ :=
    List.exists_cons_of_ne_nil (fixedDigits_ne_nil (by decide : 0 < 4) n)
  have digit : c.isDigit = true := digital c (shown ▸ List.mem_cons_self)
  rw [readYear?, skipBlanks_digits digital (fixedDigits_ne_nil (by decide) _)]
  rw [shown, List.cons_append] at read ⊢
  -- the first digit is no sign
  split
  next same => cases same; cases digit
  next same => cases same; cases digit
  next => rw [read]; rfl

theorem readYear?_yearText (year : Int) :
    readYear? (yearText year ++ rest) = some (year, rest) := by
  rw [yearText]
  split
  next plain =>
    rw [readYear?_unsigned ended (by omega), Int.toNat_of_nonneg plain.1]
  next signed =>
    by_cases negative : year < 0
    · have magnitude : -(year.natAbs : Int) = year := by omega
      rw [if_pos negative, List.cons_append, readYear?_minus, readDigits?_paddedDigits ended]
      exact congrArg (fun year => some (year, rest)) magnitude
    · have magnitude : (year.natAbs : Int) = year := by omega
      rw [if_neg negative, List.cons_append, readYear?_plus, readDigits?_paddedDigits ended]
      exact congrArg (fun year => some (year, rest)) magnitude

end Reading

theorem text_append (date : Date) (rest : List Char) :
    date.text ++ rest = yearText date.year ++ '-' :: (fixedDigits 2 date.month ++
      '-' :: (fixedDigits 2 date.day ++ rest)) := by
  simp only [text, List.append_assoc, List.cons_append]

/-- Every date is read from its own text. -/
theorem ofText?_text (date : Date) : ofText? date.text = some date := by
  obtain ⟨month, day⟩ := date.month_day_le
  rw [← List.append_nil date.text, text_append]
  refine (bind_read (readYear?_yearText rfl _)).trans ?_
  refine (bind_read (readMark?_cons ..)).trans ?_
  refine (bind_read (readPart?_fixedDigits rfl (by omega))).trans ?_
  refine (bind_read (readMark?_cons ..)).trans ?_
  refine (bind_read (readPart?_fixedDigits rfl (by omega))).trans ?_
  exact date.ofCivil?_civil

end UserDirectory.Date
