import Mathlib.Data.List.Forall2
import UserDirectory.Proofs.Sql.Template
import UserDirectory.Proofs.Text.Decimal

/-!
The places in a text of a statement, found in the text alone: a dollar sign and the number behind
it. In the text of a template there are the places of its values and no others, in the same order
and numbered from one on.
-/

namespace UserDirectory

open Text

namespace Sql

/-- The number behind a dollar sign, with the text before the sign and the text after the number. -/
structure Mark where
  before : List Char
  number : List Char
  after : List Char
deriving DecidableEq

def marksFrom (before : List Char) : List Char → List Mark
  | [] => []
  | c :: rest =>
    let onward := marksFrom (before ++ [c]) rest
    if c = '$' then ⟨before, rest.takeWhile Char.isDigit, rest.dropWhile Char.isDigit⟩ :: onward
    else onward

def marks (text : String) : List Mark := marksFrom [] text.toList

theorem marksFrom_words {words : List Char} (plain : '$' ∉ words) (before rest : List Char) :
    marksFrom before (words ++ rest) = marksFrom (before ++ words) rest := by
  induction words generalizing before with
  | nil => rw [List.nil_append, List.append_nil]
  | cons c words ih =>
    obtain ⟨other, plain⟩ := not_or.1 (mt List.mem_cons.2 plain)
    rw [List.cons_append, marksFrom, if_neg (Ne.symm other), ih plain, List.append_assoc,
      List.singleton_append]

def NoDigitFirst (text : List Char) : Prop := text.head?.any Char.isDigit = false

theorem dollar_not_mem_digits (n : Nat) : '$' ∉ digits n :=
  fun member => absurd (digits_isDigit n _ member) (by decide)

theorem marksFrom_placeholder (before : List Char) (n : Nat) {rest : List Char}
    (ended : NoDigitFirst rest) :
    marksFrom before ((Template.placeholder n).toList ++ rest) =
      ⟨before, digits n, rest⟩ :: marksFrom (before ++ (Template.placeholder n).toList) rest := by
  have shown : (Template.placeholder n).toList = '$' :: digits n := by
    simp [Template.placeholder]
  have stops : rest.takeWhile Char.isDigit = [] ∧ rest.dropWhile Char.isDigit = rest := by
    cases rest with
    | nil => exact ⟨rfl, rfl⟩
    | cons c rest =>
      have other : c.isDigit = false := ended
      exact ⟨List.takeWhile_cons_of_neg (by rw [other]; nofun),
        List.dropWhile_cons_of_neg (by rw [other]; nofun)⟩
  rw [shown, List.cons_append, marksFrom, if_pos rfl, marksFrom_words (dollar_not_mem_digits n),
    List.takeWhile_append_of_pos (digits_isDigit n),
    List.dropWhile_append_of_pos (digits_isDigit n), stops.1, stops.2, List.append_nil,
    List.append_assoc, List.singleton_append]

/-- Words that cannot be taken for a place or for the number of one. -/
def Piece.Plain : Piece → Prop
  | words text => '$' ∉ text.toList ∧ NoDigitFirst text.toList
  | value _ => True

namespace Template

def Plain (template : Template) : Prop := ∀ piece ∈ template, piece.Plain

theorem plain_nil : Plain [] := List.forall_mem_nil _

theorem plain_append {front back : Template} :
    Plain (front ++ back) ↔ Plain front ∧ Plain back := List.forall_mem_append

theorem plain_cons {piece : Piece} {rest : Template} :
    Plain (piece :: rest) ↔ piece.Plain ∧ Plain rest := List.forall_mem_cons

theorem Plain.joined {between : String} (plain : (Piece.words between).Plain)
    {parts : List Template} (each : ∀ part ∈ parts, part.Plain) : (joined between parts).Plain := by
  induction parts with
  | nil => exact plain_nil
  | cons part rest ih =>
    obtain ⟨here, there⟩ := List.forall_mem_cons.1 each
    cases rest with
    | nil => exact here
    | cons second rest => exact plain_append.2 ⟨here, plain_cons.2 ⟨plain, ih there⟩⟩

theorem Plain.noDigitFirst {template : Template} (plain : template.Plain) (next : Nat) :
    NoDigitFirst (template.textFrom next).toList := by
  induction template with
  | nil => rfl
  | cons piece rest ih =>
    cases piece with
    | words text =>
      obtain ⟨⟨-, first⟩, onward⟩ := plain_cons.1 plain
      rw [textFrom, String.toList_append]
      cases shown : text.toList with
      | nil => exact ih onward
      | cons c more => rwa [shown] at first
    | value cell =>
      simp [textFrom, placeholder, NoDigitFirst]

def marksFrom (before : List Char) (next : Nat) (after : List Char) : Template → List Mark
  | [] => []
  | .words text :: rest => marksFrom (before ++ text.toList) next after rest
  | .value _ :: rest =>
    ⟨before, digits next, (textFrom (next + 1) rest).toList ++ after⟩ ::
      marksFrom (before ++ (placeholder next).toList) (next + 1) after rest

theorem marksFrom_numbers (template : Template) (before : List Char) (next : Nat)
    (after : List Char) :
    (template.marksFrom before next after).map Mark.number =
      (List.range' next template.values.length).map digits := by
  induction template generalizing before next with
  | nil => rfl
  | cons piece rest ih =>
    cases piece with
    | words text => exact ih _ _
    | value cell =>
      rw [marksFrom, List.map_cons, ih, values_value, List.length_cons, List.range'_succ,
        List.map_cons]

/-- In the text of a plain template there are its own places and no others. -/
theorem Plain.marks {template : Template} (plain : template.Plain) :
    marks template.text = template.marksFrom [] 1 [] := by
  suffices found : ∀ before next, Sql.marksFrom before (template.textFrom next).toList =
      template.marksFrom before next [] from found [] 1
  induction template with
  | nil => exact fun _ _ => rfl
  | cons piece rest ih =>
    intro before next
    obtain ⟨clear, onward⟩ := plain_cons.1 plain
    cases piece with
    | words text =>
      rw [textFrom, String.toList_append, marksFrom_words clear.1, ih onward, marksFrom]
    | value cell =>
      rw [textFrom, String.toList_append, marksFrom_placeholder _ _ (onward.noDigitFirst _),
        ih onward, marksFrom, List.append_nil]

theorem marksFrom_append (front back : Template) (before : List Char) (next : Nat)
    (after : List Char) :
    marksFrom before next after (front ++ back) =
      front.marksFrom before next ((back.textFrom (next + front.values.length)).toList ++ after) ++
        back.marksFrom (before ++ (front.textFrom next).toList) (next + front.values.length)
          after := by
  induction front generalizing before next with
  | nil =>
    simp only [List.nil_append, marksFrom, textFrom, String.toList_empty, List.append_nil]
    rfl
  | cons piece rest ih =>
    cases piece with
    | words text =>
      simp only [List.cons_append, marksFrom, ih, textFrom, String.toList_append, values_words,
        List.append_assoc]
    | value cell =>
      simp only [List.cons_append, marksFrom, ih, textFrom, textFrom_append, String.toList_append,
        values_value, List.length_cons, List.append_assoc, Nat.add_assoc, Nat.add_comm 1]

/-- What is served stands at the places one after another, and its values travel with them. -/
structure Meets (stands : π → Mark → Prop) (served : List (π × Cell)) (before : List Char)
    (next : Nat) (after : List Char) (template : Template) : Prop where
  places : List.Forall₂ (fun entry mark => stands entry.1 mark) served
    (template.marksFrom before next after)
  values : template.values = served.map Prod.snd

variable {stands : π → Mark → Prop} {served : List (π × Cell)} {before after : List Char}
  {next : Nat}

theorem meets_nil : Meets stands [] before next after [] := ⟨.nil, rfl⟩

theorem Meets.words {text : String} {rest : Template}
    (met : Meets stands served (before ++ text.toList) next after rest) :
    Meets stands served before next after (.words text :: rest) := ⟨met.places, met.values⟩

theorem Meets.value {place : π} {cell : Cell} {rest : Template}
    (here : stands place ⟨before, digits next, (rest.textFrom (next + 1)).toList ++ after⟩)
    (met : Meets stands served (before ++ (placeholder next).toList) (next + 1) after rest) :
    Meets stands ((place, cell) :: served) before next after (.value cell :: rest) :=
  ⟨.cons here met.places, congrArg (cell :: ·) met.values⟩

theorem Meets.append {more : List (π × Cell)} {front back : Template}
    (here : ∀ after, Meets stands served before next after front)
    (met : Meets stands more (before ++ (front.textFrom next).toList) (next + front.values.length)
      after back) : Meets stands (served ++ more) before next after (front ++ back) where
  places := by
    rw [marksFrom_append]
    exact List.rel_append (here _).places met.places
  values := by rw [values_append, (here after).values, met.values, List.map_append]

theorem Meets.followed {front back : Template}
    (here : ∀ after, Meets stands served before next after front)
    (met : Meets stands [] (before ++ (front.textFrom next).toList) (next + front.values.length)
      after back) : Meets stands served before next after (front ++ back) :=
  List.append_nil served ▸ .append here met

/-- Parts with words between them serve what each of them serves behind a text that `opens`
admits. -/
theorem Meets.joined {between : String} {opens : List Char → Prop}
    (again : ∀ text, opens (text ++ between.toList)) {entries : List β} {part : β → Template}
    {serves : β → List (π × Cell)}
    (each : ∀ entry ∈ entries, ∀ before next after, opens before →
      Meets stands (serves entry) before next after (part entry)) (opened : opens before) :
    Meets stands (entries.flatMap serves) before next after (joined between (entries.map part)) := by
  induction entries generalizing before next with
  | nil => exact meets_nil
  | cons entry rest ih =>
    obtain ⟨here, there⟩ := List.forall_mem_cons.1 each
    cases rest with
    | nil =>
      rw [List.flatMap_singleton]
      exact here before next after opened
    | cons second rest =>
      rw [List.flatMap_cons]
      exact .append (fun after => here before next after opened) (.words (ih there (again _)))

/-- What is served is found: its value travels with a mark at its place. -/
theorem Meets.finds {template : Template} (met : Meets stands served before next after template)
    {entry : π × Cell} (member : entry ∈ served) :
    ∃ mark, (mark, entry.2) ∈ (template.marksFrom before next after).zip template.values ∧
      stands entry.1 mark := by
  obtain ⟨places, values⟩ := met
  rw [values]
  clear values
  generalize template.marksFrom before next after = found at places
  induction places with
  | nil => cases member
  | @cons first mark rest marks here there ih =>
    obtain rfl | later := List.mem_cons.1 member
    · exact ⟨mark, List.mem_cons_self, here⟩
    · obtain ⟨mark, paired, stands⟩ := ih later
      exact ⟨mark, List.mem_cons_of_mem _ paired, stands⟩

end Template

end Sql

end UserDirectory
