import UserDirectory.Proofs.Sql.Marks
import UserDirectory.Sql.Statement

/-!
What the places of the statements are for. A place is known by the text around it: the column beside
it, its turn in a list of values, or the words that a limit or a window stands behind. A statement
serves its places in the order in which its text shows them, and shows no others.
-/

namespace UserDirectory.Sql

inductive Place
  /-- The value of a column in the list of values of a new row. -/
  | inserted (column : Column)
  | assigned (column : Column)
  | compared (column : Column) (comparison : Comparison)
  /-- The first instant of a period in which registrations are counted. -/
  | since (name : String)
  | limit
  | offset

/-- Whether a place is for something, to judge by the text around it. In a list of values the commas
before it count how many columns were served before. -/
def Place.At : Place → Mark → Prop
  | inserted column, mark => ∃ columns front,
      mark.before =
        ("INSERT INTO system_users (" ++ Column.list columns ++ ") VALUES (").toList ++ front ∧
      columns[front.count ',']? = some column
  | assigned column, mark =>
    ∃ word ∈ ["SET ", ", "], (word ++ (column.name ++ " = ")).toList <:+ mark.before
  | compared column comparison, mark =>
    ∃ word ∈ [" WHERE ", " AND "],
      (word ++ (column.name ++ " " ++ comparison.sign ++ " ")).toList <:+ mark.before
  | since name, mark =>
    "(WHERE created_at >= ".toList <:+ mark.before ∧ (") AS " ++ name).toList <+: mark.after
  | limit, mark => " LIMIT ".toList <:+ mark.before
  | offset, mark => " OFFSET ".toList <:+ mark.before

def Stands (meant : Place → Option Cell) (mark : Mark) (cell : Cell) : Prop :=
  ∃ place : Place, place.At mark ∧ meant place = some cell

/-- Whether a value travels to a place in the text of a statement. -/
def Statement.Carries (statement : Statement) (place : Place) (cell : Cell) : Prop :=
  ∃ mark, (mark, cell) ∈ (marks statement.template.text).zip statement.template.values ∧
    place.At mark

section Plain

theorem Piece.Plain.append {front back : String} (plain : (words front).Plain)
    (onward : (words back).Plain) : (words (front ++ back)).Plain := by
  obtain ⟨frontClear, frontFirst⟩ := plain
  obtain ⟨backClear, backFirst⟩ := onward
  simp only [Piece.Plain, String.toList_append, List.mem_append, not_or]
  refine ⟨⟨frontClear, backClear⟩, ?_⟩
  cases shown : front.toList with
  | nil => exact backFirst
  | cons c rest => rwa [shown] at frontFirst

instance (text : String) : Decidable (Piece.words text).Plain :=
  inferInstanceAs (Decidable ('$' ∉ text.toList ∧ text.toList.head?.any Char.isDigit = false))

theorem Column.plain_name (column : Column) : (Piece.words column.name).Plain := by
  cases column <;> decide

theorem Comparison.plain_sign (comparison : Comparison) :
    (Piece.words comparison.sign).Plain := by
  cases comparison <;> decide

theorem Column.plain_list (columns : List Column) : (Piece.words (Column.list columns)).Plain := by
  induction columns with
  | nil => decide
  | cons column rest ih =>
    cases rest with
    | nil => exact column.plain_name
    | cons second rest =>
      change (Piece.words (", ".intercalate (column.name :: second.name :: rest.map name))).Plain
      rw [String.intercalate_cons_cons]
      exact .append (.append column.plain_name (by decide)) ih

end Plain

variable {before after : List Char} {next : Nat}

namespace Condition

def Bare : Condition → Prop
  | comparesWritten _ _ _ => False
  | _ => True

def served : Condition → List (Place × Cell)
  | compares column comparison value => [(.compared column comparison, value)]
  | _ => []

theorem Bare.plain {condition : Condition} (bare : condition.Bare) : condition.template.Plain := by
  cases condition with
  | always => exact List.forall_mem_singleton.2 (by decide)
  | missing column => exact List.forall_mem_singleton.2 (.append column.plain_name (by decide))
  | compares column comparison value =>
    exact List.forall_mem_cons.2 ⟨.append (.append (.append column.plain_name (by decide))
      comparison.plain_sign) (by decide), List.forall_mem_singleton.2 trivial⟩
  | comparesWritten column comparison value => exact bare.elim

def Opens (text : List Char) : Prop := ∃ word ∈ [" WHERE ", " AND "], word.toList <:+ text

theorem Bare.meets {condition : Condition} (bare : condition.Bare) (opened : Opens before) :
    condition.template.Meets Place.At condition.served before next after := by
  cases condition with
  | always => exact .words Template.meets_nil
  | missing column => exact .words Template.meets_nil
  | compares column comparison value =>
    obtain ⟨word, listed, text, rfl⟩ := opened
    refine .words (.value ⟨word, listed, text, ?_⟩ Template.meets_nil)
    rw [String.toList_append, List.append_assoc]
  | comparesWritten column comparison value => exact bare.elim

variable {conditions : List Condition}

theorem allTemplate_plain (bare : ∀ condition ∈ conditions, condition.Bare) :
    (allTemplate conditions).Plain :=
  .joined (by decide) (List.forall_mem_map.2 fun condition member => (bare condition member).plain)

theorem allTemplate_meets (bare : ∀ condition ∈ conditions, condition.Bare)
    (opened : Opens before) :
    (allTemplate conditions).Meets Place.At (conditions.flatMap served) before next after :=
  .joined (fun text => ⟨" AND ", by decide, text, rfl⟩)
    (fun condition member _ _ _ => (bare condition member).meets) opened

end Condition

namespace Statement

def conditions : Statement → List Condition
  | insert _ => []
  | update _ conditions _ => conditions
  | first conditions => conditions
  | part conditions _ _ => conditions
  | count conditions => conditions
  | statistics _ conditions => conditions

/-- The places of a statement in their order, with the values that travel to them. -/
def served : Statement → List (Place × Cell)
  | insert assignments => assignments.flatMap fun assigned => [(.inserted assigned.1, assigned.2)]
  | update assignments conditions _ =>
    (assignments.flatMap fun assigned => [(.assigned assigned.1, assigned.2)]) ++
      conditions.flatMap Condition.served
  | first conditions => conditions.flatMap Condition.served
  | part conditions limit skip =>
    conditions.flatMap Condition.served ++
      [(.limit, .integer (cut limit)), (.offset, .integer (cut skip))]
  | count conditions => conditions.flatMap Condition.served
  | statistics windows conditions =>
    [(.since "today_registered", .instant windows.today)] ++
      [(.since "this_week_registered", .instant windows.thisWeek)] ++
      [(.since "this_month_registered", .instant windows.thisMonth)] ++
      conditions.flatMap Condition.served

theorem opens_where (text : String) : Condition.Opens (before ++ (text ++ " WHERE ").toList) :=
  ⟨" WHERE ", by decide, before ++ text.toList, by rw [String.toList_append, List.append_assoc]⟩

theorem assignment_plain (assignments : List (Column × Cell)) :
    (Template.joined ", " (assignments.map assignment)).Plain :=
  .joined (by decide) (List.forall_mem_map.2 fun assigned _ => List.forall_mem_cons.2
    ⟨.append assigned.1.plain_name (by decide), List.forall_mem_singleton.2 trivial⟩)

theorem since_plain (start : Instant) {name : String} (plain : (Piece.words name).Plain) :
    (since start name).Plain :=
  Template.plain_cons.2 ⟨by decide, Template.plain_cons.2 ⟨trivial,
    List.forall_mem_singleton.2 (.append (by decide) plain)⟩⟩

theorem selection_plain {conditions : List Condition}
    (bare : ∀ condition ∈ conditions, condition.Bare) : (selection conditions).Plain :=
  Template.plain_cons.2 ⟨.append (.append (.append (.append (by decide) (Column.plain_list _))
    (by decide)) (by decide)) (by decide), Condition.allTemplate_plain bare⟩

/-- No words of a statement can be taken for a place. -/
theorem plain {statement : Statement}
    (bare : ∀ condition ∈ statement.conditions, condition.Bare) : statement.template.Plain := by
  have conditions := Condition.allTemplate_plain bare
  cases statement with
  | insert assignments =>
    have values : (Template.joined ", " (assignments.map fun assigned =>
        [.value assigned.2])).Plain :=
      .joined (by decide) (List.forall_mem_map.2 fun _ _ => List.forall_mem_singleton.2 trivial)
    exact Template.plain_append.2 ⟨Template.plain_cons.2
      ⟨.append (.append (by decide) (Column.plain_list _)) (by decide), values⟩,
      List.forall_mem_singleton.2 (.append (by decide) (Column.plain_list _))⟩
  | update assignments wanted returning =>
    refine Template.plain_append.2 ⟨Template.plain_append.2 ⟨Template.plain_cons.2
      ⟨by decide, assignment_plain assignments⟩, Template.plain_cons.2
      ⟨by decide, conditions⟩⟩, ?_⟩
    cases returning with
    | true => exact List.forall_mem_singleton.2 (.append (by decide) (Column.plain_list _))
    | false => exact Template.plain_nil
  | first wanted =>
    exact Template.plain_append.2 ⟨selection_plain bare, List.forall_mem_singleton.2 (by decide)⟩
  | part wanted limit skip =>
    exact Template.plain_append.2 ⟨selection_plain bare, Template.plain_cons.2 ⟨by decide,
      Template.plain_cons.2 ⟨trivial, Template.plain_cons.2 ⟨by decide,
        List.forall_mem_singleton.2 trivial⟩⟩⟩⟩
  | count wanted => exact Template.plain_cons.2 ⟨by decide, conditions⟩
  | statistics windows wanted =>
    exact Template.plain_append.2 ⟨Template.plain_append.2 ⟨Template.plain_append.2
      ⟨Template.plain_cons.2 ⟨.append (.append (by decide) (by decide)) (by decide),
        since_plain _ (by decide)⟩,
      Template.plain_cons.2 ⟨by decide, since_plain _ (by decide)⟩⟩,
      Template.plain_cons.2 ⟨by decide, since_plain _ (by decide)⟩⟩,
      Template.plain_cons.2 ⟨by decide, conditions⟩⟩

/-- Each value stands at the turn of its column, those that `passed` names being served. -/
theorem inserted_meets {assignments : List (Column × Cell)} (passed : List Column)
    (front : List Char) {columns : List Column}
    (turns : columns = passed ++ assignments.map Prod.fst)
    (behind : before =
      ("INSERT INTO system_users (" ++ Column.list columns ++ ") VALUES (").toList ++ front)
    (counted : front.count ',' = passed.length) :
    (Template.joined ", " (assignments.map fun assigned => [.value assigned.2])).Meets Place.At
      (assignments.flatMap fun assigned => [(.inserted assigned.1, assigned.2)])
      before next after := by
  induction assignments generalizing passed front before next with
  | nil => exact Template.meets_nil
  | cons assigned rest ih =>
    have turn : columns[front.count ',']? = some assigned.1 := by
      rw [counted, turns, List.getElem?_append_right (Nat.le_refl _), Nat.sub_self]
      rfl
    have stands (after : List Char) :
        (Place.inserted assigned.1).At ⟨before, Text.digits next, after⟩ :=
      ⟨columns, front, behind, turn⟩
    cases rest with
    | nil => exact .value (stands _) Template.meets_nil
    | cons second rest =>
      refine .value (stands _) (.words ?_)
      refine ih _ (front ++ (Template.placeholder next).toList ++ ", ".toList)
        (turns.trans (List.append_assoc passed [assigned.1] _).symm) ?_ ?_
      · simp only [behind, List.append_assoc]
      · have bare : (Template.placeholder next).toList.count ',' = 0 :=
          List.count_eq_zero.2 (by
            simpa [Template.placeholder] using fun comma =>
              absurd (Text.digits_isDigit next _ comma) (by decide))
        rw [List.count_append, List.count_append, counted, bare, List.length_append]
        rfl

def Assigns (text : List Char) : Prop := ∃ word ∈ ["SET ", ", "], word.toList <:+ text

theorem assignment_meets (assignments : List (Column × Cell)) (opened : Assigns before) :
    (Template.joined ", " (assignments.map assignment)).Meets Place.At
      (assignments.flatMap fun assigned => [(.assigned assigned.1, assigned.2)])
      before next after := by
  refine .joined (fun text => ⟨", ", by decide, text, rfl⟩)
    (fun assigned member before next after opened => ?_) opened
  obtain ⟨word, listed, text, rfl⟩ := opened
  refine .words (.value ⟨word, listed, text, ?_⟩ Template.meets_nil)
  rw [String.toList_append, List.append_assoc]

theorem since_meets (start : Instant) (name : String) :
    (since start name).Meets Place.At [(.since name, .instant start)] before next after := by
  have opens (text : List Char) : "(WHERE created_at >= ".toList <:+
      text ++ "COUNT(*) FILTER (WHERE created_at >= ".toList :=
    List.IsSuffix.trans (by decide) (List.suffix_append _ _)
  refine .words (.value ⟨opens _, after, ?_⟩ (.words Template.meets_nil))
  rw [Template.textFrom, Template.textFrom, String.append_empty]

/-- The text of a statement shows the places that it serves, in their order. -/
theorem meets {statement : Statement}
    (bare : ∀ condition ∈ statement.conditions, condition.Bare) :
    statement.template.Meets Place.At statement.served [] 1 [] := by
  have selects (after : List Char) : (selection statement.conditions).Meets Place.At
      (statement.conditions.flatMap Condition.served) [] 1 after :=
    .words (Condition.allTemplate_meets bare (opens_where _))
  cases statement with
  | insert assignments =>
    exact .followed (fun _ => .words (inserted_meets [] [] rfl (List.append_nil _).symm rfl))
      (.words Template.meets_nil)
  | update assignments wanted returning =>
    have opened : Assigns ([] ++ "UPDATE system_users SET ".toList) :=
      ⟨"SET ", by decide, by decide⟩
    refine .followed (fun _ => .append (fun _ => .words (assignment_meets assignments opened))
      (.words (Condition.allTemplate_meets bare ⟨" WHERE ", by decide, _, rfl⟩))) ?_
    cases returning with
    | true => exact .words Template.meets_nil
    | false => exact Template.meets_nil
  | first wanted => exact .followed selects (.words Template.meets_nil)
  | part wanted limit skip =>
    have limits (text : List Char) : " LIMIT ".toList <:+
        text ++ " ORDER BY created_at DESC, id DESC LIMIT ".toList :=
      List.IsSuffix.trans (by decide) (List.suffix_append _ _)
    exact .append selects (.words (.value (limits _)
      (.words (.value (List.suffix_append _ _) Template.meets_nil))))
  | count wanted => exact .words (Condition.allTemplate_meets bare (opens_where _))
  | statistics windows wanted =>
    exact .append (fun _ => .append (fun _ => .append (fun _ => .words (since_meets ..))
      (.words (since_meets ..))) (.words (since_meets ..)))
      (.words (Condition.allTemplate_meets bare (opens_where _)))

variable {statement : Statement} (bare : ∀ condition ∈ statement.conditions, condition.Bare)
include bare

theorem numbers :
    (marks statement.template.text).map Mark.number =
      (List.range' 1 statement.template.values.length).map Text.digits := by
  rw [(plain bare).marks, Template.marksFrom_numbers]

theorem stands {meant : Place → Option Cell}
    (each : ∀ entry ∈ statement.served, meant entry.1 = some entry.2) :
    List.Forall₂ (Stands meant) (marks statement.template.text) statement.template.values := by
  obtain ⟨places, values⟩ := meets bare
  rw [(plain bare).marks, values, List.forall₂_map_right_iff]
  exact (((List.forall₂_and_left _ _).2 ⟨each, places⟩).imp
    fun entry mark ⟨wanted, here⟩ => ⟨entry.1, here, wanted⟩).flip

theorem carries {place : Place} {cell : Cell} (served : (place, cell) ∈ statement.served) :
    statement.Carries place cell := by
  rw [Carries, (plain bare).marks]
  exact (meets bare).finds served

end Statement

end UserDirectory.Sql
