import UserDirectory.Proofs.Sql.Template
import UserDirectory.Store.Call
import UserDirectory.Sql.Statement

/-!
The text of a statement depends on its shape alone: on the columns that are written, on the
conditions that are made and on what is asked back, but on no value.
-/

namespace UserDirectory

open Sql

namespace Sql

namespace Template

def blank (template : Template) : Template :=
  template.map fun piece => match piece with
    | .words text => .words text
    | .value _ => .value .null

theorem textFrom_blank (template : Template) (next : Nat) :
    template.blank.textFrom next = template.textFrom next := by
  induction template generalizing next with
  | nil => rfl
  | cons piece rest ih =>
    cases piece with
    | words text => exact congrArg (text ++ ·) (ih next)
    | value cell => exact congrArg (placeholder next ++ ·) (ih (next + 1))

theorem text_eq {a b : Template} (same : a.blank = b.blank) : a.text = b.text := by
  rw [text, ← textFrom_blank a, same, textFrom_blank, text]

theorem blank_append (front back : Template) : (front ++ back).blank = front.blank ++ back.blank :=
  List.map_append

theorem blank_words (text : String) (rest : Template) :
    blank (.words text :: rest) = .words text :: rest.blank := rfl

theorem blank_joined (between : String) (parts : List Template) :
    (joined between parts).blank = joined between (parts.map blank) := by
  induction parts with
  | nil => rfl
  | cons part rest ih =>
    cases rest with
    | nil => rfl
    | cons second rest =>
      rw [joined_cons, blank_append, blank_words, ih]
      rfl

end Template

def Condition.shape : Condition → Condition
  | compares column comparison _ => compares column comparison .null
  | condition => condition

theorem Condition.blank_shape (condition : Condition) :
    condition.shape.template.blank = condition.template.blank := by
  cases condition <;> rfl

theorem Condition.blank_allTemplate {a b : List Condition} (same : a.map shape = b.map shape) :
    (allTemplate a).blank = (allTemplate b).blank := by
  have shaped (conditions : List Condition) : (conditions.map template).map Template.blank =
      ((conditions.map shape).map template).map Template.blank := by
    simp only [List.map_map, List.map_inj_left, Function.comp_apply, blank_shape, implies_true]
  rw [allTemplate, allTemplate, Template.blank_joined, Template.blank_joined, shaped, same,
    ← shaped]

namespace Statement

/-- Two statements that differ in values at most. -/
inductive SameShape : Statement → Statement → Prop
  | insert {a b : List (Column × Cell)} (columns : a.map Prod.fst = b.map Prod.fst) :
    SameShape (.insert a) (.insert b)
  | update {a b : List (Column × Cell)} {c d : List Condition} (returning : Bool)
    (columns : a.map Prod.fst = b.map Prod.fst)
    (conditions : c.map Condition.shape = d.map Condition.shape) :
    SameShape (.update a c returning) (.update b d returning)
  | first {c d : List Condition} (conditions : c.map Condition.shape = d.map Condition.shape) :
    SameShape (.first c) (.first d)
  | part {c d : List Condition} (limit limit' skip skip' : Nat)
    (conditions : c.map Condition.shape = d.map Condition.shape) :
    SameShape (.part c limit skip) (.part d limit' skip')
  | count {c d : List Condition} (conditions : c.map Condition.shape = d.map Condition.shape) :
    SameShape (.count c) (.count d)
  | statistics {c d : List Condition} (windows windows' : Windows)
    (conditions : c.map Condition.shape = d.map Condition.shape) :
    SameShape (.statistics windows c) (.statistics windows' d)

theorem blank_listed (assignments : List (Column × Cell)) :
    (Template.joined ", " (assignments.map fun assigned => [.value assigned.2])).blank =
      Template.joined ", " ((assignments.map Prod.fst).map fun _ => [.value .null]) := by
  rw [Template.blank_joined, List.map_map, List.map_map]
  rfl

theorem blank_assigned (assignments : List (Column × Cell)) :
    (Template.joined ", " (assignments.map assignment)).blank =
      Template.joined ", " ((assignments.map Prod.fst).map fun column =>
        assignment (column, .null)) := by
  rw [Template.blank_joined, List.map_map, List.map_map]
  rfl

theorem blank_selection {c d : List Condition}
    (same : c.map Condition.shape = d.map Condition.shape) :
    (selection c).blank = (selection d).blank := by
  rw [selection, selection, Template.blank_words, Template.blank_words,
    Condition.blank_allTemplate same]

/-- Two statements that differ in values at most have the same text. -/
theorem SameShape.text {s t : Statement} (alike : s.SameShape t) :
    s.template.text = t.template.text := by
  refine Template.text_eq ?_
  cases alike with
  | insert columns =>
    simp only [template, Template.blank_append, Template.blank_words, blank_listed, columns]
  | update returning columns conditions =>
    simp only [template, Template.blank_append, Template.blank_words, blank_assigned, columns,
      Condition.blank_allTemplate conditions]
  | first conditions =>
    simp only [template, Template.blank_append, blank_selection conditions]
  | part limit limit' skip skip' conditions =>
    simp only [template, Template.blank_append, blank_selection conditions]
    rfl
  | count conditions =>
    simp only [template, Template.blank_words, Condition.blank_allTemplate conditions]
  | statistics windows windows' conditions =>
    simp only [template, Template.blank_append, Template.blank_words,
      Condition.blank_allTemplate conditions]
    rfl

end Statement

theorem map_toList_const (entry : β) (cell : Option Cell) :
    (cell.toList.map fun _ => entry) = if cell.isSome then [entry] else [] := by
  cases cell <;> rfl

end Sql

def Filter.presence (filter : Filter) : List Bool :=
  [filter.account.isSome, filter.email.isSome, filter.mobile.isSome, filter.status.isSome,
    filter.deptId.isSome, filter.tenantId.isSome, filter.createdFrom.isSome,
    filter.createdBefore.isSome]

def Patch.presence (patch : Patch) : List Bool :=
  [patch.passwordHash.isSome, patch.nickname.isSome, patch.remark.isSome, patch.deptId.isSome,
    patch.postIds.isSome, patch.email.isSome, patch.mobile.isSome, patch.sex.isSome,
    patch.avatar.isSome, patch.status.isSome, patch.loginIp.isSome, patch.loginDate.isSome,
    patch.updateBy.isSome]

theorem Filter.shape_eq {a b : Filter} (same : a.presence = b.presence) :
    a.liveConditions.map Condition.shape = b.liveConditions.map Condition.shape := by
  simp only [presence, List.cons.injEq, and_true] at same
  obtain ⟨account, email, mobile, status, deptId, tenantId, createdFrom, createdBefore⟩ := same
  simp only [liveConditions, conditions, List.map_cons, List.map_append, List.map_map,
    Function.comp_def, Condition.shape, map_toList_const, Option.isSome_map, account, email, mobile,
    status, deptId, tenantId, createdFrom, createdBefore]

theorem Patch.columns_eq {a b : Patch} (same : a.presence = b.presence) (now later : Instant) :
    (a.assignments now).map Prod.fst = (b.assignments later).map Prod.fst := by
  simp only [presence, List.cons.injEq, and_true] at same
  obtain ⟨passwordHash, nickname, remark, deptId, postIds, email, mobile, sex, avatar, status,
    loginIp, loginDate, updateBy⟩ := same
  simp only [assignments, List.map_append, List.map_map, Function.comp_def, map_toList_const,
    Option.isSome_map, passwordHash, nickname, remark, deptId, postIds, email, mobile, sex, avatar,
    status, loginIp, loginDate, updateBy, List.map_cons, List.map_nil]

end UserDirectory
