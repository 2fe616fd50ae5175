import UserDirectory.Configuration.Setting
import UserDirectory.Proofs.Configuration.Tree

/-!
The places of the settings in a tree. No two settings have one place, so laying a value over the place
of one changes no other, and laying a section over a tree changes the places that the section has.
-/

namespace UserDirectory.Configuration

namespace Setting

theorem pathOf_group (setting : Setting) : pathOf setting.group = [.member setting.group] := by
  cases setting <;> decide

theorem pathOf_path (setting : Setting) :
    pathOf setting.path = [.member setting.group, .member setting.key] := by
  cases setting <;> decide

theorem key_injective {setting other : Setting} (same : setting.key = other.key) :
    setting = other := by
  cases setting <;> cases other <;> simp [key] at same ⊢

theorem settingName?_of_lowered {setting : Setting} {name : String}
    (same : lowered name = setting.variableName) : settingName? name = some setting.path := by
  have letters : name.toList.map Char.toLower = setting.variableName.toList := by
    rw [← same, lowered, String.toList_ofList]
  rw [settingName?, letters]
  cases setting <;> decide

theorem eq_of_lowered {setting other : Setting} {name : String}
    (here : lowered name = setting.variableName) (there : lowered name = other.variableName) :
    setting = other := by
  have path : setting.path = other.path :=
    Option.some.inj ((settingName?_of_lowered here).symm.trans (settingName?_of_lowered there))
  have steps := congrArg pathOf path
  rw [pathOf_path, pathOf_path] at steps
  injection steps with _ steps
  injection steps with last
  injection last with key
  exact key_injective key

end Setting

theorem valueOf_ne_table (text : String) (members : List (String × Tree)) :
    valueOf text ≠ .table members := by
  unfold valueOf
  split
  next => exact Tree.noConfusion
  next => exact Tree.noConfusion
  next =>
    split
    next => exact Tree.noConfusion
    next =>
      split
      next => exact Tree.noConfusion
      next => exact Tree.noConfusion

namespace Tree

variable {tree value : Tree} {setting other : Setting} {name : String}

theorem onto_of_scalar (scalar : ∀ members, value ≠ .table members) (old : Option Tree) :
    value.onto old = value := by
  cases value with
  | table members => exact absurd rfl (scalar members)
  | _ => rfl

theorem member?_getD {key : String} {absent : Tree} (empty : absent.member? key = none) :
    ((tree.member? name).getD absent).member? key = (tree.member? name).bind (member? key) := by
  cases tree.member? name with
  | none => exact empty
  | some group => rfl

theorem at?_put_of_ne (apart : setting.group ≠ name) :
    (tree.put name value).at? setting = tree.at? setting := by
  rw [at?, member?_put_of_ne apart, at?]

theorem at?_put_group :
    (tree.put setting.group value).at? setting = value.member? setting.key := by
  rw [at?, member?_put_self, Option.bind_some]

theorem at?_lay_elsewhere (apart : ∀ rest, pathOf name ≠ .member setting.group :: rest) :
    (tree.lay name value).at? setting = tree.at? setting := by
  obtain ⟨first, rest, leads⟩ := pathOf_eq_cons name
  rw [lay, leads]
  obtain ⟨changed, same⟩ := layAt_member
  rw [same]
  refine at?_put_of_ne fun here => apart rest ?_
  rw [leads, here]

/-- A section laid over a tree is laid over the section that is there, setting by setting. -/
theorem at?_lay_group {members : List (String × Tree)}
    (distinct : (members.map Prod.fst).Nodup) :
    (tree.lay setting.group (.table members)).at? setting =
      laid (members.lookup setting.key) (tree.at? setting) := by
  rw [lay, setting.pathOf_group, layAt, overlay_eq, at?_put_group, onto,
    member?_overlayAll distinct, member?_getD rfl]
  rfl

theorem lay_path_eq :
    tree.lay setting.path value = tree.put setting.group
      (overlay setting.key value ((tree.member? setting.group).getD nothing)) := by
  rw [lay, setting.pathOf_path]
  rfl

/-- A value laid over the place of one setting changes no other place. -/
theorem at?_lay_path (scalar : ∀ members, value ≠ .table members) :
    (tree.lay setting.path value).at? other =
      if other = setting then some value else tree.at? other := by
  rw [lay_path_eq, overlay_eq, onto_of_scalar scalar]
  by_cases same : other = setting
  · subst same
    rw [at?_put_group, member?_put_self, if_pos rfl]
  · rw [if_neg same]
    by_cases group : other.group = setting.group
    · have apart : other.key ≠ setting.key := fun key => same (Setting.key_injective key)
      rw [← group, at?_put_group, member?_put_of_ne apart, member?_getD rfl]
      rfl
    · exact at?_put_of_ne group

structure Grouped (tree : Tree) : Prop where
  isTable : tree.IsTable
  groups : ∀ (setting : Setting) (group : Tree), tree.member? setting.group = some group →
    group.IsTable

theorem Grouped.empty : (table []).Grouped := ⟨⟨[], rfl⟩, nofun⟩

theorem Grouped.put (grouped : tree.Grouped)
    (table : ∀ setting : Setting, setting.group = name → value.IsTable) :
    (tree.put name value).Grouped := by
  refine ⟨isTable_put, fun setting group found => ?_⟩
  rw [member?_put] at found
  split at found
  next here =>
    obtain rfl := Option.some.inj found
    exact table setting here
  next => exact grouped.groups setting group found

theorem Grouped.lay_path (grouped : tree.Grouped) : (tree.lay setting.path value).Grouped := by
  rw [lay_path_eq, overlay_eq]
  exact grouped.put fun _ _ => isTable_put

theorem Grouped.lay_group (grouped : tree.Grouped) (table : value.IsTable) :
    (tree.lay setting.group value).Grouped := by
  obtain ⟨members, rfl⟩ := table
  rw [lay, setting.pathOf_group, layAt, overlay_eq]
  refine grouped.put fun other here => isTable_overlayAll ?_
  cases found : tree.member? setting.group with
  | none => exact ⟨[], rfl⟩
  | some group => exact grouped.groups setting group found

theorem Grouped.lay_elsewhere (grouped : tree.Grouped)
    (apart : ∀ (setting : Setting) (rest : List Step), pathOf name ≠ .member setting.group :: rest) :
    (tree.lay name value).Grouped := by
  obtain ⟨first, rest, leads⟩ := pathOf_eq_cons name
  rw [lay, leads]
  obtain ⟨changed, same⟩ := layAt_member
  rw [same]
  refine grouped.put fun setting here => absurd ?_ (apart setting rest)
  rw [leads, here]

/-- A tree that has the sections as tables. Names of members are read as paths, and only the names
of the sections may lead into a section. -/
def Sectioned (tree : Tree) : Prop :=
  ∀ entry ∈ tree.members, ∀ (setting : Setting) (rest : List Step),
    pathOf entry.1 = .member setting.group :: rest → entry.1 = setting.group ∧ entry.2.IsTable

theorem Sectioned.ofGroups
    (groups : ∀ entry ∈ tree.members, entry.1 ∈ ["logging", "database", "users"] ∧
      entry.2.IsTable) : tree.Sectioned := by
  intro entry present setting rest leads
  obtain ⟨named, table⟩ := groups entry present
  obtain ⟨own, same⟩ : ∃ own : Setting, entry.1 = own.group := by
    simp only [List.mem_cons, List.not_mem_nil, or_false] at named
    obtain logging | database | users := named
    · exact ⟨.level, logging⟩
    · exact ⟨.url, database⟩
    · exact ⟨.utcOffsetMinutes, users⟩
  rw [same, own.pathOf_group] at leads
  injection leads with first
  injection first with here
  exact ⟨same.trans here, table⟩

end Tree

end UserDirectory.Configuration
