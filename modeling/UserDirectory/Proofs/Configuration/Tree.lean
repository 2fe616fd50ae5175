import Mathlib.Data.List.Basic
import UserDirectory.Configuration.Path

namespace UserDirectory.Configuration.Tree

def IsTable (tree : Tree) : Prop := ∃ members, tree = table members

instance : DecidablePred IsTable
  | table members => .isTrue ⟨members, rfl⟩
  | nothing | flag _ | whole _ | decimal _ | text _ | list _ => .isFalse nofun

def onto (value : Tree) (old : Option Tree) : Tree :=
  match value with
  | table members => overlayAll members (old.getD (table []))
  | value => value

def laid (value? old : Option Tree) : Option Tree :=
  match value? with
  | none => old
  | some value => some (value.onto old)

section Members

variable {members : List (String × Tree)} {name other : String}

theorem lookup_replaced (value : Tree) :
    (members.map fun (key, old) => if key = name then (key, value) else (key, old)).lookup other =
      if other = name then (members.lookup name).map fun _ => value else members.lookup other := by
  induction members with
  | nil => rw [List.map_nil, List.lookup_nil, List.lookup_nil, Option.map_none, ite_self]
  | cons entry rest ih =>
    obtain ⟨key, old⟩ := entry
    rw [List.map_cons]
    by_cases here : key = name
    · subst here
      by_cases same : other = key
      · subst same
        simp only [↓reduceIte, List.lookup_cons_self, Option.map_some]
      · simp only [↓reduceIte, List.lookup_cons, beq_eq_false_iff_ne.mpr same, ih, if_neg same]
    · have apart : (name == key) = false := beq_eq_false_iff_ne.mpr fun same => here same.symm
      simp only [if_neg here, List.lookup_cons, ih, apart]
      by_cases same : other = name
      · subst same
        simp only [apart, ↓reduceIte]
      · simp only [if_neg same]

theorem lookup_eq_none_of_not_mem (absent : name ∉ members.map Prod.fst) :
    members.lookup name = none := by
  apply List.lookup_eq_none_iff.mpr
  intro entry present
  apply bne_iff_ne.mpr
  rintro rfl
  exact absent (List.mem_map_of_mem present)

end Members

section Put

variable {tree value : Tree} {name other : String}

theorem member?_put :
    (tree.put name value).member? other =
      if other = name then some value else tree.member? other := by
  rw [put]
  change List.lookup other (ite _ _ _) = _
  split
  next present =>
    obtain ⟨old, found⟩ := Option.isSome_iff_exists.mp present
    rw [lookup_replaced, found]
    rfl
  next absent =>
    have missing : tree.members.lookup name = none := by
      simpa only [Bool.not_eq_true, Option.isSome_eq_false_iff, Option.isNone_iff_eq_none]
        using absent
    rw [List.lookup_append]
    by_cases same : other = name
    · subst same
      simp only [missing, Option.none_or, List.lookup_cons_self, ↓reduceIte]
    · rw [if_neg same, List.lookup_cons, beq_eq_false_iff_ne.mpr same, List.lookup_nil,
        Option.or_none]
      rfl

theorem member?_put_self : (tree.put name value).member? name = some value := by
  rw [member?_put, if_pos rfl]

theorem member?_put_of_ne (apart : other ≠ name) :
    (tree.put name value).member? other = tree.member? other := by
  rw [member?_put, if_neg apart]

theorem isTable_put : (tree.put name value).IsTable := ⟨_, rfl⟩

theorem overlay_eq : overlay name value tree = tree.put name (value.onto (tree.member? name)) := by
  cases value <;> rw [overlay, onto]
  all_goals exact fun _ same => nomatch same

end Put

section Overlay

variable {members : List (String × Tree)}

/-- Member by member, each once: what is laid over a member is what has its name. -/
theorem member?_overlayAll (distinct : (members.map Prod.fst).Nodup) (tree : Tree) (name : String) :
    (overlayAll members tree).member? name = laid (members.lookup name) (tree.member? name) := by
  induction members generalizing tree with
  | nil => rw [overlayAll, List.lookup_nil, laid]
  | cons entry rest ih =>
    obtain ⟨key, value⟩ := entry
    rw [List.map_cons, List.nodup_cons] at distinct
    rw [overlayAll, ih distinct.2, overlay_eq]
    by_cases same : name = key
    · subst same
      rw [lookup_eq_none_of_not_mem distinct.1, member?_put_self, List.lookup_cons_self]
      rfl
    · rw [member?_put_of_ne same, List.lookup_cons, beq_eq_false_iff_ne.mpr same]

theorem isSome_member?_overlayAll (distinct : (members.map Prod.fst).Nodup) (tree : Tree)
    {entry : String × Tree} (present : entry ∈ members) :
    ((overlayAll members tree).member? entry.1).isSome = true := by
  have listed := List.lookup_isSome_iff.2 ⟨entry, present, beq_self_eq_true entry.1⟩
  obtain ⟨value, found⟩ := Option.isSome_iff_exists.1 listed
  rw [member?_overlayAll distinct, found]
  rfl

theorem isTable_overlayAll {tree : Tree} (isTable : tree.IsTable) :
    (overlayAll members tree).IsTable := by
  induction members generalizing tree with
  | nil => exact isTable
  | cons entry rest ih =>
    rw [overlayAll, overlay_eq]
    exact ih isTable_put

/-- A table laid over another leaves one member only if it is that member, laid over nothing else. -/
theorem eq_singleton_of_overlayAll (distinct : (members.map Prod.fst).Nodup) (full : members ≠ [])
    {tree inner : Tree} {name : String}
    (one : overlayAll members tree = table [(name, inner)]) :
    ∃ value, members = [(name, value)] := by
  have named : ∀ entry ∈ members, entry.1 = name := by
    intro entry present
    have there := isSome_member?_overlayAll distinct tree present
    rw [one] at there
    obtain ⟨only, alone, same⟩ := List.lookup_isSome_iff.1 there
    obtain rfl := List.mem_singleton.1 alone
    exact eq_of_beq same
  obtain ⟨⟨key, value⟩, rest, rfl⟩ := List.exists_cons_of_ne_nil full
  obtain rfl : key = name := named (key, value) List.mem_cons_self
  cases rest with
  | nil => exact ⟨value, rfl⟩
  | cons next rest =>
    have again : next.1 = key := named next (List.mem_cons_of_mem _ List.mem_cons_self)
    have fresh := (List.nodup_cons.1 distinct).1
    exact absurd (again ▸ List.mem_cons_self) fresh

end Overlay

section Paths

variable {tree value : Tree} {first : String} {rest : List Step}

theorem layAt_member : ∃ changed, layAt (.member first :: rest) value tree = tree.put first changed := by
  cases rest with
  | nil => exact ⟨_, overlay_eq⟩
  | cons step rest => exact ⟨_, rfl⟩

end Paths

end Tree

theorem pathOf_eq_cons (name : String) : ∃ first rest, pathOf name = .member first :: rest := by
  rw [pathOf]
  cases readName? name.toList with
  | none => exact ⟨name, [], rfl⟩
  | some read =>
    obtain ⟨first, rest⟩ := read
    cases steps : readSteps? rest.length rest with
    | none => exact ⟨name, [], by simp [steps]⟩
    | some path => exact ⟨first, path, by simp [steps]⟩

end UserDirectory.Configuration
