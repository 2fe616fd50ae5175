import Mathlib.Data.List.Nodup

namespace UserDirectory

variable [DecidableEq β] {members : List α} {key : α → β}

theorem find?_key_eq_some (distinct : (members.map key).Nodup) {member : α}
    (present : member ∈ members) :
    members.find? (fun other => key other = key member) = some member := by
  cases found : members.find? fun other => key other = key member with
  | none => exact absurd (decide_eq_true rfl) (List.find?_eq_none.1 found member present)
  | some other =>
    have same : key other = key member := by simpa using List.find?_some found
    have inside := List.mem_of_find?_eq_some found
    exact congrArg some (List.inj_on_of_nodup_map distinct inside present same)

theorem find?_key_eq_none {wanted : β} (absent : wanted ∉ members.map key) :
    members.find? (fun other => key other = wanted) = none := by
  apply List.find?_eq_none.2
  intro member present same
  have named : key member = wanted := by simpa using same
  exact absent (named ▸ List.mem_map_of_mem present)

end UserDirectory
