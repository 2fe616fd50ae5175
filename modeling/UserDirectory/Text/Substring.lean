namespace UserDirectory.Text

def contains (text needle : List Char) : Bool :=
  needle.isPrefixOf text ||
    match text with
    | [] => false
    | _ :: rest => contains rest needle

theorem contains_iff_infix {text needle : List Char} :
    contains text needle = true ↔ needle <:+: text := by
  induction text with
  | nil =>
    rw [contains, Bool.or_false, List.isPrefixOf_iff_prefix, List.prefix_nil, List.infix_nil]
  | cons c rest ih =>
    rw [contains, Bool.or_eq_true, List.isPrefixOf_iff_prefix, ih, List.infix_cons_iff]

end UserDirectory.Text
