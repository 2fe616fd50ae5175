import UserDirectory.Sql.Template

namespace UserDirectory.Sql.Template

@[simp] theorem values_nil : values [] = [] := rfl

@[simp] theorem values_words (text : String) (rest : Template) :
    values (.words text :: rest) = values rest := rfl

@[simp] theorem values_value (cell : Cell) (rest : Template) :
    values (.value cell :: rest) = cell :: values rest := rfl

theorem values_append (front back : Template) :
    values (front ++ back) = values front ++ values back :=
  List.filterMap_append

theorem textFrom_append (front back : Template) (next : Nat) :
    textFrom next (front ++ back) =
      textFrom next front ++ textFrom (next + front.values.length) back := by
  induction front generalizing next with
  | nil => rw [List.nil_append, textFrom, String.empty_append, values_nil]; rfl
  | cons piece rest ih =>
    cases piece with
    | words text => simp only [List.cons_append, textFrom, ih, values_words, String.append_assoc]
    | value cell =>
      simp only [List.cons_append, textFrom, ih, values_value, List.length_cons,
        String.append_assoc, Nat.add_assoc, Nat.add_comm 1]

theorem joined_cons {between : String} {first second : Template} {rest : List Template} :
    joined between (first :: second :: rest) =
      first ++ .words between :: joined between (second :: rest) := rfl

theorem values_joined (between : String) (cells : List Cell) :
    (joined between (cells.map fun cell => [.value cell])).values = cells := by
  induction cells with
  | nil => rfl
  | cons cell rest ih =>
    cases rest with
    | nil => rfl
    | cons second rest => exact congrArg (cell :: ·) ih

def places (between : String) (next count : Nat) : String :=
  between.intercalate ((List.range' next count).map placeholder)

theorem textFrom_joined (between : String) (cells : List Cell) (next : Nat) :
    (joined between (cells.map fun cell => [.value cell])).textFrom next =
      places between next cells.length := by
  induction cells generalizing next with
  | nil => rfl
  | cons cell rest ih =>
    cases rest with
    | nil => exact String.append_empty.trans String.intercalate_singleton.symm
    | cons second rest =>
      calc (joined between ((cell :: second :: rest).map fun cell => [.value cell])).textFrom next
        _ = placeholder next ++ (between ++ (joined between
              ((second :: rest).map fun cell => [.value cell])).textFrom (next + 1)) := rfl
        _ = places between next (cell :: second :: rest).length := by
          rw [ih, ← String.append_assoc]
          exact String.intercalate_cons_cons.symm

end UserDirectory.Sql.Template
