import UserDirectory.User.Rule

namespace UserDirectory

structure UserId where
  text : String
  valid : Rule.id text = .ok ()
deriving DecidableEq

namespace UserId

def ofText (text : String) : Except FieldError UserId :=
  match checked : Rule.id text with
  | .ok () => .ok ⟨text, checked⟩
  | .error error => .error error

theorem text_injective {a b : UserId} (same : a.text = b.text) : a = b := by
  cases a
  cases b
  cases same
  rfl

theorem ofText_eq_ok {text : String} {id : UserId} : ofText text = .ok id ↔ text = id.text := by
  unfold ofText
  split
  next valid =>
    constructor
    · intro made
      exact congrArg UserId.text (Except.ok.inj made)
    · rintro rfl
      rfl
  next error broken =>
    refine iff_of_false nofun ?_
    rintro rfl
    rw [id.valid] at broken
    cases broken

end UserId

end UserDirectory
