namespace UserDirectory

theorem Except.bind_eq_ok {first : Except ε α} {next : α → Except ε β} {result : β} :
    (first >>= next) = .ok result ↔ ∃ value, first = .ok value ∧ next value = .ok result := by
  cases first with
  | error failure => exact ⟨nofun, fun ⟨_, absurd, _⟩ => nomatch absurd⟩
  | ok value => exact ⟨fun same => ⟨value, rfl, same⟩, fun ⟨_, rfl, same⟩ => same⟩

@[simp] theorem Except.mapError_ok {change : ε → δ} {value : α} :
    (Except.ok value).mapError change = .ok value := rfl

@[simp] theorem Except.mapError_error {change : ε → δ} {failure : ε} :
    (Except.error failure : Except ε α).mapError change = .error (change failure) := rfl

theorem Except.mapError_eq_ok {result : Except ε α} {change : ε → δ} {value : α} :
    result.mapError change = .ok value ↔ result = .ok value := by
  cases result with
  | error failure => exact ⟨nofun, nofun⟩
  | ok value => rw [mapError_ok, Except.ok.injEq, Except.ok.injEq]

theorem Except.toOption_eq_some_iff {result : Except ε α} {value : α} :
    result.toOption = some value ↔ result = .ok value := by
  cases result <;> simp [Except.toOption]

end UserDirectory
