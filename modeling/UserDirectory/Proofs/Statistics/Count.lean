import UserDirectory.Proofs.Time.Windows
import UserDirectory.Store.Memory

namespace UserDirectory

def Filter.narrowings (scope : Filter) (windows : Windows) : List Filter :=
  [scope.withStatus .enabled, scope.withStatus .disabled, scope.createdSince windows.today,
    scope.createdSince windows.thisWeek, scope.createdSince windows.thisMonth]

theorem Filter.withStatus_selects (scope : Filter) (status : Status) (user : User) :
    (scope.selects user && (scope.withStatus status).selects user) =
      (scope.selects user && decide (user.status = status)) := by
  simp only [Filter.selects, Filter.withStatus, Option.all_some]
  rw [Bool.eq_iff_iff]
  simp only [Bool.and_eq_true]
  constructor
  · rintro ⟨inScope, narrowed⟩
    exact ⟨inScope, narrowed.1.1.1.1.1.1.2⟩
  · rintro ⟨inScope, held⟩
    have ⟨⟨⟨⟨⟨⟨⟨account, _⟩, start⟩, stop⟩, email⟩, mobile⟩, dept⟩, tenant⟩ := inScope
    exact ⟨inScope, ⟨⟨⟨⟨⟨⟨account, held⟩, start⟩, stop⟩, email⟩, mobile⟩, dept⟩, tenant⟩

theorem Filter.createdSince_selects (scope : Filter) (start : Instant) (user : User) :
    (scope.selects user && (scope.createdSince start).selects user) =
      (scope.selects user && decide (start ≤ user.createdAt)) := by
  simp only [Filter.selects, Filter.createdSince, Option.all_some]
  rw [Bool.eq_iff_iff]
  simp only [Bool.and_eq_true]
  constructor
  · rintro ⟨inScope, narrowed⟩
    exact ⟨inScope, narrowed.1.1.1.1.1.2⟩
  · rintro ⟨inScope, held⟩
    have ⟨⟨⟨⟨⟨⟨⟨account, status⟩, _⟩, stop⟩, email⟩, mobile⟩, dept⟩, tenant⟩ := inScope
    exact ⟨inScope, ⟨⟨⟨⟨⟨⟨account, status⟩, held⟩, stop⟩, email⟩, mobile⟩, dept⟩, tenant⟩

theorem Filter.selects_of_withStatus {scope : Filter} (unset : scope.status = none)
    {status : Status} {user : User} (selected : (scope.withStatus status).selects user = true) :
    scope.selects user = true := by
  simp only [Filter.selects, Filter.withStatus, unset, Option.all_none, Bool.and_true,
    Bool.and_eq_true] at selected ⊢
  have ⟨⟨⟨⟨⟨⟨⟨account, _⟩, start⟩, stop⟩, email⟩, mobile⟩, dept⟩, tenant⟩ := selected
  exact ⟨⟨⟨⟨⟨⟨account, start⟩, stop⟩, email⟩, mobile⟩, dept⟩, tenant⟩

theorem Filter.selects_of_createdSince {scope : Filter} (unset : scope.createdFrom = none)
    {start : Instant} {user : User} (selected : (scope.createdSince start).selects user = true) :
    scope.selects user = true := by
  simp only [Filter.selects, Filter.createdSince, unset, Option.all_none, Bool.and_true,
    Bool.and_eq_true] at selected ⊢
  have ⟨⟨⟨⟨⟨⟨⟨account, status⟩, _⟩, stop⟩, email⟩, mobile⟩, dept⟩, tenant⟩ := selected
  exact ⟨⟨⟨⟨⟨⟨account, status⟩, stop⟩, email⟩, mobile⟩, dept⟩, tenant⟩

theorem Filter.narrowing_selects {scope : Filter} (status : scope.status = none)
    (start : scope.createdFrom = none) {windows : Windows} {narrowed : Filter}
    (member : narrowed ∈ scope.narrowings windows) {user : User}
    (selected : narrowed.selects user = true) : scope.selects user = true := by
  simp only [narrowings, List.mem_cons, List.not_mem_nil, or_false] at member
  rcases member with rfl | rfl | rfl | rfl | rfl
  · exact selects_of_withStatus status selected
  · exact selects_of_withStatus status selected
  · exact selects_of_createdSince start selected
  · exact selects_of_createdSince start selected
  · exact selects_of_createdSince start selected

theorem countP_statuses (users : List User) :
    (users.countP fun user => user.status = .enabled) +
      (users.countP fun user => user.status = .disabled) = users.length := by
  rw [users.length_eq_countP_add_countP fun user => user.status = .enabled]
  congr 2
  funext user
  cases user.status <;> rfl

namespace Store

variable {store : Store} {scope : Filter}

/-- In a scope without a status, a count of a status counts the users of that status in scope. -/
theorem count_withStatus (unset : scope.status = none) (status : Status) :
    store.count (scope.withStatus status) =
      (store.selection scope).countP fun user => user.status = status := by
  rw [count, selection, selection, ← List.countP_eq_length_filter, List.countP_filter]
  congr 1
  funext user
  rw [Bool.and_comm, ← scope.withStatus_selects status user, Bool.eq_iff_iff, Bool.and_eq_true]
  exact ⟨fun narrowed => ⟨Filter.selects_of_withStatus unset narrowed, narrowed⟩, And.right⟩

/-- In a scope without a first instant, a count since an instant counts the users in scope who
registered since then. -/
theorem count_createdSince (unset : scope.createdFrom = none) (start : Instant) :
    store.count (scope.createdSince start) =
      (store.selection scope).countP fun user => start ≤ user.createdAt := by
  rw [count, selection, selection, ← List.countP_eq_length_filter, List.countP_filter]
  congr 1
  funext user
  rw [Bool.and_comm, ← scope.createdSince_selects start user, Bool.eq_iff_iff, Bool.and_eq_true]
  exact ⟨fun narrowed => ⟨Filter.selects_of_createdSince unset narrowed, narrowed⟩, And.right⟩

theorem count_statuses (unset : scope.status = none) :
    store.count (scope.withStatus .enabled) + store.count (scope.withStatus .disabled) =
      store.count scope := by
  rw [count_withStatus unset, count_withStatus unset, countP_statuses, count]

theorem count_createdSince_mono (unset : scope.createdFrom = none) {start later : Instant}
    (sooner : start ≤ later) :
    store.count (scope.createdSince later) ≤ store.count (scope.createdSince start) := by
  rw [count_createdSince unset, count_createdSince unset]
  apply List.countP_mono_left
  intro user _ registered
  exact decide_eq_true (Instant.le_trans sooner (of_decide_eq_true registered))

theorem count_createdSince_le (unset : scope.createdFrom = none) (start : Instant) :
    store.count (scope.createdSince start) ≤ store.count scope := by
  rw [count_createdSince unset]
  exact List.countP_le_length

end Store

end UserDirectory
