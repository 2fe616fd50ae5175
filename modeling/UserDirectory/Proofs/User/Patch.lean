import UserDirectory.Proofs.Service.Run
import UserDirectory.Proofs.Store.Change

/-!
Patches one after another. Field by field what a later patch supplies wins over what an earlier one
does, so any row of patches is one patch, and of two patches that supply no field in common neither
undoes the other, whichever comes first. The store applies a patch to the row that is there, so the
same is so of updates that it makes one after another.
-/

namespace UserDirectory

namespace Patch

/-- One patch in the place of two: a field is the later one's where that supplies it, and the
earlier one's otherwise. -/
def after (later earlier : Patch) : Patch where
  id := later.id
  passwordHash := later.passwordHash <|> earlier.passwordHash
  nickname := later.nickname <|> earlier.nickname
  remark := later.remark <|> earlier.remark
  deptId := later.deptId <|> earlier.deptId
  postIds := later.postIds <|> earlier.postIds
  email := later.email <|> earlier.email
  mobile := later.mobile <|> earlier.mobile
  sex := later.sex <|> earlier.sex
  avatar := later.avatar <|> earlier.avatar
  status := later.status <|> earlier.status
  loginIp := later.loginIp <|> earlier.loginIp
  loginDate := later.loginDate <|> earlier.loginDate
  updateBy := later.updateBy <|> earlier.updateBy

structure Disjoint (a b : Patch) : Prop where
  passwordHash : a.passwordHash = none ∨ b.passwordHash = none
  nickname : a.nickname = none ∨ b.nickname = none
  remark : a.remark = none ∨ b.remark = none
  deptId : a.deptId = none ∨ b.deptId = none
  postIds : a.postIds = none ∨ b.postIds = none
  email : a.email = none ∨ b.email = none
  mobile : a.mobile = none ∨ b.mobile = none
  sex : a.sex = none ∨ b.sex = none
  avatar : a.avatar = none ∨ b.avatar = none
  status : a.status = none ∨ b.status = none
  loginIp : a.loginIp = none ∨ b.loginIp = none
  loginDate : a.loginDate = none ∨ b.loginDate = none
  updateBy : a.updateBy = none ∨ b.updateBy = none

def Takes (supplied before after : Option α) : Prop :=
  (∀ value, supplied = some value → after = some value) ∧ (supplied = none → after = before)

/-- Each field of a user takes what a patch supplies for it. -/
structure Wins (patch : Patch) (before after : User) : Prop where
  passwordHash : Takes patch.passwordHash before.passwordHash after.passwordHash
  nickname : Takes patch.nickname before.nickname after.nickname
  remark : Takes patch.remark before.remark after.remark
  deptId : Takes patch.deptId before.deptId after.deptId
  postIds : Takes patch.postIds before.postIds after.postIds
  email : Takes patch.email before.email after.email
  mobile : Takes patch.mobile before.mobile after.mobile
  sex : Takes patch.sex before.sex after.sex
  avatar : Takes patch.avatar before.avatar after.avatar
  status : Takes patch.status (some before.status) (some after.status)
  loginIp : Takes patch.loginIp before.loginIp after.loginIp
  loginDate : Takes patch.loginDate before.loginDate after.loginDate
  updateBy : Takes patch.updateBy before.updateBy after.updateBy

theorem takes_orElse (supplied before : Option α) : Takes supplied before (supplied <|> before) := by
  cases supplied with
  | none => exact ⟨nofun, fun _ => rfl⟩
  | some value => exact ⟨fun _ same => same, nofun⟩

theorem apply_wins (patch : Patch) (user : User) (now : Instant) :
    patch.Wins user (patch.apply user now) := by
  have status : Takes patch.status (some user.status) (some (patch.status.getD user.status)) := by
    cases patch.status with
    | none => exact ⟨nofun, fun _ => rfl⟩
    | some value => exact ⟨fun _ same => same, nofun⟩
  constructor
  case status => exact status
  all_goals exact takes_orElse _ _

theorem orElse_comm_of_none {a b : Option α} (free : a = none ∨ b = none) :
    (a <|> b) = (b <|> a) := by
  cases a with
  | none => cases b <;> rfl
  | some value =>
    obtain rfl : b = none := free.resolve_left (Option.some_ne_none value)
    rfl

theorem apply_after (later earlier : Patch) (user : User) (before now : Instant) :
    (later.after earlier).apply user now = later.apply (earlier.apply user before) now := by
  simp only [apply, after, Option.orElse_eq_orElse, Option.orElse_eq_or, Option.or_assoc,
    Option.getD_or]

theorem after_self (patch : Patch) : patch.after patch = patch := by
  simp only [after, Option.orElse_eq_orElse, Option.orElse_eq_or, Option.or_self]

/-- Whom a patch is for is all that the order of two such patches decides. -/
theorem Disjoint.after_comm {a b : Patch} (apart : a.Disjoint b) :
    a.after b = { b.after a with id := a.id } := by
  simp only [after, Patch.mk.injEq, true_and]
  exact ⟨orElse_comm_of_none apart.passwordHash, orElse_comm_of_none apart.nickname,
    orElse_comm_of_none apart.remark, orElse_comm_of_none apart.deptId,
    orElse_comm_of_none apart.postIds, orElse_comm_of_none apart.email,
    orElse_comm_of_none apart.mobile, orElse_comm_of_none apart.sex,
    orElse_comm_of_none apart.avatar, orElse_comm_of_none apart.status,
    orElse_comm_of_none apart.loginIp, orElse_comm_of_none apart.loginDate,
    orElse_comm_of_none apart.updateBy⟩

theorem Disjoint.apply_after_comm {a b : Patch} (apart : a.Disjoint b) (user : User)
    (now : Instant) : (a.after b).apply user now = (b.after a).apply user now := by
  rw [apart.after_comm]
  rfl

def applyAll (user : User) (edits : List (Patch × Instant)) : User :=
  edits.foldl (fun user edit => edit.1.apply user edit.2) user

def followedBy (first : Patch) (rest : List Patch) : Patch :=
  rest.foldl (fun earlier later => later.after earlier) first

theorem applyAll_eq (first : Patch) (time : Instant) (edits : List (Patch × Instant))
    (user : User) :
    applyAll user ((first, time) :: edits) =
      (first.followedBy (edits.map Prod.fst)).apply user ((edits.map Prod.snd).getLastD time) := by
  induction edits generalizing first time with
  | nil => rfl
  | cons edit rest ih =>
    obtain ⟨next, later⟩ := edit
    calc applyAll user ((first, time) :: (next, later) :: rest)
        = applyAll (next.apply (first.apply user time) later) rest := rfl
      _ = applyAll user ((next.after first, later) :: rest) := by
        rw [← apply_after]
        rfl
      _ = ((next.after first).followedBy (rest.map Prod.fst)).apply user
            ((rest.map Prod.snd).getLastD later) := ih (next.after first) later
      _ = (first.followedBy (next :: rest.map Prod.fst)).apply user
            ((later :: rest.map Prod.snd).getLastD time) := by
        rw [List.getLastD_cons]
        rfl

end Patch

namespace Memory

variable {supplies : Supplies} {memory : Memory}

theorem update_finds {patch : Patch} {user : User}
    (updated : (memory.update supplies patch).1 = .ok (some user)) :
    ∃ row now, memory.store.liveRow? patch.id = some row ∧ user = patch.apply row now ∧
      (memory.update supplies patch).2.store.liveRow? patch.id = some user := by
  rcases update_cases supplies memory patch with
      ⟨missed, -, -⟩ | ⟨failure, failed, -⟩ | ⟨row, now, found, -, -, answered, written⟩
  · rw [missed] at updated
    cases updated
  · rw [failed] at updated
    cases updated
  · rw [answered] at updated
    cases updated
    have alive : (patch.apply row now).IsLive := (Store.liveRow?_eq_some.1 found).2
    refine ⟨row, now, found, rfl, ?_⟩
    rw [written]
    exact Store.liveRow?_eq_some.2 ⟨Store.mem_put.2 (.inl rfl), alive⟩

/-- Two updates of one user come to one update of the row that was there before them. -/
theorem update_update {earlier later : Patch} (same : later.id = earlier.id) {between after : User}
    (first : (memory.update supplies earlier).1 = .ok (some between))
    (second : ((memory.update supplies earlier).2.update supplies later).1 = .ok (some after)) :
    ∃ row now, memory.store.liveRow? earlier.id = some row ∧
      after = (later.after earlier).apply row now := by
  obtain ⟨row, before, found, rfl, stored⟩ := update_finds first
  obtain ⟨current, now, here, rfl, -⟩ := update_finds second
  rw [same, stored] at here
  cases here
  exact ⟨row, now, found, (Patch.apply_after later earlier row before now).symm⟩

end Memory

/-- After a patch a user has what it supplies, and for the rest what was there before. The later
patch wins, field by field: two patches come to the one that has each field of the later where that
supplies it and else that of the earlier, and so does any row of patches. So a patch made twice at
one time is made once, a patch that supplies nothing changes the time of the update alone, two that
supply no field in common come to the same in either order, and no patch changes who a user is,
whose, since when, or whether deleted. The store makes updates of one user accordingly: two come to
one, and two that supply no field in common differ by their times alone if they change places. -/
theorem Patch.last_writer_wins :
    (∀ (patch : Patch) (user : User) (now : Instant), patch.Wins user (patch.apply user now)) ∧
    (∀ (earlier later : Patch) (user : User) (before now : Instant),
      later.apply (earlier.apply user before) now = (later.after earlier).apply user now) ∧
    (∀ (first : Patch) (time : Instant) (edits : List (Patch × Instant)) (user : User),
      applyAll user ((first, time) :: edits) =
        (first.followedBy (edits.map Prod.fst)).apply user ((edits.map Prod.snd).getLastD time)) ∧
    (∀ (patch : Patch) (user : User) (now : Instant),
      patch.apply (patch.apply user now) now = patch.apply user now) ∧
    (∀ (id : UserId) (user : User) (now : Instant),
      Patch.apply { id } user now = { user with updatedAt := now }) ∧
    (∀ a b : Patch, a.Disjoint b → ∀ (user : User) (before other now : Instant),
      a.apply (b.apply user before) now = b.apply (a.apply user other) now) ∧
    (∀ (patch : Patch) (user : User) (now : Instant),
      let patched := patch.apply user now
      patched.id = user.id ∧ patched.account = user.account ∧
        patched.tenantId = user.tenantId ∧ patched.createBy = user.createBy ∧
        patched.createdAt = user.createdAt ∧ patched.deletedAt = user.deletedAt) ∧
    ∀ (supplies : Supplies) (memory : Memory) (a b : Patch), a.id = b.id →
      ∀ afterA after, (memory.update supplies a).1 = .ok (some afterA) →
        ((memory.update supplies a).2.update supplies b).1 = .ok (some after) →
        (∃ row now, memory.store.liveRow? a.id = some row ∧
          after = (b.after a).apply row now) ∧
        (a.Disjoint b → ∀ afterB swapped, (memory.update supplies b).1 = .ok (some afterB) →
          ((memory.update supplies b).2.update supplies a).1 = .ok (some swapped) →
          swapped = { after with updatedAt := swapped.updatedAt }) := by
  refine ⟨apply_wins,
    fun earlier later user before now => (apply_after later earlier user before now).symm,
    applyAll_eq, fun patch user now => ?_, fun id user now => rfl,
    fun a b apart user before other now => ?_, fun patch user now => ⟨rfl, rfl, rfl, rfl, rfl, rfl⟩,
    fun supplies memory a b same afterA after firstA thenB => ⟨?_, ?_⟩⟩
  · rw [← apply_after, after_self]
  · calc a.apply (b.apply user before) now
        = (a.after b).apply user now := (apply_after a b user before now).symm
      _ = (b.after a).apply user now := apart.apply_after_comm user now
      _ = b.apply (a.apply user other) now := apply_after b a user other now
  · exact Memory.update_update same.symm firstA thenB
  · intro apart afterB swapped firstB thenA
    obtain ⟨row, now, found, rfl⟩ := Memory.update_update same.symm firstA thenB
    obtain ⟨again, later, found', rfl⟩ := Memory.update_update same firstB thenA
    rw [← same, found] at found'
    cases found'
    rw [apart.apply_after_comm]
    rfl

/-- One editor gives a user an email and switches her off, another gives her a nickname, in either
order. -/
theorem Patch.editors_win :
    let user := User.ofNew .first { account := "alice", nickname := some "Al" } .epoch
    let memory : Memory := { store := Store.empty.put "u-1" user }
    let off : Patch := { id := .first, email := some "a@x.org", status := some .disabled }
    let name : Patch := { id := .first, nickname := some "Alice" }
    off.Disjoint name ∧
    off.Wins user (off.apply user .epoch) ∧
    off.apply (name.apply user .epoch) .epoch = name.apply (off.apply user .epoch) .epoch ∧
    ∃ after swapped,
      ((memory.update .still off).2.update .still name).1 = .ok (some after) ∧
      ((memory.update .still name).2.update .still off).1 = .ok (some swapped) ∧
      swapped = { after with updatedAt := swapped.updatedAt } := by
  intro user memory off name
  have apart : off.Disjoint name := by constructor <;> decide
  obtain ⟨wins, -, -, -, -, commute, -, stored⟩ := Patch.last_writer_wins
  have swap := (stored .still memory off name rfl _ _ rfl rfl).2 apart _ _ rfl rfl
  exact ⟨apart, wins off user .epoch, commute off name apart user .epoch .epoch .epoch, _, _, rfl,
    rfl, swap⟩

end UserDirectory
