import UserDirectory.Proofs.Service.Checks

/-!
The operations that write with one call. Their look-ups may be out of date when the write comes,
but a write goes through only where every look-up would still pass: whoever succeeds would have
done so alone, in the store that the write met. Whoever fails has changed nothing.
-/

namespace UserDirectory

open Service Program

/-- The memory in which a thread would have done all its work alone, in `store`: the clock and the
source of ids stand where its call found them, and its digest is the one that it made. -/
def Move.alone (move : Move) (store : Store) : Memory :=
  { move.before.withDigests (move.digest.getD move.before.usage.digests) with store }

/-- Nothing is written before the end. Where the operation succeeds it has written once, and run
alone in the store that the write met it gives the same value and leaves the same store. -/
def Sound (role : Role) (program : Program α) (past : Past) :
    Option (Except Failure α) → Prop
  | none => past.Quiet
  | some (.error _) => ∀ move ∈ past.moves, move.after.store = move.before.store
  | some (.ok value) => ∃ move,
    (past.moves.filter fun move => move.call.writes) = [move] ∧ move.operation = role.operation ∧
      let alone := program.eval (Memory.platform role.supplies role.hasher)
        (move.alone move.before.store)
      alone.1 = .ok value ∧ alone.2.store = move.after.store

theorem eval_of_outcome? {platform : Platform σ} {program : Program α}
    {result : Except Failure α} (comes : program.outcome? = some result) (state : σ) :
    program.eval platform state = (result, state) := by
  induction program with
  | done value => obtain rfl := Option.some.inj comes; rfl
  | fail failure => obtain rfl := Option.some.inj comes; rfl
  | log event rest ih => exact ih comes
  | now rest => cases comes
  | digest password rest => cases comes
  | verify password stored rest => cases comes
  | call wanted rest => cases comes

section Writing

variable {role : Role} {past : Past} {wanted : Call}

/-- Where a writing call comes last and either is refused, with nothing changed, or ends the
operation as it would have ended alone, the operation is sound. -/
theorem Sound.write {program : Program α} {next : wanted.Reply → Program α}
    (writes : wanted.writes = true) (quiet : past.Quiet)
    (met : ∀ before : Memory, before.store.Reachable →
      let answered := before.answer role.supplies wanted
      (∃ failure, (ofExcept answered.1 >>= next).outcome? = some (.error failure) ∧
        answered.2.store = before.store) ∨
      ∃ value digests, (ofExcept answered.1 >>= next).outcome? = some (.ok value) ∧
        program.eval (Memory.platform role.supplies role.hasher)
            (before.withDigests (past.digest.getD before.usage.digests)) =
          (ask wanted >>= next).eval (Memory.platform role.supplies role.hasher)
            (before.withDigests digests)) :
    (ask wanted >>= next).Always role (Sound role program) past := by
  refine always_bind.2 (always_ask.2 ⟨quiet, fun before reachable => ?_⟩)
  suffices ends : (ofExcept (before.answer role.supplies wanted).1 >>= next).Always role
      (Sound role program) (past.after role wanted before) from
    always_ofExcept.1 (always_bind.1 ends)
  rcases met before reachable with ⟨failure, comes, kept⟩ | ⟨value, digests, comes, alone⟩
  · apply always_of_outcome? comes
    intro move member
    rcases List.mem_append.1 member with earlier | last
    · exact (quiet move earlier).2
    · rw [List.mem_singleton.1 last]
      exact kept
  · refine always_of_outcome? comes ⟨role.move wanted past.digest before, ?_, rfl, ?_⟩
    · have silent : past.moves.filter (fun move => move.call.writes) = [] :=
        List.filter_eq_nil_iff.2 fun move member => by simp [(quiet move member).1]
      rw [Past.after, List.filter_append, silent, List.nil_append]
      exact List.filter_cons_of_pos writes
    -- alone the same call comes at the same readings, so it gets the same answer
    · have answered : (Memory.platform role.supplies role.hasher).answer wanted
          (before.withDigests digests) = ((before.answer role.supplies wanted).1,
            (before.answer role.supplies wanted).2.withDigests digests) :=
        Memory.answer_withDigests role.supplies before digests wanted
      have same : program.eval (Memory.platform role.supplies role.hasher)
          (before.withDigests (past.digest.getD before.usage.digests)) =
            (.ok value, (before.answer role.supplies wanted).2.withDigests digests) := by
        rw [alone, eval_bind, eval_ask, answered, ← eval_of_outcome? comes, eval_bind,
          eval_ofExcept]
      exact ⟨congrArg Prod.fst same, congrArg (fun ended => ended.2.store) same⟩

end Writing

theorem Sound.failed (role : Role) (program : Program α) {past : Past} (quiet : past.Quiet)
    (failure : Failure) : Sound role program past (some (.error failure)) :=
  fun move member => (quiet move member).2

theorem Sound.followed {role : Role} {past : Past} {whole : Program β} {program : Program α}
    {next : α → Program β} (reads : program.Reads role) (quiet : past.Quiet)
    (onward : ∀ past value, past.Quiet → (next value).Always role (Sound role whole) past) :
    (program >>= next).Always role (Sound role whole) past :=
  reads.followed (fun _ quiet => quiet) (fun _ failure quiet => .failed role whole quiet failure)
    onward quiet

theorem Sound.required {role : Role} {past : Past} {whole : Program β}
    {checked : Except FieldError α} {next : α → Program β} (quiet : past.Quiet)
    (onward : ∀ value, checked = .ok value → (next value).Always role (Sound role whole) past) :
    (require checked >>= next).Always role (Sound role whole) past := by
  refine always_bind.2 (always_require.2 ?_)
  cases passes : checked with
  | ok value => exact onward value passes
  | error error => exact .failed role whole quiet error.failure

theorem Sound.digested {role : Role} {past : Past} {whole : Program β} {password : String}
    {next : String → Program β} (quiet : past.Quiet)
    (onward : ∀ number hash, Past.Quiet { past with digest := some number } →
      role.hasher.hash number password = .ok hash →
      (next hash).Always role (Sound role whole) { past with digest := some number }) :
    (digestOf password >>= next).Always role (Sound role whole) past := by
  refine always_bind.2 (always_digestOf.2 ⟨quiet, fun number => ?_⟩)
  cases made : role.hasher.hash number password with
  | ok hash => exact onward number hash quiet made
  | error failure => exact .failed role whole quiet failure

section Operations

variable (role : Role)

theorem deleteUser_sound (id : String) :
    (deleteUser id).Always role (Sound role (deleteUser id)) {} := by
  apply always_bind.2
  apply Sound.required Past.quiet_start
  intro known checked
  apply Sound.write rfl Past.quiet_start
  intro before _
  obtain ⟨missing, kept, -⟩ | ⟨failure, failed, kept⟩ | ⟨row, now, -, -, deleted, -⟩ :=
    Memory.alter_cases role.supplies before known fun row now =>
      { row with deletedAt := some now }
  · refine .inl ⟨notFound known, ?_, kept⟩
    simp only [Memory.answer, Memory.delete, missing]
    rfl
  · refine .inl ⟨failure, ?_, kept⟩
    simp only [Memory.answer, Memory.delete, failed]
    rfl
  · refine .inr ⟨(), _, ?_, (eval_bind_ok eval_event).trans (eval_bind_ok (eval_require checked))⟩
    simp only [Memory.answer, Memory.delete, deleted]
    rfl

theorem changeUserStatus_sound (id : String) (code : Int) (updateBy : Option String) :
    (changeUserStatus id code updateBy).Always role
      (Sound role (changeUserStatus id code updateBy)) {} := by
  apply always_bind.2
  apply Sound.required Past.quiet_start
  intro known checked
  apply Sound.required Past.quiet_start
  intro status read
  apply Sound.followed (onlyReads_requireLive known).reads Past.quiet_start
  intro past _ quiet
  apply Sound.write rfl quiet
  intro before _
  obtain ⟨missing, kept, -⟩ | ⟨failure, failed, kept⟩ | ⟨row, now, found, -, changed, -⟩ :=
    Memory.alter_cases role.supplies before known fun row now =>
      { row with status, updateBy := updateBy <|> row.updateBy, updatedAt := now }
  · refine .inl ⟨notFound known, ?_, kept⟩
    simp only [Memory.answer, Memory.changeStatus, missing]
    rfl
  · refine .inl ⟨failure, ?_, kept⟩
    simp only [Memory.answer, Memory.changeStatus, failed]
    rfl
  · refine .inr ⟨(), past.digest.getD before.usage.digests, ?_, ?_⟩
    · simp only [Memory.answer, Memory.changeStatus, changed]
      rfl
    · have found : (before.withDigests (past.digest.getD before.usage.digests)).store.liveRow?
          known = some row := found
      exact (eval_bind_ok eval_event).trans <| (eval_bind_ok (eval_require checked)).trans <|
        (eval_bind_ok (eval_require read)).trans (eval_bind_ok (eval_requireLive found))

theorem resetPassword_sound (id password : String) (updateBy : Option String) :
    (resetPassword id password updateBy).Always role
      (Sound role (resetPassword id password updateBy)) {} := by
  apply always_bind.2
  apply Sound.required Past.quiet_start
  intro known checked
  apply Sound.required Past.quiet_start
  intro _ strong
  apply Sound.followed (onlyReads_requireLive known).reads Past.quiet_start
  intro past _ quiet
  apply Sound.digested quiet
  intro number hash quiet made
  apply Sound.write rfl quiet
  intro before _
  obtain ⟨missing, kept, -⟩ | ⟨failure, failed, kept⟩ | ⟨row, now, found, -, -, changed, -⟩ :=
    Memory.update_cases role.supplies before { id := known, passwordHash := some hash, updateBy }
  · refine .inl ⟨notFound known, ?_, kept⟩
    simp only [Memory.answer, missing]
    rfl
  · refine .inl ⟨failure, ?_, kept⟩
    simp only [Memory.answer, failed]
    rfl
  · refine .inr ⟨(), number + 1, ?_, ?_⟩
    · simp only [Memory.answer, changed]
      rfl
    · have found : (before.withDigests number).store.liveRow? known = some row := found
      exact (eval_bind_ok eval_event).trans <| (eval_bind_ok (eval_require checked)).trans <|
        (eval_bind_ok (eval_require strong)).trans <|
        (eval_bind_ok (eval_requireLive found)).trans
          (eval_bind_ok (eval_digestOf.trans (congrArg (·, _) made)))

theorem createUser_sound (request : CreateRequest) :
    (createUser request).Always role (Sound role (createUser request)) {} := by
  apply always_bind.2
  apply Sound.required Past.quiet_start
  rintro ⟨sex, status⟩ checked
  apply Sound.followed (onlyReads_requireAccountFree _).reads Past.quiet_start
  intro past _ quiet
  apply Sound.followed (onlyReads_givenEmailFree _ none).reads quiet
  intro past _ quiet
  apply Sound.followed (onlyReads_givenMobileFree _ none).reads quiet
  intro past _ quiet
  apply Sound.digested quiet
  intro number hash quiet made
  apply Sound.write rfl quiet
  intro before _
  rcases Memory.save_cases role.supplies before (newUser request sex status hash) with
      ⟨failure, failed, kept⟩ | ⟨id, now, -, -, free, -, added, -⟩
  · refine .inl ⟨failure, ?_, kept⟩
    simp only [Memory.answer, failed]
    rfl
  · refine .inr ⟨User.ofNew id (newUser request sex status hash) now, number + 1, ?_, ?_⟩
    · simp only [Memory.answer, added]
      rfl
    -- the look-ups may have been out of date, the guard was not
    · have free : (before.withDigests number).store.conflict? none
          (newUser request sex status hash).claimed = none := free
      exact (eval_bind_ok eval_event).trans <| (eval_bind_ok (eval_require checked)).trans
        (eval_enroll free made)

theorem updateUser_sound (request : UpdateRequest) :
    (updateUser request).Always role (Sound role (updateUser request)) {} := by
  apply always_bind.2
  apply Sound.required Past.quiet_start
  rintro ⟨id, sex, status⟩ checked
  apply Sound.followed (onlyReads_requireLive id).reads Past.quiet_start
  intro past current quiet
  apply Sound.followed (onlyReads_givenEmailFree _ _).reads quiet
  intro past _ quiet
  apply Sound.followed (onlyReads_givenMobileFree _ _).reads quiet
  intro past _ quiet
  apply Sound.write rfl quiet
  intro before reachable
  obtain ⟨missing, kept, -⟩ | ⟨failure, failed, kept⟩ | ⟨row, now, found, -, free, changed, -⟩ :=
    Memory.update_cases role.supplies before (changes request id sex status)
  · refine .inl ⟨notFound id, ?_, kept⟩
    simp only [Memory.answer, missing]
    rfl
  · refine .inl ⟨failure, ?_, kept⟩
    simp only [Memory.answer, failed]
    rfl
  · refine .inr ⟨(changes request id sex status).apply row now,
      past.digest.getD before.usage.digests, ?_, ?_⟩
    · simp only [Memory.answer, changed]
      rfl
    · have consistent : (before.withDigests
          (past.digest.getD before.usage.digests)).store.Consistent := reachable.consistent
      exact (eval_bind_ok eval_event).trans <| (eval_bind_ok (eval_require checked)).trans
        (eval_amend consistent found free)

theorem Operation.sound (settings : Settings) {operation : Operation}
    (once : operation.writesOnce = true) :
    (operation.program settings).Always role (Sound role (operation.program settings)) {} := by
  cases operation with
  | createUser request => exact createUser_sound role request
  | updateUser request => exact updateUser_sound role request
  | deleteUser id => exact deleteUser_sound role id
  | changeUserStatus id status updateBy => exact changeUserStatus_sound role id status updateBy
  | resetPassword id password updateBy => exact resetPassword_sound role id password updateBy
  | getUser id => cases once
  | batchDeleteUsers ids => cases once
  | checkAccountExists account => cases once
  | getUserStatistics tenantId => cases once
  | listUsers request => cases once
  | verifyCredentials account password => cases once

end Operations

end UserDirectory
