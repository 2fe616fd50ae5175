import Mathlib.Logic.Relation
import UserDirectory.Proofs.Service.Faulty

/-!
What an operation does to the store, told once for each kind of operation: it writes what it was
asked to write, past its checks, or it leaves the store as it was. Whatever faults strike on the
way, there is no third way, and whoever is refused has changed nothing.
-/

namespace UserDirectory

open Service Program

def Store.Removes (id : UserId) (before after : Store) : Prop :=
  ∃ row now, before.liveRow? id = some row ∧
    after = before.put id.text { row with deletedAt := some now }

def Store.Thins (ids : List String) (before after : Store) : Prop :=
  Relation.ReflTransGen (fun a b => ∃ id : UserId, id.text ∈ ids ∧ Removes id a b) before after

def Thinned (supplies : Supplies) (ids : List String) (before : Store)
    (result : Except Failure Tally) (after : Store) : Prop :=
  Store.Thins ids before after ∧ ∀ failure, result = .error failure →
    ∃ number, supplies.instant number = .error .outOfCalendar

/-- What an operation can come to over the store `before`, and the store that it leaves. -/
inductive Operation.Effect (supplies : Supplies) (hasher : Hasher) (before : Store) :
    (operation : Operation) → Except Failure operation.Result → Store → Prop
  | refused (operation : Operation) (failure : Failure) :
      Effect supplies hasher before operation (.error failure) before
  | read (operation : Operation) (result : Except Failure operation.Result)
      (reads : operation.writes = false) : Effect supplies hasher before operation result before
  | created (request : CreateRequest) (sex : Option Sex) (status : Option Status) (number : Nat)
      (hash : String) (id : UserId) (now : Instant)
      (valid : readCreate request = .ok (sex, status))
      (made : hasher.hash number request.password = .ok hash)
      (free : before.conflict? none (newUser request sex status hash).claimed = none)
      (fresh : before.row? id = none) :
      Effect supplies hasher before (.createUser request)
        (.ok (User.ofNew id (newUser request sex status hash) now))
        (before.put id.text (User.ofNew id (newUser request sex status hash) now))
  | updated (request : UpdateRequest) (id : UserId) (sex : Option Sex) (status : Option Status)
      (row : User) (now : Instant) (valid : readUpdate request = .ok (id, sex, status))
      (found : before.liveRow? id = some row)
      (free : before.conflict? (some id) (changes request id sex status).claimed = none) :
      Effect supplies hasher before (.updateUser request)
        (.ok ((changes request id sex status).apply row now))
        (before.put id.text ((changes request id sex status).apply row now))
  | deleted (id : UserId) (after : Store) (removed : Store.Removes id before after) :
      Effect supplies hasher before (.deleteUser id.text) (.ok ()) after
  | thinned (ids : List String) (result : Except Failure Tally) (after : Store)
      (thinned : Thinned supplies ids before result after) :
      Effect supplies hasher before (.batchDeleteUsers ids) result after
  | switched (id : UserId) (code : Int) (updateBy : Option String) (status : Status) (row : User)
      (now : Instant) (read : Status.ofCode code = .ok status)
      (found : before.liveRow? id = some row) :
      Effect supplies hasher before (.changeUserStatus id.text code updateBy) (.ok ())
        (before.put id.text
          { row with status, updateBy := updateBy <|> row.updateBy, updatedAt := now })
  | reset (id : UserId) (password : String) (updateBy : Option String) (number : Nat)
      (hash : String) (row : User) (now : Instant) (strong : Rule.password password = .ok ())
      (made : hasher.hash number password = .ok hash) (found : before.liveRow? id = some row) :
      Effect supplies hasher before (.resetPassword id.text password updateBy) (.ok ())
        (before.put id.text
          (Patch.apply { id, passwordHash := some hash, updateBy } row now))

section Leads

variable {σ : Type} {platform : Platform σ} {supplies : Supplies} {hasher : Hasher}
  {memory : σ → Memory} {before : Store}

theorem leads_requireDone {id : UserId} {change : User → Instant → User}
    {allowed : Except Failure Unit → Store → Prop} {reply : Except Failure Bool} {after : Store}
    (alters : Memory.Alters before id change reply after)
    (refused : ∀ failure, allowed (.error failure) before)
    (changed : ∀ row now, before.liveRow? id = some row →
      allowed (.ok ()) (before.put id.text (change row now))) :
    (ofExcept reply >>= requireDone id).Leads platform memory after allowed := by
  rcases alters with ⟨rfl, rfl⟩ | ⟨failure, rfl, rfl⟩ | ⟨row, now, found, rfl, rfl⟩
  · exact leads_fail (refused (notFound id))
  · exact leads_fail (refused failure)
  · exact leads_done (changed row now found)

variable (stands : platform.Over supplies hasher memory)
include stands

theorem createUser_leads (request : CreateRequest) :
    (createUser request).Leads platform memory before
      (Operation.Effect supplies hasher before (.createUser request)) := by
  refine leads_event (Leads.required (.refused _) fun (sex, status) valid => ?_)
  refine Leads.followed stands (onlyReads_requireAccountFree _) (.refused _) fun _ => ?_
  refine Leads.followed stands (onlyReads_givenEmailFree _ none) (.refused _) fun _ => ?_
  refine Leads.followed stands (onlyReads_givenMobileFree _ none) (.refused _) fun _ => ?_
  refine Leads.digested stands (.refused _) fun number hash made => ?_
  refine Leads.called stands fun here reply after kept gives => ?_
  subst kept
  rcases gives.save with ⟨failure, rfl, same⟩ | ⟨id, now, free, fresh, rfl, written⟩
  · rw [same]
    exact leads_fail (.refused _ failure)
  · rw [written]
    exact leads_event (leads_done
      (.created request sex status number hash id now valid made free fresh))

theorem updateUser_leads (request : UpdateRequest) :
    (updateUser request).Leads platform memory before
      (Operation.Effect supplies hasher before (.updateUser request)) := by
  refine leads_event (Leads.required (.refused _) fun (id, sex, status) valid => ?_)
  refine Leads.followed stands (onlyReads_requireLive id) (.refused _) fun current => ?_
  refine Leads.followed stands (onlyReads_givenEmailFree _ _) (.refused _) fun _ => ?_
  refine Leads.followed stands (onlyReads_givenMobileFree _ _) (.refused _) fun _ => ?_
  refine Leads.called stands fun here reply after kept gives => ?_
  subst kept
  rcases gives.update with
      ⟨rfl, same⟩ | ⟨failure, rfl, same⟩ | ⟨row, now, found, free, rfl, written⟩
  · rw [same]
    exact leads_fail (.refused _ (notFound id))
  · rw [same]
    exact leads_fail (.refused _ failure)
  · rw [written]
    exact leads_done (.updated request id sex status row now valid found free)

theorem deleteUser_leads (text : String) :
    (deleteUser text).Leads platform memory before
      (Operation.Effect supplies hasher before (.deleteUser text)) := by
  refine leads_event (Leads.required (.refused _) fun id valid => ?_)
  refine Leads.called stands fun here reply after kept gives => ?_
  subst kept
  obtain rfl := UserId.ofText_eq_ok.1 valid
  refine leads_requireDone gives.delete (.refused _) fun row now found => ?_
  exact .deleted id _ ⟨row, now, found, rfl⟩

theorem changeUserStatus_leads (text : String) (code : Int) (updateBy : Option String) :
    (changeUserStatus text code updateBy).Leads platform memory before
      (Operation.Effect supplies hasher before (.changeUserStatus text code updateBy)) := by
  refine leads_event (Leads.required (.refused _) fun id valid => ?_)
  refine Leads.required (.refused _) fun status read => ?_
  refine Leads.followed stands (onlyReads_requireLive id) (.refused _) fun _ => ?_
  refine Leads.called stands fun here reply after kept gives => ?_
  subst kept
  obtain rfl := UserId.ofText_eq_ok.1 valid
  refine leads_requireDone gives.changeStatus (.refused _) fun row now found => ?_
  exact .switched id code updateBy status row now read found

theorem resetPassword_leads (text password : String) (updateBy : Option String) :
    (resetPassword text password updateBy).Leads platform memory before
      (Operation.Effect supplies hasher before (.resetPassword text password updateBy)) := by
  refine leads_event (Leads.required (.refused _) fun id valid => ?_)
  refine Leads.required (.refused _) fun _ strong => ?_
  refine Leads.followed stands (onlyReads_requireLive id) (.refused _) fun _ => ?_
  refine Leads.digested stands (.refused _) fun number hash made => ?_
  refine Leads.called stands fun here reply after kept gives => ?_
  subst kept
  obtain rfl := UserId.ofText_eq_ok.1 valid
  rcases gives.update with
      ⟨rfl, same⟩ | ⟨failure, rfl, same⟩ | ⟨row, now, found, free, rfl, written⟩
  · rw [same]
    exact leads_fail (.refused _ (notFound id))
  · rw [same]
    exact leads_fail (.refused _ failure)
  · rw [written]
    exact leads_done (.reset id password updateBy number hash row now strong made found)

/-- One item of a batch that has come so far. Only the calendar breaks the batch off. -/
theorem deleteItem_leads {ids : List String} {start : Store} {item : String} (member : item ∈ ids)
    (removed : Store.Thins ids start before) (tally : Tally) :
    (deleteItem item tally).Leads platform memory before (Thinned supplies ids start) := by
  have going {after : Store} (removed : Store.Thins ids start after) (value : Tally) :
      Thinned supplies ids start (.ok value) after := ⟨removed, nofun⟩
  unfold deleteItem
  split
  next error broken => exact leads_event (leads_done (going removed _))
  next id valid =>
    refine Leads.called stands fun here reply after kept gives => ?_
    subst kept
    have onward : Store.Thins ids start after.store := by
      rcases gives.delete with ⟨-, same⟩ | ⟨-, -, same⟩ | ⟨row, now, found, -, written⟩
      · exact same ▸ removed
      · exact same ▸ removed
      · exact removed.tail
          ⟨id, UserId.ofText_eq_ok.1 valid ▸ member, row, now, found, written⟩
    dsimp only
    split
    next => exact leads_done (going onward _)
    next => exact leads_event (leads_done (going onward _))
    next => exact leads_fail ⟨onward, fun _ _ => gives.delete_out_of_calendar rfl⟩
    next failure _ => exact leads_event (leads_done (going onward _))

/-- However many items are left, what was removed so far is kept in view. -/
theorem deleteItems_leads {ids : List String} {start : Store} {items : List String}
    (members : ∀ item ∈ items, item ∈ ids) (removed : Store.Thins ids start before)
    (tally : Tally) :
    (deleteItems items tally).Leads platform memory before (Thinned supplies ids start) := by
  induction items generalizing before tally with
  | nil => exact leads_done ⟨removed, nofun⟩
  | cons item rest ih =>
    have known := List.forall_mem_cons.1 members
    refine (deleteItem_leads stands known.1 removed tally).bind ?_ fun _ _ broken => broken
    exact fun value after going => ih known.2 going.1 value

theorem batchDeleteUsers_leads (ids : List String) :
    (batchDeleteUsers ids).Leads platform memory before
      (Operation.Effect supplies hasher before (.batchDeleteUsers ids)) := by
  refine leads_event (Leads.required (.refused _) fun _ _ => ?_)
  refine (deleteItems_leads stands (fun _ member => member) .refl {}).bind ?_ ?_
  · exact fun tally after done => leads_event (leads_done (.thinned ids _ after ⟨done.1, nofun⟩))
  · exact fun failure after broken => .thinned ids _ after ⟨broken.1, fun _ _ => broken.2 _ rfl⟩

/-- Over the store `before` an operation comes to no result, and leaves no store, that its effect
does not allow, whatever faults strike on the way. -/
theorem Operation.leads (settings : Settings) (operation : Operation) :
    (operation.program settings).Leads platform memory before
      (operation.Effect supplies hasher before) := by
  cases writes : operation.writes with
  | false =>
    have reads : (operation.program settings).OnlyReads :=
      (operation.makes settings).mono fun wanted may => by
        rw [← Bool.not_eq_true]
        intro writing
        rw [may.2 writing] at writes
        cases writes
    intro state kept
    rw [reads.leads stands state kept]
    exact .read operation _ writes
  | true =>
    cases operation with
    | createUser request => exact createUser_leads stands request
    | updateUser request => exact updateUser_leads stands request
    | deleteUser id => exact deleteUser_leads stands id
    | batchDeleteUsers ids => exact batchDeleteUsers_leads stands ids
    | changeUserStatus id status updateBy => exact changeUserStatus_leads stands id status updateBy
    | resetPassword id password updateBy => exact resetPassword_leads stands id password updateBy
    | getUser id => cases writes
    | checkAccountExists account => cases writes
    | getUserStatistics tenantId => cases writes
    | listUsers request => cases writes
    | verifyCredentials account password => cases writes

end Leads

/-- An operation that fails has changed nothing, as long as the clock stays within the calendar. -/
theorem Operation.Effect.kept {supplies : Supplies} {hasher : Hasher} {before after : Store}
    {operation : Operation} {result : Except Failure operation.Result} {failure : Failure}
    (steady : ∀ number, supplies.instant number ≠ .error .outOfCalendar)
    (effect : operation.Effect supplies hasher before result after)
    (failed : result = .error failure) : after = before := by
  cases effect with
  | refused => rfl
  | read => rfl
  | created => cases failed
  | updated => cases failed
  | deleted => cases failed
  | thinned ids result after thinned =>
    obtain ⟨number, left⟩ := thinned.2 failure failed
    exact absurd left (steady number)
  | switched => cases failed
  | reset => cases failed

end UserDirectory
