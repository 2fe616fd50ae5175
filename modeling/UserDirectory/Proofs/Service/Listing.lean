import UserDirectory.Proofs.Service.CreationRange
import UserDirectory.Proofs.Store.Crowd
import UserDirectory.Proofs.Store.Pages

/-!
Whom a listing shows. What a request supplies are conditions on accounts, texts and local dates;
they become a filter on instants and pages of what it selects. On the way no user is lost and none
is added: neither at a local midnight nor between two pages.
-/

namespace UserDirectory

open Service CreationRange

/-- A request supplies a text; the empty one counts as none. -/
def Supplied (value : Option String) (text : String) : Prop := value = some text ∧ text ≠ ""

def Names (value : Option String) (date : Date) : Prop :=
  ∃ text, Supplied value text ∧ Date.ofText? text.toList = some date

/-- A user meets the conditions of a request, its dates taken as local dates at an offset. -/
structure ListRequest.Asks (request : ListRequest) (offset : Offset) (user : User) : Prop where
  account : ∀ part, Supplied request.account part → part.toList <:+: user.account.toList
  email : ∀ part, Supplied request.email part →
    ∃ text, user.email = some text ∧ part.toList <:+: text.toList
  mobile : ∀ part, Supplied request.mobile part →
    ∃ text, user.mobile = some text ∧ part.toList <:+: text.toList
  status : ∀ code, request.status = some code → user.status.code = code
  deptId : ∀ text, Supplied request.deptId text → user.deptId = some text
  tenantId : ∀ text, Supplied request.tenantId text → user.tenantId = some text
  started : ∀ date, Names request.startDate date → date.number ≤ user.createdAt.localDay offset
  ended : ∀ date, Names request.endDate date → user.createdAt.localDay offset ≤ date.number

namespace Filter

theorem holdsPart_supplied {wanted value : Option String} :
    holdsPart (supplied wanted) value = true ↔ ∀ part, Supplied wanted part →
      ∃ text, value = some text ∧ part.toList <:+: text.toList := by
  simp only [holdsPart, supplied, Option.all_eq_true, Option.any_eq_true, Text.contains_iff_infix,
    Supplied, ← mem_nonEmptyText, Option.mem_def]

theorem holdsValue_supplied {wanted value : Option String} :
    holdsValue (supplied wanted) value = true ↔
      ∀ text, Supplied wanted text → value = some text := by
  simp only [holdsValue, supplied, Option.all_eq_true, decide_eq_true_iff, Supplied,
    ← mem_nonEmptyText, Option.mem_def]

end Filter

theorem CreationRange.Reads.names {value : Option String} {read : Option Date}
    (reads : Reads value read) {date : Date} : Names value date ↔ date ∈ read := by
  simp only [Names, Supplied, ← mem_nonEmptyText]
  cases read with
  | none =>
    refine iff_of_false ?_ (Option.not_mem_none date)
    rintro ⟨text, given, -⟩
    rw [reads] at given
    cases given
  | some known =>
    obtain ⟨text, given, named⟩ := reads
    constructor
    · rintro ⟨text', given', named'⟩
      obtain rfl := Option.mem_unique given given'
      exact named.symm.trans named'
    · rintro ⟨⟩
      exact ⟨text, given, named⟩

namespace ListRequest

variable {request : ListRequest} {status : Option Status} {first last : Option Date}
  {bounds : Option Instant × Option Instant} {offset : Offset}

/-- The filter made of a request selects the users who meet its conditions. -/
theorem filter_selects (coded : request.status = status.map Status.code)
    (readFirst : Reads request.startDate first) (readLast : Reads request.endDate last)
    (spans : Spans bounds first last offset) (user : User) :
    (request.filter status bounds).selects user = true ↔ request.Asks offset user := by
  have statusAsked : (status.all fun status => user.status = status) = true ↔
      ∀ code, request.status = some code → user.status.code = code := by
    rw [coded]
    cases status with
    | none => simp
    | some status => cases status <;> cases user.status <;> simp [Status.code]
  have startAsked : (bounds.1.all fun start => start ≤ user.createdAt) = true ↔
      ∀ date, Names request.startDate date → date.number ≤ user.createdAt.localDay offset := by
    simp only [Option.all_eq_true, decide_eq_true_iff, readFirst.names]
    exact spans.start user.createdAt
  have endAsked : (bounds.2.all fun stop => user.createdAt < stop) = true ↔
      ∀ date, Names request.endDate date → user.createdAt.localDay offset ≤ date.number := by
    simp only [Option.all_eq_true, decide_eq_true_iff, readLast.names]
    exact spans.stop user.createdAt
  simp only [Filter.selects, ListRequest.filter, Bool.and_eq_true, Filter.holdsPart_supplied,
    Filter.holdsValue_supplied, statusAsked, startAsked, endAsked, Option.some.injEq,
    exists_eq_left']
  constructor
  · rintro ⟨⟨⟨⟨⟨⟨⟨account, status⟩, started⟩, ended⟩, email⟩, mobile⟩, deptId⟩, tenantId⟩
    exact { account, email, mobile, status, deptId, tenantId, started, ended }
  · rintro ⟨account, email, mobile, status, deptId, tenantId, started, ended⟩
    exact ⟨⟨⟨⟨⟨⟨⟨account, status⟩, started⟩, ended⟩, email⟩, mobile⟩, deptId⟩, tenantId⟩

end ListRequest

theorem Paging.page_range (wanted : Int) : 1 ≤ page wanted ∧ page wanted ≤ greatestPage := by
  unfold page greatestPage
  omega

theorem Paging.page_natCast {number : Nat} (least : 1 ≤ number) (most : number ≤ greatestPage) :
    page number = number := by
  unfold page
  omega

/-- The pages that can be asked for hold the first users of the listing, as many as fit. -/
theorem Store.mem_some_page {store : Store} {filter : Filter} {size : Nat} {user : User} :
    (∃ wanted : Int, user ∈ (store.page ⟨filter, Paging.page wanted, size⟩).users) ↔
      user ∈ (store.listing filter).take (Paging.greatestPage * size) := by
  rw [← flatMap_pages, List.mem_flatMap]
  constructor
  · rintro ⟨wanted, shown⟩
    obtain ⟨least, most⟩ := Paging.page_range wanted
    refine ⟨Paging.page wanted - 1, List.mem_range.2 (by omega), ?_⟩
    rw [Nat.sub_add_cancel least]
    exact shown
  · rintro ⟨before, within, shown⟩
    refine ⟨((before + 1 : Nat) : Int), ?_⟩
    rw [Paging.page_natCast (Nat.le_add_left 1 before) (List.mem_range.1 within)]
    exact shown

/-- The pages that a request is answered with are those of the users who meet its conditions. -/
theorem Service.listUsers_paged (settings : Settings) (request : ListRequest)
    (supplies : Supplies) (hasher : Hasher) (memory : Memory)
    (status : Option Status) (coded : request.status = status.map Status.code)
    (first last : Option Date) (readFirst : Reads request.startDate first)
    (readLast : Reads request.endDate last) (ordered : InOrder first last)
    (within : ¬Overruns first last settings.offset) :
    ∃ filter : Filter,
      (∀ page, ((listUsers settings { request with page }).run (Memory.platform supplies hasher)
        memory).result = .ok (memory.store.page
          ⟨filter, Paging.page page, Paging.size request.pageSize⟩)) ∧
      ∀ user, filter.selects user = true ↔ request.Asks settings.offset user := by
  obtain ⟨bounds, made, spans⟩ :=
    instants_spans (dates_eq_ok.2 ⟨readFirst, readLast, ordered⟩) within
  have readStatus : readCode Status.ofCode request.status = .ok status := by
    rw [coded]
    cases status with
    | none => rfl
    | some status => exact congrArg (Except.map some) (Status.ofCode_eq_ok.2 rfl)
  refine ⟨request.filter status bounds, fun page => ?_,
    request.filter_selects coded readFirst readLast spans⟩
  change ((listUsers settings { request with page }).eval (Memory.platform supplies hasher)
    memory).1 = _
  rw [listUsers_eval]
  simp only [readStatus, made]
  rfl

/-- A listing shows the live users who meet the conditions of the request, and none but them. Both
dates are local dates and belong to the range, so whether a user is in time is told by the local day
of the creation alone. Every page tells how many users there are. As page numbers have an end, the
pages that can be asked for show as many of them as fit on so many pages, the newest; where all of
them fit, all are shown. -/
theorem Service.listUsers_shows (settings : Settings) (request : ListRequest) (supplies : Supplies)
    (hasher : Hasher) (memory : Memory) (reachable : memory.store.Reachable)
    (status : Option Status) (coded : request.status = status.map Status.code)
    (first last : Option Date) (readFirst : Reads request.startDate first)
    (readLast : Reads request.endDate last) (ordered : InOrder first last)
    (within : ¬Overruns first last settings.offset) :
    let most := Paging.greatestPage * Paging.size request.pageSize
    ∃ (pages : Int → Page) (asked : List User),
      (∀ page, ((listUsers settings { request with page }).run (Memory.platform supplies hasher)
        memory).result = .ok (pages page)) ∧
      (∀ user, user ∈ asked ↔
        user ∈ memory.store.rows ∧ user.IsLive ∧ request.Asks settings.offset user) ∧
      (asked.Nodup ∧ asked.Pairwise User.ListedBefore) ∧
      (∀ page, (pages page).total = asked.length) ∧
      (∀ user, (∃ page, user ∈ (pages page).users) ↔ user ∈ asked.take most) ∧
      (asked.length ≤ most → ∀ user, (∃ page, user ∈ (pages page).users) ↔
        user ∈ memory.store.rows ∧ user.IsLive ∧ request.Asks settings.offset user) := by
  intro most
  obtain ⟨filter, answered, selects⟩ := listUsers_paged settings request supplies hasher memory
    status coded first last readFirst readLast ordered within
  have asked (user : User) : user ∈ memory.store.listing filter ↔
      user ∈ memory.store.rows ∧ user.IsLive ∧ request.Asks settings.offset user := by
    rw [Store.listing_perm.mem_iff, ← Store.rows_matching, List.mem_filter, decide_eq_true_iff,
      selects]
  refine ⟨_, memory.store.listing filter, answered, asked,
    ⟨reachable.consistent.listing_nodup, reachable.consistent.listing_ordered⟩,
    fun page => Store.length_listing.symm, fun user => Store.mem_some_page, fun few user => ?_⟩
  rw [Store.mem_some_page, List.take_of_length_le few, asked]

def Instant.eve : Instant := ⟨17999, 999999999, by decide, by decide⟩

def Instant.newYear : Instant := ⟨18000, 0, by decide, Instant.epoch.nano_lt⟩

def Supplies.atMidnight : Supplies where
  instant number := .ok (if number = 0 then .eve else .newYear)
  identifier := Supplies.still.identifier

theorem Service.listUsers_at_midnight :
    let memory := Access.run .atMidnight .plain
      [.call (.save { account := "alice" }), .call (.save { account := "bob" })] {}
    let settings : Settings := ⟨⟨-18000, by decide⟩, .byCount⟩
    let day : Date := ⟨0, by decide⟩
    let request : ListRequest :=
      { email := some "", startDate := some "1970-01-01", endDate := some "1970-01-01" }
    memory.store.Reachable ∧ request.status = none ∧ Reads request.startDate (some day) ∧
    Reads request.endDate (some day) ∧ InOrder (some day) (some day) ∧
    ¬Overruns (some day) (some day) settings.offset ∧
    ∃ pages : Int → Page,
      (∀ page, ((listUsers settings { request with page }).run
        (Memory.platform .atMidnight .plain) memory).result = .ok (pages page)) ∧
      ∀ user ∈ memory.store.rows,
        (∃ page, user ∈ (pages page).users) ↔ user.account = "bob" := by
  intro memory settings day request
  have reachable : memory.store.Reachable := Access.run_reachable .atMidnight .plain _ {} .empty
  have reads : Reads (some "1970-01-01") (some day) := ⟨_, rfl, rfl⟩
  have ordered : InOrder (some day) (some day) := by
    rintro _ ⟨⟩ _ ⟨⟩
    exact Int.le_refl _
  have within : ¬Overruns (some day) (some day) settings.offset := by
    unfold Overruns
    decide
  refine ⟨reachable, rfl, reads, reads, ordered, within, ?_⟩
  obtain ⟨pages, asked, answered, mem_asked, ⟨nodup, -⟩, -, -, shown⟩ :=
    listUsers_shows settings request .atMidnight .plain memory reachable none rfl _ _ reads reads
      ordered within
  refine ⟨pages, answered, fun user member => ?_⟩
  have stored : memory.store.rows = [.ofNew .first { account := "alice" } .eve,
      .ofNew .second { account := "bob" } .newYear] := rfl
  have few : asked.length ≤ Paging.greatestPage * Paging.size request.pageSize :=
    (List.subperm_of_subset nodup fun user member => ((mem_asked user).1 member).1).length_le.trans
      (by decide)
  rw [shown few, stored, List.mem_pair]
  rw [stored, List.mem_pair] at member
  rcases member with rfl | rfl
  · refine iff_of_false ?_ (by decide)
    rintro ⟨-, -, asks⟩
    exact absurd (asks.started day (reads.names.2 rfl)) (by decide)
  · refine iff_of_true ⟨.inr rfl, rfl, ?_⟩ rfl
    have onDay (date : Date) (named : Names (some "1970-01-01") date) : date.number = 0 := by
      obtain rfl := Option.some.inj (reads.names.1 named)
      rfl
    exact
      { account := nofun
        email := fun part given => absurd (Option.some.inj given.1).symm given.2
        mobile := nofun
        status := nofun
        deptId := nofun
        tenantId := nofun
        started := fun date named => by rw [onDay date named]; decide
        ended := fun date named => by rw [onDay date named]; decide }

/-- Who comes after all the users that fit is on no page that can be asked for. -/
theorem Store.exists_not_shown {store : Store} (consistent : store.Consistent) {filter : Filter}
    {size : Nat} (many : Paging.greatestPage * size < store.count filter) :
    ∃ user ∈ store.selection filter,
      ∀ wanted : Int, user ∉ (store.page ⟨filter, Paging.page wanted, size⟩).users := by
  have left : 0 < ((store.listing filter).drop (Paging.greatestPage * size)).length := by
    rw [List.length_drop, length_listing]
    omega
  obtain ⟨user, behind⟩ := List.exists_mem_of_length_pos left
  refine ⟨user, listing_perm.mem_iff.1 (List.mem_of_mem_drop behind), fun wanted shown => ?_⟩
  have early := mem_some_page.1 ⟨wanted, shown⟩
  exact List.disjoint_take_drop consistent.listing_nodup (Nat.le_refl _) early behind

theorem ListRequest.asks_all (size : Int) (offset : Offset) (user : User) :
    ({ pageSize := size } : ListRequest).Asks offset user := by
  have noDate : Reads none none := rfl
  exact
    { account := nofun
      email := nofun
      mobile := nofun
      status := nofun
      deptId := nofun
      tenantId := nofun
      started := fun _ named => absurd (noDate.names.1 named) (Option.not_mem_none _)
      ended := fun _ named => absurd (noDate.names.1 named) (Option.not_mem_none _) }

def Service.LeavesOut (settings : Settings) (supplies : Supplies) (hasher : Hasher)
    (memory : Memory) (request : ListRequest) : Prop :=
  ∃ pages : Int → Page,
    (∀ page, ((listUsers settings { request with page }).run (Memory.platform supplies hasher)
      memory).result = .ok (pages page)) ∧
    ∃ user ∈ memory.store.rows, user.IsLive ∧ request.Asks settings.offset user ∧
      ∀ page, user ∉ (pages page).users

/-- As soon as there are more users than pages, pages of one user leave somebody out. -/
theorem Memory.Holds.leavesOut {memory : Memory} {count : Nat} (holds : memory.Holds count)
    (consistent : memory.store.Consistent) (many : Paging.greatestPage < count)
    (supplies : Supplies) (hasher : Hasher) :
    LeavesOut .utc supplies hasher memory { pageSize := 1 } := by
  have noDate : Reads none none := rfl
  have within : ¬Overruns none none Offset.utc := by
    unfold Overruns
    decide
  obtain ⟨filter, answered, selects⟩ := listUsers_paged .utc { pageSize := 1 } supplies hasher
    memory none rfl none none noDate noDate (fun _ => nofun) within
  have asks := ListRequest.asks_all 1 .utc
  have live {user : User} (member : user ∈ memory.store.rows) : user.IsLive := by
    rw [holds.rows] at member
    obtain ⟨n, -, rfl⟩ := List.mem_map.1 member
    rfl
  have all : memory.store.selection filter = memory.store.rows := by
    rw [← Store.rows_matching, List.filter_eq_self]
    exact fun user member => decide_eq_true ⟨live member, (selects user).2 (asks user)⟩
  have more : Paging.greatestPage * Paging.size 1 < memory.store.count filter := by
    rw [Store.count, all, holds.rows, List.length_map, List.length_range]
    exact many
  obtain ⟨user, selected, unseen⟩ := Store.exists_not_shown consistent more
  have member : user ∈ memory.store.rows := all ▸ selected
  exact ⟨_, answered, user, member, live member, asks user, unseen⟩

/-- Users by their numbers, one more than there are pages, all of them asked for on pages of one. -/
theorem Service.listUsers_leaves_out :
    (Access.run .numbered .plain (Access.crowd 4294967296) {}).store.Reachable ∧
      LeavesOut .utc .numbered .plain (Access.run .numbered .plain (Access.crowd 4294967296) {})
        { pageSize := 1 } := by
  have reachable := Access.run_reachable .numbered .plain (Access.crowd 4294967296) {} .empty
  have holds := Access.run_crowd (show 4294967296 ≤ 10 ^ 10 by decide)
  exact ⟨reachable, holds.leavesOut reachable.consistent (by decide) .numbered .plain⟩

end UserDirectory
