import UserDirectory.Proofs.Store.Consistency
import UserDirectory.Proofs.Time.LocalDate

/-!
The instants between two local dates. The range is made for all dates but two: the day on which the
calendar begins has begun before it, east of UTC, and there is no day after the last. Either date
can be supplied, and breaks the operation off.
-/

namespace UserDirectory

namespace CreationRange

/-- The date that a text names; no date where no text or the empty text is supplied. -/
def Reads (value : Option String) : Option Date → Prop
  | none => nonEmptyText value = none
  | some date => ∃ text ∈ nonEmptyText value, Date.ofText? text.toList = some date

theorem readDate_eq_ok (label : String) {value : Option String} {date : Option Date} :
    readDate label value = .ok date ↔ Reads value date := by
  have filtered : (value.filter fun text => !text.isEmpty) = nonEmptyText value := rfl
  rw [readDate, filtered]
  cases given : nonEmptyText value with
  | none => cases date <;> simp [Reads, given]
  | some text =>
    cases read : Date.ofText? text.toList <;> cases date <;> simp [Reads, given, read]

def InOrder (first last : Option Date) : Prop := ∀ a ∈ first, ∀ b ∈ last, a ≤ b

theorem dates_eq_ok {first last : Option String} {a b : Option Date} :
    dates first last = .ok (a, b) ↔ Reads first a ∧ Reads last b ∧ InOrder a b := by
  rw [← readDate_eq_ok "start date", ← readDate_eq_ok "end date"]
  unfold dates
  cases readDate "start date" first with
  | error error => exact iff_of_false nofun nofun
  | ok x =>
    cases readDate "end date" last with
    | error error => exact iff_of_false nofun nofun
    | ok y =>
      simp only [Except.ok.injEq, bind, Except.bind]
      constructor
      · intro made
        split at made
        next x y =>
          split at made
          next reversed => cases made
          next ordered =>
            cases made
            refine ⟨rfl, rfl, ?_⟩
            rintro _ ⟨⟩ _ ⟨⟩
            exact Int.not_lt.1 ordered
        next incomplete =>
          cases made
          exact ⟨rfl, rfl, fun x given y supplied => (incomplete x y given supplied).elim⟩
      · rintro ⟨rfl, rfl, ordered⟩
        split
        next x y => exact if_neg (Int.not_lt.2 (ordered x rfl y rfl))
        next => rfl

/-- The first date begins before the calendar, or the last ends with it. -/
def Overruns (first last : Option Date) (offset : Offset) : Prop :=
  (first = some .earliest ∧ 0 < offset.seconds) ∨ last = some .latest

/-- Bounds that keep exactly the instants of the local days from one date to another. -/
structure Spans (bounds : Option Instant × Option Instant) (first last : Option Date)
    (offset : Offset) : Prop where
  start : ∀ instant : Instant, (∀ bound ∈ bounds.1, bound ≤ instant) ↔
    ∀ date ∈ first, date.number ≤ instant.localDay offset
  stop : ∀ instant : Instant, (∀ bound ∈ bounds.2, instant < bound) ↔
    ∀ date ∈ last, instant.localDay offset ≤ date.number

section Bounds

variable {date : Option Date} {offset : Offset}

theorem midnight_overrun (early : date = some .earliest ∧ 0 < offset.seconds) :
    midnight offset date = .error .outOfCalendar := by
  obtain ⟨rfl, east⟩ := early
  simp only [midnight, Date.midnight?_eq_none_iff.2 ⟨rfl, east⟩]

theorem midnight_spans (begun : ¬(date = some .earliest ∧ 0 < offset.seconds)) :
    ∃ bound, midnight offset date = .ok bound ∧ ∀ instant : Instant,
      (∀ start ∈ bound, start ≤ instant) ↔ ∀ day ∈ date, day.number ≤ instant.localDay offset := by
  cases date with
  | none => exact ⟨none, rfl, fun instant => by simp⟩
  | some date =>
    cases begins : date.midnight? offset with
    | none =>
      obtain ⟨rfl, east⟩ := Date.midnight?_eq_none_iff.1 begins
      exact absurd ⟨rfl, east⟩ begun
    | some start =>
      refine ⟨some start, by simp only [midnight, begins], fun instant => ?_⟩
      simp only [Option.mem_some_iff, forall_eq']
      exact Date.midnight?_le_iff begins instant

theorem dayAfter_overrun : dayAfter (some .latest) = .error .outOfCalendar := by
  simp only [dayAfter, Date.addDays?_one_eq_none_iff.2 rfl]

theorem dayAfter_spans (offset : Offset) (unfinished : date ≠ some .latest) :
    ∃ bound, (dayAfter date >>= midnight offset) = .ok bound ∧ ∀ instant : Instant,
      (∀ stop ∈ bound, instant < stop) ↔ ∀ day ∈ date, instant.localDay offset ≤ day.number := by
  cases date with
  | none => exact ⟨none, rfl, fun instant => by simp⟩
  | some date =>
    cases follows : date.addDays? 1 with
    | none => exact absurd (congrArg some (Date.addDays?_one_eq_none_iff.1 follows)) unfinished
    | some next =>
      have number : next.number = date.number + 1 := Date.ofNumber?_eq_some follows
      cases begins : next.midnight? offset with
      | none =>
        -- the day after another is not the first
        obtain ⟨rfl, -⟩ := Date.midnight?_eq_none_iff.1 begins
        have known := date.inCalendar
        simp only [Date.earliest, Date.first] at number
        omega
      | some stop =>
        have ends : (dayAfter (some date) >>= midnight offset) = .ok (some stop) := by
          simp only [dayAfter, follows, bind, Except.bind, midnight, begins]
        refine ⟨some stop, ends, fun instant => ?_⟩
        simp only [Option.mem_some_iff, forall_eq']
        rw [← Instant.not_le, Date.midnight?_le_iff begins, number, Int.not_le, Int.lt_add_one_iff]

end Bounds

section Dates

variable {first last : Option String} {offset : Offset}

theorem instants_of_error {error : DateError} (broken : dates first last = .error error) :
    instants first last offset = .error error.failure := by
  rw [instants, broken]
  rfl

theorem instants_of_dates {a b : Option Date} (read : dates first last = .ok (a, b)) :
    instants first last offset = (do
      let start ← midnight offset a
      let stop ← dayAfter b >>= midnight offset
      return (start, stop)) := by
  rw [instants, read]
  change (do
    let start ← midnight offset a
    let next ← dayAfter b
    let stop ← midnight offset next
    return (start, stop)) = _
  cases midnight offset a with
  | error failure => rfl
  | ok start => cases dayAfter b <;> rfl

theorem instants_overrun {a b : Option Date} (read : dates first last = .ok (a, b))
    (overruns : Overruns a b offset) : instants first last offset = .error .outOfCalendar := by
  rw [instants_of_dates read]
  by_cases early : a = some .earliest ∧ 0 < offset.seconds
  · rw [midnight_overrun early]
    rfl
  · obtain ⟨start, begins, -⟩ := midnight_spans early
    rw [begins, overruns.resolve_left early, dayAfter_overrun]
    rfl

theorem instants_spans {a b : Option Date} (read : dates first last = .ok (a, b))
    (within : ¬Overruns a b offset) :
    ∃ bounds, instants first last offset = .ok bounds ∧ Spans bounds a b offset := by
  obtain ⟨notEarly, notLate⟩ := not_or.1 within
  obtain ⟨start, begins, start_le⟩ := midnight_spans notEarly
  obtain ⟨stop, ends, lt_stop⟩ := dayAfter_spans offset notLate
  refine ⟨(start, stop), ?_, start_le, lt_stop⟩
  rw [instants_of_dates read, begins, ends]
  rfl

end Dates

/-- Dates that are read, in order, and of which one leaves no range in the calendar. -/
def BreaksOff (first last : Option String) (offset : Offset) : Prop :=
  ∃ a b, Reads first a ∧ Reads last b ∧ InOrder a b ∧ Overruns a b offset

def Answers (result : Except Failure α) : Prop :=
  (∃ value, result = .ok value) ∨ ∃ message, result = .error (.badRequest message)

theorem Answers.stays {result : Except Failure α} (answers : Answers result) :
    result ≠ .error .outOfCalendar := by
  rcases answers with ⟨value, rfl⟩ | ⟨message, rfl⟩
  · exact nofun
  · exact nofun

theorem breaksOff_iff {first last : Option String} {offset : Offset} :
    BreaksOff first last offset ↔
      ∃ a b, dates first last = .ok (a, b) ∧ Overruns a b offset := by
  simp only [BreaksOff, dates_eq_ok, and_assoc]

theorem instants_cases (first last : Option String) (offset : Offset) :
    (BreaksOff first last offset ∧ instants first last offset = .error .outOfCalendar) ∨
      (¬BreaksOff first last offset ∧ Answers (instants first last offset)) := by
  rw [breaksOff_iff]
  cases read : dates first last with
  | error error =>
    refine .inr ⟨?_, .inr ⟨error.message, instants_of_error read⟩⟩
    rintro ⟨a, b, made, -⟩
    cases made
  | ok both =>
    obtain ⟨a, b⟩ := both
    by_cases overruns : Overruns a b offset
    · exact .inl ⟨⟨a, b, rfl, overruns⟩, instants_overrun read overruns⟩
    · obtain ⟨bounds, made, -⟩ := instants_spans read overruns
      refine .inr ⟨?_, .inl ⟨bounds, made⟩⟩
      rintro ⟨a', b', same, overruns'⟩
      cases same
      exact overruns overruns'

end CreationRange

open Service CreationRange

def ListRequest.filter (request : ListRequest) (status : Option Status)
    (bounds : Option Instant × Option Instant) : Filter where
  account := supplied request.account
  email := supplied request.email
  mobile := supplied request.mobile
  status := status
  deptId := supplied request.deptId
  tenantId := supplied request.tenantId
  createdFrom := bounds.1
  createdBefore := bounds.2

/-- A listing reads the status first, then the dates, and shows one page. -/
theorem Service.listUsers_eval (settings : Settings) (request : ListRequest)
    (platform : Platform σ) (state : σ) :
    (listUsers settings request).eval platform state =
      match readCode Status.ofCode request.status with
      | .error error => (.error error.failure, state)
      | .ok status =>
        match instants request.startDate request.endDate settings.offset with
        | .error failure => (.error failure, state)
        | .ok bounds => platform.answer (.list ⟨request.filter status bounds,
            Paging.page request.page, Paging.size request.pageSize⟩) state := by
  unfold listUsers Program.info
  rw [Program.eval_bind_ok Program.eval_event]
  cases coded : readCode Status.ofCode request.status with
  | error error => rfl
  | ok status =>
    rw [Program.eval_bind_ok (Program.eval_require rfl)]
    cases ranged : instants request.startDate request.endDate settings.offset with
    | error failure => rfl
    | ok bounds =>
      rw [Program.eval_bind_ok Program.eval_ofExcept]
      exact Program.eval_ask

/-- A range is not made, and a listing is broken off, for two dates only: the first day of the
calendar as the start, east of UTC, and the last day as the end, where the other date is read and in
order. All other requests are answered or refused, whatever is in the store. -/
theorem Service.listUsers_breaks_off (settings : Settings) (request : ListRequest)
    (supplies : Supplies) (hasher : Hasher) (memory : Memory) :
    let range := instants request.startDate request.endDate settings.offset
    let listed :=
      ((listUsers settings request).run (Memory.platform supplies hasher) memory).result
    let broken := BreaksOff request.startDate request.endDate settings.offset
    (range = .error .outOfCalendar ↔ broken) ∧
    (listed = .error .outOfCalendar ↔
      broken ∧ ∃ status, readCode Status.ofCode request.status = .ok status) ∧
    (¬broken → Answers range ∧ Answers listed) := by
  intro range listed broken
  have evaluated : listed = ((listUsers settings request).eval _ memory).1 := rfl
  rw [listUsers_eval] at evaluated
  rcases instants_cases request.startDate request.endDate settings.offset with
      ⟨breaks, left⟩ | ⟨whole, answers⟩
  · refine ⟨iff_of_true left breaks, ?_, fun whole => absurd breaks whole⟩
    cases coded : readCode Status.ofCode request.status with
    | error error =>
      rw [coded] at evaluated
      have refused : Answers listed := .inr ⟨_, evaluated⟩
      refine iff_of_false refused.stays ?_
      rintro ⟨-, status, read⟩
      cases read
    | ok status =>
      rw [coded, left] at evaluated
      exact iff_of_true evaluated ⟨breaks, status, rfl⟩
  · have shown : Answers listed := by
      rw [evaluated]
      cases readCode Status.ofCode request.status with
      | error error => exact .inr ⟨_, rfl⟩
      | ok status =>
        rcases answers with ⟨bounds, made⟩ | ⟨message, refused⟩
        · rw [made]
          exact .inl ⟨_, rfl⟩
        · rw [refused]
          exact .inr ⟨message, rfl⟩
    exact ⟨iff_of_false answers.stays whole, iff_of_false shown.stays fun both => whole both.1,
      fun _ => ⟨answers, shown⟩⟩

/-- The last day of the calendar, as the end of a range and of a listing. -/
theorem CreationRange.last_day_breaks_off :
    instants none (some "+262142-12-31") .utc = .error .outOfCalendar ∧
    ((listUsers .utc { endDate := some "+262142-12-31" }).run (Memory.platform .still .plain)
      {}).result = .error .outOfCalendar :=
  ⟨rfl, rfl⟩

end UserDirectory
