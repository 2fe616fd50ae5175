import UserDirectory.Proofs.Service.Run
import UserDirectory.Proofs.Store.Veiled

/-!
Two programs side by side that differ in what is veiled only: in one password that each may digest,
in the digests they write and in the digests they read. Such programs log the same, and over
memories that answer alike under the veil they come to related results and leave such memories.
-/

namespace UserDirectory

def Call.AlikeReplies (first second : Call) (a : Except Failure first.Reply)
    (b : Except Failure second.Reply) : Prop :=
  HEq (a.map first.veilReply) (b.map second.veilReply)

theorem Call.alikeReplies_delete {id : UserId} {a b : Except Failure Bool}
    (alike : (Call.delete id).AlikeReplies (Call.delete id) a b) : a = b := by
  have unveiled : a.map (fun deleted => deleted) = b.map fun deleted => deleted := eq_of_heq alike
  rwa [Call.flag_unveiled, Call.flag_unveiled] at unveiled

theorem Call.seesLive_veiled (call : Call) (sees : call.SeesLive) : call.veiled.SeesLive := by
  cases call with
  | findByEmail email => exact sees
  | findByMobile mobile => exact sees
  | findByIdIncludingDeleted id => exact sees
  | _ => trivial

namespace Program

/-- Two programs in step. The passwords that are still to be digested, by the one and by the other,
are told beforehand; once digested, there are no more. -/
inductive Parallel {α β : Type} (related : α → β → Prop) :
    Option (String × String) → Program α → Program β → Prop
  | done {pending} {a : α} {b : β} (same : related a b) : Parallel related pending (done a) (done b)
  | fail {pending} (failure : Failure) : Parallel related pending (fail failure) (fail failure)
  | log {pending} {p : Program α} {q : Program β} (event : Event)
      (rest : Parallel related pending p q) : Parallel related pending (log event p) (log event q)
  | now {pending} {p : Instant → Program α} {q : Instant → Program β}
      (rest : ∀ instant, Parallel related pending (p instant) (q instant)) :
      Parallel related pending (now p) (now q)
  | digest {p : Except Failure String → Program α} {q : Except Failure String → Program β}
      (first second : String)
      (rest : ∀ hash other, Parallel related none (p (.ok hash)) (q (.ok other))) :
      Parallel related (some (first, second)) (digest first p) (digest second q)
  | call {pending} {first second : Call} {p : Except Failure first.Reply → Program α}
      {q : Except Failure second.Reply → Program β} (same : first.veiled = second.veiled)
      (sees : first.SeesLive)
      (rest : ∀ a b, first.AlikeReplies second a b → Parallel related pending (p a) (q b)) :
      Parallel related pending (call first p) (call second q)

variable {related : α → β → Prop} {pending : Option (String × String)} {p : Program α}
  {q : Program β}

theorem Parallel.bind {further : γ → δ → Prop} {f : α → Program γ} {g : β → Program δ}
    (first : Parallel related none p q)
    (second : ∀ a b, related a b → Parallel further pending (f a) (g b)) :
    Parallel further pending (p >>= f) (q >>= g) := by
  change Parallel further pending (p.bind f) (q.bind g)
  -- nothing is left to be digested in the first part, so the case of a digest cannot arise
  generalize nothing : (none : Option (String × String)) = used at first
  induction first with
  | done same => exact second _ _ same
  | fail failure => exact .fail failure
  | log event _ ih => exact .log event (ih nothing)
  | now _ ih => exact .now fun instant => ih instant nothing
  | digest => cases nothing
  | call same sees _ ih => exact .call same sees fun a b alike => ih a b alike nothing

theorem Parallel.followed {p q : Program α} {further : γ → δ → Prop} {f : α → Program γ}
    {g : α → Program δ} (first : Parallel Eq none p q)
    (second : ∀ a, Parallel further pending (f a) (g a)) :
    Parallel further pending (p >>= f) (q >>= g) :=
  first.bind fun a _ same => same ▸ second a

theorem Parallel.map {further : γ → δ → Prop} {f : α → γ} {g : β → δ}
    (first : Parallel related pending p q) (second : ∀ a b, related a b → further (f a) (g b)) :
    Parallel further pending (p >>= fun a => Program.done (f a))
      (q >>= fun b => Program.done (g b)) := by
  change Parallel further pending (p.bind _) (q.bind _)
  induction first with
  | done same => exact .done (second _ _ same)
  | fail failure => exact .fail failure
  | log event _ ih => exact .log event ih
  | now _ ih => exact .now ih
  | digest x y _ ih => exact .digest x y ih
  | call same sees _ ih => exact .call same sees ih

theorem Parallel.digestOf {x y : String} {f : String → Program α} {g : String → Program β}
    (rest : ∀ hash other, Parallel related none (f hash) (g other)) :
    Parallel related (some (x, y)) (Program.digestOf x >>= f) (Program.digestOf y >>= g) :=
  .digest x y rest

section Steps

theorem parallel_event (level : Level) (message : String) (fields : List (String × EventValue)) :
    Parallel Eq pending (event level message fields) (event level message fields) :=
  .log _ (.done rfl)

theorem parallel_require (checked : Except FieldError α) :
    Parallel Eq pending (require checked) (require checked) := by
  cases checked with
  | ok value => exact .done rfl
  | error error => exact .fail _

theorem parallel_inCalendar (value : Option α) :
    Parallel Eq pending (inCalendar value) (inCalendar value) := by
  cases value with
  | some value => exact .done rfl
  | none => exact .fail _

theorem parallel_clock : Parallel Eq pending clock clock := .now fun _ => .done rfl

theorem parallel_ofExcept {veil : α → β} {a b : Except Failure α} (same : a.map veil = b.map veil) :
    Parallel (fun x y => veil x = veil y) pending (ofExcept a) (ofExcept b) := by
  cases a with
  | ok x =>
    cases b with
    | ok y => exact .done (Except.ok.inj same)
    | error failure => cases same
  | error failure =>
    cases b with
    | ok y => cases same
    | error other =>
      obtain rfl := Except.error.inj same
      exact .fail failure

theorem parallel_ofExcept_self (result : Except Failure α) :
    Parallel Eq pending (ofExcept result) (ofExcept result) := by
  cases result with
  | ok value => exact .done rfl
  | error failure => exact .fail failure

theorem parallel_ask {wanted : Call} (sees : wanted.SeesLive) :
    Parallel (fun x y => wanted.veilReply x = wanted.veilReply y) pending (ask wanted)
      (ask wanted) :=
  .call rfl sees fun _ _ alike => parallel_ofExcept (eq_of_heq alike)

theorem parallel_save {new other : NewUser} (same : new.veiled = other.veiled) :
    Parallel (fun x y : User => x.veiled = y.veiled) pending (ask (.save new))
      (ask (.save other)) := by
  have one : (Call.save new).veiled = (Call.save other).veiled := congrArg Call.save same
  refine .call one trivial fun a b alike => ?_
  exact @parallel_ofExcept User User _ User.veiled a b (eq_of_heq alike)

theorem parallel_update {patch other : Patch} (same : patch.veiled = other.veiled) :
    Parallel (fun x y : Option User => x.map User.veiled = y.map User.veiled) pending
      (ask (.update patch)) (ask (.update other)) := by
  have one : (Call.update patch).veiled = (Call.update other).veiled := congrArg Call.update same
  refine .call one trivial fun a b alike => ?_
  exact @parallel_ofExcept (Option User) (Option User) _ (Option.map User.veiled) a b
    (eq_of_heq alike)

end Steps

end Program

theorem Memory.answer_digests (supplies : Supplies) (memory : Memory) (wanted : Call) :
    (memory.answer supplies wanted).2.usage.digests = memory.usage.digests := by
  have same : memory.withDigests memory.usage.digests = memory := rfl
  have answered := congrArg Prod.snd
    (Memory.answer_withDigests supplies memory memory.usage.digests wanted)
  rw [same] at answered
  have digests := congrArg (fun after : Memory => after.usage.digests) answered
  exact digests

/-- What a platform says on one state it says again. -/
theorem Platform.mirrors_self (platform : Platform σ) (allowed : Call → Prop) :
    platform.Mirrors platform allowed Eq where
  now _ _ same := same ▸ ⟨rfl, rfl⟩
  digest _ _ _ same := same ▸ ⟨rfl, rfl⟩
  verify := rfl
  answer _ _ _ _ same := same ▸ ⟨rfl, rfl⟩

structure Outcome.ShownAlike (left : Memory → Memory → Prop) (first second : Outcome Memory α) :
    Prop where
  result : first.result = second.result
  events : first.events = second.events
  state : left first.state.veiled second.state.veiled

section Run

variable {supplies : Supplies} {left : Memory → Memory → Prop}
  (mirrors : (Memory.platform supplies .plain).Mirrors (Memory.platform supplies .plain)
    Call.SeesLive left)
include mirrors

/-- Over memories that answer alike under the veil, calls that are one call under the veil are
answered alike. -/
theorem Memory.answer_alike {a b : Memory} (start : left a.veiled b.veiled) {first second : Call}
    (same : first.veiled = second.veiled) (sees : first.SeesLive) :
    first.AlikeReplies second (a.answer supplies first).1 (b.answer supplies second).1 ∧
      left (a.answer supplies first).2.veiled (b.answer supplies second).2.veiled := by
  obtain ⟨replies, after⟩ := mirrors.answer first.veiled (first.seesLive_veiled sees) _ _ start
  change (a.veiled.answer supplies first.veiled).1 = (b.veiled.answer supplies first.veiled).1
    at replies
  change left (a.veiled.answer supplies first.veiled).2 (b.veiled.answer supplies first.veiled).2
    at after
  have turned : HEq (b.veiled.answer supplies first.veiled).1
        (b.veiled.answer supplies second.veiled).1 ∧
      (b.veiled.answer supplies first.veiled).2 = (b.veiled.answer supplies second.veiled).2 := by
    rw [same]
    exact ⟨.rfl, rfl⟩
  rw [turned.2, a.answer_veiled, b.answer_veiled] at after
  refine ⟨?_, after⟩
  have replied := (heq_of_eq replies).trans turned.1
  rw [a.answer_veiled, b.answer_veiled] at replied
  exact replied

/-- Programs in step show the same, where the passwords that they digest can be digested. -/
theorem Program.Parallel.run {first second : Hasher} {pending : Option (String × String)}
    {p q : Program α} (parallel : Parallel Eq pending p q) {a b : Memory}
    (start : left a.veiled b.veiled)
    (hashed : ∀ x y, pending = some (x, y) →
      (∃ hash, first.hash a.usage.digests x = .ok hash) ∧
        ∃ other, second.hash b.usage.digests y = .ok other) :
    (p.run (Memory.platform supplies first) a).ShownAlike left
      (q.run (Memory.platform supplies second) b) := by
  induction parallel generalizing a b with
  | done same => exact ⟨congrArg Except.ok same, rfl, start⟩
  | fail failure => exact ⟨rfl, rfl, start⟩
  | log event _ ih =>
    have onward := ih start hashed
    exact ⟨onward.result, congrArg (event :: ·) onward.events, onward.state⟩
  | now _ ih =>
    obtain ⟨same, after⟩ := mirrors.now a.veiled b.veiled start
    have same : supplies.instant a.usage.instants = supplies.instant b.usage.instants := same
    cases read : supplies.instant b.usage.instants with
    | ok instant =>
      simp only [Program.run, Memory.platform, Memory.readInstant, Usage.readInstant, same, read]
      exact ih instant after hashed
    | error failure =>
      simp only [Program.run, Memory.platform, Memory.readInstant, Usage.readInstant, same, read]
      exact ⟨rfl, rfl, after⟩
  | digest x y _ ih =>
    obtain ⟨⟨hash, made⟩, other, otherMade⟩ := hashed x y rfl
    simp only [Program.run, Memory.platform, Usage.makeDigest, made, otherMade]
    exact ih hash other start fun _ _ still => by cases still
  | call same sees _ ih =>
    obtain ⟨replies, after⟩ := Memory.answer_alike mirrors start same sees
    have onward := ih _ _ replies after (by rwa [Memory.answer_digests, Memory.answer_digests])
    exact ⟨onward.result, onward.events, onward.state⟩

end Run

end UserDirectory
