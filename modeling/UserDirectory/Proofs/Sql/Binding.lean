import UserDirectory.Proofs.Sql.Served
import UserDirectory.Proofs.Sql.Shape

/-!
Values travel beside the text and never in it. The texts that a call sends are settled by the call
and by which of its optional fields are there; and in each text the places are numbered one by one,
as many as values travel with it, each value being the one that the call means for its place.
-/

namespace UserDirectory

open Sql Database

/-- Two calls of one kind that agree on which of their optional fields are there. The text of a new
user has the same places in any case. -/
inductive Call.SameShape : Call → Call → Prop
  | save (new other : NewUser) : SameShape (.save new) (.save other)
  | update {changes other : Patch} (fields : changes.presence = other.presence) :
    SameShape (.update changes) (.update other)
  | delete (id other : UserId) : SameShape (.delete id) (.delete other)
  | findById (id other : UserId) : SameShape (.findById id) (.findById other)
  | findByIdIncludingDeleted (id other : UserId) :
    SameShape (.findByIdIncludingDeleted id) (.findByIdIncludingDeleted other)
  | findByAccount (account other : String) :
    SameShape (.findByAccount account) (.findByAccount other)
  | findByEmail (email other : String) : SameShape (.findByEmail email) (.findByEmail other)
  | findByMobile (mobile other : String) : SameShape (.findByMobile mobile) (.findByMobile other)
  | list {query other : Query} (fields : query.filter.presence = other.filter.presence) :
    SameShape (.list query) (.list other)
  | count {filter other : Filter} (fields : filter.presence = other.presence) :
    SameShape (.count filter) (.count other)
  | changeStatus (id other : UserId) (status next : Status) {updateBy later : Option String}
    (fields : updateBy.isSome = later.isSome) :
    SameShape (.changeStatus id status updateBy) (.changeStatus other next later)
  | statistics {scope other : Filter} (fields : scope.presence = other.presence)
    (windows later : Windows) :
    SameShape (.statistics scope windows) (.statistics other later)

theorem Call.SameShape.refl (call : Call) : call.SameShape call := by
  cases call with
  | save new => exact .save new new
  | update changes => exact .update rfl
  | delete id => exact .delete id id
  | findById id => exact .findById id id
  | findByIdIncludingDeleted id => exact .findByIdIncludingDeleted id id
  | findByAccount account => exact .findByAccount account account
  | findByEmail email => exact .findByEmail email email
  | findByMobile mobile => exact .findByMobile mobile mobile
  | list query => exact .list rfl
  | count filter => exact .count rfl
  | changeStatus id status updateBy => exact .changeStatus id id status status rfl
  | statistics scope windows => exact .statistics rfl windows windows

def Call.texts (call : Call) (id : UserId) (now : Instant) : List String :=
  (call.statements id now).map fun statement => statement.template.text

/-- Nothing of a call but its shape shows in its texts, nor do the id and the time it is given. -/
theorem Call.SameShape.texts {a b : Call} (alike : a.SameShape b) (id other : UserId)
    (now later : Instant) : a.texts id now = b.texts other later := by
  have one {s t : Statement} (same : s.SameShape t) :
      [s].map (fun statement => statement.template.text) =
        [t].map fun statement => statement.template.text := congrArg (fun text => [text]) same.text
  have find (scope : Scope) (column : Column) (value wanted : String) :
      (Statement.find scope column value).SameShape (.find scope column wanted) := by
    cases scope <;> exact .first rfl
  cases alike with
  | save new other => exact one (.insert rfl)
  | update fields => exact one (.update true (Patch.columns_eq fields now later) rfl)
  | delete user other => exact one (.update false rfl rfl)
  | findById user other => exact one (find ..)
  | findByIdIncludingDeleted user other => exact one (find ..)
  | findByAccount account other => exact one (find ..)
  | findByEmail email other => exact one (find ..)
  | findByMobile mobile other => exact one (find ..)
  | list fields =>
    have counted := Statement.SameShape.count (Filter.shape_eq fields)
    have listed (query other : Query) (fields : query.filter.presence = other.filter.presence) :
        (Statement.list query).SameShape (.list other) := .part _ _ _ _ (Filter.shape_eq fields)
    exact congrArg₂ (fun total page => [total, page]) counted.text (listed _ _ fields).text
  | count fields => exact one (.count (Filter.shape_eq fields))
  | changeStatus user other status next fields =>
    refine one (.update false (Patch.columns_eq ?_ now later) rfl)
    simp only [Patch.presence, fields, Option.isSome_some]
  | statistics fields windows later =>
    exact one (.statistics windows later (Filter.shape_eq fields))

/-- Two calls of one kind that agree on which of their optional fields are there send the same
texts, whatever else they are about: they send them in one order, and all of them if they succeed.
In each text that a call sends the places are numbered from one on in the order in which they stand,
each number once and as many as values travel with it, and each of these values is the one that the
call means for what its place is for. Nothing that a call means is left out if it succeeds: each
value travels to its place, with every text but for a limit and an offset. -/
theorem Call.values_travel_apart {a b : Call} (alike : a.SameShape b) :
    ∃ texts : List String, ∀ call ∈ [a, b], ∀ {σ : Type} (supplies : Supplies) (peer : Peer σ)
      (connection : Connection σ), ∃ sent : List Statement,
        let answered := connection.answer supplies peer call
        answered.2.requests = (sent.map Request.users).reverse ++ connection.requests ∧
        (sent.map fun statement => statement.template.text) <+: texts ∧
        (∀ reply, answered.1 = .ok reply →
          (sent.map fun statement => statement.template.text) = texts ∧
          ∃ id now, call.Draws supplies connection.usage id now ∧
            ∀ place cell, call.meant id now place = some cell →
              (∃ statement ∈ sent, statement.Carries place cell) ∧
              ∀ statement ∈ sent,
                statement.Carries place cell ∨ place = .limit ∨ place = .offset) ∧
        ∀ statement ∈ sent,
          (marks statement.template.text).map Mark.number =
            (List.range' 1 statement.template.values.length).map Text.digits ∧
          ∃ id now, call.Draws supplies connection.usage id now ∧
            List.Forall₂ (Stands (call.meant id now)) (marks statement.template.text)
              statement.template.values := by
  refine ⟨a.texts .first .epoch, fun call member σ supplies peer connection => ?_⟩
  have shaped : a.SameShape call := by
    obtain rfl | rfl := List.mem_pair.1 member
    · exact .refl _
    · exact alike
  obtain ⟨sent, made, ⟨rfl, failure, failed⟩ | ⟨id, now, drawn, begun, completed⟩⟩ :=
    connection.answer_carries call
  · refine ⟨[], made, List.nil_prefix, fun reply succeeded => ?_, List.forall_mem_nil _⟩
    rw [failed] at succeeded
    cases succeeded
  · rw [shaped.texts .first id .epoch now]
    have serve := call.serve id now
    have bare := call.bare id now
    refine ⟨sent, made, begun.map _, fun reply succeeded => ?_, fun statement member => ?_⟩
    · rw [completed reply succeeded]
      refine ⟨rfl, id, now, drawn, fun place cell wanted => ?_⟩
      obtain ⟨⟨statement, member, served⟩, each⟩ := serve.whole place cell wanted
      exact ⟨⟨statement, member, Statement.carries (bare statement member) served⟩,
        fun statement member => (each statement member).imp_left
          (Statement.carries (bare statement member))⟩
    · have member := begun.mem member
      exact ⟨Statement.numbers (bare statement member), id, now, drawn,
        Statement.stands (bare statement member) (serve.sound statement member)⟩

def Database.Peer.barren : Peer Unit := fun request _ => match request with
  | .users (.count _) => (.ok { rows := [[("count", .integer 0)]] }, ())
  | _ => (.ok {}, ())

theorem Call.listings_travel_apart :
    let hostile : Call := .list
      { filter := { account := some "'; DROP TABLE system_users; --", status := some .enabled }
        page := 1, pageSize := 15 }
    let odd : Call := .list
      { filter := { account := some "$9", status := some .disabled }, page := 3, pageSize := 100 }
    let sent (call : Call) : List String :=
      (Connection.answer .still Peer.barren call ⟨(), {}, []⟩).2.requests.reverse.map fun request =>
        request.template.text
    hostile.SameShape odd ∧ sent hostile = sent odd ∧ (sent odd).length = 2 := by
  intro hostile odd sent
  have alike : hostile.SameShape odd := .list rfl
  obtain ⟨texts, apart⟩ := Call.values_travel_apart alike
  have told (call : Call) (member : call ∈ [hostile, odd]) (reply : call.Reply)
      (succeeded : (Connection.answer .still Peer.barren call ⟨(), {}, []⟩).1 = .ok reply) :
      sent call = texts := by
    obtain ⟨statements, made, -, whole, -⟩ := apart call member .still Peer.barren ⟨(), {}, []⟩
    rw [← (whole reply succeeded).1]
    simp only [sent, made, List.append_nil, List.reverse_reverse, List.map_map]
    rfl
  have first : sent hostile = texts :=
    told hostile (List.mem_cons_self ..) (⟨[], 0, 1, 15⟩ : Page) rfl
  have second : sent odd = texts :=
    told odd (List.mem_cons_of_mem _ (List.mem_cons_self ..)) (⟨[], 0, 3, 100⟩ : Page) rfl
  exact ⟨alike, first.trans second.symm, rfl⟩

end UserDirectory
