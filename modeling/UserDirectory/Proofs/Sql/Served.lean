import UserDirectory.Proofs.Database.Sending
import UserDirectory.Proofs.Sql.PartialUpdate
import UserDirectory.Proofs.Sql.Places

/-!
What a call means for the places of its statements. Its statements serve what it means and nothing
else; and each of them serves all of it, but for the limit and the offset of a page, which are not
for the statement that counts.
-/

namespace UserDirectory

open Sql Database

/-- What a filter compares with; a part of a text is looked for by the pattern of it. -/
def Filter.meant (filter : Filter) : Place → Option Cell
  | .compared .account .like => filter.account.map fun part => .text (Like.containing part)
  | .compared .email .like => filter.email.map fun part => .text (Like.containing part)
  | .compared .mobile .like => filter.mobile.map fun part => .text (Like.containing part)
  | .compared .status .equal => filter.status.map fun status => .integer status.code
  | .compared .deptId .equal => filter.deptId.map .text
  | .compared .tenantId .equal => filter.tenantId.map .text
  | .compared .createdAt .notBefore => filter.createdFrom.map .instant
  | .compared .createdAt .before => filter.createdBefore.map .instant
  | _ => none

def Sql.Column.sought (column : Column) (value : String) : Place → Option Cell
  | .compared other .equal => if other = column then some (.text value) else none
  | _ => none

def NewUser.meant (new : NewUser) (id : UserId) (now : Instant) : Place → Option Cell
  | .inserted .updateBy | .inserted .deletedAt => none
  | .inserted column => some ((User.ofNew id new now).row column)
  | _ => none

def Patch.meant (patch : Patch) (now : Instant) : Place → Option Cell
  | .assigned .updatedAt => some (.instant now)
  | .assigned column => patch.supplied? column
  | place => Column.id.sought patch.id.text place

def Windows.meant (windows : Windows) : Place → Option Cell
  | .since "today_registered" => some (.instant windows.today)
  | .since "this_week_registered" => some (.instant windows.thisWeek)
  | .since "this_month_registered" => some (.instant windows.thisMonth)
  | _ => none

/-- What a call means for each place, with the id and the time that it is given. -/
def Call.meant (id : UserId) (now : Instant) : Call → Place → Option Cell
  | save new, place => new.meant id now place
  | update changes, place => changes.meant now place
  | delete _, .assigned .deletedAt => some (.instant now)
  | delete user, place => Column.id.sought user.text place
  | findById user, place => Column.id.sought user.text place
  | findByIdIncludingDeleted user, place => Column.id.sought user.text place
  | findByAccount account, place => Column.account.sought account place
  | findByEmail email, place => Column.email.sought email place
  | findByMobile mobile, place => Column.mobile.sought mobile place
  | list query, .limit => some (.integer (Statement.cut query.pageSize))
  | list query, .offset => some (.integer (Statement.cut query.skip))
  | list query, place => query.filter.meant place
  | count filter, place => filter.meant place
  | changeStatus _ _ _, .assigned .updatedAt => some (.instant now)
  | changeStatus _ status _, .assigned .status => some (.integer status.code)
  | changeStatus _ _ updateBy, .assigned .updateBy => updateBy.map .text
  | changeStatus user _ _, place => Column.id.sought user.text place
  | statistics _ windows, .since name => windows.meant (.since name)
  | statistics scope _, place => scope.meant place

section Served

variable {place : Place} {cell : Cell}

theorem Sql.Column.sought_eq_some {column : Column} {value : String} :
    column.sought value place = some cell ↔
      (place, cell) ∈ [(Place.compared column .equal, Cell.text value)] := by
  rw [List.mem_singleton, Prod.mk.injEq]
  cases place with
  | compared other comparison =>
    cases comparison <;> simp [sought, eq_comm]
  | _ => simp [sought]

theorem Sql.Statement.mem_assigned {assignments : List (Column × Cell)} :
    (place, cell) ∈ assignments.flatMap (fun assigned => [(.assigned assigned.1, assigned.2)]) ↔
      ∃ column, place = .assigned column ∧ (column, cell) ∈ assignments := by
  simp only [List.mem_flatMap, List.mem_singleton, Prod.mk.injEq, Prod.exists]
  exact ⟨fun ⟨column, _, member, here, same⟩ => ⟨column, here, same ▸ member⟩,
    fun ⟨column, here, member⟩ => ⟨column, cell, member, here, rfl⟩⟩

theorem Filter.mem_served {filter : Filter} :
    (place, cell) ∈ filter.liveConditions.flatMap Condition.served ↔
      filter.meant place = some cell := by
  have given (column : Column) (comparison : Comparison) (wanted : Option Cell) :
      (place, cell) ∈ (wanted.toList.map fun value =>
          Condition.compares column comparison value).flatMap Condition.served ↔
        place = .compared column comparison ∧ wanted = some cell := by
    cases wanted <;> simp [Condition.served, eq_comm]
  have silent : (place, cell) ∉ Scope.live.condition.served := List.not_mem_nil
  simp only [liveConditions, conditions, List.flatMap_cons, List.flatMap_append, List.mem_append,
    given, silent, false_or, or_assoc]
  constructor
  · rintro (⟨rfl, held⟩ | ⟨rfl, held⟩ | ⟨rfl, held⟩ | ⟨rfl, held⟩ | ⟨rfl, held⟩ | ⟨rfl, held⟩ |
      ⟨rfl, held⟩ | ⟨rfl, held⟩) <;> exact held
  · intro wanted
    unfold meant at wanted
    split at wanted
    case h_9 => cases wanted
    all_goals simp [wanted]

theorem Sql.Statement.mem_update {assignments : List (Column × Cell)} {id : UserId}
    {returning : Bool} :
    (place, cell) ∈ (Statement.update assignments (Statement.ofId id) returning).served ↔
      (∃ column, place = .assigned column ∧ (column, cell) ∈ assignments) ∨
        Column.id.sought id.text place = some cell :=
  List.mem_append.trans (or_congr mem_assigned Column.sought_eq_some.symm)

theorem NewUser.mem_served (new : NewUser) (id : UserId) (now : Instant) :
    (place, cell) ∈ (Statement.save new id now).served ↔ new.meant id now place = some cell := by
  have each : ∀ assigned ∈ new.assignments id now,
      new.meant id now (.inserted assigned.1) = some assigned.2 := by
    simp only [assignments, List.forall_mem_cons]
    and_intros <;> first | rfl | exact List.forall_mem_nil _
  simp only [Statement.save, Statement.served, List.mem_flatMap, List.mem_singleton,
    Prod.mk.injEq]
  constructor
  · rintro ⟨assigned, member, rfl, rfl⟩
    exact each assigned member
  · intro wanted
    cases place with
    | inserted column =>
      have listed : column ∈ (new.assignments id now).map Prod.fst := by
        cases column
        case updateBy | deletedAt => cases wanted
        all_goals simp [assignments]
      obtain ⟨assigned, member, rfl⟩ := List.mem_map.1 listed
      rw [each assigned member] at wanted
      exact ⟨assigned, member, rfl, (Option.some.inj wanted).symm⟩
    | _ => cases wanted

theorem Patch.mem_served (patch : Patch) (now : Instant) :
    (place, cell) ∈ (Statement.patch patch now).served ↔ patch.meant now place = some cell := by
  simp only [Statement.patch, Statement.mem_update, mem_assignments]
  cases place with
  | assigned column =>
    simp only [Place.assigned.injEq, exists_eq_left', Column.sought, reduceCtorEq, or_false]
    cases column <;> simp [meant, supplied?, eq_comm]
  | _ => simp [meant]

theorem Windows.mem_served {windows : Windows} {scope : Filter} {id : UserId} {now : Instant} :
    (place, cell) ∈ (Statement.statistics windows scope.liveConditions).served ↔
      (Call.statistics scope windows).meant id now place = some cell := by
  simp only [Statement.served, List.mem_append, List.mem_singleton, Prod.mk.injEq,
    Filter.mem_served]
  cases place with
  | since name =>
    have apart : scope.meant (.since name) = none := rfl
    simp only [apart, Place.since.injEq, reduceCtorEq, or_false, or_assoc]
    constructor
    · rintro (⟨rfl, rfl⟩ | ⟨rfl, rfl⟩ | ⟨rfl, rfl⟩) <;> rfl
    · intro wanted
      change windows.meant (.since name) = some cell at wanted
      unfold meant at wanted
      split at wanted
      case h_4 => cases wanted
      all_goals simp_all only [Place.since.injEq, Option.some.injEq, true_and, true_or, or_true]
  | _ => simp [Call.meant]

theorem Query.mem_served {query : Query} {id : UserId} {now : Instant} :
    (place, cell) ∈ (Statement.list query).served ↔
      (Call.list query).meant id now place = some cell := by
  simp only [Statement.list, Statement.served, List.mem_append, List.mem_cons, List.not_mem_nil,
    Prod.mk.injEq, Filter.mem_served]
  cases place <;> simp [Call.meant, Filter.meant, eq_comm, Query.limit]

/-- What statements serve is what is meant, and each of them serves all of it but a limit and an
offset. -/
structure Sql.Statement.Serve (statements : List Statement) (meant : Place → Option Cell) :
    Prop where
  sound : ∀ statement ∈ statements, ∀ entry ∈ statement.served, meant entry.1 = some entry.2
  whole : ∀ place cell, meant place = some cell →
    (∃ statement ∈ statements, (place, cell) ∈ statement.served) ∧
    ∀ statement ∈ statements, (place, cell) ∈ statement.served ∨ place = .limit ∨ place = .offset

theorem Sql.Statement.Serve.one {statement : Statement} {meant : Place → Option Cell}
    (same : ∀ place cell, (place, cell) ∈ statement.served ↔ meant place = some cell) :
    Serve [statement] meant where
  sound := List.forall_mem_singleton.2 fun entry => (same entry.1 entry.2).1
  whole := fun place cell wanted =>
    have served := (same place cell).2 wanted
    ⟨⟨statement, List.mem_singleton_self statement, served⟩,
      List.forall_mem_singleton.2 (.inl served)⟩

theorem Sql.Statement.Serve.find (scope : Scope) (column : Column) (value : String) :
    Serve [Statement.find scope column value] (column.sought value) := by
  refine .one fun place cell => Iff.trans ?_ Column.sought_eq_some.symm
  cases scope <;> rfl

theorem Call.serve (call : Call) (id : UserId) (now : Instant) :
    Statement.Serve (call.statements id now) (call.meant id now) := by
  cases call with
  | save new => exact .one fun _ _ => new.mem_served id now
  | update changes => exact .one fun _ _ => changes.mem_served now
  | delete user =>
    refine .one fun place cell => ?_
    simp only [Statement.delete, Statement.mem_update, List.mem_singleton, Prod.mk.injEq]
    cases place with
    | assigned column => cases column <;> simp [meant, Column.sought, eq_comm]
    | _ => simp [meant]
  | findById user => exact .find ..
  | findByIdIncludingDeleted user => exact .find ..
  | findByAccount account => exact .find ..
  | findByEmail email => exact .find ..
  | findByMobile mobile => exact .find ..
  | list query =>
    refine ⟨List.forall_mem_cons.2
      ⟨fun entry member => Query.mem_served.1 (List.mem_append_left _ member),
        List.forall_mem_singleton.2 fun entry => Query.mem_served.1⟩, fun place cell wanted => ?_⟩
    have served := Query.mem_served.2 wanted
    refine ⟨⟨_, List.mem_cons_of_mem _ (List.mem_singleton_self _), served⟩,
      List.forall_mem_cons.2 ⟨?_, List.forall_mem_singleton.2 (.inl served)⟩⟩
    refine (List.mem_append.1 served).imp_right fun paged => ?_
    obtain ⟨⟩ | ⟨-, ⟨⟩ | ⟨-, ⟨⟩⟩⟩ := paged
    · exact .inl rfl
    · exact .inr rfl
  | count filter => exact .one fun _ _ => Filter.mem_served
  | changeStatus user status updateBy =>
    refine .one fun place cell => ?_
    simp only [Statement.changeStatus, Statement.mem_update, Patch.mem_assignments]
    cases place with
    | assigned column => cases column <;> simp [meant, Patch.supplied?, Column.sought, eq_comm]
    | _ => simp [meant]
  | statistics scope windows => exact .one fun _ _ => Windows.mem_served

theorem Filter.bare (filter : Filter) : ∀ condition ∈ filter.liveConditions, condition.Bare := by
  have given (column : Column) (comparison : Comparison) (wanted : Option Cell) :
      ∀ condition ∈ wanted.toList.map (fun value => Condition.compares column comparison value),
        condition.Bare :=
    List.forall_mem_map.2 fun _ _ => trivial
  simp only [liveConditions, conditions, List.forall_mem_cons, List.forall_mem_append]
  refine ⟨trivial, ?_⟩
  and_intros <;> exact given _ _ _

theorem Call.bare (call : Call) (id : UserId) (now : Instant) :
    ∀ statement ∈ call.statements id now, ∀ condition ∈ statement.conditions, condition.Bare := by
  have ofId (user : UserId) : ∀ condition ∈ Statement.ofId user, condition.Bare :=
    List.forall_mem_cons.2 ⟨trivial, List.forall_mem_singleton.2 trivial⟩
  have find (scope : Scope) (column : Column) (value : String) :
      ∀ condition ∈ (Statement.find scope column value).conditions, condition.Bare :=
    List.forall_mem_cons.2 ⟨by cases scope <;> trivial, List.forall_mem_singleton.2 trivial⟩
  cases call with
  | save new => exact List.forall_mem_singleton.2 (List.forall_mem_nil _)
  | update changes => exact List.forall_mem_singleton.2 (ofId _)
  | delete user => exact List.forall_mem_singleton.2 (ofId _)
  | findById user => exact List.forall_mem_singleton.2 (find _ _ _)
  | findByIdIncludingDeleted user => exact List.forall_mem_singleton.2 (find _ _ _)
  | findByAccount account => exact List.forall_mem_singleton.2 (find _ _ _)
  | findByEmail email => exact List.forall_mem_singleton.2 (find _ _ _)
  | findByMobile mobile => exact List.forall_mem_singleton.2 (find _ _ _)
  | list query =>
    exact List.forall_mem_cons.2 ⟨query.filter.bare, List.forall_mem_singleton.2 query.filter.bare⟩
  | count filter => exact List.forall_mem_singleton.2 filter.bare
  | changeStatus user status updateBy => exact List.forall_mem_singleton.2 (ofId _)
  | statistics scope windows => exact List.forall_mem_singleton.2 scope.bare

end Served

end UserDirectory
