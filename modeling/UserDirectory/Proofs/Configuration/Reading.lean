import UserDirectory.Proofs.Configuration.Places
import UserDirectory.Proofs.Except

/-!
A tree is read setting by setting: a configuration comes of it exactly if each setting comes of what
stands in its place. A setting is read from what was last laid over its place, since no table but
one with a single member is read as a setting, and laying a table over another takes no member away.
-/

namespace UserDirectory.Configuration

section Sections

variable {α : Type} {names : List String} {members : List (String × Tree)}

theorem settingOr_table (name : String) (read : Tree → Except LoadError α) (absent : α) :
    settingOr names (.table members) name read absent =
      (members.lookup name).elim (.ok absent) read := by
  have stands : Configuration.setting names (.table members) name =
      .ok (members.lookup name) := rfl
  rw [settingOr, stands]
  cases members.lookup name <;> rfl

theorem exists_section (names : List String) (name : String) (read : Tree → Except LoadError α)
    {tree : Tree} (isTable : tree.IsTable)
    (group : ∀ group, tree.member? name = some group → group.IsTable)
    {absent : α} (usual : read (.table []) = .ok absent) :
    ∃ members, settingOr names tree name read absent = read (.table members) ∧
      ∀ key, (tree.member? name).bind (Tree.member? key) = members.lookup key := by
  obtain ⟨listed, rfl⟩ := isTable
  rw [settingOr_table]
  cases found : listed.lookup name with
  | none =>
    refine ⟨[], usual.symm, fun key => ?_⟩
    rw [Tree.member?, Tree.members, found]
    rfl
  | some inner =>
    obtain ⟨members, rfl⟩ := group inner found
    refine ⟨members, rfl, fun key => ?_⟩
    rw [Tree.member?, Tree.members, found]
    rfl

theorem settingOr_eq_ok {setting : Setting} {key : String} {absent value : setting.Value}
    (usual : absent = setting.value {}) :
    settingOr names (.table members) key setting.read absent = .ok value ↔
      setting.readOr (members.lookup key) = .ok value := by
  subst usual
  rw [settingOr_table]
  cases members.lookup key <;> exact Iff.rfl

theorem Logging.ofTree_eq_ok {logging : Logging} :
    Logging.ofTree (.table members) = .ok logging ↔
      Setting.level.readOr (members.lookup "level") = .ok logging.level ∧
      Setting.format.readOr (members.lookup "format") = .ok logging.format := by
  rw [Logging.ofTree]
  simp only [Except.bind_eq_ok]
  constructor
  · rintro ⟨level, first, format, second, same⟩
    cases same
    exact ⟨(settingOr_eq_ok rfl).1 first, (settingOr_eq_ok rfl).1 second⟩
  · rintro ⟨first, second⟩
    exact ⟨_, (settingOr_eq_ok rfl).2 first, _, (settingOr_eq_ok rfl).2 second, rfl⟩

theorem Database.ofTree_eq_ok {database : Database} :
    Database.ofTree (.table members) = .ok database ↔
      Setting.url.readOr (members.lookup "url") = .ok database.url ∧
      Setting.maxConnections.readOr (members.lookup "max_connections") =
        .ok database.maxConnections ∧
      Setting.minConnections.readOr (members.lookup "min_connections") =
        .ok database.minConnections ∧
      Setting.connectTimeout.readOr (members.lookup "connect_timeout_secs") =
        .ok database.connectTimeout ∧
      Setting.idleTimeout.readOr (members.lookup "idle_timeout_secs") =
        .ok database.idleTimeout ∧
      Setting.statementTimeout.readOr (members.lookup "statement_timeout_secs") =
        .ok database.statementTimeout := by
  rw [Database.ofTree]
  simp only [Except.bind_eq_ok]
  constructor
  · rintro ⟨url, first, most, second, least, third, connect, fourth, idle, fifth, statement,
      sixth, same⟩
    cases same
    exact ⟨(settingOr_eq_ok rfl).1 first, (settingOr_eq_ok rfl).1 second,
      (settingOr_eq_ok rfl).1 third, (settingOr_eq_ok rfl).1 fourth,
      (settingOr_eq_ok rfl).1 fifth, (settingOr_eq_ok rfl).1 sixth⟩
  · rintro ⟨first, second, third, fourth, fifth, sixth⟩
    exact ⟨_, (settingOr_eq_ok rfl).2 first, _, (settingOr_eq_ok rfl).2 second,
      _, (settingOr_eq_ok rfl).2 third, _, (settingOr_eq_ok rfl).2 fourth,
      _, (settingOr_eq_ok rfl).2 fifth, _, (settingOr_eq_ok rfl).2 sixth, rfl⟩

theorem Users.ofTree_eq_ok {users : Users} :
    Users.ofTree (.table members) = .ok users ↔
      Setting.utcOffsetMinutes.readOr (members.lookup "utc_offset_minutes") =
        .ok users.utcOffsetMinutes := by
  rw [Users.ofTree]
  simp only [Except.bind_eq_ok]
  constructor
  · rintro ⟨minutes, first, same⟩
    cases same
    exact (settingOr_eq_ok rfl).1 first
  · exact fun first => ⟨_, (settingOr_eq_ok rfl).2 first, rfl⟩

end Sections

/-- A configuration comes of a tree exactly if each setting comes of what stands in its place. -/
theorem ofTree_eq_ok_iff {tree : Tree} (grouped : tree.Grouped) {configuration : Configuration} :
    ofTree tree = .ok configuration ↔
      ∀ setting : Setting, setting.readOr (tree.at? setting) = .ok (setting.value configuration) := by
  let names := ["logging", "database", "users"]
  obtain ⟨logging, readLogging, inLogging⟩ := exists_section names "logging" Logging.ofTree
    grouped.isTable (grouped.groups .level) rfl
  obtain ⟨database, readDatabase, inDatabase⟩ := exists_section names "database" Database.ofTree
    grouped.isTable (grouped.groups .url) rfl
  obtain ⟨users, readUsers, inUsers⟩ := exists_section names "users" Users.ofTree
    grouped.isTable (grouped.groups .utcOffsetMinutes) rfl
  have parts : ofTree tree = .ok configuration ↔
      Logging.ofTree (.table logging) = .ok configuration.logging ∧
      Database.ofTree (.table database) = .ok configuration.database ∧
      Users.ofTree (.table users) = .ok configuration.users := by
    rw [ofTree, ← readLogging, ← readDatabase, ← readUsers]
    simp only [Except.bind_eq_ok]
    constructor
    · rintro ⟨logging, first, database, second, users, third, same⟩
      cases same
      exact ⟨first, second, third⟩
    · rintro ⟨first, second, third⟩
      exact ⟨_, first, _, second, _, third, rfl⟩
  rw [parts, Logging.ofTree_eq_ok, Database.ofTree_eq_ok, Users.ofTree_eq_ok]
  simp only [← inLogging, ← inDatabase, ← inUsers]
  constructor
  · rintro ⟨⟨level, format⟩, ⟨url, most, least, connect, idle, statement⟩, minutes⟩ setting
    cases setting
    case level => exact level
    case format => exact format
    case url => exact url
    case maxConnections => exact most
    case minConnections => exact least
    case connectTimeout => exact connect
    case idleTimeout => exact idle
    case statementTimeout => exact statement
    case utcOffsetMinutes => exact minutes
  · intro each
    exact ⟨⟨each .level, each .format⟩, ⟨each .url, each .maxConnections, each .minConnections,
      each .connectTimeout, each .idleTimeout, each .statementTimeout⟩, each .utcOffsetMinutes⟩

theorem Tree.eq_of_isEmpty {tree : Tree} (empty : tree.isEmpty = true) : tree = .table [] := by
  unfold isEmpty at empty
  split at empty
  next => rfl
  next => cases empty

namespace Setting

variable {setting : Setting} {value : Tree} {found : setting.Value}

/-- Of tables, only one with a single member can be read, and that by the name of the member. -/
theorem read_table {members : List (String × Tree)}
    (read : setting.read (.table members) = .ok found) :
    ∃ name, (∃ inner, members = [(name, inner)]) ∧
      ∀ inner, setting.read (.table [(name, inner)]) = .ok found := by
  cases setting with
  | format =>
    obtain _ | ⟨⟨name, inner⟩, _ | ⟨next, rest⟩⟩ := members
    · cases read
    · exact ⟨name, ⟨inner, rfl⟩, fun _ => read⟩
    · cases read
  | _ => cases read

/-- What can be read from a value laid over another can be read from the value alone, unless that is
an empty table. -/
theorem read_onto {old : Option Tree} (distinct : (value.members.map Prod.fst).Nodup)
    (full : value.isEmpty = false) (read : setting.read (value.onto old) = .ok found) :
    setting.read value = .ok found := by
  cases value with
  | table members =>
    cases members with
    | nil => cases full
    | cons first rest =>
      obtain ⟨merged, same⟩ : (Tree.onto (.table (first :: rest)) old).IsTable := by
        rw [Tree.onto, Tree.overlayAll, Tree.overlay_eq]
        exact Tree.isTable_overlayAll Tree.isTable_put
      rw [same] at read
      obtain ⟨name, ⟨inner, rfl⟩, alike⟩ := read_table read
      obtain ⟨value, only⟩ :=
        Tree.eq_singleton_of_overlayAll distinct (List.cons_ne_nil first rest) same
      rw [show first :: rest = [(name, value)] from only]
      exact alike value
  | _ => exact read

theorem readOr_orElse {first second other : Option Tree}
    (read : setting.readOr (first <|> second) = .ok found)
    (next : setting.readOr second = .ok found → setting.readOr other = .ok found) :
    setting.readOr (first <|> other) = .ok found := by
  cases first with
  | none => exact next read
  | some tree => exact read

/-- What is read after a value is laid over another is read from the value, or from the other where
the value is missing or says nothing. -/
theorem readOr_laid {value? old : Option Tree}
    (distinct : ∀ value ∈ value?, (value.members.map Prod.fst).Nodup)
    (read : setting.readOr (Tree.laid value? old) = .ok found) :
    setting.readOr ((value?.filter fun value => !value.isEmpty) <|> old) = .ok found := by
  cases value? with
  | none => exact read
  | some value =>
    cases empty : value.isEmpty with
    | false =>
      rw [Option.filter_some, empty]
      exact read_onto (distinct value rfl) empty read
    | true =>
      rw [Option.filter_some, empty]
      obtain rfl : value = .table [] := Tree.eq_of_isEmpty empty
      cases old with
      | none =>
        obtain ⟨name, ⟨inner, same⟩, -⟩ := read_table read
        cases same
      | some old => exact read

end Setting

end UserDirectory.Configuration
