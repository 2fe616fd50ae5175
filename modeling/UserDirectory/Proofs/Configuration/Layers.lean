import UserDirectory.Proofs.Configuration.DistinctNames
import UserDirectory.Proofs.Configuration.Places
import UserDirectory.Proofs.Configuration.Reading

/-!
Sources laid over one another, setting by setting. What a source lays over a tree changes the place
of a setting only if the source says something about that very setting, so each setting comes from
the highest source that does, and a source that changes its mind about one setting changes no other.
-/

namespace UserDirectory.Configuration

section Files

variable {members : List (String × Tree)} {setting : Setting} {file : Option String}
  {tree next : Tree}

def layEach (members : List (String × Tree)) (tree : Tree) : Tree :=
  members.foldl (fun tree entry => tree.lay entry.1 entry.2) tree

theorem at?_layEach (names : (members.map Prod.fst).Nodup)
    (inner : ∀ entry ∈ members, (entry.2.members.map Prod.fst).Nodup)
    (sectioned : (Tree.table members).Sectioned) (tree : Tree) :
    (layEach members tree).at? setting =
      Tree.laid ((Tree.table members).at? setting) (tree.at? setting) := by
  induction members generalizing tree with
  | nil => rfl
  | cons entry rest ih =>
    obtain ⟨name, value⟩ := entry
    obtain ⟨fresh, names⟩ := List.nodup_cons.1 names
    obtain ⟨here, inner⟩ := List.forall_mem_cons.1 inner
    obtain ⟨leads, sectioned⟩ := List.forall_mem_cons.1 sectioned
    calc (layEach ((name, value) :: rest) tree).at? setting
        = (layEach rest (tree.lay name value)).at? setting := rfl
      _ = Tree.laid ((rest.lookup setting.group).bind (Tree.member? setting.key))
            ((tree.lay name value).at? setting) := ih names inner sectioned _
      _ = Tree.laid ((((name, value) :: rest).lookup setting.group).bind
            (Tree.member? setting.key)) (tree.at? setting) := by
        by_cases same : name = setting.group
        · subst same
          obtain ⟨-, settings, rfl⟩ := leads setting [] setting.pathOf_group
          have part : (tree.lay setting.group (.table settings)).at? setting =
              Tree.laid (settings.lookup setting.key) (tree.at? setting) := Tree.at?_lay_group here
          rw [Tree.lookup_eq_none_of_not_mem fresh, List.lookup_cons_self, part]
          rfl
        · have apart : ∀ path, pathOf name ≠ .member setting.group :: path :=
            fun path into => same (leads setting path into).1
          rw [Tree.at?_lay_elsewhere apart, List.lookup_cons,
            beq_eq_false_iff_ne.2 fun other => same other.symm]

theorem grouped_layEach (sectioned : (Tree.table members).Sectioned) (grouped : tree.Grouped) :
    (layEach members tree).Grouped := by
  induction members generalizing tree with
  | nil => exact grouped
  | cons entry rest ih =>
    obtain ⟨name, value⟩ := entry
    obtain ⟨leads, sectioned⟩ := List.forall_mem_cons.1 sectioned
    refine ih sectioned ?_
    by_cases section? : ∃ (setting : Setting) (path : List Tree.Step),
        pathOf name = .member setting.group :: path
    · obtain ⟨setting, path, into⟩ := section?
      obtain ⟨rfl, table⟩ := leads setting path into
      exact grouped.lay_group table
    · exact grouped.lay_elsewhere fun setting path into => section? ⟨setting, path, into⟩

theorem layFile_eq_ok (done : layFile file tree = .ok next) :
    (fileTree? file = none ∧ next = tree) ∨
      ∃ found, fileTree? file = some found ∧ found.Distinct ∧
        next = layEach found.members tree := by
  cases file with
  | none => exact .inl ⟨rfl, (Except.ok.inj done).symm⟩
  | some text =>
    rw [layFile] at done
    split at done
    next => cases done
    next found read =>
      exact .inr ⟨found, read, Toml.distinct_of_read? read, (Except.ok.inj done).symm⟩

theorem at?_layFile (sectioned : ∀ found, fileTree? file = some found → found.Sectioned)
    (done : layFile file tree = .ok next) (setting : Setting) :
    next.at? setting = Tree.laid ((fileTree? file).bind (·.at? setting)) (tree.at? setting) := by
  obtain ⟨missing, rfl⟩ | ⟨found, read, ⟨names, inner, -⟩, rfl⟩ := layFile_eq_ok done
  · rw [missing]
    rfl
  · rw [read]
    exact at?_layEach names (fun entry present => (inner entry present).names)
      (sectioned found read) tree

theorem grouped_layFile (sectioned : ∀ found, fileTree? file = some found → found.Sectioned)
    (done : layFile file tree = .ok next) (grouped : tree.Grouped) : next.Grouped := by
  obtain ⟨-, rfl⟩ | ⟨found, read, -, rfl⟩ := layFile_eq_ok done
  · exact grouped
  · exact grouped_layEach (sectioned found read) grouped

theorem names_of_fileTree? {value : Tree}
    (there : (fileTree? file).bind (·.at? setting) = some value) :
    (value.members.map Prod.fst).Nodup := by
  obtain ⟨found, read, there⟩ := Option.bind_eq_some_iff.1 there
  obtain ⟨group, inside, there⟩ := Option.bind_eq_some_iff.1 there
  obtain ⟨text, -, read⟩ := Option.bind_eq_some_iff.1 read
  exact (((Toml.distinct_of_read? read).member inside).member there).names

end Files

def settingVariables (environment : Environment) : Environment :=
  environment.filter fun entry => (settingName? entry.1).isSome

section Variables

variable {environment : Environment} {setting : Setting} {tree : Tree}

theorem layVariables_cons (entry : String × String) (rest : Environment) (tree : Tree) :
    layVariables (entry :: rest) tree = layVariables rest
      ((settingName? entry.1).elim tree fun name => tree.lay name (valueOf entry.2)) := by
  obtain ⟨name, text⟩ := entry
  rw [layVariables, List.foldl_cons]
  cases stands : settingName? name <;> simp only [stands] <;> rfl

theorem variableSays?_cons (entry : String × String) (rest : Environment) :
    variableSays? (entry :: rest) setting =
      if lowered entry.1 = setting.variableName then some (valueOf entry.2)
      else variableSays? rest setting := by
  rw [variableSays?, List.find?_cons]
  split
  next same => rw [if_pos (of_decide_eq_true same), Option.map_some]
  next other => rw [if_neg (of_decide_eq_false other), variableSays?]

theorem mem_settingVariables {entry : String × String} (present : entry ∈ environment)
    (same : lowered entry.1 = setting.variableName) : entry ∈ settingVariables environment := by
  refine List.mem_filter.2 ⟨present, ?_⟩
  rw [Setting.settingName?_of_lowered same]
  rfl

theorem variableSays?_eq_none {name : String} (here : lowered name = setting.variableName)
    (fresh : lowered name ∉ (settingVariables environment).map fun entry => lowered entry.1) :
    variableSays? environment setting = none := by
  rw [variableSays?, Option.map_eq_none_iff, List.find?_eq_none]
  intro entry present same
  have there := mem_settingVariables present (of_decide_eq_true same)
  refine fresh (List.mem_map.2 ⟨entry, there, ?_⟩)
  rw [here, of_decide_eq_true same]

/-- No two variables stand for one setting, so it does not matter which of them is laid last. -/
theorem at?_layVariables
    (named : ∀ entry ∈ settingVariables environment,
      ∃ setting : Setting, lowered entry.1 = setting.variableName)
    (distinct : ((settingVariables environment).map fun entry => lowered entry.1).Nodup)
    (tree : Tree) :
    (layVariables environment tree).at? setting =
      (variableSays? environment setting <|> tree.at? setting) := by
  induction environment generalizing tree with
  | nil => rfl
  | cons entry rest ih =>
    rw [layVariables_cons, variableSays?_cons]
    cases stands : settingName? entry.1 with
    | none =>
      have other : lowered entry.1 ≠ setting.variableName := by
        intro same
        rw [Setting.settingName?_of_lowered same] at stands
        cases stands
      have skipped : settingVariables (entry :: rest) = settingVariables rest :=
        List.filter_cons_of_neg (by rw [stands]; exact Bool.false_ne_true)
      rw [skipped] at named distinct
      rw [if_neg other]
      exact ih named distinct tree
    | some path =>
      have kept : settingVariables (entry :: rest) = entry :: settingVariables rest :=
        List.filter_cons_of_pos (by rw [stands]; rfl)
      rw [kept] at named distinct
      obtain ⟨⟨own, here⟩, named⟩ := List.forall_mem_cons.1 named
      obtain ⟨fresh, distinct⟩ := List.nodup_cons.1 distinct
      obtain rfl : path = own.path :=
        Option.some.inj (stands.symm.trans (Setting.settingName?_of_lowered here))
      rw [Option.elim_some, ih named distinct, Tree.at?_lay_path (valueOf_ne_table _)]
      by_cases same : setting = own
      · subst same
        rw [if_pos rfl, if_pos here, variableSays?_eq_none here fresh]
        rfl
      · rw [if_neg same, if_neg fun there => same (Setting.eq_of_lowered there here)]

theorem grouped_layVariables
    (named : ∀ entry ∈ settingVariables environment,
      ∃ setting : Setting, lowered entry.1 = setting.variableName) (grouped : tree.Grouped) :
    (layVariables environment tree).Grouped := by
  induction environment generalizing tree with
  | nil => exact grouped
  | cons entry rest ih =>
    rw [layVariables_cons]
    refine ih (fun other present => named other ?_) ?_
    · exact ((List.sublist_cons_self entry rest).filter _).subset present
    · cases stands : settingName? entry.1 with
      | none => exact grouped
      | some path =>
        have here : entry ∈ settingVariables (entry :: rest) :=
          List.mem_filter.2 ⟨List.mem_cons_self, by rw [stands]; rfl⟩
        obtain ⟨own, same⟩ := named entry here
        obtain rfl : path = own.path :=
          Option.some.inj (stands.symm.trans (Setting.settingName?_of_lowered same))
        exact grouped.lay_path

theorem layUrl_eq (environment : Environment) (tree : Tree) :
    layUrl environment tree =
      ((environment.lookup "DATABASE_URL").elim tree fun url =>
        tree.lay Setting.url.path (.text url)) := by
  rw [layUrl]
  cases environment.lookup "DATABASE_URL" <;> rfl

theorem at?_layUrl :
    (layUrl environment tree).at? setting = (urlSays? environment setting <|> tree.at? setting) := by
  rw [layUrl_eq, urlSays?]
  cases environment.lookup "DATABASE_URL" with
  | none =>
    rw [Option.map_none, ite_self]
    rfl
  | some url =>
    rw [Option.elim_some, Tree.at?_lay_path fun _ => Tree.noConfusion]
    by_cases same : setting = .url
    · rw [if_pos same, if_pos same]
      rfl
    · rw [if_neg same, if_neg same]
      rfl

theorem grouped_layUrl (grouped : tree.Grouped) : (layUrl environment tree).Grouped := by
  rw [layUrl_eq]
  cases environment.lookup "DATABASE_URL" with
  | none => exact grouped
  | some url => exact grouped.lay_path

end Variables

/-- Files that have the sections as tables, and variables that have the names of settings, each of a
setting of its own. -/
structure Orderly (files : Files) (environment : Environment) : Prop where
  defaults : ∀ found, fileTree? files.defaults = some found → found.Sectioned
  overrides : ∀ found, fileTree? files.overrides = some found → found.Sectioned
  named : ∀ entry ∈ settingVariables environment,
    ∃ setting : Setting, lowered entry.1 = setting.variableName
  distinct : ((settingVariables environment).map fun entry => lowered entry.1).Nodup

section Loading

variable {files : Files} {environment : Environment} {configuration : Configuration}
  {setting : Setting}

theorem says?_eq (file : Option String) :
    (fileTree? file).bind (·.says? setting) =
      ((fileTree? file).bind (·.at? setting)).filter fun value => !value.isEmpty := by
  cases fileTree? file <;> rfl

theorem supplied?_eq :
    supplied? files environment setting =
      (urlSays? environment setting <|> (variableSays? environment setting <|>
        ((fileTree? files.overrides).bind (·.says? setting) <|>
          (fileTree? files.defaults).bind (·.says? setting)))) := by
  simp only [supplied?, Source.ranked, List.findSome?_cons, List.findSome?_nil, Source.says?]
  cases urlSays? environment setting with
  | some value => rfl
  | none =>
    cases variableSays? environment setting with
    | some value => rfl
    | none =>
      cases (fileTree? files.overrides).bind (·.says? setting) with
      | some value => rfl
      | none => cases (fileTree? files.defaults).bind (·.says? setting) <;> rfl

/-- Each setting comes from the highest source that says anything about it. -/
theorem readOr_supplied? (orderly : Orderly files environment)
    (loaded : load files environment = .ok configuration) (setting : Setting) :
    setting.readOr (supplied? files environment setting) = .ok (setting.value configuration) := by
  obtain ⟨all, combined, loaded⟩ := Except.bind_eq_ok.1 loaded
  obtain ⟨lower, first, combined⟩ := Except.bind_eq_ok.1 combined
  obtain ⟨upper, second, combined⟩ := Except.bind_eq_ok.1 combined
  obtain rfl := Except.ok.inj combined
  have grouped : (layUrl environment (layVariables environment upper)).Grouped :=
    grouped_layUrl (grouped_layVariables orderly.named
      (grouped_layFile orderly.overrides second
        (grouped_layFile orderly.defaults first Tree.Grouped.empty)))
  have read := (ofTree_eq_ok_iff grouped).1 loaded setting
  rw [at?_layUrl, at?_layVariables orderly.named orderly.distinct,
    at?_layFile orderly.overrides second, at?_layFile orderly.defaults first] at read
  rw [supplied?_eq, says?_eq, says?_eq]
  refine Setting.readOr_orElse read fun read => Setting.readOr_orElse read fun read => ?_
  have upper := Setting.readOr_laid (fun _ there => names_of_fileTree? there) read
  refine Setting.readOr_orElse upper fun read => ?_
  have lower := Setting.readOr_laid (fun _ there => names_of_fileTree? there) read
  rwa [show (Tree.table []).at? setting = none from rfl, Option.orElse_eq_orElse,
    Option.orElse_eq_or, Option.or_none] at lower

end Loading

/-- Sources that say the same about every setting but one, each source for itself. -/
def AlikeBut (changed : Setting) (files files' : Files) (environment environment' : Environment) :
    Prop :=
  ∀ setting : Setting, setting ≠ changed → ∀ source : Source,
    source.says? files' environment' setting = source.says? files environment setting

theorem AlikeBut.supplied? {changed : Setting} {files files' : Files}
    {environment environment' : Environment}
    (alike : AlikeBut changed files files' environment environment') {setting : Setting}
    (other : setting ≠ changed) :
    Configuration.supplied? files' environment' setting =
      Configuration.supplied? files environment setting :=
  congrArg (Source.ranked.findSome? ·) (funext (alike setting other))

/-- Each setting is as the highest source that says anything about that very setting has it, and as
built in where none does: `DATABASE_URL`, the variables, the local file, the default file. What any
source says about one setting has no influence on another. An empty table in the place of a setting
says nothing about it, for there is no key in it to be laid over what other sources have. A file is
`Sectioned` only if no quoted name with a dot in it leads into a section: such a name is read as a
path of keys, and stands beside the table of that section. -/
theorem load_layered {files : Files} {environment : Environment} {configuration : Configuration}
    (orderly : Orderly files environment) (loaded : load files environment = .ok configuration) :
    (∀ setting : Setting,
      setting.readOr (supplied? files environment setting) =
        .ok (setting.value configuration)) ∧
    ∀ (changed : Setting) (files' : Files) (environment' : Environment)
      (configuration' : Configuration), Orderly files' environment' →
      load files' environment' = .ok configuration' →
      AlikeBut changed files files' environment environment' →
      ∀ setting : Setting, setting ≠ changed →
        setting.value configuration' = setting.value configuration := by
  refine ⟨readOr_supplied? orderly loaded, ?_⟩
  intro changed files' environment' configuration' orderly' loaded' alike setting other
  have before := readOr_supplied? orderly loaded setting
  have after := readOr_supplied? orderly' loaded' setting
  rw [alike.supplied? other, before] at after
  exact (Except.ok.inj after).symm

def logFiles : Files where
  defaults := some "[logging]\nlevel = \"warn\"\n"
  overrides := some "[logging]\nformat = \"json\"\n"

def plainEnvironment : Environment := [("HOME", "/root"), ("DATABASE_URL", "postgres://env/db")]

def debugEnvironment : Environment := ("App__Logging__Level", "debug") :: plainEnvironment

def plainConfiguration : Configuration where
  logging := { level := "warn", format := .json }
  database := { url := "postgres://env/db" }

def debugConfiguration : Configuration where
  logging := { level := "debug", format := .json }
  database := { url := "postgres://env/db" }

theorem logFiles_orderly {environment : Environment}
    (named : ∀ entry ∈ settingVariables environment,
      ∃ setting : Setting, lowered entry.1 = setting.variableName)
    (distinct : ((settingVariables environment).map fun entry => lowered entry.1).Nodup) :
    Orderly logFiles environment where
  defaults found read := by
    have sections : ∀ found ∈ fileTree? logFiles.defaults, ∀ entry ∈ found.members,
        entry.1 ∈ ["logging", "database", "users"] ∧ entry.2.IsTable := by decide +kernel
    exact .ofGroups (sections found read)
  overrides found read := by
    have sections : ∀ found ∈ fileTree? logFiles.overrides, ∀ entry ∈ found.members,
        entry.1 ∈ ["logging", "database", "users"] ∧ entry.2.IsTable := by decide +kernel
    exact .ofGroups (sections found read)
  named := named
  distinct := distinct

theorem plainEnvironment_orderly : Orderly logFiles plainEnvironment := by
  have none : settingVariables plainEnvironment = [] := by decide
  apply logFiles_orderly <;> rw [none]
  · exact List.forall_mem_nil _
  · exact List.nodup_nil

theorem debugEnvironment_orderly : Orderly logFiles debugEnvironment := by
  have one : settingVariables debugEnvironment = [("App__Logging__Level", "debug")] := by decide
  apply logFiles_orderly <;> rw [one]
  · exact List.forall_mem_singleton.2 ⟨.level, by decide⟩
  · exact List.nodup_singleton _

theorem debugEnvironment_alike :
    AlikeBut .level logFiles logFiles plainEnvironment debugEnvironment := by
  intro setting other source
  cases source with
  | databaseUrl => rfl
  | settingVariable =>
    have apart : lowered "App__Logging__Level" ≠ setting.variableName := fun here =>
      other (Setting.eq_of_lowered here (by decide))
    exact (variableSays?_cons _ plainEnvironment).trans (if_neg apart)
  | localFile => rfl
  | defaultFile => rfl

/-- A variable for the level changes the level, which the default file gives otherwise. The format
stays that of the local file, and the address stays that of `DATABASE_URL`. -/
theorem load_layered_debug :
    Orderly logFiles plainEnvironment ∧
    load logFiles plainEnvironment = .ok plainConfiguration ∧
    (∀ setting : Setting,
      setting.readOr (supplied? logFiles plainEnvironment setting) =
        .ok (setting.value plainConfiguration)) ∧
    Orderly logFiles debugEnvironment ∧
    load logFiles debugEnvironment = .ok debugConfiguration ∧
    AlikeBut .level logFiles logFiles plainEnvironment debugEnvironment ∧
    ∀ setting : Setting, setting ≠ .level →
      setting.value debugConfiguration = setting.value plainConfiguration := by
  have plain : load logFiles plainEnvironment = .ok plainConfiguration :=
    Except.toOption_eq_some_iff.1 (by decide +kernel)
  have debug : load logFiles debugEnvironment = .ok debugConfiguration :=
    Except.toOption_eq_some_iff.1 (by decide +kernel)
  obtain ⟨supplied, apart⟩ := load_layered plainEnvironment_orderly plain
  exact ⟨plainEnvironment_orderly, plain, supplied, debugEnvironment_orderly, debug,
    debugEnvironment_alike,
    apart .level logFiles debugEnvironment debugConfiguration debugEnvironment_orderly debug
      debugEnvironment_alike⟩

end UserDirectory.Configuration
