import UserDirectory.Command.Line
import UserDirectory.Proofs.Keyed

/-!
Argument lists of one shape: options with their values attached, two hyphens, and positionals. Each
argument is read into the entry it stands for, so what is given of a form are the options in the
order in which they stand, and then the positionals.
-/

namespace UserDirectory.Line

def optionText (option : String × String) : String := "--" ++ option.1 ++ "=" ++ option.2

def entries (options : List (String × String)) : Given :=
  options.map fun option => (option.1, [option.2])

def Given.names (given : Given) : List String := given.map Prod.fst

section Given

variable {given : Given} {name : String} {values : List String}

theorem names_append (given other : Given) : (given ++ other).names = given.names ++ other.names :=
  List.map_append

theorem names_entries (options : List (String × String)) :
    (entries options).names = options.map Prod.fst := List.map_map

theorem not_mem_of_distinct {names others : List String}
    (distinct : (names ++ name :: others).Nodup) : name ∉ names :=
  List.disjoint_right.1 (List.disjoint_of_nodup_append distinct) List.mem_cons_self

theorem values?_eq_none (absent : name ∉ given.names) : given.values? name = none :=
  congrArg (Option.map Prod.snd) (find?_key_eq_none absent)

theorem values?_eq_some (distinct : given.names.Nodup) (member : (name, values) ∈ given) :
    given.values? name = some values :=
  congrArg (Option.map Prod.snd) (find?_key_eq_some distinct member)

theorem add_new (absent : name ∉ given.names) :
    given.add name values = given ++ [(name, values)] := by
  rw [Given.add, values?_eq_none absent]

end Given

section Progress

variable {progress settled : Progress} {parameter : Parameter} {values : List String}

theorem take_new (nonempty : values ≠ []) (absent : parameter.name ∉ progress.given.names)
    (accepted : ∀ value ∈ values, parameter.kind.accepts value = true) :
    progress.take parameter values =
      .ok { progress with given := progress.given ++ [(parameter.name, values)] } := by
  have full : ¬ (parameter.role ≠ .flag ∧ values.isEmpty = true) :=
    fun empty => nonempty (List.isEmpty_iff.1 empty.2)
  have first : ¬ (parameter.role ≠ .positionals ∧
      (progress.given.values? parameter.name).isSome = true) := by
    rw [values?_eq_none absent]
    exact fun again => Bool.false_ne_true again.2
  rw [Progress.take, if_neg full, if_neg first, if_pos (List.all_eq_true.2 accepted),
    add_new absent]

theorem settle_position (settles : progress.settle = .ok settled) :
    settled.position = progress.position := by
  rw [Progress.settle] at settles
  split at settles
  next => rw [Except.ok.inj settles]
  next parameter values pending =>
    rw [Progress.take] at settles
    split_ifs at settles
    rw [← Except.ok.inj settles]

end Progress

section Options

variable {form : Form} {given : Given}

def Form.Takes (form : Form) (option : String × String) : Prop :=
  ∃ parameter, form.named? option.1 = some parameter ∧ parameter.role = .option ∧
    parameter.kind.accepts option.2 = true

def Form.hasOption (form : Form) (name : String) (kind : ValueKind) : Bool :=
  (form.named? name).any fun parameter => parameter.role = .option ∧ parameter.kind = kind

theorem takes_of_hasOption {name value : String} {kind : ValueKind}
    (has : form.hasOption name kind = true) (accepted : kind.accepts value = true) :
    form.Takes (name, value) := by
  rw [Form.hasOption, Option.any_eq_true] at has
  obtain ⟨parameter, named, fitting⟩ := has
  obtain ⟨role, rfl⟩ := of_decide_eq_true fitting
  exact ⟨parameter, named, role, accepted⟩

/-- Whether the arguments of a form have names that end where a value begins, none of them that of
the call for help. -/
def Form.Plain (form : Form) : Prop :=
  ∀ parameter ∈ form.parameters, parameter.name ≠ "help" ∧ '=' ∉ parameter.name.toList

theorem toList_optionText (name value : String) :
    (optionText (name, value)).toList = '-' :: '-' :: (name.toList ++ '=' :: value.toList) := by
  simp [optionText]

theorem splitLong?_optionText {name : String} (plain : '=' ∉ name.toList) (value : String) :
    splitLong? (optionText (name, value)) = some (name, some value) := by
  have before : ∀ c ∈ name.toList, decide (c ≠ '=') = true :=
    fun c inside => decide_eq_true fun same => plain (same ▸ inside)
  simp only [splitLong?, toList_optionText]
  rw [List.takeWhile_append_of_pos before, List.dropWhile_append_of_pos before]
  simp

theorem optionText_ne_hyphens (option : String × String) : optionText option ≠ "--" := by
  intro same
  have letters := congrArg String.toList same
  rw [toList_optionText] at letters
  simp at letters

theorem named?_spec {name : String} {parameter : Parameter}
    (named : form.named? name = some parameter) :
    parameter ∈ form.parameters ∧ parameter.name = name := by
  have found := List.find?_some named
  simp only [decide_eq_true_eq] at found
  exact ⟨List.mem_of_find?_eq_some named, found.1⟩

theorem readLong_option {name value : String} (takes : form.Takes (name, value))
    (help : name ≠ "help") (absent : name ∉ given.names) :
    readLong form name (some value) { given } =
      .ok { given := given ++ [(name, [value])] } := by
  obtain ⟨parameter, named, role, accepted⟩ := takes
  obtain rfl := (named?_spec named).2
  have taken : ({ given } : Progress).take parameter [value] =
      .ok { given := given ++ [(parameter.name, [value])] } :=
    take_new (List.cons_ne_nil value []) absent (List.forall_mem_singleton.2 accepted)
  have settled : ({ given } : Progress).settle = .ok { given } := rfl
  rw [readLong, if_neg help, named]
  simp only [role, settled]
  change (({ given } : Progress).take parameter [value] >>= _) = _
  rw [taken]
  rfl

theorem readArguments_options (plain : form.Plain) {options : List (String × String)}
    (takes : ∀ option ∈ options, form.Takes option)
    (distinct : (given ++ entries options).names.Nodup) (rest : List String) :
    readArguments form false (options.map optionText ++ rest) { given } =
      readArguments form false rest { given := given ++ entries options } := by
  induction options generalizing given with
  | nil =>
    have same : given ++ entries [] = given := List.append_nil given
    rw [same]
    rfl
  | cons option options ih =>
    obtain ⟨name, value⟩ := option
    obtain ⟨first, others⟩ := List.forall_mem_cons.1 takes
    obtain ⟨parameter, named, -⟩ := id first
    obtain ⟨member, same⟩ := named?_spec named
    obtain ⟨help, sign⟩ := same ▸ plain parameter member
    have absent : name ∉ given.names := by
      rw [names_append] at distinct
      exact not_mem_of_distinct distinct
    have moved : given ++ entries ((name, value) :: options) =
        given ++ [(name, [value])] ++ entries options := by
      rw [List.append_assoc]
      rfl
    rw [moved] at distinct ⊢
    rw [← ih others distinct, List.map_cons, List.cons_append, readArguments,
      if_neg (optionText_ne_hyphens _), splitLong?_optionText sign]
    simp only
    rw [readLong_option first help absent]
    rfl

end Options

section Positionals

variable {form : Form}

/-- The values of single positionals, from the next place on, end up with those given. -/
theorem readArguments_singles {items : List (Parameter × String)} {progress settled : Progress}
    (settles : progress.settle = .ok settled)
    (placed : ∀ (i : Nat) item, items[i]? = some item →
      form.position? (progress.position + i) = some item.1)
    (single : ∀ item ∈ items, item.1.role = .positional ∧ item.1.kind.accepts item.2 = true)
    (distinct : (settled.given.names ++ items.map fun item => item.1.name).Nodup) :
    ∃ final, readArguments form true (items.map Prod.snd) progress = .ok final ∧
      final.given = settled.given ++ items.map fun item => (item.1.name, [item.2]) := by
  induction items generalizing progress settled with
  | nil => exact ⟨settled, settles, (List.append_nil _).symm⟩
  | cons item items ih =>
    obtain ⟨⟨role, accepted⟩, others⟩ := List.forall_mem_cons.1 single
    have here : form.position? progress.position = some item.1 := placed 0 item rfl
    let next : Progress := { settled with
      pending := some (item.1, [item.2]), waiting := false, position := settled.position + 1 }
    have read : readPositional form item.2 progress = .ok next := by
      rw [readPositional, here]
      simp only [role, settles]
      rfl
    have absent : item.1.name ∉ settled.given.names := not_mem_of_distinct distinct
    have nextSettles : next.settle = .ok { next with
        pending := none
        given := settled.given ++ [(item.1.name, [item.2])] } :=
      take_new (List.cons_ne_nil _ _) absent (List.forall_mem_singleton.2 accepted)
    have placedOn (i : Nat) (other : Parameter × String) (there : items[i]? = some other) :
        form.position? (next.position + i) = some other.1 := by
      have moved : next.position + i = progress.position + (i + 1) := by
        rw [← settle_position settles, Nat.add_comm i, ← Nat.add_assoc]
      rw [moved]
      exact placed (i + 1) other there
    have distinctOn : ((settled.given ++ [(item.1.name, [item.2])]).names ++
        items.map fun item => item.1.name).Nodup := by
      rw [names_append, List.append_assoc]
      exact distinct
    obtain ⟨final, reads, given⟩ := ih nextSettles placedOn others distinctOn
    refine ⟨final, ?_, ?_⟩
    · rw [List.map_cons, readArguments, read]
      exact reads
    · rw [given, List.append_assoc]
      rfl

def Form.Places (form : Form) (texts : List String) (last : Given) : Prop :=
  ∀ given : Given, (given ++ last).names.Nodup →
    ∃ final, readArguments form true texts { given } = .ok final ∧ final.given = given ++ last

theorem places_singles (items : List (Parameter × String))
    (placed : ∀ (i : Nat) item, items[i]? = some item → form.position? i = some item.1)
    (single : ∀ item ∈ items, item.1.role = .positional ∧ item.1.kind.accepts item.2 = true) :
    form.Places (items.map Prod.snd) (items.map fun item => (item.1.name, [item.2])) := by
  intro given distinct
  have settles : ({ given } : Progress).settle = .ok { given } := rfl
  refine readArguments_singles settles (fun i item there => ?_) single ?_
  · rw [Nat.zero_add]
    exact placed i item there
  · rw [names_append, Given.names, Given.names, List.map_map] at distinct
    exact distinct

theorem places_none : form.Places [] [] := places_singles [] nofun nofun

variable {text other : String}

theorem places_one (first : Parameter) (placed : form.position? 0 = some first)
    (role : first.role = .positional) (accepted : first.kind.accepts text = true) :
    form.Places [text] [(first.name, [text])] := by
  refine places_singles [(first, text)] (fun i item there => ?_)
    (List.forall_mem_singleton.2 ⟨role, accepted⟩)
  match i, there with
  | 0, rfl => exact placed

theorem places_two (first second : Parameter) (placed : form.position? 0 = some first)
    (role : first.role = .positional) (accepted : first.kind.accepts text = true)
    (placedNext : form.position? 1 = some second) (roleNext : second.role = .positional)
    (acceptedNext : second.kind.accepts other = true) :
    form.Places [text, other] [(first.name, [text]), (second.name, [other])] := by
  refine places_singles [(first, text), (second, other)] (fun i item there => ?_)
    (List.forall_mem_cons.2 ⟨⟨role, accepted⟩,
      List.forall_mem_singleton.2 ⟨roleNext, acceptedNext⟩⟩)
  match i, there with
  | 0, rfl => exact placed
  | 1, rfl => exact placedNext

theorem readArguments_several {parameter : Parameter} {given : Given} {values : List String}
    (placed : form.position? 0 = some parameter) (several : parameter.role = .positionals)
    (texts : List String) :
    readArguments form true texts { given, pending := some (parameter, values) } =
      ({ given, pending := some (parameter, values ++ texts) } : Progress).settle := by
  induction texts generalizing values with
  | nil =>
    rw [List.append_nil]
    rfl
  | cons text texts ih =>
    have read : readPositional form text { given, pending := some (parameter, values) } =
        .ok { given, pending := some (parameter, values ++ [text]) } := by
      rw [readPositional, placed]
      simp only [several]
      rfl
    have moved : values ++ text :: texts = values ++ [text] ++ texts :=
      (List.append_assoc values [text] texts).symm
    rw [moved, readArguments, read]
    exact ih

theorem places_several (parameter : Parameter) (placed : form.position? 0 = some parameter)
    (several : parameter.role = .positionals) {texts : List String} (nonempty : texts ≠ [])
    (accepted : ∀ text ∈ texts, parameter.kind.accepts text = true) :
    form.Places texts [(parameter.name, texts)] := by
  intro given distinct
  obtain ⟨text, texts, rfl⟩ := List.exists_cons_of_ne_nil nonempty
  have absent : parameter.name ∉ given.names := by
    rw [names_append] at distinct
    exact not_mem_of_distinct distinct
  refine ⟨{ given := given ++ [(parameter.name, text :: texts)] }, ?_, rfl⟩
  have read : readPositional form text { given } =
      .ok { given, pending := some (parameter, [text]) } := by
    rw [readPositional, placed]
    simp only [several]
    rfl
  rw [readArguments, read]
  change readArguments form true texts { given, pending := some (parameter, [text]) } = _
  rw [readArguments_several placed several]
  have taken : ({ given } : Progress).take parameter (text :: texts) =
      .ok { given := given ++ [(parameter.name, text :: texts)] } :=
    take_new nonempty absent accepted
  exact taken

end Positionals

section Reading

variable {form : Form} {options : List (String × String)} {texts : List String} {last : Given}

/-- A form is read from its options, two hyphens and its positionals. -/
theorem read_line (plain : form.Plain) (takes : ∀ option ∈ options, form.Takes option)
    (places : form.Places texts last) (distinct : (entries options ++ last).names.Nodup)
    (complete : ∀ parameter ∈ form.parameters, parameter.required = true →
      parameter.name ∈ (entries options ++ last).names) :
    form.read (options.map optionText ++ "--" :: texts) = .ok (entries options ++ last) := by
  have optionsDistinct : (Given.names ([] ++ entries options)).Nodup := by
    rw [names_append] at distinct
    exact (List.nodup_append.1 distinct).1
  obtain ⟨final, read, given⟩ := places (entries options) distinct
  have hyphens : readArguments form false ("--" :: texts) { given := entries options } =
      .ok final := by
    rw [readArguments, if_pos rfl]
    exact read
  have all : (form.parameters.all fun parameter =>
      !parameter.required || (final.given.values? parameter.name).isSome) = true := by
    refine List.all_eq_true.2 fun parameter member => ?_
    cases required : parameter.required with
    | false => rfl
    | true =>
      obtain ⟨⟨name, values⟩, there, same⟩ :=
        List.mem_map.1 (complete parameter member required)
      obtain rfl : name = parameter.name := same
      rw [given, values?_eq_some distinct there]
      rfl
  rw [Form.read, readArguments_options plain takes optionsDistinct, List.nil_append, hyphens]
  change (if _ then Except.ok final.given else _) = _
  rw [if_pos all, given]

theorem read_command {forms : List Form} {name : String}
    (found : forms.find? (fun form => form.command = name) = some form) (help : name ≠ "help")
    (hyphens : name ≠ "--") (rest : List String) :
    read forms (name :: rest) = (form.read rest).map fun given => (name, given) := by
  have same : form.command = name := by simpa using List.find?_some found
  unfold read
  split
  next none => cases none
  next only => exact absurd (List.cons.inj only).1 hyphens
  next another => exact absurd (List.cons.inj another).1 hyphens
  next other others _ _ list =>
    obtain ⟨rfl, rfl⟩ := List.cons.inj list
    rw [if_neg help, found, ← same]

end Reading

end UserDirectory.Line
