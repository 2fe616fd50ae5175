import Mathlib.Data.List.Basic
import UserDirectory.Password.Digest
import UserDirectory.Proofs.Except
import UserDirectory.Proofs.Text.Base64
import UserDirectory.Proofs.Text.Decimal
import UserDirectory.Proofs.Text.Fields

/-!
The texts that are read as digests, told field by field, and that they are the only ones: the name
of the variant, the version where it is given, the parameters where any are given, the salt and the
output. Bytes are in Base64 and numbers without leading zeros, so each field has one spelling.
-/

namespace UserDirectory.Password

theorem Cost.make_eq_ok_iff {memory passes lanes : Nat} {cost : Cost} :
    Cost.make memory passes lanes = .ok cost ↔
      cost.memory = memory ∧ cost.passes = passes ∧ cost.lanes = lanes := by
  constructor
  · intro made
    rw [Cost.make] at made
    split_ifs at made
    obtain rfl := Except.ok.inj made
    exact ⟨rfl, rfl, rfl⟩
  · rintro ⟨rfl, rfl, rfl⟩
    obtain ⟨memory, passes, lanes, lanesPositive, lanesBounded, passesPositive, enough⟩ := cost
    simp only
    rw [Cost.make, dif_neg (by omega), dif_neg (by omega), dif_neg (by omega), dif_neg (by omega)]

namespace Digest

open Text

inductive Item
  | memory (n : Nat)
  | passes (n : Nat)
  | lanes (n : Nat)
  | keyName (bytes : List UInt8)
  | associated (bytes : List UInt8)

namespace Item

def name : Item → String
  | memory _ => "m"
  | passes _ => "t"
  | lanes _ => "p"
  | keyName _ => "keyid"
  | associated _ => "data"

def value : Item → List Char
  | memory n | passes n | lanes n => digits n
  | keyName bytes | associated bytes => Base64.encode bytes

def text (item : Item) : List Char := item.name.toList ++ '=' :: item.value

def Fits : Item → Prop
  | memory n | passes n | lanes n => n < 0x100000000
  | keyName bytes => bytes.length ≤ 8
  | associated bytes => bytes.length ≤ 32

/-- The parameters with this one given. Nothing is done with the name of a key. -/
def set (parameters : Parameters) : Item → Parameters
  | memory n => { parameters with memory := n }
  | passes n => { parameters with passes := n }
  | lanes n => { parameters with lanes := n }
  | keyName _ => parameters
  | associated bytes => { parameters with associated := bytes }

end Item

/-- The fields of a digest. The version and the parameters may be left out. -/
structure Spelling where
  variant : Variant
  version : Option Version
  items : List Item
  salt : List UInt8
  output : List UInt8

namespace Spelling

def versionText (version : Version) : List Char := 'v' :: '=' :: digits version.number

def itemsText (items : List Item) : List Char := [','].intercalate (items.map Item.text)

def itemsField (items : List Item) : List (List Char) :=
  if items.isEmpty then [] else [itemsText items]

def fields (spelling : Spelling) : List (List Char) :=
  [] :: spelling.variant.name.toList :: (spelling.version.toList.map versionText ++
    (itemsField spelling.items ++
      [Base64.encode spelling.salt, Base64.encode spelling.output]))

def text (spelling : Spelling) : List Char := ['$'].intercalate spelling.fields

structure Fits (spelling : Spelling) : Prop where
  items : ∀ item ∈ spelling.items, item.Fits
  itemsText : (itemsText spelling.items).length ≤ 127
  salt : 8 ≤ spelling.salt.length ∧ spelling.salt.length ≤ 48
  output : 10 ≤ spelling.output.length ∧ spelling.output.length ≤ 64

def parameters (items : List Item) : Parameters := items.foldl Item.set {}

/-- Whether a digest is what the fields say. -/
structure Tells (spelling : Spelling) (digest : Digest) : Prop where
  variant : digest.recipe.variant = spelling.variant
  version : digest.recipe.version = spelling.version.getD .v19
  memory : digest.recipe.cost.memory = (parameters spelling.items).memory
  passes : digest.recipe.cost.passes = (parameters spelling.items).passes
  lanes : digest.recipe.cost.lanes = (parameters spelling.items).lanes
  associated : digest.recipe.associated = (parameters spelling.items).associated
  salt : digest.recipe.salt = spelling.salt
  size : digest.recipe.size = spelling.output.length
  output : digest.output = spelling.output

end Spelling

def Written (digest : Digest) (text : List Char) : Prop :=
  ∃ spelling : Spelling, spelling.Fits ∧ text = spelling.text ∧ spelling.Tells digest

section Values

theorem number?_eq_some_iff {text : List Char} {n : Nat} :
    number? text = some n ↔ n < 0x100000000 ∧ text = digits n := by
  constructor
  · intro read
    rw [number?] at read
    split_ifs at read with malformed long small
    obtain rfl := Option.some.inj read
    refine ⟨small, ?_⟩
    simp only [Bool.or_eq_true, List.isEmpty_iff, Bool.not_eq_true', not_or, Bool.not_eq_false,
      List.all_eq_true] at malformed
    simp only [Bool.or_eq_true, Bool.and_eq_true, decide_eq_true_eq, not_or, not_and] at long
    by_cases leading : text.head? = some '0'
    · match text, malformed.1 with
      | [c], _ =>
        obtain rfl := Option.some.inj leading
        exact (digits_of_lt (n := 0) (by decide)).symm
      | _ :: _ :: _, _ => exact absurd leading (long.2 (by simp))
    · exact (digits_ofDigits malformed.2 malformed.1 leading).1.symm
  · rintro ⟨small, rfl⟩
    have nonempty : (digits n).isEmpty = false := List.isEmpty_eq_false_iff.2 (digits_ne_nil n)
    have digital : (digits n).all Char.isDigit = true := List.all_eq_true.2 (digits_isDigit n)
    have short : (digits n).length ≤ 10 := length_digits_le (by decide) (by omega)
    have leading : 1 < (digits n).length → (digits n).head? ≠ some '0' := by
      intro longer
      apply head?_digits
      rcases Nat.eq_zero_or_pos n with rfl | positive
      · rw [digits_of_lt (by decide)] at longer
        exact absurd longer (by decide)
      · exact positive
    rw [number?, nonempty, digital, if_neg (by simp), if_neg, ofDigits_digits, if_pos small]
    simp only [Bool.or_eq_true, Bool.and_eq_true, decide_eq_true_eq, not_or, not_and]
    exact ⟨Nat.not_lt.2 short, leading⟩

theorem bind_number?_eq_some {text : List Char} {make : Nat → α} {result : α}
    (read : ((number? text).bind fun n => some (make n)) = some result) :
    ∃ n < 0x100000000, text = digits n ∧ make n = result := by
  obtain ⟨n, number, made⟩ := Option.bind_eq_some_iff.1 read
  obtain ⟨small, same⟩ := number?_eq_some_iff.1 number
  exact ⟨n, small, same, Option.some.inj made⟩

theorem version?_eq_some_iff {text : List Char} {version : Version} :
    version? text = some version ↔ text = digits version.number := by
  constructor
  · intro read
    rw [version?] at read
    split at read
    next found =>
      obtain rfl := Option.some.inj read
      exact (number?_eq_some_iff.1 found).2
    next found =>
      obtain rfl := Option.some.inj read
      exact (number?_eq_some_iff.1 found).2
    next => nomatch read
  · rintro rfl
    have small : version.number < 0x100000000 := by cases version <;> decide
    rw [version?, number?_eq_some_iff.2 ⟨small, rfl⟩]
    cases version <;> rfl

theorem filter_decode?_eq_some_iff {fits : List UInt8 → Bool} {text : List Char}
    {bytes : List UInt8} :
    (Base64.decode? text).filter fits = some bytes ↔
      text = Base64.encode bytes ∧ fits bytes = true := by
  rw [Option.filter_eq_some_iff, Base64.decode?_eq_some_iff]

theorem bytesUpTo?_eq_some_iff {most : Nat} {text : List Char} {bytes : List UInt8} :
    bytesUpTo? most text = some bytes ↔ text = Base64.encode bytes ∧ bytes.length ≤ most := by
  rw [bytesUpTo?, filter_decode?_eq_some_iff, decide_eq_true_iff]

/-- A salt is bounded by its characters above and by its bytes below. -/
theorem salt?_eq_some_iff {text : List Char} {bytes : List UInt8} :
    salt? text = some bytes ↔
      text = Base64.encode bytes ∧ 8 ≤ bytes.length ∧ bytes.length ≤ 48 := by
  rw [salt?]
  split
  next long =>
    refine iff_of_false (by simp) ?_
    rintro ⟨rfl, -, short⟩
    rw [Base64.length_encode] at long
    omega
  next fits =>
    rw [filter_decode?_eq_some_iff, decide_eq_true_iff]
    refine and_congr_right fun same => ?_
    rw [same, Base64.length_encode] at fits
    omega

theorem output?_eq_some_iff {text : List Char} {bytes : List UInt8} :
    output? text = some bytes ↔
      text = Base64.encode bytes ∧ 10 ≤ bytes.length ∧ bytes.length ≤ 64 := by
  rw [output?, filter_decode?_eq_some_iff, decide_eq_true_iff]

theorem variant?_eq_some_iff {name : List Char} {variant : Variant} :
    variant? name = some variant ↔ name = variant.name.toList := by
  constructor
  · intro found
    rw [variant?] at found
    exact (of_decide_eq_true (List.find?_some found :)).symm
  · rintro rfl
    cases variant <;> decide

end Values

section Parameters

def marks : List Char := ['$', ',', '=']

theorem not_mem_digits {mark : Char} (sign : mark ∈ marks) (n : Nat) : mark ∉ digits n := by
  have apart : ∀ mark ∈ marks, mark.isDigit = false := by
    simp only [marks, List.forall_mem_cons]
    exact ⟨rfl, rfl, rfl, List.forall_mem_nil _⟩
  intro member
  exact Bool.false_ne_true ((apart mark sign).symm.trans (digits_isDigit n mark member))

theorem Item.not_mem_name {mark : Char} (sign : mark ∈ marks) (item : Item) :
    mark ∉ item.name.toList := by
  have apart : (marks.all fun mark => !item.name.toList.contains mark) = true := by
    cases item <;> (rw [Item.name]; decide)
  simpa using List.all_eq_true.1 apart mark sign

theorem Item.not_mem_value {mark : Char} (sign : mark ∈ marks) (item : Item) :
    mark ∉ item.value := by
  cases item with
  | memory n => exact not_mem_digits sign n
  | passes n => exact not_mem_digits sign n
  | lanes n => exact not_mem_digits sign n
  | keyName bytes => exact Base64.not_mem_encode sign bytes
  | associated bytes => exact Base64.not_mem_encode sign bytes

theorem Item.not_mem_text {mark : Char} (sign : mark ∈ ['$', ',']) (item : Item) :
    mark ∉ item.text := by
  have both : ∀ mark ∈ ['$', ','], mark ∈ marks ∧ mark ≠ '=' := by
    simp only [List.forall_mem_cons]
    exact ⟨by decide, by decide, List.forall_mem_nil _⟩
  obtain ⟨sign, other⟩ := both mark sign
  rw [Item.text, List.mem_append, List.mem_cons]
  rintro (inName | rfl | inValue)
  · exact item.not_mem_name sign inName
  · exact other rfl
  · exact item.not_mem_value sign inValue

theorem read?_text {item : Item} (fits : item.Fits) (parameters : Parameters) :
    parameters.read? item.text = some (item.set parameters) := by
  rw [Parameters.read?, Item.text, bind_read (cut?_append (item.not_mem_name (by decide)) _)]
  simp only [String.ofList_toList]
  cases item with
  | memory n | passes n | lanes n =>
    change (number? (digits n)).bind _ = _
    rw [number?_eq_some_iff.2 ⟨fits, rfl⟩]
    rfl
  | keyName bytes =>
    change (bytesUpTo? 8 (Base64.encode bytes)).map _ = _
    rw [bytesUpTo?_eq_some_iff.2 ⟨rfl, fits⟩]
    rfl
  | associated bytes =>
    change (bytesUpTo? 32 (Base64.encode bytes)).bind _ = _
    rw [bytesUpTo?_eq_some_iff.2 ⟨rfl, fits⟩]
    rfl

theorem read?_eq_some_iff {parameters result : Parameters} {text : List Char} :
    parameters.read? text = some result ↔
      ∃ item : Item, item.Fits ∧ text = item.text ∧ item.set parameters = result := by
  constructor
  · intro read
    rw [Parameters.read?] at read
    obtain ⟨⟨front, value⟩, cut, found⟩ := Option.bind_eq_some_iff.1 read
    obtain ⟨-, rfl⟩ := cut?_eq_some_iff.1 cut
    have named {name : String} (same : String.ofList front = name) : front = name.toList := by
      rw [← same, String.toList_ofList]
    simp only at found
    split at found
    next letter =>
      obtain ⟨n, small, rfl, rfl⟩ := bind_number?_eq_some found
      exact ⟨.memory n, small, by rw [named letter]; rfl, rfl⟩
    next letter =>
      obtain ⟨n, small, rfl, rfl⟩ := bind_number?_eq_some found
      exact ⟨.passes n, small, by rw [named letter]; rfl, rfl⟩
    next letter =>
      obtain ⟨n, small, rfl, rfl⟩ := bind_number?_eq_some found
      exact ⟨.lanes n, small, by rw [named letter]; rfl, rfl⟩
    next word =>
      obtain ⟨bytes, decoded, made⟩ := Option.map_eq_some_iff.1 found
      obtain ⟨rfl, few⟩ := bytesUpTo?_eq_some_iff.1 decoded
      exact ⟨.keyName bytes, few, by rw [named word]; rfl, made⟩
    next word =>
      obtain ⟨bytes, decoded, made⟩ := Option.bind_eq_some_iff.1 found
      obtain ⟨rfl, few⟩ := bytesUpTo?_eq_some_iff.1 decoded
      obtain rfl := Option.some.inj made
      exact ⟨.associated bytes, few, by rw [named word]; rfl, rfl⟩
    next => nomatch found
  · rintro ⟨item, fits, rfl, rfl⟩
    exact read?_text fits parameters

/-- Items are read one after the other, each into what those before it have left. -/
theorem foldlM_read?_eq_some_iff {parameters result : Parameters} {texts : List (List Char)} :
    texts.foldlM Parameters.read? parameters = some result ↔
      ∃ items : List Item, (∀ item ∈ items, item.Fits) ∧ texts = items.map Item.text ∧
        items.foldl Item.set parameters = result := by
  induction texts generalizing parameters with
  | nil =>
    constructor
    · intro read
      obtain rfl := Option.some.inj read
      exact ⟨[], List.forall_mem_nil _, rfl, rfl⟩
    · rintro ⟨items, -, none, rfl⟩
      obtain rfl := List.map_eq_nil_iff.1 none.symm
      rfl
  | cons text texts ih =>
    rw [List.foldlM_cons]
    constructor
    · intro read
      obtain ⟨next, first, others⟩ := Option.bind_eq_some_iff.1 read
      obtain ⟨item, fits, rfl, rfl⟩ := read?_eq_some_iff.1 first
      obtain ⟨items, allFit, rfl, rfl⟩ := ih.1 others
      exact ⟨item :: items, List.forall_mem_cons.2 ⟨fits, allFit⟩, rfl, rfl⟩
    · rintro ⟨items, allFit, same, rfl⟩
      obtain ⟨item, items, rfl, rfl, rfl⟩ := List.map_eq_cons_iff.1 same.symm
      obtain ⟨fits, allFit⟩ := List.forall_mem_cons.1 allFit
      rw [bind_read (read?_text fits parameters)]
      exact ih.2 ⟨items, allFit, rfl, rfl⟩

end Parameters

section ItemsText

open Spelling (itemsText itemsField)

variable {items : List Item}

theorem itemsText_eq_cons (item : Item) (items : List Item) :
    ∃ rest, itemsText (item :: items) = item.text ++ rest :=
  exists_intercalate_cons ',' item.text (items.map Item.text)

theorem mem_itemsText (nonempty : items ≠ []) : '=' ∈ itemsText items := by
  obtain ⟨item, items, rfl⟩ := List.exists_cons_of_ne_nil nonempty
  obtain ⟨rest, same⟩ := itemsText_eq_cons item items
  rw [same, Item.text]
  simp

theorem fields_itemsText (nonempty : items ≠ []) :
    Text.fields ',' (itemsText items) = items.map Item.text := by
  refine fields_intercalate (fun none => nonempty (List.map_eq_nil_iff.1 none)) ?_
  exact List.forall_mem_map.2 fun item _ => item.not_mem_text (by decide)

theorem not_mem_itemsText (items : List Item) : '$' ∉ itemsText items :=
  not_mem_intercalate (by decide)
    (List.forall_mem_map.2 fun item _ => item.not_mem_text (by decide))

theorem itemsText_ne_version (nonempty : items ≠ []) (rest : List Char) :
    itemsText items ≠ 'v' :: '=' :: rest := by
  obtain ⟨item, items, rfl⟩ := List.exists_cons_of_ne_nil nonempty
  obtain ⟨more, same⟩ := itemsText_eq_cons item items
  rw [same]
  intro starts
  have first := congrArg List.head? starts
  cases item <;> exact absurd first (by simp [Item.text, Item.name])

theorem encode_ne_version (bytes : List UInt8) (rest : List Char) :
    Base64.encode bytes ≠ 'v' :: '=' :: rest := by
  intro starts
  have sign : '=' ∈ Base64.encode bytes := starts ▸ by simp
  exact Base64.not_mem_encode (by decide) bytes sign

end ItemsText

section Fields

variable {version : Version} {result : Parameters} {pieces rest : List (List Char)}

theorem readVersion_eq_some (read : readVersion pieces = some (version, rest)) :
    ∃ given : Option Version, version = given.getD .v19 ∧
      pieces = given.toList.map Spelling.versionText ++ rest := by
  unfold readVersion at read
  split at read
  next text others =>
    split at read
    next several =>
      obtain ⟨rfl, rfl⟩ := Prod.mk.inj (Option.some.inj read)
      exact ⟨none, rfl, rfl⟩
    next single =>
      obtain ⟨found, number, same⟩ := Option.map_eq_some_iff.1 read
      obtain ⟨rfl, rfl⟩ := Prod.mk.inj same
      obtain rfl := version?_eq_some_iff.1 number
      exact ⟨some found, rfl, rfl⟩
  next =>
    obtain ⟨rfl, rfl⟩ := Prod.mk.inj (Option.some.inj read)
    exact ⟨none, rfl, rfl⟩

theorem readParameters_eq_some (read : readParameters pieces = some (result, rest)) :
    ∃ items : List Item, (∀ item ∈ items, item.Fits) ∧ (Spelling.itemsText items).length ≤ 127 ∧
      result = Spelling.parameters items ∧ pieces = Spelling.itemsField items ++ rest := by
  unfold readParameters at read
  split at read
  next field others =>
    split at read
    next given =>
      split at read
      next => nomatch read
      next short =>
      obtain ⟨parameters, folded, same⟩ := Option.map_eq_some_iff.1 read
      obtain ⟨rfl, rfl⟩ := Prod.mk.inj same
      obtain ⟨items, fits, texts, rfl⟩ := foldlM_read?_eq_some_iff.1 folded
      obtain ⟨nonempty, -, spelled⟩ := fields_eq_iff.1 texts
      obtain rfl : field = Spelling.itemsText items := spelled
      have there : items.isEmpty = false :=
        List.isEmpty_eq_false_iff.2 fun none => nonempty (congrArg (List.map Item.text) none)
      refine ⟨items, fits, Nat.not_lt.1 short, rfl, ?_⟩
      rw [Spelling.itemsField, there]
      rfl
    next absent =>
      obtain ⟨rfl, rfl⟩ := Prod.mk.inj (Option.some.inj read)
      exact ⟨[], List.forall_mem_nil _, by decide, rfl, rfl⟩
  next =>
    obtain ⟨rfl, rfl⟩ := Prod.mk.inj (Option.some.inj read)
    exact ⟨[], List.forall_mem_nil _, by decide, rfl, rfl⟩

/-- A version that is given is read, and for one left out nothing else is taken. -/
theorem readVersion_append (given : Option Version)
    (other : ∀ text tail, rest ≠ ('v' :: '=' :: text) :: tail) :
    readVersion (given.toList.map Spelling.versionText ++ rest) =
      some (given.getD .v19, rest) := by
  cases given with
  | none =>
    change readVersion rest = some (.v19, rest)
    rw [readVersion.eq_2 _ other]
  | some version =>
    have single : ',' ∉ digits version.number := not_mem_digits (by decide) version.number
    change readVersion (('v' :: '=' :: digits version.number) :: rest) = some (version, rest)
    rw [readVersion, if_neg (mt List.contains_iff_mem.1 single), version?_eq_some_iff.2 rfl]
    rfl

theorem readParameters_append {items : List Item} (fits : ∀ item ∈ items, item.Fits)
    (short : (Spelling.itemsText items).length ≤ 127)
    (plain : ∀ field tail, rest = field :: tail → '=' ∉ field) (nonempty : rest ≠ []) :
    readParameters (Spelling.itemsField items ++ rest) =
      some (Spelling.parameters items, rest) := by
  rcases eq_or_ne items [] with rfl | given
  · obtain ⟨field, tail, rfl⟩ := List.exists_cons_of_ne_nil nonempty
    change readParameters (field :: tail) = some ({}, field :: tail)
    rw [readParameters, if_neg (mt List.contains_iff_mem.1 (plain field tail rfl))]
  · have there : items.isEmpty = false := List.isEmpty_eq_false_iff.2 given
    have folded : (items.map Item.text).foldlM Parameters.read? {} =
        some (Spelling.parameters items) :=
      foldlM_read?_eq_some_iff.2 ⟨items, fits, rfl, rfl⟩
    rw [Spelling.itemsField, there]
    change readParameters (Spelling.itemsText items :: rest) = _
    rw [readParameters, if_pos (List.contains_iff_mem.2 (mem_itemsText given)),
      if_neg (Nat.not_lt.2 short), fields_itemsText given, folded]
    rfl

end Fields

section Texts

variable {text : List Char} {digest : Digest}

theorem written_of_ofText? (read : ofText? text = some digest) : Written digest text := by
  rw [ofText?] at read
  split at read
  next name rest spelled =>
    obtain ⟨variant, named, read⟩ := Option.bind_eq_some_iff.1 read
    obtain ⟨⟨version, others⟩, versioned, read⟩ := Option.bind_eq_some_iff.1 read
    obtain ⟨⟨parameters, last⟩, parametric, read⟩ := Option.bind_eq_some_iff.1 read
    simp only at read
    split at read
    next salt output =>
      obtain ⟨cost, costed, read⟩ := Option.bind_eq_some_iff.1 read
      obtain ⟨saltBytes, salted, read⟩ := Option.bind_eq_some_iff.1 read
      obtain ⟨outputBytes, ended, read⟩ := Option.bind_eq_some_iff.1 read
      obtain rfl := Option.some.inj read
      obtain rfl := variant?_eq_some_iff.1 named
      obtain ⟨given, rfl, rfl⟩ := readVersion_eq_some versioned
      obtain ⟨items, fits, short, rfl, rfl⟩ := readParameters_eq_some parametric
      obtain ⟨rfl, saltFits⟩ := salt?_eq_some_iff.1 salted
      obtain ⟨rfl, outputFits⟩ := output?_eq_some_iff.1 ended
      obtain ⟨memory, passes, lanes⟩ := Cost.make_eq_ok_iff.1 (Except.toOption_eq_some_iff.1 costed)
      exact ⟨⟨variant, given, items, saltBytes, outputBytes⟩, ⟨fits, short, saltFits, outputFits⟩,
        (fields_eq_iff.1 spelled).2.2, ⟨rfl, rfl, memory, passes, lanes, rfl, rfl, rfl, rfl⟩⟩
    next => nomatch read
  next => nomatch read

theorem Spelling.not_mem_fields (spelling : Spelling) :
    ∀ field ∈ spelling.fields, '$' ∉ field := by
  have variant : '$' ∉ spelling.variant.name.toList := by cases spelling.variant <;> decide
  have version : ∀ field ∈ spelling.version.toList.map versionText, '$' ∉ field := by
    refine List.forall_mem_map.2 fun version _ => ?_
    rw [versionText, List.mem_cons, List.mem_cons, not_or, not_or]
    exact ⟨by decide, by decide, not_mem_digits (by decide) _⟩
  have items : ∀ field ∈ itemsField spelling.items, '$' ∉ field := by
    rw [itemsField]
    split
    next => exact List.forall_mem_nil _
    next => exact List.forall_mem_singleton.2 (not_mem_itemsText spelling.items)
  simp only [fields, List.forall_mem_cons, List.forall_mem_append]
  exact ⟨List.not_mem_nil, variant, version, items, Base64.not_mem_encode (by decide) _,
    Base64.not_mem_encode (by decide) _, List.forall_mem_nil _⟩

theorem Spelling.items_ne_version (spelling : Spelling) (text : List Char)
    (tail : List (List Char)) :
    itemsField spelling.items ++ [Base64.encode spelling.salt, Base64.encode spelling.output] ≠
      ('v' :: '=' :: text) :: tail := by
  rw [itemsField]
  split
  next => exact fun same => encode_ne_version _ _ (List.cons.inj same).1
  next given =>
    exact fun same => itemsText_ne_version (fun none => given (by rw [none]; rfl)) _
      (List.cons.inj same).1

theorem ofText?_text {spelling : Spelling} (fits : spelling.Fits) (tells : spelling.Tells digest) :
    ofText? spelling.text = some digest := by
  have pieces : Text.fields '$' spelling.text = spelling.fields :=
    fields_intercalate (List.cons_ne_nil _ _) spelling.not_mem_fields
  have plain : ∀ field tail,
      [Base64.encode spelling.salt, Base64.encode spelling.output] = field :: tail →
        '=' ∉ field := by
    rintro field tail ⟨⟩
    exact Base64.not_mem_encode (by decide) _
  have costed : (Cost.make (Spelling.parameters spelling.items).memory
      (Spelling.parameters spelling.items).passes
      (Spelling.parameters spelling.items).lanes).toOption = some digest.recipe.cost :=
    Except.toOption_eq_some_iff.2 (Cost.make_eq_ok_iff.2 ⟨tells.memory, tells.passes, tells.lanes⟩)
  rw [ofText?, pieces, Spelling.fields]
  simp only
  rw [bind_read (variant?_eq_some_iff.2 rfl),
    bind_read (readVersion_append spelling.version spelling.items_ne_version)]
  simp only
  rw [bind_read (readParameters_append fits.items fits.itemsText plain (List.cons_ne_nil _ _))]
  simp only
  rw [bind_read costed, bind_read (salt?_eq_some_iff.2 ⟨rfl, fits.salt⟩),
    bind_read (output?_eq_some_iff.2 ⟨rfl, fits.output⟩)]
  obtain ⟨⟨variant, version, cost, salt, associated, size⟩, output⟩ := digest
  obtain ⟨rfl, rfl, -, -, -, rfl, rfl, rfl, rfl⟩ := tells
  rfl

theorem ofText?_eq_some_iff : ofText? text = some digest ↔ Written digest text := by
  constructor
  · exact written_of_ofText?
  · rintro ⟨spelling, fits, rfl, tells⟩
    exact ofText?_text fits tells

end Texts

end Digest

end UserDirectory.Password
