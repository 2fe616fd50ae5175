import UserDirectory.Password.Hasher
import UserDirectory.Proofs.Password.OutputLength
import UserDirectory.Proofs.Password.Spelling

/-!
Digests as they are stored: what is written for a digest spells it, whatever its cost, so it is
read back with its whole recipe, and a password is held against that recipe alone. A text that
spells no digest lets nobody in.
-/

namespace UserDirectory.Password

open Text

namespace Digest

section Storing

variable {digest : Digest}

def items (digest : Digest) : List Item :=
  [.memory digest.recipe.cost.memory, .passes digest.recipe.cost.passes,
    .lanes digest.recipe.cost.lanes] ++
    if digest.recipe.associated.isEmpty then [] else [.associated digest.recipe.associated]

def spelling (digest : Digest) : Spelling where
  variant := digest.recipe.variant
  version := some digest.recipe.version
  items := digest.items
  salt := digest.recipe.salt
  output := digest.output

/-- A digest whose parts have room in a text. -/
structure Storable (digest : Digest) : Prop where
  memory : digest.recipe.cost.memory < 0x100000000
  passes : digest.recipe.cost.passes < 0x100000000
  associated : digest.recipe.associated.length ≤ 32
  salt : 8 ≤ digest.recipe.salt.length ∧ digest.recipe.salt.length ≤ 48
  output : 10 ≤ digest.output.length ∧ digest.output.length ≤ 64
  size : digest.recipe.size = digest.output.length

theorem itemsText_items (digest : Digest) :
    Spelling.itemsText digest.items =
      costText digest.recipe.cost ++ associatedText digest.recipe.associated := by
  rw [Spelling.itemsText, items, costText, associatedText]
  split
  next none => simp [List.intercalate_cons_cons, Item.text, Item.name, Item.value]
  next some => simp [List.intercalate_cons_cons, Item.text, Item.name, Item.value]

theorem text_eq_spelling_text (digest : Digest) : digest.text = digest.spelling.text := by
  have given : digest.items.isEmpty = false := rfl
  simp [text, Spelling.text, Spelling.fields, spelling, Spelling.itemsField, given,
    itemsText_items, List.intercalate_cons_cons, Spelling.versionText]

theorem length_itemsText_items (storable : digest.Storable) :
    (Spelling.itemsText digest.items).length ≤ 127 := by
  have memory : (digits digest.recipe.cost.memory).length ≤ 10 :=
    length_digits_le (by decide) (Nat.lt_of_lt_of_le storable.memory (by decide))
  have passes : (digits digest.recipe.cost.passes).length ≤ 10 :=
    length_digits_le (by decide) (Nat.lt_of_lt_of_le storable.passes (by decide))
  have lanes : (digits digest.recipe.cost.lanes).length ≤ 8 :=
    length_digits_le (by decide)
      (Nat.lt_of_lt_of_le digest.recipe.cost.lanesBounded (by decide))
  have associated : (associatedText digest.recipe.associated).length ≤ 49 := by
    rw [associatedText]
    split
    next => decide
    next =>
      have fits := storable.associated
      rw [List.length_append, Base64.length_encode]
      change 6 + _ ≤ 49
      omega
  rw [itemsText_items, costText]
  simp only [List.length_append]
  change 2 + _ + 3 + _ + 3 + _ + _ ≤ 127
  omega

theorem fits_of_storable (storable : digest.Storable) : digest.spelling.Fits where
  items := by
    have cost : ∀ item ∈ [Item.memory digest.recipe.cost.memory,
        .passes digest.recipe.cost.passes, .lanes digest.recipe.cost.lanes], item.Fits := by
      simp only [List.forall_mem_cons]
      exact ⟨storable.memory, storable.passes,
        Nat.lt_of_lt_of_le digest.recipe.cost.lanesBounded (by decide), List.forall_mem_nil _⟩
    refine List.forall_mem_append.2 ⟨cost, ?_⟩
    split
    next => exact List.forall_mem_nil _
    next => exact List.forall_mem_singleton.2 storable.associated
  itemsText := length_itemsText_items storable
  salt := storable.salt
  output := storable.output

theorem parameters_items (digest : Digest) :
    Spelling.parameters digest.items =
      ⟨digest.recipe.cost.memory, digest.recipe.cost.passes, digest.recipe.cost.lanes,
        digest.recipe.associated⟩ := by
  rw [Spelling.parameters, items]
  split
  next none =>
    rw [List.isEmpty_iff.1 none]
    rfl
  next some => rfl

theorem tells_of_storable (storable : digest.Storable) : digest.spelling.Tells digest where
  variant := rfl
  version := rfl
  memory := (congrArg Parameters.memory (parameters_items digest)).symm
  passes := (congrArg Parameters.passes (parameters_items digest)).symm
  lanes := (congrArg Parameters.lanes (parameters_items digest)).symm
  associated := (congrArg Parameters.associated (parameters_items digest)).symm
  salt := rfl
  size := storable.size
  output := rfl

theorem written_text (storable : digest.Storable) : Written digest digest.text :=
  ⟨digest.spelling, fits_of_storable storable, text_eq_spelling_text digest,
    tells_of_storable storable⟩

end Storing

end Digest

/-- What the digest of a password is, part by part. -/
structure Digest.IsOf (digest : Digest) (memory passes lanes : Nat) (salt : Salt)
    (password : String) : Prop where
  variant : digest.recipe.variant = .hybrid
  version : digest.recipe.version = .v19
  memory : digest.recipe.cost.memory = memory
  passes : digest.recipe.cost.passes = passes
  lanes : digest.recipe.cost.lanes = lanes
  salt : digest.recipe.salt = salt.bytes
  associated : digest.recipe.associated = []
  size : digest.recipe.size = 32
  output : digest.output = Argon2.hash digest.recipe password.toUTF8.toList

theorem storable_digest {cost : Cost} (memory : cost.memory < 0x100000000)
    (passes : cost.passes < 0x100000000) (salt : Salt) (password : String) :
    (digest cost salt password).Storable where
  memory := memory
  passes := passes
  associated := Nat.zero_le 32
  salt := by
    change 8 ≤ salt.bytes.length ∧ salt.bytes.length ≤ 48
    rw [salt.length_eq]
    decide
  output := by
    have length : (digest cost salt password).output.length = 32 :=
      Argon2.length_hash (cost.recipe salt) password.toUTF8.toList
    rw [length]
    decide
  size := (Argon2.length_hash _ _).symm

theorem isOf_digest (cost : Cost) (salt : Salt) (password : String) :
    (digest cost salt password).IsOf cost.memory cost.passes cost.lanes salt password :=
  ⟨rfl, rfl, rfl, rfl, rfl, rfl, rfl, rfl, rfl⟩

/-- A password is accepted where its hash, by the recipe in the text, is the output in the text. -/
theorem verify_eq_true_iff {password stored : String} :
    verify password stored = true ↔
      ∃ digest, Digest.Written digest stored.toList ∧
        Argon2.hash digest.recipe password.toUTF8.toList = digest.output := by
  constructor
  · intro verified
    rw [verify] at verified
    split at verified
    next digest read =>
      exact ⟨digest, Digest.ofText?_eq_some_iff.1 read, of_decide_eq_true verified⟩
    next => nomatch verified
  · rintro ⟨digest, written, same⟩
    rw [verify, Digest.ofText?_eq_some_iff.2 written]
    exact decide_eq_true same

theorem verify_eq_false {stored : String}
    (malformed : ∀ digest, ¬ Digest.Written digest stored.toList) (password : String) :
    verify password stored = false := by
  rw [Bool.eq_false_iff]
  intro verified
  obtain ⟨digest, written, -⟩ := verify_eq_true_iff.1 verified
  exact malformed digest written

/-- Nothing of a hasher of its own enters into its checks. -/
theorem hasher_verify (cost : Cost) (salts : Nat → Salt) :
    (hasher cost salts).verify = verify := rfl

/-- Whatever its cost, a digest is stored as a text that is read as that digest and no other. Every
hasher accepts for it the passwords whose hash by the recipe in the text is the output in the text,
and so the password that it was made of. For a text that spells no digest no hasher accepts any. -/
theorem hasher_verifies (memory passes lanes : UInt32) {cost : Cost}
    (made : Cost.make memory.toNat passes.toNat lanes.toNat = .ok cost) (salts : Nat → Salt)
    (n : Nat) (password : String) :
    ∃ stored digest,
      (hasher cost salts).hash n password = .ok stored ∧
      digest.IsOf memory.toNat passes.toNat lanes.toNat (salts n) password ∧
      Digest.Written digest stored.toList ∧ Digest.ofText? stored.toList = some digest ∧
      ∀ otherCost otherSalts,
        (∀ candidate, (hasher otherCost otherSalts).verify candidate stored = true ↔
          Argon2.hash digest.recipe candidate.toUTF8.toList = digest.output) ∧
        (hasher otherCost otherSalts).verify password stored = true ∧
        ∀ text, (∀ other, ¬ Digest.Written other text.toList) →
          ∀ candidate, (hasher otherCost otherSalts).verify candidate text = false := by
  obtain ⟨sameMemory, samePasses, sameLanes⟩ := Cost.make_eq_ok_iff.1 made
  have storable : (digest cost (salts n) password).Storable :=
    storable_digest (sameMemory ▸ memory.toNat_lt) (samePasses ▸ passes.toNat_lt) _ _
  have parts := isOf_digest cost (salts n) password
  rw [sameMemory, samePasses, sameLanes] at parts
  have hashed : (hasher cost salts).hash n password =
      .ok (String.ofList (digest cost (salts n) password).text) := rfl
  -- Nothing below looks into the digest, only at its parts.
  generalize digest cost (salts n) password = made at storable parts hashed
  have written : Digest.Written made (String.ofList made.text).toList := by
    rw [String.toList_ofList]
    exact Digest.written_text storable
  have read := Digest.ofText?_eq_some_iff.2 written
  have accepted (candidate : String) : verify candidate (String.ofList made.text) = true ↔
      Argon2.hash made.recipe candidate.toUTF8.toList = made.output := by
    rw [verify, read]
    exact decide_eq_true_iff
  refine ⟨_, made, hashed, parts, written, read, fun otherCost otherSalts => ?_⟩
  rw [hasher_verify]
  exact ⟨accepted, (accepted password).2 parts.output.symm, fun _ => verify_eq_false⟩

/-- The greatest cost there is, a password with a separator in it, and texts that are no digests. -/
theorem hasher_verifies_greatest :
    let cost : Cost :=
      ⟨4294967295, 4294967295, 16777215, by decide, by decide, by decide, by decide⟩
    let salts := fun n => Salt.ofWords (UInt64.ofNat n) 0xffffffffffffffff
    Cost.make (4294967295 : UInt32).toNat (4294967295 : UInt32).toNat (16777215 : UInt32).toNat =
      .ok cost ∧
    ∃ stored digest,
      (hasher cost salts).hash 3 "pä$$wörd" = .ok stored ∧
      digest.IsOf 4294967295 4294967295 16777215 (salts 3) "pä$$wörd" ∧
      Digest.Written digest stored.toList ∧ Digest.ofText? stored.toList = some digest ∧
      (hasher Cost.usual salts).verify "pä$$wörd" stored = true ∧
      ∀ candidate, (hasher Cost.usual salts).verify candidate "pw1" = false := by
  intro cost salts
  have made : Cost.make (4294967295 : UInt32).toNat (4294967295 : UInt32).toNat
      (16777215 : UInt32).toNat = .ok cost := rfl
  obtain ⟨stored, digest, hashed, parts, written, read, verified⟩ :=
    hasher_verifies 4294967295 4294967295 16777215 made salts 3 "pä$$wörd"
  obtain ⟨-, own, others⟩ := verified Cost.usual salts
  have malformed : Digest.ofText? "pw1".toList = none := by decide
  refine ⟨made, stored, digest, hashed, parts, written, read, own, others "pw1" ?_⟩
  intro other spelled
  rw [← Digest.ofText?_eq_some_iff, malformed] at spelled
  nomatch spelled

end UserDirectory.Password
