import Mathlib.Data.List.TakeWhile
import UserDirectory.User.Rule

/-!
The grammar of email addresses. An address is a local part, an at sign, a domain, a dot and a
top-level domain. A domain may hold dots itself, so a text may be cut at several of them; one of the
cuts is as the grammar says exactly if the last is.
-/

namespace UserDirectory

namespace Email

def IsLetter (c : Char) : Prop := ('A' ≤ c ∧ c ≤ 'Z') ∨ ('a' ≤ c ∧ c ≤ 'z')

def IsDigit (c : Char) : Prop := '0' ≤ c ∧ c ≤ '9'

structure Parts where
  localPart : List Char
  domain : List Char
  top : List Char
  localPart_ne_nil : localPart ≠ []
  localPart_chars : ∀ c ∈ localPart, IsLetter c ∨ IsDigit c ∨ c ∈ ['.', '_', '%', '+', '-']
  domain_ne_nil : domain ≠ []
  domain_chars : ∀ c ∈ domain, IsLetter c ∨ IsDigit c ∨ c ∈ ['.', '-']
  two_le_top : 2 ≤ top.length
  top_chars : ∀ c ∈ top, IsLetter c

def Parts.text (parts : Parts) : List Char :=
  parts.localPart ++ '@' :: (parts.domain ++ '.' :: parts.top)

section Characters

variable {c : Char}

theorem isAlpha_iff : c.isAlpha = true ↔ IsLetter c := by
  have upper : c.isUpper = true ↔ 'A' ≤ c ∧ c ≤ 'Z' := decide_eq_true_iff
  have lower : c.isLower = true ↔ 'a' ≤ c ∧ c ≤ 'z' := by
    change (decide ('a' ≤ c) && decide (c ≤ 'z')) = true ↔ _
    rw [Bool.and_eq_true, decide_eq_true_iff, decide_eq_true_iff]
  calc c.isAlpha = true ↔ (c.isUpper || c.isLower) = true := Iff.rfl
    _ ↔ c.isUpper = true ∨ c.isLower = true := by rw [Bool.or_eq_true]
    _ ↔ IsLetter c := or_congr upper lower

theorem isDigit_iff : c.isDigit = true ↔ IsDigit c := by
  simp only [Char.isDigit, Bool.and_eq_true, decide_eq_true_iff]
  rfl

theorem isLocalChar_iff :
    isLocalChar c = true ↔ IsLetter c ∨ IsDigit c ∨ c ∈ ['.', '_', '%', '+', '-'] := by
  have signs : "._%+-".toList = ['.', '_', '%', '+', '-'] := by decide
  simp only [isLocalChar, Char.isAlphanum, Bool.or_eq_true, isAlpha_iff, isDigit_iff, signs,
    List.contains_iff_mem, or_assoc]

theorem isHostChar_iff : isHostChar c = true ↔ IsLetter c ∨ IsDigit c ∨ c ∈ ['.', '-'] := by
  have signs : ".-".toList = ['.', '-'] := by decide
  simp only [isHostChar, Char.isAlphanum, Bool.or_eq_true, isAlpha_iff, isDigit_iff, signs,
    List.contains_iff_mem, or_assoc]

end Characters

section Cuts

variable {p : Char → Bool} {text front rest : List Char} {mark : Char}

/-- A text is cut at the first character outside a class. -/
theorem takeWhile_upto (inside : ∀ c ∈ front, p c = true) (ends : p mark = false) :
    (front ++ mark :: rest).takeWhile p = front := by
  have stops : (mark :: rest).takeWhile p = [] :=
    List.takeWhile_cons_of_neg (by simp only [ends, Bool.false_eq_true, not_false_iff])
  rw [List.takeWhile_append_of_pos inside, stops, List.append_nil]

theorem dropWhile_upto (inside : ∀ c ∈ front, p c = true) (ends : p mark = false) :
    (front ++ mark :: rest).dropWhile p = mark :: rest := by
  rw [List.dropWhile_append_of_pos inside]
  exact List.dropWhile_cons_of_neg (by simp only [ends, Bool.false_eq_true, not_false_iff])

theorem cut_of_dropWhile (stopped : text.dropWhile p = mark :: rest) :
    text = text.takeWhile p ++ mark :: rest := by
  calc text = text.takeWhile p ++ text.dropWhile p := List.takeWhile_append_dropWhile.symm
    _ = text.takeWhile p ++ mark :: rest := by rw [stopped]

end Cuts

/-- The last part of a host has letters only, so it is what stands behind the last dot. -/
theorem isHost_iff {text : List Char} :
    isHost text = true ↔ ∃ domain top, text = domain ++ '.' :: top ∧ domain ≠ [] ∧
      (∀ c ∈ domain, isHostChar c = true) ∧ 2 ≤ top.length ∧ ∀ c ∈ top, c.isAlpha = true := by
  constructor
  · intro host
    simp only [isHost] at host
    split at host
    next labels stopped =>
      simp only [Bool.and_eq_true, decide_eq_true_iff, Bool.not_eq_true',
        List.isEmpty_eq_false_iff, List.all_eq_true] at host
      obtain ⟨⟨long, some_label⟩, chars⟩ := host
      refine ⟨labels.reverse, (text.reverse.takeWhile Char.isAlpha).reverse, ?_, ?_, ?_, ?_, ?_⟩
      · calc text = text.reverse.reverse := text.reverse_reverse.symm
          _ = (text.reverse.takeWhile Char.isAlpha ++ '.' :: labels).reverse :=
            congrArg List.reverse (cut_of_dropWhile stopped)
          _ = labels.reverse ++ '.' :: (text.reverse.takeWhile Char.isAlpha).reverse := by simp
      · exact fun none => some_label (List.reverse_eq_nil_iff.1 none)
      · exact fun c member => chars c (List.mem_reverse.1 member)
      · rwa [List.length_reverse]
      · exact fun c member => List.mem_takeWhile_imp (List.mem_reverse.1 member)
    next => cases host
  · rintro ⟨domain, top, rfl, some_label, chars, long, letters⟩
    have back : (domain ++ '.' :: top).reverse = top.reverse ++ '.' :: domain.reverse := by simp
    have lettersBack : ∀ c ∈ top.reverse, c.isAlpha = true :=
      fun c member => letters c (List.mem_reverse.1 member)
    have dot : Char.isAlpha '.' = false := by decide
    simp only [isHost, back, takeWhile_upto lettersBack dot, dropWhile_upto lettersBack dot]
    simpa using ⟨⟨long, some_label⟩, chars⟩

/-- No local character is an at sign, so the local part is what stands before the first. -/
theorem isAddress_iff {text : List Char} :
    isAddress text = true ↔ ∃ localPart host, text = localPart ++ '@' :: host ∧ localPart ≠ [] ∧
      (∀ c ∈ localPart, isLocalChar c = true) ∧ isHost host = true := by
  constructor
  · intro address
    simp only [isAddress] at address
    split at address
    next host stopped =>
      simp only [Bool.and_eq_true, Bool.not_eq_true', List.isEmpty_eq_false_iff] at address
      exact ⟨text.takeWhile isLocalChar, host, cut_of_dropWhile stopped, address.1,
        fun c member => List.mem_takeWhile_imp member, address.2⟩
    next => cases address
  · rintro ⟨localPart, host, rfl, some_char, chars, hosted⟩
    have atSign : isLocalChar '@' = false := by decide
    simp only [isAddress, takeWhile_upto chars atSign, dropWhile_upto chars atSign]
    simpa using ⟨some_char, hosted⟩

theorem isAddress_iff_parts {text : List Char} :
    isAddress text = true ↔ ∃ parts : Parts, text = parts.text := by
  rw [isAddress_iff]
  constructor
  · rintro ⟨localPart, host, rfl, some_char, localChars, hosted⟩
    obtain ⟨domain, top, rfl, some_label, chars, long, letters⟩ := isHost_iff.1 hosted
    exact ⟨{
      localPart, domain, top
      localPart_ne_nil := some_char
      localPart_chars := fun c member => isLocalChar_iff.1 (localChars c member)
      domain_ne_nil := some_label
      domain_chars := fun c member => isHostChar_iff.1 (chars c member)
      two_le_top := long
      top_chars := fun c member => isAlpha_iff.1 (letters c member) }, rfl⟩
  · rintro ⟨parts, rfl⟩
    refine ⟨parts.localPart, _, rfl, parts.localPart_ne_nil,
      fun c member => isLocalChar_iff.2 (parts.localPart_chars c member), isHost_iff.2 ?_⟩
    exact ⟨parts.domain, parts.top, rfl, parts.domain_ne_nil,
      fun c member => isHostChar_iff.2 (parts.domain_chars c member), parts.two_le_top,
      fun c member => isAlpha_iff.2 (parts.top_chars c member)⟩

theorem Parts.text_ne_append (parts : Parts) {c : Char} (other : ¬IsLetter c) (text : List Char) :
    parts.text ≠ text ++ [c] := by
  intro same
  have nonempty : parts.top ≠ [] := by
    apply List.ne_nil_of_length_pos
    have long := parts.two_le_top
    omega
  have last : c = parts.top.getLast nonempty := by
    have behind : parts.text.getLast? = some c := by rw [same, List.getLast?_concat]
    simp only [Parts.text, List.getLast?_append, List.getLast?_cons,
      List.getLast?_eq_some_getLast nonempty] at behind
    simpa using behind.symm
  apply other
  rw [last]
  exact parts.top_chars _ (List.getLast_mem nonempty)

end Email

def Email.Follows (value : String) : Prop := ∃ parts : Email.Parts, value.toList = parts.text

namespace Rule

variable {value : String}

/-- The three checks of an email, and what the first that decides comes to. -/
theorem email_cases (value : String) :
    (value = "" ∧ Rule.email value = .ok ()) ∨
    (254 < value.utf8ByteSize ∧ Rule.email value = .error .emailTooLong) ∨
    (value ≠ "" ∧ value.utf8ByteSize ≤ 254 ∧
      Rule.email value = if Email.isAddress value.toList then .ok ()
        else .error (.invalidEmail value)) := by
  by_cases empty : value = ""
  · subst empty
    exact .inl ⟨rfl, rfl⟩
  · have filled : value.isEmpty = false := Bool.eq_false_iff.2 (mt String.isEmpty_iff.1 empty)
    rw [Rule.email, filled, if_neg Bool.false_ne_true]
    by_cases long : 254 < value.utf8ByteSize
    · exact .inr (.inl ⟨long, if_pos long⟩)
    · exact .inr (.inr ⟨empty, Nat.not_lt.1 long, if_neg long⟩)

theorem email_eq_ok :
    Rule.email value = .ok () ↔
      value = "" ∨ (value.utf8ByteSize ≤ 254 ∧ Email.Follows value) := by
  rcases email_cases value with ⟨rfl, passed⟩ | ⟨long, refused⟩ | ⟨filled, short, judged⟩
  · exact iff_of_true passed (.inl rfl)
  · rw [refused]
    refine iff_of_false nofun ?_
    rintro (rfl | ⟨short, -⟩)
    · cases long
    · omega
  · rw [judged, Email.Follows, ← Email.isAddress_iff_parts]
    by_cases address : Email.isAddress value.toList = true <;> simp [address, filled, short]

theorem email_eq_tooLong :
    Rule.email value = .error .emailTooLong ↔ 254 < value.utf8ByteSize := by
  rcases email_cases value with ⟨rfl, passed⟩ | ⟨long, refused⟩ | ⟨filled, short, judged⟩
  · rw [passed]
    exact iff_of_false nofun (by decide)
  · exact iff_of_true refused long
  · rw [judged]
    refine iff_of_false ?_ (Nat.not_lt.2 short)
    split <;> nofun

theorem email_eq_invalid :
    Rule.email value = .error (.invalidEmail value) ↔
      value ≠ "" ∧ value.utf8ByteSize ≤ 254 ∧ ¬Email.Follows value := by
  rcases email_cases value with ⟨rfl, passed⟩ | ⟨long, refused⟩ | ⟨filled, short, judged⟩
  · rw [passed]
    exact iff_of_false nofun fun other => other.1 rfl
  · rw [refused]
    exact iff_of_false nofun fun other => absurd other.2.1 (Nat.not_le.2 long)
  · rw [judged, Email.Follows, ← Email.isAddress_iff_parts]
    by_cases address : Email.isAddress value.toList = true <;> simp [address, filled, short]

end Rule

/-- An email passes exactly if it is empty, or has at most 254 bytes and is put together by the
grammar; one of more bytes is too long, and any other is invalid. So nothing may stand behind an
address, not even the end of a line. -/
theorem Rule.email_grammar (value : String) :
    (Rule.email value = .ok () ↔
      value = "" ∨ (value.utf8ByteSize ≤ 254 ∧ Email.Follows value)) ∧
    (Rule.email value = .error .emailTooLong ↔ 254 < value.utf8ByteSize) ∧
    (Rule.email value = .error (.invalidEmail value) ↔
      value ≠ "" ∧ value.utf8ByteSize ≤ 254 ∧ ¬Email.Follows value) ∧
    Rule.email (value ++ "\n") ≠ .ok () := by
  refine ⟨email_eq_ok, email_eq_tooLong, email_eq_invalid, fun passed => ?_⟩
  have newline : ¬Email.IsLetter '\n' := by unfold Email.IsLetter; decide
  rcases email_eq_ok.1 passed with empty | ⟨-, parts, text⟩
  · have none := congrArg String.toList empty
    rw [String.toList_append] at none
    exact List.append_ne_nil_of_right_ne_nil _ (List.cons_ne_nil _ _) none
  · rw [String.toList_append] at text
    exact parts.text_ne_append newline value.toList text.symm

end UserDirectory
