import Lvos.Core.Content
import Mathlib.Data.List.Basic

set_option autoImplicit false

namespace Lvos.Core

/-! The bytes a Content key is the digest of, and what they tell apart. -/

/-- What `content_key` feeds to the digest. -/
def CanonicalContent.preimage (content : CanonicalContent) : List UInt8 :=
  Hex.utf8 (toString content.keyVersion).toList ++ 0 ::
    Hex.utf8 content.kind.protocolName.toList ++ 0 ::
    Hex.utf8 content.sourceLang.text.toList ++ 0 ::
    Hex.utf8 content.text.toList

theorem CanonicalContent.contentKey_eq [ContentTables] (content : CanonicalContent) :
    content.contentKey = sha256 content.preimage := rfl

/-- Text in ASCII without the byte that separates the fields. -/
def Unseparated (text : List Char) : Prop :=
  ∀ character ∈ text, 0 < character.toNat ∧ character.toNat < 128

theorem Unseparated.zero_not_mem {text : List Char} (plain : Unseparated text) :
    (0 : UInt8) ∉ Hex.utf8 text := by
  intro member
  obtain ⟨character, inside, byte⟩ := List.mem_flatMap.mp member
  obtain ⟨positive, small⟩ := plain character inside
  have single : String.utf8EncodeChar character = [UInt8.ofNat character.toNat] := by
    simp [String.utf8EncodeChar, Nat.lt_succ_iff.mp small]
  rw [single, List.mem_singleton] at byte
  have value := congrArg UInt8.toNat byte
  rw [UInt8.toNat_ofNat'] at value
  simp only [UInt8.toNat_zero] at value
  omega

theorem unseparated_digits (number : Nat) : Unseparated (toString number).toList := by
  intro character member
  rw [Nat.toString_eq_repr, Nat.toList_repr] at member
  have digit := Nat.isDigit_of_mem_toDigits (by decide) (by decide) member
  simp only [Char.isDigit, Bool.and_eq_true, decide_eq_true_eq, ge_iff_le,
    UInt32.le_iff_toNat_le] at digit
  change 48 ≤ character.toNat ∧ character.toNat ≤ 57 at digit
  omega

theorem unseparated_kind (kind : TextKind) : Unseparated kind.protocolName.toList := by
  have listed : kind.protocolName.toList.all (fun character =>
      0 < character.toNat && character.toNat < 128) = true := by
    cases kind <;> rfl
  intro character member
  simpa using List.all_eq_true.mp listed character member

theorem positive_of_alphanum {character : Char} (allowed : character.isAlphanum) :
    0 < character.toNat := by
  rw [Nat.pos_iff_ne_zero]
  intro zero
  have nul : character = Char.ofNat 0 := by
    rw [← zero, Char.ofNat_toNat]
  rw [nul] at allowed
  exact absurd allowed (by decide)

theorem unseparated_language (code : LanguageCode) : Unseparated code.text.toList := by
  obtain ⟨-, -, ascii, shape, -⟩ := parseTag_ok.mp code.canonical
  intro character member
  refine ⟨?_, ascii character member⟩
  have whole : ['-'].intercalate (code.text.toList.splitOn '-') = code.text.toList :=
    List.intercalate_splitOn '-'
  rw [← whole] at member
  rcases mem_joined member with hyphen | ⟨part, present, inside⟩
  · rw [hyphen]
    decide
  · exact positive_of_alphanum (List.all_eq_true.mp (shape.alphanum part present) character inside)

theorem digits_injective {first second : Nat} (same : toString first = toString second) :
    first = second := by
  have digits : Nat.toDigits 10 first = Nat.toDigits 10 second := by
    rw [← Nat.toList_repr, ← Nat.toList_repr, ← Nat.toString_eq_repr, ← Nat.toString_eq_repr, same]
  have value : Nat.ofDigitChars 10 (Nat.toDigits 10 first) 0 = second := by
    rw [digits, Nat.ofDigitChars_ten_toDigits]
  rwa [Nat.ofDigitChars_ten_toDigits] at value

theorem protocolName_injective {first second : TextKind}
    (same : first.protocolName = second.protocolName) : first = second := by
  cases first <;> cases second <;> first | rfl | exact absurd same (by decide)

theorem LanguageCode.text_injective {first second : LanguageCode}
    (same : first.text = second.text) : first = second := by
  cases first
  cases second
  cases same
  rfl

/-- A field before its separator is read off the bytes. -/
theorem field_eq {first second rest other : List UInt8} (plain : (0 : UInt8) ∉ first)
    (also : (0 : UInt8) ∉ second) (same : first ++ 0 :: rest = second ++ 0 :: other) :
    first = second ∧ rest = other := by
  induction first generalizing second with
  | nil =>
      cases second with
      | nil => exact ⟨rfl, List.tail_eq_of_cons_eq same⟩
      | cons byte later =>
          have zero : 0 = byte := List.head_eq_of_cons_eq same
          exact absurd (zero ▸ List.mem_cons_self) also
  | cons byte later ih =>
      cases second with
      | nil =>
          have zero : byte = 0 := List.head_eq_of_cons_eq same
          exact absurd (zero ▸ List.mem_cons_self) plain
      | cons head tail =>
          have equal : byte = head := List.head_eq_of_cons_eq same
          obtain ⟨fields, rests⟩ := ih (List.not_mem_of_not_mem_cons plain)
            (List.not_mem_of_not_mem_cons also) (List.tail_eq_of_cons_eq same)
          rw [equal, fields]
          exact ⟨rfl, rests⟩

/-- The bytes determine the fields they were made from. -/
theorem CanonicalContent.preimage_injective {first second : CanonicalContent}
    (same : first.preimage = second.preimage) : first = second := by
  unfold CanonicalContent.preimage at same
  simp only [List.append_assoc, List.cons_append] at same
  obtain ⟨versions, afterVersion⟩ := field_eq (unseparated_digits _).zero_not_mem
    (unseparated_digits _).zero_not_mem same
  obtain ⟨kinds, afterKind⟩ := field_eq (unseparated_kind _).zero_not_mem
    (unseparated_kind _).zero_not_mem afterVersion
  obtain ⟨languages, texts⟩ := field_eq (unseparated_language _).zero_not_mem
    (unseparated_language _).zero_not_mem afterKind
  have version := digits_injective (Hex.utf8_injective versions)
  have kind := protocolName_injective (Hex.utf8_injective kinds)
  have language := LanguageCode.text_injective (Hex.utf8_injective languages)
  have text := Hex.utf8_injective texts
  cases first
  cases second
  simp only at version kind language text
  subst version kind language text
  rfl

section Tables

variable [ContentTables]

theorem prepared_contentKey {rawText : String} {sourceLang : LanguageCode} {maxCharacters : Nat}
    {content : PreparedContent}
    (prepared : prepareContent rawText sourceLang maxCharacters = .ok content) :
    content.contentKey = sha256 content.canonical.preimage := by
  obtain ⟨-, -, -, same⟩ := prepareContent_ok.mp prepared
  rw [same]
  exact CanonicalContent.contentKey_eq _

/-- Two prepared contents have one key when their identities agree field by field, for a digest
that keeps the two byte strings apart. -/
theorem content_key_iff {rawText other : String} {sourceLang language : LanguageCode}
    {maxCharacters limit : Nat} {content second : PreparedContent}
    (prepared : prepareContent rawText sourceLang maxCharacters = .ok content)
    (again : prepareContent other language limit = .ok second)
    (injective : sha256 content.canonical.preimage = sha256 second.canonical.preimage →
      content.canonical.preimage = second.canonical.preimage) :
    content.contentKey = second.contentKey ↔
      content.keyVersion = second.keyVersion ∧ content.kind = second.kind ∧
      content.sourceLang.text = second.sourceLang.text ∧
      content.canonicalText = second.canonicalText := by
  rw [prepared_contentKey prepared, prepared_contentKey again]
  constructor
  · intro same
    have fields := CanonicalContent.preimage_injective (injective same)
    unfold PreparedContent.keyVersion PreparedContent.kind PreparedContent.sourceLang
      PreparedContent.canonicalText
    rw [fields]
    exact ⟨rfl, rfl, rfl, rfl⟩
  · rintro ⟨version, kind, language, text⟩
    unfold PreparedContent.keyVersion at version
    unfold PreparedContent.kind at kind
    unfold PreparedContent.sourceLang at language
    unfold PreparedContent.canonicalText at text
    unfold CanonicalContent.preimage
    rw [version, kind, language, text]

end Tables

/-- ASCII tables with the SHA-256 of the identity bytes of the word "gift". -/
@[reducible] def giftTables : ContentTables :=
  asciiTables (fun bytes =>
    if bytes = Hex.utf8 "1\x00word\x00en\x00gift".toList then Sample.giftKey
    else Sample.otherKey)

theorem content_key_gift : ∃ content second,
    @prepareContent giftTables "gift" ⟨"en", by decide⟩ 100 = .ok content ∧
    @prepareContent giftTables "Gift." ⟨"en", by decide⟩ 200 = .ok second ∧
    content.contentKey = second.contentKey := by
  let _ := giftTables
  have prepared : prepareContent "gift" ⟨"en", by decide⟩ 100 =
      .ok ⟨"gift", ⟨1, .word, ⟨"en", by decide⟩, "gift"⟩, _⟩ := rfl
  have again : prepareContent "Gift." ⟨"en", by decide⟩ 200 =
      .ok ⟨"Gift.", ⟨1, .word, ⟨"en", by decide⟩, "gift"⟩, _⟩ := rfl
  exact ⟨_, _, prepared, again, (content_key_iff prepared again (fun _ => rfl)).mpr
    ⟨rfl, rfl, rfl, rfl⟩⟩

end Lvos.Core
