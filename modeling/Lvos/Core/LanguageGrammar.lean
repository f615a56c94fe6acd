import Lvos.Core.Language
import Mathlib

set_option autoImplicit false

namespace Lvos.Core

/-! The language codes as a grammar, and the spellings of one code. -/

/-- Any number of subtags, each after its hyphen. -/
inductive Subtags : List Char → Prop
  | none : Subtags []
  | more {part rest : List Char} (length : 1 ≤ part.length ∧ part.length ≤ 8)
      (letters : ∀ character ∈ part, character.isAlphanum = true) (later : Subtags rest) :
      Subtags ('-' :: (part ++ rest))

/-- `primary(-subtag)*`, in at most 35 bytes of ASCII. -/
structure LanguageTag (value : String) : Prop where
  size : 1 ≤ value.utf8ByteSize ∧ value.utf8ByteSize ≤ 35
  ascii : ∀ character ∈ value.toList, character.toNat < 128
  form : ∃ primary subtags, value.toList = primary ++ subtags ∧
    (2 ≤ primary.length ∧ primary.length ≤ 8) ∧
    (∀ character ∈ primary, character.isAlpha = true) ∧ Subtags subtags

/-- `str::eq_ignore_ascii_case`. -/
def eqIgnoreAsciiCase (first second : String) : Bool :=
  first.toList.map Char.toLower = second.toList.map Char.toLower

/-- The parts after the first, each after its hyphen. -/
def hyphened (parts : List (List Char)) : List Char :=
  parts.flatMap (fun part => '-' :: part)

@[simp] theorem hyphened_nil : hyphened [] = [] := rfl

@[simp] theorem hyphened_cons (part : List Char) (rest : List (List Char)) :
    hyphened (part :: rest) = '-' :: (part ++ hyphened rest) := rfl

theorem joined_eq (primary : List Char) (parts : List (List Char)) :
    ['-'].intercalate (primary :: parts) = primary ++ hyphened parts := by
  induction parts generalizing primary with
  | nil => simp
  | cons part rest ih =>
      rw [List.intercalate_cons_cons, ih, hyphened_cons]
      simp

theorem subtags_iff {text : List Char} :
    Subtags text ↔ ∃ parts : List (List Char), text = hyphened parts ∧ parts.all subtagAllowed := by
  constructor
  · intro shape
    induction shape with
    | none => exact ⟨[], rfl, rfl⟩
    | @more part rest length letters later ih =>
        obtain ⟨parts, same, allowed⟩ := ih
        have present : part.isEmpty = false := by
          cases part with
          | nil => exact absurd length.1 (by decide)
          | cons => rfl
        have one : subtagAllowed part = true := by
          simp only [subtagAllowed, present, Bool.not_false, Bool.true_and, Bool.and_eq_true,
            decide_eq_true_eq, List.all_eq_true]
          exact ⟨length.2, letters⟩
        refine ⟨part :: parts, by rw [same, hyphened_cons], ?_⟩
        rw [List.all_cons, one, allowed, Bool.true_and]
  · rintro ⟨parts, rfl, allowed⟩
    induction parts with
    | nil => exact Subtags.none
    | cons part rest ih =>
        rw [List.all_cons, Bool.and_eq_true] at allowed
        have one := allowed.1
        simp only [subtagAllowed, Bool.and_eq_true, Bool.not_eq_true', decide_eq_true_eq,
          List.all_eq_true] at one
        have present : 1 ≤ part.length := by
          cases part with
          | nil => simp at one
          | cons => simp
        exact Subtags.more ⟨present, one.1.2⟩ one.2 (ih allowed.2)

theorem primaryAllowed_iff {part : List Char} :
    primaryAllowed part = true ↔ (2 ≤ part.length ∧ part.length ≤ 8) ∧
      ∀ character ∈ part, character.isAlpha = true := by
  simp only [primaryAllowed, Bool.and_eq_true, decide_eq_true_eq, List.all_eq_true]

theorem hyphen_not_mem {part : List Char} (letters : part.all Char.isAlphanum) :
    '-' ∉ part := by
  intro member
  exact absurd (List.all_eq_true.mp letters '-' member) (by decide)

/-- Allowed parts are what their join splits into again. -/
theorem TagParts.splitOn_joined {parts : List (List Char)} (shape : TagParts parts) :
    (['-'].intercalate parts).splitOn '-' = parts := by
  apply List.splitOn_intercalate
  · intro part member
    exact hyphen_not_mem (shape.alphanum part member)
  · intro none
    rw [none] at shape
    exact shape

theorem tagParts_iff {value : List Char} :
    TagParts (value.splitOn '-') ↔ ∃ primary subtags, value = primary ++ subtags ∧
      (2 ≤ primary.length ∧ primary.length ≤ 8) ∧
      (∀ character ∈ primary, character.isAlpha = true) ∧ Subtags subtags := by
  constructor
  · intro shape
    have joined : ['-'].intercalate (value.splitOn '-') = value := List.intercalate_splitOn '-'
    cases parts : value.splitOn '-' with
    | nil =>
        rw [parts] at shape
        exact absurd shape id
    | cons primary rest =>
        rw [parts] at shape joined
        obtain ⟨length, letters⟩ := primaryAllowed_iff.mp shape.1
        exact ⟨primary, hyphened rest, by rw [← joined, joined_eq], length, letters,
          subtags_iff.mpr ⟨rest, rfl, shape.2⟩⟩
  · rintro ⟨primary, subtags, rfl, length, letters, later⟩
    obtain ⟨parts, rfl, allowed⟩ := subtags_iff.mp later
    have shape : TagParts (primary :: parts) :=
      ⟨primaryAllowed_iff.mpr ⟨length, letters⟩, allowed⟩
    rw [← joined_eq, shape.splitOn_joined]
    exact shape

theorem size_pos_iff (value : String) : 1 ≤ value.utf8ByteSize ↔ value.toList ≠ [] := by
  rw [Nat.one_le_iff_ne_zero, Ne, String.utf8ByteSize_eq_zero_iff, Ne, String.toList_eq_nil_iff]

/-- The checks of `parse` accept the grammar. -/
theorem parseTag_accepts (value : String) :
    (∃ text, parseTag value = .ok text) ↔ LanguageTag value := by
  constructor
  · rintro ⟨text, parsed⟩
    obtain ⟨present, short, ascii, shape, -⟩ := parseTag_ok.mp parsed
    exact ⟨⟨(size_pos_iff value).mpr present, short⟩, ascii, tagParts_iff.mp shape⟩
  · intro tag
    exact ⟨_, parseTag_ok.mpr ⟨(size_pos_iff value).mp tag.size.1, tag.size.2, tag.ascii,
      tagParts_iff.mpr tag.form, rfl⟩⟩

theorem LanguageCode.parse_accepts (value : String) :
    (∃ code, LanguageCode.parse value = .ok code) ↔ LanguageTag value := by
  rw [← parseTag_accepts]
  constructor
  · rintro ⟨code, parsed⟩
    exact ⟨code.text, LanguageCode.parse_ok parsed⟩
  · rintro ⟨text, parsed⟩
    unfold LanguageCode.parse
    split
    · rename_i reason failed
      rw [parsed] at failed
      cases failed
    · exact ⟨_, rfl⟩

section Case

theorem lower_keeps {part : List Char} (letters : part.all Char.isAlphanum) :
    (part.map Char.toLower).all Char.isAlphanum = true ∧
      (part.map Char.toLower).all Char.isAlpha = part.all Char.isAlpha := by
  have kept := canonicalizePart_keeps 0 letters
  have lowered : canonicalizePart 0 part = part.map Char.toLower := if_pos rfl
  rw [← lowered]
  exact ⟨kept.alphanum, kept.alpha⟩

/-- The canonical case of a part is another spelling of it. -/
theorem lower_canonicalizePart (index : Nat) (part : List Char) :
    (canonicalizePart index part).map Char.toLower = part.map Char.toLower := by
  have lower : (part.map Char.toLower).map Char.toLower = part.map Char.toLower := by
    rw [List.map_map]
    exact List.map_congr_left (fun character _ => character.toLower_toLower_eq_toLower)
  have upper : (part.map Char.toUpper).map Char.toLower = part.map Char.toLower := by
    rw [List.map_map]
    exact List.map_congr_left (fun character _ => character.toLower_toUpper_eq_toLower)
  unfold canonicalizePart
  by_cases first : index = 0
  · rw [if_pos first]
    exact lower
  · by_cases region : part.length = 2 ∧ part.all Char.isAlpha
    · rw [if_neg first, if_pos region]
      exact upper
    · rw [if_neg first, if_neg region]
      exact lower

/-- The canonical case of a part is the same for every spelling of it. -/
theorem canonicalizePart_lower (index : Nat) {part : List Char}
    (letters : part.all Char.isAlphanum) :
    canonicalizePart index (part.map Char.toLower) = canonicalizePart index part := by
  have lower : (part.map Char.toLower).map Char.toLower = part.map Char.toLower := by
    rw [List.map_map]
    exact List.map_congr_left (fun character _ => character.toLower_toLower_eq_toLower)
  have upper : (part.map Char.toLower).map Char.toUpper = part.map Char.toUpper := by
    rw [List.map_map]
    exact List.map_congr_left (fun character _ => character.toUpper_toLower_eq_toUpper)
  unfold canonicalizePart
  rw [List.length_map, (lower_keeps letters).2, lower, upper]

theorem hyphened_lower (parts : List (List Char)) :
    (hyphened parts).map Char.toLower = hyphened (parts.map (List.map Char.toLower)) := by
  have hyphen : Char.toLower '-' = '-' := by decide
  induction parts with
  | nil => rfl
  | cons part rest ih =>
      simp only [hyphened_cons, List.map_cons, List.map_append, hyphen, ih]

theorem joined_lower (parts : List (List Char)) :
    (['-'].intercalate parts).map Char.toLower =
      ['-'].intercalate (parts.map (List.map Char.toLower)) := by
  cases parts with
  | nil => rfl
  | cons primary rest =>
      rw [List.map_cons, joined_eq, joined_eq, List.map_append, hyphened_lower]

theorem TagParts.lower {parts : List (List Char)} (shape : TagParts parts) :
    TagParts (parts.map (List.map Char.toLower)) := by
  have letters := shape.alphanum
  have kept := fun part member => lower_keeps (letters part member)
  cases parts with
  | nil => exact absurd shape id
  | cons primary rest =>
      obtain ⟨first, others⟩ := shape
      rw [List.map_cons]
      constructor
      · simp only [primaryAllowed, List.length_map, (kept primary List.mem_cons_self).2]
        exact first
      · rw [List.all_map, List.all_eq_true]
        intro part member
        have allowed := List.all_eq_true.mp others part member
        simp only [subtagAllowed, Function.comp_apply, List.isEmpty_map, List.length_map,
          (kept part (List.mem_cons_of_mem primary member)).1, Bool.and_true] at allowed ⊢
        rw [Bool.and_eq_true] at allowed
        exact allowed.1

/-- Two accepted texts have one canonical text if they differ in case alone. -/
theorem canonicalizeTag_eq_iff {first second : List Char}
    (shape : TagParts (first.splitOn '-')) (other : TagParts (second.splitOn '-')) :
    canonicalizeTag first = canonicalizeTag second ↔
      first.map Char.toLower = second.map Char.toLower := by
  have spelled : ∀ {value : List Char}, TagParts (value.splitOn '-') →
      (canonicalizeTag value).map Char.toLower = value.map Char.toLower ∧
      ∃ parts, parts = (value.map Char.toLower).splitOn '-' ∧
        canonicalizeTag value = ['-'].intercalate (parts.mapIdx canonicalizePart) := by
    intro value accepted
    have joined : ['-'].intercalate (value.splitOn '-') = value := List.intercalate_splitOn '-'
    have letters := accepted.alphanum
    constructor
    · have parts : ((value.splitOn '-').mapIdx canonicalizePart).map (List.map Char.toLower) =
          (value.splitOn '-').map (List.map Char.toLower) := by
        apply List.ext_getElem
        · simp
        · intro index before after
          simp only [List.getElem_map, List.getElem_mapIdx]
          exact lower_canonicalizePart index _
      rw [canonicalizeTag, joined_lower, parts, ← joined_lower, joined]
    · refine ⟨_, rfl, ?_⟩
      have split : (value.map Char.toLower).splitOn '-' =
          (value.splitOn '-').map (List.map Char.toLower) := by
        rw [← accepted.lower.splitOn_joined, ← joined_lower, joined]
      rw [split, canonicalizeTag]
      congr 1
      apply List.ext_getElem
      · simp
      · intro index before after
        simp only [List.getElem_map, List.getElem_mapIdx]
        exact (canonicalizePart_lower index (letters _ (List.getElem_mem _))).symm
  constructor
  · intro same
    rw [← (spelled shape).1, same, (spelled other).1]
  · intro same
    obtain ⟨parts, split, text⟩ := (spelled shape).2
    obtain ⟨others, cut, written⟩ := (spelled other).2
    rw [text, written, split, cut, same]

end Case

theorem LanguageCode.parse_eq_iff {first second : String} {code other : LanguageCode}
    (parsed : LanguageCode.parse first = .ok code)
    (again : LanguageCode.parse second = .ok other) :
    code = other ↔ eqIgnoreAsciiCase first second = true := by
  obtain ⟨-, -, -, shape, text⟩ := parseTag_ok.mp (LanguageCode.parse_ok parsed)
  obtain ⟨-, -, -, kind, written⟩ := parseTag_ok.mp (LanguageCode.parse_ok again)
  have texts : code = other ↔ code.text = other.text := by
    cases code
    cases other
    simp
  rw [texts, text, written, String.ofList_inj, canonicalizeTag_eq_iff shape kind,
    eqIgnoreAsciiCase, decide_eq_true_eq]

/-- What a language code is: the grammar accepts its spellings, its own text is one of them,
and two spellings are one code when they differ in the case of ASCII letters alone. -/
theorem language_codes :
    (∀ value, (∃ code, LanguageCode.parse value = .ok code) ↔ LanguageTag value) ∧
    (∀ value code, LanguageCode.parse value = .ok code →
      LanguageCode.parse code.text = .ok code) ∧
    (∀ first second code other, LanguageCode.parse first = .ok code →
      LanguageCode.parse second = .ok other →
      (code = other ↔ eqIgnoreAsciiCase first second = true)) :=
  ⟨LanguageCode.parse_accepts, fun _ code _ => code.parse_text,
    fun _ _ _ _ parsed again => LanguageCode.parse_eq_iff parsed again⟩

theorem language_codes_region : ∃ code other, LanguageCode.parse "zh-cn" = .ok code ∧
    LanguageCode.parse "ZH-CN" = .ok other ∧ code = other := by
  obtain ⟨accepts, -, equal⟩ := language_codes
  have tag : ∀ value ∈ ["zh-cn", "ZH-CN"], LanguageTag value := by
    intro value member
    apply (parseTag_accepts value).mp
    simp only [List.mem_cons, List.not_mem_nil, or_false] at member
    rcases member with same | same
    · exact ⟨"zh-CN", by rw [same]; rfl⟩
    · exact ⟨"zh-CN", by rw [same]; rfl⟩
  obtain ⟨code, parsed⟩ := (accepts "zh-cn").mpr (tag _ (by simp))
  obtain ⟨other, again⟩ := (accepts "ZH-CN").mpr (tag _ (by simp))
  exact ⟨code, other, parsed, again, (equal _ _ _ _ parsed again).mpr rfl⟩

end Lvos.Core
