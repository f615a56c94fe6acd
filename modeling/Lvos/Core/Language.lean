import Mathlib.Data.List.Basic

set_option autoImplicit false

namespace Lvos.Core

inductive LanguageCodeError
  | empty
  | tooLong
  | invalidCharacter
  | invalidPrimarySubtag
  | invalidSubtag
deriving DecidableEq, Repr

def canonicalizePart (index : Nat) (part : List Char) : List Char :=
  if index = 0 then part.map Char.toLower
  else if part.length = 2 ∧ part.all Char.isAlpha then part.map Char.toUpper
  else part.map Char.toLower

def canonicalizeTag (value : List Char) : List Char :=
  ['-'].intercalate ((value.splitOn '-').mapIdx canonicalizePart)

def primaryAllowed (part : List Char) : Bool :=
  2 ≤ part.length && part.length ≤ 8 && part.all Char.isAlpha

def subtagAllowed (part : List Char) : Bool :=
  !part.isEmpty && part.length ≤ 8 && part.all Char.isAlphanum

/-- The checks and the canonical text of `LanguageCode::parse`. -/
def parseTag (value : String) : Except LanguageCodeError String :=
  if value.toList = [] then .error .empty
  else if 35 < value.utf8ByteSize then .error .tooLong
  else if !value.toList.all (fun character => character.toNat < 128) then .error .invalidCharacter
  else
    match value.toList.splitOn '-' with
    | [] => .error .empty
    | primary :: parts =>
        if !primaryAllowed primary then .error .invalidPrimarySubtag
        else if !parts.all subtagAllowed then .error .invalidSubtag
        else .ok (String.ofList (canonicalizeTag value.toList))

/-- A tag every check of `parse` lets through, as its parts. -/
def TagParts : List (List Char) → Prop
  | [] => False
  | primary :: parts => primaryAllowed primary ∧ parts.all subtagAllowed

theorem utf8ByteSize_of_ascii : ∀ (text : List Char), (∀ character ∈ text, character.toNat < 128) →
    (String.ofList text).utf8ByteSize = text.length
  | [], _ => rfl
  | character :: rest, ascii => by
      have single : character.utf8Size = 1 := by
        have small := ascii character List.mem_cons_self
        rw [Char.utf8Size_eq_one_iff]
        exact Nat.lt_succ_iff.mp small
      have joined : String.ofList (character :: rest) =
          String.singleton character ++ String.ofList rest := by
        apply String.toList_injective
        simp
      rw [joined, String.utf8ByteSize_append, String.utf8ByteSize_singleton, single,
        utf8ByteSize_of_ascii rest
          (fun other member => ascii other (List.mem_cons_of_mem character member)),
        List.length_cons, Nat.add_comm]

theorem ascii_of_alphanum {character : Char} (allowed : character.isAlphanum) :
    character.toNat < 128 := by
  delta Char.isAlphanum Char.isAlpha Char.isUpper Char.isLower Char.isDigit at allowed
  simp only [Bool.or_eq_true, Bool.and_eq_true, decide_eq_true_eq, UInt32.le_iff_toNat_le,
    ge_iff_le] at allowed
  change (((65 ≤ character.toNat ∧ character.toNat ≤ 90) ∨
    (97 ≤ character.toNat ∧ character.toNat ≤ 122)) ∨
    (48 ≤ character.toNat ∧ character.toNat ≤ 57)) at allowed
  omega

/-- What a change of case may do to a letter or digit. -/
structure KeepsClass (change : Char → Char) (character : Char) : Prop where
  alphanum : (change character).isAlphanum = true
  alpha : (change character).isAlpha = character.isAlpha
  again : change (change character) = change character
  ascii : (change character).toNat < 128
  hyphen : change character ≠ '-'

set_option maxRecDepth 8192 in
theorem toLower_table : ∀ number : Fin 128, (Char.ofNat number).isAlphanum →
    (Char.ofNat number).toLower.isAlphanum = true ∧
      (Char.ofNat number).toLower.isAlpha = (Char.ofNat number).isAlpha ∧
      (Char.ofNat number).toLower.toLower = (Char.ofNat number).toLower ∧
      (Char.ofNat number).toLower.toNat < 128 ∧ (Char.ofNat number).toLower ≠ '-' := by
  decide

set_option maxRecDepth 8192 in
theorem toUpper_table : ∀ number : Fin 128, (Char.ofNat number).isAlphanum →
    (Char.ofNat number).toUpper.isAlphanum = true ∧
      (Char.ofNat number).toUpper.isAlpha = (Char.ofNat number).isAlpha ∧
      (Char.ofNat number).toUpper.toUpper = (Char.ofNat number).toUpper ∧
      (Char.ofNat number).toUpper.toNat < 128 ∧ (Char.ofNat number).toUpper ≠ '-' := by
  decide

theorem toLower_keepsClass {character : Char} (allowed : character.isAlphanum) :
    KeepsClass Char.toLower character := by
  have row := toLower_table ⟨character.toNat, ascii_of_alphanum allowed⟩
  simp only [Char.ofNat_toNat] at row
  exact ⟨(row allowed).1, (row allowed).2.1, (row allowed).2.2.1, (row allowed).2.2.2.1,
    (row allowed).2.2.2.2⟩

theorem toUpper_keepsClass {character : Char} (allowed : character.isAlphanum) :
    KeepsClass Char.toUpper character := by
  have row := toUpper_table ⟨character.toNat, ascii_of_alphanum allowed⟩
  simp only [Char.ofNat_toNat] at row
  exact ⟨(row allowed).1, (row allowed).2.1, (row allowed).2.2.1, (row allowed).2.2.2.1,
    (row allowed).2.2.2.2⟩

/-- One of the two case changes, letter by letter. -/
theorem canonicalizePart_cases (index : Nat) (part : List Char) :
    ∃ change : Char → Char, canonicalizePart index part = part.map change ∧
      (∀ character : Char, character.isAlphanum → KeepsClass change character) ∧
      ∀ other : List Char, other.length = part.length →
        other.all Char.isAlpha = part.all Char.isAlpha →
        canonicalizePart index other = other.map change := by
  unfold canonicalizePart
  by_cases first : index = 0
  · exact ⟨Char.toLower, by rw [if_pos first], fun _ => toLower_keepsClass,
      fun _ _ _ => by rw [if_pos first]⟩
  · by_cases region : part.length = 2 ∧ part.all Char.isAlpha
    · refine ⟨Char.toUpper, by rw [if_neg first, if_pos region], fun _ => toUpper_keepsClass, ?_⟩
      intro other length letters
      rw [if_neg first, if_pos ⟨by omega, by rw [letters]; exact region.2⟩]
    · refine ⟨Char.toLower, by rw [if_neg first, if_neg region], fun _ => toLower_keepsClass, ?_⟩
      intro other length letters
      rw [if_neg first, if_neg]
      intro both
      exact region ⟨by omega, by rw [← letters]; exact both.2⟩

structure PartKept (index : Nat) (part : List Char) : Prop where
  length : (canonicalizePart index part).length = part.length
  alphanum : (canonicalizePart index part).all Char.isAlphanum = true
  alpha : (canonicalizePart index part).all Char.isAlpha = part.all Char.isAlpha
  again : canonicalizePart index (canonicalizePart index part) = canonicalizePart index part

theorem canonicalizePart_keeps (index : Nat) {part : List Char}
    (allowed : part.all Char.isAlphanum) : PartKept index part := by
  obtain ⟨change, equation, keeps, other⟩ := canonicalizePart_cases index part
  have each : ∀ character ∈ part, KeepsClass change character := fun character member =>
    keeps character (List.all_eq_true.mp allowed character member)
  have length : (canonicalizePart index part).length = part.length := by
    rw [equation, List.length_map]
  have alpha : (canonicalizePart index part).all Char.isAlpha = part.all Char.isAlpha := by
    rw [equation, List.all_map, Bool.eq_iff_iff, List.all_eq_true, List.all_eq_true]
    constructor
    · intro letters character member
      rw [← (each character member).alpha]
      exact letters character member
    · intro letters character member
      rw [Function.comp_apply, (each character member).alpha]
      exact letters character member
  refine ⟨length, ?_, alpha, ?_⟩
  · rw [equation, List.all_map, List.all_eq_true]
    intro character member
    exact (each character member).alphanum
  · rw [other _ length alpha, equation, List.map_map]
    apply List.map_congr_left
    intro character member
    exact (each character member).again

theorem mem_joined {character : Char} : ∀ {parts : List (List Char)},
    character ∈ ['-'].intercalate parts → character = '-' ∨ ∃ part ∈ parts, character ∈ part
  | [], member => by simp at member
  | [part], member => by
      rw [List.intercalate_singleton] at member
      exact Or.inr ⟨part, List.mem_singleton_self part, member⟩
  | first :: second :: rest, member => by
      rw [List.intercalate_cons_cons] at member
      simp only [List.mem_append, List.mem_singleton] at member
      rcases member with (inside | hyphen) | later
      · exact Or.inr ⟨first, List.mem_cons_self, inside⟩
      · exact Or.inl hyphen
      · rcases mem_joined later with hyphen | ⟨part, present, inside⟩
        · exact Or.inl hyphen
        · exact Or.inr ⟨part, List.mem_cons_of_mem first present, inside⟩

theorem length_joined : ∀ (parts : List (List Char)) (change : Nat → List Char → List Char),
    (∀ index, ∀ part ∈ parts, (change index part).length = part.length) →
    (['-'].intercalate (parts.mapIdx change)).length = (['-'].intercalate parts).length
  | [], _, _ => rfl
  | [part], change, same => by
      simpa using same 0 part (List.mem_singleton_self part)
  | first :: second :: rest, change, same => by
      have later := length_joined (second :: rest) (fun index => change (index + 1))
        (fun index part member => same (index + 1) part (List.mem_cons_of_mem first member))
      rw [List.mapIdx_cons] at later ⊢
      rw [List.mapIdx_cons, List.intercalate_cons_cons, List.intercalate_cons_cons]
      simp only [List.length_append, List.length_singleton] at later ⊢
      rw [later, same 0 first List.mem_cons_self]

theorem TagParts.alphanum {parts : List (List Char)} (shape : TagParts parts) :
    ∀ part ∈ parts, part.all Char.isAlphanum := by
  intro part member
  cases parts with
  | nil => exact absurd shape id
  | cons primary rest =>
      obtain ⟨first, others⟩ := shape
      rcases List.mem_cons.mp member with same | later
      · subst same
        simp only [primaryAllowed, Bool.and_eq_true, List.all_eq_true] at first ⊢
        intro character inside
        simp only [Char.isAlphanum, first.2 character inside, Bool.true_or]
      · have allowed := List.all_eq_true.mp others part later
        simp only [subtagAllowed, Bool.and_eq_true] at allowed
        exact allowed.2

/-- The parts of a canonical tag have the lengths and the letters of its source. -/
theorem TagParts.canonical {parts : List (List Char)} (shape : TagParts parts) :
    TagParts (parts.mapIdx canonicalizePart) := by
  have letters := shape.alphanum
  cases parts with
  | nil => exact absurd shape id
  | cons primary rest =>
      obtain ⟨first, others⟩ := shape
      rw [List.mapIdx_cons]
      constructor
      · have kept := canonicalizePart_keeps 0 (letters primary List.mem_cons_self)
        simp only [primaryAllowed, Bool.and_eq_true, kept.length, kept.alpha] at first ⊢
        exact first
      · rw [List.all_eq_true] at others ⊢
        intro part member
        obtain ⟨index, bound, same⟩ := List.mem_mapIdx.mp member
        have present : rest[index] ∈ rest := List.getElem_mem bound
        have kept := canonicalizePart_keeps (index + 1)
          (letters rest[index] (List.mem_cons_of_mem primary present))
        have allowed := others rest[index] present
        subst same
        simp only [subtagAllowed, Bool.and_eq_true, Bool.not_eq_true', decide_eq_true_eq,
          ← List.length_eq_zero_iff, List.isEmpty_eq_false_iff, ne_eq] at allowed ⊢
        rw [kept.length, kept.alphanum]
        exact ⟨allowed.1, rfl⟩

theorem parseTag_ok {value text : String} :
    parseTag value = .ok text ↔
      value.toList ≠ [] ∧ value.utf8ByteSize ≤ 35 ∧
        (∀ character ∈ value.toList, character.toNat < 128) ∧
        TagParts (value.toList.splitOn '-') ∧
        text = String.ofList (canonicalizeTag value.toList) := by
  unfold parseTag
  by_cases empty : value.toList = []
  · simp [empty]
  · by_cases long : 35 < value.utf8ByteSize
    · rw [if_neg empty, if_pos long]
      simp only [reduceCtorEq, false_iff]
      omega
    · by_cases ascii : value.toList.all (fun character => character.toNat < 128)
      · rw [if_neg empty, if_neg long, if_neg (by simp [ascii])]
        cases parts : value.toList.splitOn '-' with
        | nil => simp [TagParts]
        | cons primary rest =>
            have small : value.utf8ByteSize ≤ 35 := by omega
            have plain : ∀ character ∈ value.toList, character.toNat < 128 := by
              simpa [List.all_eq_true] using ascii
            cases start : primaryAllowed primary with
            | false => simp [TagParts, start]
            | true =>
                cases others : rest.all subtagAllowed with
                | false => simp [TagParts, start, others]
                | true =>
                    simp only [start, others, TagParts, Bool.not_true, Bool.false_eq_true,
                      ↓reduceIte, Except.ok.injEq, true_and, and_true]
                    constructor
                    · intro same
                      exact ⟨empty, small, plain, same.symm⟩
                    · intro conditions
                      exact conditions.2.2.2.symm
      · rw [if_neg empty, if_neg long, if_pos (by simpa using ascii)]
        simp only [reduceCtorEq, false_iff]
        intro conditions
        apply ascii
        rw [List.all_eq_true]
        intro character member
        simpa using conditions.2.2.1 character member

/-- A canonical tag parses to itself. -/
theorem parseTag_canonical {value text : String} (parsed : parseTag value = .ok text) :
    parseTag text = .ok text := by
  obtain ⟨present, short, ascii, shape, equation⟩ := parseTag_ok.mp parsed
  have parts : text.toList.splitOn '-' =
      (value.toList.splitOn '-').mapIdx canonicalizePart := by
    rw [equation, String.toList_ofList, canonicalizeTag, List.splitOn_intercalate]
    · intro part member inside
      obtain ⟨index, bound, same⟩ := List.mem_mapIdx.mp member
      have kept := canonicalizePart_keeps index
        (shape.alphanum _ (List.getElem_mem bound))
      have allowed := List.all_eq_true.mp kept.alphanum '-' (same ▸ inside)
      exact absurd allowed (by decide)
    · rw [Ne, List.mapIdx_eq_nil_iff]
      intro none
      rw [none] at shape
      exact shape
  have joined : text.toList = ['-'].intercalate (text.toList.splitOn '-') :=
    (List.intercalate_splitOn '-').symm
  have plain : ∀ character ∈ text.toList, character.toNat < 128 := by
    intro character member
    rw [joined, parts] at member
    rcases mem_joined member with hyphen | ⟨part, within, inside⟩
    · subst hyphen
      decide
    · exact ascii_of_alphanum (List.all_eq_true.mp (shape.canonical.alphanum part within)
        character inside)
  have length : text.toList.length = value.toList.length := by
    have source : ['-'].intercalate (value.toList.splitOn '-') = value.toList :=
      List.intercalate_splitOn '-'
    rw [joined, parts, length_joined _ _ (fun index part member =>
      (canonicalizePart_keeps index (shape.alphanum part member)).length), source]
  have size : text.utf8ByteSize = value.utf8ByteSize := by
    have target := utf8ByteSize_of_ascii text.toList plain
    have origin := utf8ByteSize_of_ascii value.toList ascii
    rw [String.ofList_toList] at target origin
    omega
  refine parseTag_ok.mpr ⟨?_, by omega, plain, parts ▸ shape.canonical, ?_⟩
  · intro empty
    rw [empty] at length
    exact present (List.length_eq_zero_iff.mp length.symm)
  · have again : canonicalizeTag text.toList = text.toList := by
      have twice : ((value.toList.splitOn '-').mapIdx canonicalizePart).mapIdx canonicalizePart =
          (value.toList.splitOn '-').mapIdx canonicalizePart := by
        rw [List.mapIdx_mapIdx, List.mapIdx_eq_mapIdx_iff]
        intro index bound
        exact (canonicalizePart_keeps index (shape.alphanum _ (List.getElem_mem bound))).again
      rw [canonicalizeTag, parts, twice, ← parts, ← joined]
    rw [again, String.ofList_toList]

/-- A validated protocol language code: its text is canonical. -/
structure LanguageCode where
  text : String
  canonical : parseTag text = .ok text
deriving DecidableEq

theorem english_canonical : parseTag "en" = .ok "en" := by decide

def LanguageCode.parse (value : String) : Except LanguageCodeError LanguageCode :=
  match parsed : parseTag value with
  | .error reason => .error reason
  | .ok text => .ok ⟨text, parseTag_canonical parsed⟩

theorem LanguageCode.parse_ok {value : String} {code : LanguageCode}
    (success : LanguageCode.parse value = .ok code) : parseTag value = .ok code.text := by
  unfold LanguageCode.parse at success
  split at success
  · cases success
  · rename_i text parsed
    cases success
    exact parsed

@[simp] theorem LanguageCode.parse_text (code : LanguageCode) :
    LanguageCode.parse code.text = .ok code := by
  unfold LanguageCode.parse
  split
  · rename_i reason failed
    rw [code.canonical] at failed
    cases failed
  · rename_i text parsed
    rw [code.canonical] at parsed
    cases parsed
    rfl

end Lvos.Core
