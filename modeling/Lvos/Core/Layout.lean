import Lvos.Core.ContentKeys
import Lvos.Lib.Words
import Mathlib.Logic.Relation

set_option autoImplicit false

namespace Lvos.Core

open Words (words strip Solid)

/-! Content preparation sees the words of a cleaned text, not its layout. -/

/-- One change of layout. -/
inductive LayoutStep : List Char → List Char → Prop
  | control (before after : List Char) (character : Char) (controls : isControl character = true)
      (stays : isWhitespace character = false) :
      LayoutStep (before ++ after) (before ++ character :: after)
  | run (before after : List Char) {spaces others : List Char} (some : spaces ≠ [])
      (more : others ≠ []) (blanks : ∀ character ∈ spaces, isWhitespace character = true)
      (also : ∀ character ∈ others, isWhitespace character = true) :
      LayoutStep (before ++ (spaces ++ after)) (before ++ (others ++ after))
  | leading (text : List Char) {spaces : List Char}
      (blanks : ∀ character ∈ spaces, isWhitespace character = true) :
      LayoutStep text (spaces ++ text)
  | trailing (text : List Char) {spaces : List Char}
      (blanks : ∀ character ∈ spaces, isWhitespace character = true) :
      LayoutStep text (text ++ spaces)

/-- Any number of changes of layout, in both directions. -/
def SameLayout (first second : List Char) : Prop :=
  Relation.EqvGen LayoutStep first second

theorem collapseWhitespace_eq (value : List Char) :
    collapseWhitespace value = [' '].intercalate (words isWhitespace value) := rfl

theorem trim_eq (value : List Char) : trim value = strip isWhitespace value := rfl

theorem clean_append (first second : List Char) :
    cleanControlCharacters (first ++ second) =
      cleanControlCharacters first ++ cleanControlCharacters second :=
  List.filter_append ..

theorem clean_blank {spaces : List Char}
    (blanks : ∀ character ∈ spaces, isWhitespace character = true) :
    cleanControlCharacters spaces = spaces := by
  apply List.filter_eq_self.mpr
  intro character member
  rw [blanks character member, Bool.or_true]

theorem clean_control {character : Char} (controls : isControl character = true)
    (stays : isWhitespace character = false) (after : List Char) :
    cleanControlCharacters (character :: after) = cleanControlCharacters after := by
  apply List.filter_cons_of_neg
  simp [controls, stays]

theorem LayoutStep.words_clean {first second : List Char} (step : LayoutStep first second) :
    words isWhitespace (cleanControlCharacters first) =
      words isWhitespace (cleanControlCharacters second) := by
  cases step with
  | control before after character controls stays =>
      rw [clean_append, clean_append, clean_control controls stays]
  | run before after some more blanks also =>
      rw [clean_append, clean_append, clean_append, clean_append, clean_blank blanks,
        clean_blank also, Words.words_run blanks some, Words.words_run also more]
  | leading text blanks =>
      rw [clean_append, clean_blank blanks, Words.words_leading blanks]
  | trailing text blanks =>
      rw [clean_append, clean_blank blanks, Words.words_trailing blanks]

theorem SameLayout.words_clean {first second : List Char} (same : SameLayout first second) :
    words isWhitespace (cleanControlCharacters first) =
      words isWhitespace (cleanControlCharacters second) := by
  induction same with
  | rel _ _ step => exact step.words_clean
  | refl _ => rfl
  | symm _ _ _ ih => exact ih.symm
  | trans _ _ _ _ _ earlier later => exact earlier.trans later

/-- The marks `trim_terminal_word_punctuation` takes off. -/
def terminalMarks : List Char := ['.', ',', '!', '?', ':', ';']

def isTerminal (character : Char) : Bool := character ∈ terminalMarks

theorem trimTerminal_eq (value : List Char) :
    trimTerminalWordPunctuation value = value.rdropWhile isTerminal := rfl

theorem mem_trimTerminal {character : Char} {value : List Char} (member : character ∈ value)
    (kept : isTerminal character = false) : character ∈ trimTerminalWordPunctuation value := by
  have whole : value.rdropWhile isTerminal ++ value.rtakeWhile isTerminal = value :=
    List.rdropWhile_append_rtakeWhile
  rw [← whole] at member
  rcases List.mem_append.mp member with front | back
  · exact front
  · rw [List.mem_rtakeWhile_imp back] at kept
    cases kept

theorem whitespace_not_terminal {character : Char} (space : isWhitespace character = true) :
    isTerminal character = false := by
  have marks : terminalMarks.all (fun mark => !isWhitespace mark) = true := by decide
  by_contra terminal
  rw [Bool.not_eq_false] at terminal
  have blank := List.all_eq_true.mp marks character (of_decide_eq_true terminal)
  rw [space] at blank
  cases blank

section Tables

variable [ContentTables]

/-- No white space is a letter, a number or a mark. -/
def BlankTables : Prop :=
  ∀ character, isWhitespace character = true →
    isAlphabetic character = false ∧ isNumeric character = false ∧
      isCombiningMark character = false

theorem whitespace_not_word (blank : BlankTables) {character : Char}
    (space : isWhitespace character = true) : isWordCharacter character = false := by
  obtain ⟨letter, number, mark⟩ := blank character space
  have joiners : ['-', '\'', '’'].all (fun joiner => !isWhitespace joiner) = true := by decide
  have other : ∀ joiner ∈ ['-', '\'', '’'], character ≠ joiner := by
    intro joiner member same
    have blank := List.all_eq_true.mp joiners joiner member
    rw [← same, space] at blank
    cases blank
  simp only [List.mem_cons, List.not_mem_nil, or_false, forall_eq_or_imp, forall_eq] at other
  simp [isWordCharacter, letter, number, mark, other]

/-- A text with white space in it is no word. -/
theorem classify_of_whitespace (blank : BlankTables) {value : List Char} {space : Char}
    (member : space ∈ value) (blanks : isWhitespace space = true) : classify value = .text := by
  have inside := mem_trimTerminal member (whitespace_not_terminal blanks)
  have fails : (trimTerminalWordPunctuation value).all isWordCharacter = false := by
    rw [Bool.eq_false_iff]
    intro allowed
    have word := List.all_eq_true.mp allowed space inside
    rw [whitespace_not_word blank blanks] at word
    cases word
  simp [classify, fails]

/-- The kind of a text, of its words. -/
def classifyWords : List (List Char) → TextKind
  | [word] => classify word
  | _ => .text

theorem classify_trim (blank : BlankTables) {value : List Char} (present : trim value ≠ []) :
    classify (trim value) = classifyWords (words isWhitespace value) := by
  cases parts : words isWhitespace value with
  | nil => exact absurd ((Words.strip_eq_nil_iff value).mpr parts) present
  | cons word rest =>
      cases rest with
      | nil =>
          rw [trim_eq, (Words.strip_of_words_single parts).1]
          rfl
      | cons second rest =>
          obtain ⟨space, member, blanks⟩ := Words.blank_of_words parts
          exact classify_of_whitespace blank member blanks

/-- The canonical text of a text, of its words. -/
def canonicalWords (parts : List (List Char)) : List Char :=
  canonicalize ([' '].intercalate parts) (classifyWords parts)

theorem canonicalize_trim (blank : BlankTables) {value : List Char} (present : trim value ≠ []) :
    canonicalize (trim value) (classify (trim value)) =
      canonicalWords (words isWhitespace value) := by
  have solid := @Words.word_solid _ isWhitespace value
  have space : isWhitespace ' ' = true := by decide
  rw [canonicalWords, ← classify_trim blank present]
  cases kind : classify (trim value) with
  | text =>
      simp only [canonicalize, collapseWhitespace_eq, trim_eq, Words.words_strip,
        Words.words_joined space solid]
  | word =>
      have whole : [' '].intercalate (words isWhitespace value) = trim value := by
        cases parts : words isWhitespace value with
        | nil => exact absurd ((Words.strip_eq_nil_iff value).mpr parts) present
        | cons word rest =>
            cases rest with
            | nil => rw [List.intercalate_singleton, trim_eq, (Words.strip_of_words_single parts).1]
            | cons second rest =>
                rw [classify_trim blank present, parts] at kind
                cases kind
      rw [whole]

theorem latin_words (blank : BlankTables) (value : List Char) :
    (trim value).any (fun character => isLatin character && isAlphabetic character) =
      (words isWhitespace value).any (fun word =>
        word.any (fun character => isLatin character && isAlphabetic character)) := by
  rw [← Words.words_strip, Words.any_words, trim_eq]
  intro character space
  rw [(blank character space).1, Bool.and_false]

/-- What preparation makes of the words of a cleaned text. -/
theorem prepareContent_words (blank : BlankTables) (rawText : String) (sourceLang : LanguageCode)
    (maxCharacters : Nat)
    (short : (trim (cleanControlCharacters rawText.toList)).length ≤ maxCharacters) :
    (prepareContent rawText sourceLang maxCharacters).map PreparedContent.canonical =
      let parts := words isWhitespace (cleanControlCharacters rawText.toList)
      if parts = [] then .error .empty
      else if !parts.any (fun word =>
        word.any (fun character => isLatin character && isAlphabetic character)) then
        .error .noLatinText
      else .ok ⟨contentKeyVersion, classifyWords parts, sourceLang,
        String.ofList (canonicalWords parts)⟩ := by
  unfold prepareContent
  simp only [← latin_words blank]
  by_cases empty : trim (cleanControlCharacters rawText.toList) = []
  · have none := (Words.strip_eq_nil_iff _).mp empty
    rw [if_pos empty, if_pos none]
    rfl
  · have some : words isWhitespace (cleanControlCharacters rawText.toList) ≠ [] :=
      fun none => empty ((Words.strip_eq_nil_iff _).mpr none)
    rw [if_neg empty, if_neg (Nat.not_lt.mpr short), if_neg some]
    by_cases latin : (trim (cleanControlCharacters rawText.toList)).any
        (fun character => isLatin character && isAlphabetic character) = true
    · rw [if_neg (by simp [latin]), if_neg (by simp [latin])]
      simp only [Except.map, canonicalContent, canonicalize_trim blank empty]
      rw [classify_trim blank empty]
    · rw [if_pos (by simpa using latin), if_pos (by simpa using latin)]
      rfl

/-- Contents with one canonical form have one identity. -/
theorem same_identity {rawText other : String} {sourceLang language : LanguageCode}
    {maxCharacters limit : Nat} {content second : PreparedContent}
    (prepared : prepareContent rawText sourceLang maxCharacters = .ok content)
    (again : prepareContent other language limit = .ok second)
    (same : content.canonical = second.canonical) :
    content.kind = second.kind ∧ content.canonicalText = second.canonicalText ∧
      content.contentKey = second.contentKey := by
  rw [prepared_contentKey prepared, prepared_contentKey again]
  unfold PreparedContent.kind PreparedContent.canonicalText
  rw [same]
  exact ⟨rfl, rfl, rfl⟩

/-- Texts that differ in layout are refused for one reason or have one identity, and a source
text is prepared to its own content. -/
theorem identity_ignores_layout (blank : BlankTables) :
    (∀ (rawText other : String) (sourceLang : LanguageCode) (maxCharacters : Nat),
      SameLayout rawText.toList other.toList →
      (trim (cleanControlCharacters rawText.toList)).length ≤ maxCharacters →
      (trim (cleanControlCharacters other.toList)).length ≤ maxCharacters →
      (∃ reason, prepareContent rawText sourceLang maxCharacters = .error reason ∧
        prepareContent other sourceLang maxCharacters = .error reason) ∨
      ∃ content second, prepareContent rawText sourceLang maxCharacters = .ok content ∧
        prepareContent other sourceLang maxCharacters = .ok second ∧
        content.kind = second.kind ∧ content.canonicalText = second.canonicalText ∧
        content.contentKey = second.contentKey) ∧
    (∀ (rawText : String) (sourceLang : LanguageCode) (maxCharacters : Nat)
      (content : PreparedContent),
      prepareContent rawText sourceLang maxCharacters = .ok content →
      prepareContent content.sourceText sourceLang maxCharacters = .ok content) := by
  constructor
  · intro rawText other sourceLang maxCharacters layout short fits
    have forms : (prepareContent rawText sourceLang maxCharacters).map PreparedContent.canonical =
        (prepareContent other sourceLang maxCharacters).map PreparedContent.canonical := by
      rw [prepareContent_words blank rawText sourceLang maxCharacters short,
        prepareContent_words blank other sourceLang maxCharacters fits, layout.words_clean]
    cases prepared : prepareContent rawText sourceLang maxCharacters with
    | error reason =>
        cases again : prepareContent other sourceLang maxCharacters with
        | error cause =>
            rw [prepared, again] at forms
            cases forms
            exact Or.inl ⟨reason, rfl, rfl⟩
        | ok second =>
            rw [prepared, again] at forms
            cases forms
    | ok content =>
        cases again : prepareContent other sourceLang maxCharacters with
        | error cause =>
            rw [prepared, again] at forms
            cases forms
        | ok second =>
            rw [prepared, again] at forms
            have same : content.canonical = second.canonical := Except.ok.inj forms
            exact Or.inr ⟨content, second, rfl, rfl, same_identity prepared again same⟩
  · intro rawText sourceLang maxCharacters content prepared
    obtain ⟨-, short, -, equation⟩ := prepareContent_ok.mp prepared
    apply prepareContent_sourceText prepared
    rw [equation, ← String.length_toList, String.toList_ofList]
    exact short

end Tables

theorem asciiTables_blank (digest : List UInt8 → ContentKey) :
    @BlankTables (asciiTables digest) := by
  intro character space
  have codes : ¬ (character.isAlphanum = true) := by
    intro letter
    have small := ascii_of_alphanum letter
    have row : ∀ number : Fin 128, isWhitespace (Char.ofNat number) = true →
        (Char.ofNat number).isAlphanum = false := by decide
    have plain := row ⟨character.toNat, small⟩
    simp only [Char.ofNat_toNat] at plain
    rw [plain space] at letter
    cases letter
  rw [Char.isAlphanum, Bool.or_eq_true, not_or, Bool.not_eq_true, Bool.not_eq_true] at codes
  exact ⟨codes.1, codes.2, rfl⟩

theorem identity_ignores_layout_tabs : ∃ content second,
    @prepareContent giftTables "gift word" ⟨"en", by decide⟩ 100 = .ok content ∧
    @prepareContent giftTables "gift\t\nword" ⟨"en", by decide⟩ 100 = .ok second ∧
    content.contentKey = second.contentKey := by
  let _ := giftTables
  have layout : SameLayout "gift word".toList "gift\t\nword".toList :=
    Relation.EqvGen.rel _ _ (@LayoutStep.run "gift".toList "word".toList [' '] ['\t', '\n']
      (by decide) (by decide) (List.all_eq_true.mp rfl) (List.all_eq_true.mp rfl))
  rcases (identity_ignores_layout (asciiTables_blank _)).1 "gift word" "gift\t\nword"
      ⟨"en", by decide⟩ 100 layout (by decide) (by decide) with
    ⟨reason, refused, -⟩ | ⟨content, second, prepared, again, -, -, key⟩
  · cases refused
  · exact ⟨content, second, prepared, again, key⟩

end Lvos.Core
