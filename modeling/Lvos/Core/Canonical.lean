import Lvos.Core.Layout
import Mathlib

set_option autoImplicit false

namespace Lvos.Core

open Words (words strip Solid)

/-! Preparing a canonical text once more. -/

/-- U+037E, which every normal form replaces by a semicolon. -/
def greekQuestionMark : Char := '\u037e'

/-- The marks that are a terminal mark in a normal form. -/
def isEndMark (character : Char) : Bool :=
  isTerminal character || character = greekQuestionMark

def normalMark (character : Char) : Char :=
  if character = greekQuestionMark then ';' else character

theorem isTerminal_normalMark {character : Char} (mark : isEndMark character = true) :
    isTerminal (normalMark character) = true := by
  unfold normalMark
  by_cases greek : character = greekQuestionMark
  · rw [if_pos greek]
    decide
  · rw [if_neg greek]
    simpa [isEndMark, greek] using mark

theorem rdropWhile_append {drops : Char → Bool} {token marks : List Char}
    (kept : ∀ character ∈ token, drops character = false)
    (dropped : ∀ character ∈ marks, drops character = true) :
    (token ++ marks).rdropWhile drops = token := by
  induction marks using List.reverseRecOn with
  | nil =>
      rw [List.append_nil, List.rdropWhile_eq_self_iff]
      intro present drop
      rw [kept _ (List.getLast_mem present)] at drop
      cases drop
  | append_singleton start last ih =>
      rw [← List.append_assoc, List.rdropWhile_concat_pos]
      · exact ih (fun character member => dropped character (List.mem_append_left [last] member))
      · exact dropped last (by simp)

section Tables

variable [ContentTables]

def isLatinLetter (character : Char) : Bool :=
  isLatin character && isAlphabetic character

/-- What the Unicode standard says of the tables. -/
structure UnicodeFacts : Prop where
  blank : BlankTables
  control : ∀ character, isControl character = true → isWordCharacter character = false
  mark : ∀ character, isEndMark character = true → isWordCharacter character = false
  nfc_nfc : ∀ text, nfc (nfc text) = nfc text
  nfc_nil : ∀ text, nfc text = [] ↔ text = []
  nfc_space : ∀ first second, nfc (first ++ ' ' :: second) = nfc first ++ ' ' :: nfc second
  nfc_mark : ∀ text character, isEndMark character = true →
    nfc (text ++ [character]) = nfc text ++ [normalMark character]
  nfc_last : ∀ text character start last, isEndMark character = false →
    nfc (text ++ [character]) = start ++ [last] → isTerminal last = false
  nfc_plain : ∀ text,
    (∀ character ∈ text, isWhitespace character = false ∧ isControl character = false) →
    ∀ character ∈ nfc text, isWhitespace character = false ∧ isControl character = false
  nfc_word : ∀ text, (nfc text).all isWordCharacter = text.all isWordCharacter
  nfc_alphabetic : ∀ text, (nfc text).any isAlphabetic = text.any isAlphabetic
  nfc_latin : ∀ text, text.any isLatinLetter = true → (nfc text).any isLatinLetter = true
  fold_word : ∀ text, text.all isWordCharacter = true →
    (caseFold text).all isWordCharacter = true
  fold_latin : ∀ text, text.any isLatinLetter = true → (caseFold text).any isLatinLetter = true
  fold_again : ∀ text, nfc (caseFold (nfc (caseFold (nfc text)))) = nfc (caseFold (nfc text))

/-- A word and the marks after it, a Greek question mark among them. -/
def EndsInGreekQuestionMark (text : List Char) : Prop :=
  ∃ token marks, text = token ++ marks ∧ token.any isAlphabetic = true ∧
    token.all isWordCharacter = true ∧ (∀ character ∈ marks, isEndMark character = true) ∧
    greekQuestionMark ∈ marks

theorem classify_word_iff {value : List Char} :
    classify value = .word ↔ (trimTerminalWordPunctuation value).any isAlphabetic = true ∧
      (trimTerminalWordPunctuation value).all isWordCharacter = true := by
  unfold classify
  cases token : trimTerminalWordPunctuation value with
  | nil => simp
  | cons first rest => simp

theorem word_not {character : Char} (word : isWordCharacter character = true) {test : Char → Bool}
    (never : ∀ other, test other = true → isWordCharacter other = false) :
    test character = false := by
  by_contra passes
  rw [Bool.not_eq_false] at passes
  rw [never character passes] at word
  cases word

variable (facts : UnicodeFacts)

include facts

theorem UnicodeFacts.word_plain {text : List Char} (word : text.all isWordCharacter = true) :
    ∀ character ∈ text, isWhitespace character = false ∧ isControl character = false ∧
      isEndMark character = false := by
  intro character member
  have each := List.all_eq_true.mp word character member
  exact ⟨word_not each (fun other => whitespace_not_word facts.blank),
    word_not each facts.control, word_not each facts.mark⟩

theorem UnicodeFacts.token_of_marks {token marks : List Char}
    (word : token.all isWordCharacter = true)
    (all : ∀ character ∈ marks, isTerminal character = true) :
    trimTerminalWordPunctuation (token ++ marks) = token := by
  apply rdropWhile_append _ all
  intro character member
  have plain := (facts.word_plain word character member).2.2
  rw [isEndMark, Bool.or_eq_false_iff] at plain
  exact plain.1

/-- The terminal marks of a normal form are the end marks of its source. -/
theorem UnicodeFacts.trimTerminal_nfc (text : List Char) :
    trimTerminalWordPunctuation (nfc text) = nfc (text.rdropWhile isEndMark) := by
  induction text using List.reverseRecOn with
  | nil =>
      rw [List.rdropWhile_nil, (facts.nfc_nil []).mpr rfl]
      rfl
  | append_singleton start last ih =>
      cases mark : isEndMark last with
      | true =>
          rw [facts.nfc_mark start last mark, trimTerminal_eq,
            List.rdropWhile_concat_pos isTerminal _ _ (isTerminal_normalMark mark),
            List.rdropWhile_concat_pos isEndMark _ _ mark]
          exact ih
      | false =>
          have kept : (start ++ [last]).rdropWhile isEndMark = start ++ [last] :=
            List.rdropWhile_concat_neg isEndMark _ _ (by simp [mark])
          rw [kept, trimTerminal_eq]
          rcases List.eq_nil_or_concat (nfc (start ++ [last])) with empty | ⟨before, final, whole⟩
          · rw [empty]
            rfl
          · rw [List.concat_eq_append] at whole
            have stays := facts.nfc_last start last before final mark whole
            rw [whole]
            exact List.rdropWhile_concat_neg isTerminal _ _ (by simp [stays])

/-- When normalization turns a text into a word. -/
theorem UnicodeFacts.classify_nfc {text : List Char} (kind : classify text = .text) :
    classify (nfc text) = .word ↔ EndsInGreekQuestionMark text := by
  rw [classify_word_iff, facts.trimTerminal_nfc, facts.nfc_alphabetic, facts.nfc_word]
  constructor
  · rintro ⟨letters, word⟩
    have whole : text.rdropWhile isEndMark ++ text.rtakeWhile isEndMark = text :=
      List.rdropWhile_append_rtakeWhile
    have marks : ∀ character ∈ text.rtakeWhile isEndMark, isEndMark character = true :=
      fun character member => List.mem_rtakeWhile_imp member
    refine ⟨_, _, whole.symm, letters, word, marks, ?_⟩
    by_contra absent
    have terminal : ∀ character ∈ text.rtakeWhile isEndMark, isTerminal character = true := by
      intro character member
      have other : character ≠ greekQuestionMark := fun same => absent (same ▸ member)
      simpa [isEndMark, other] using marks character member
    have token := facts.token_of_marks word terminal
    rw [whole] at token
    have again : classify text = .word := by
      rw [classify_word_iff, token]
      exact ⟨letters, word⟩
    rw [kind] at again
    cases again
  · rintro ⟨token, marks, rfl, letters, word, all, -⟩
    have trimmed : (token ++ marks).rdropWhile isEndMark = token :=
      rdropWhile_append (fun character member => (facts.word_plain word character member).2.2) all
    rw [trimmed]
    exact ⟨letters, word⟩

/-- A word ends in no Greek question mark. -/
theorem UnicodeFacts.word_ends {text : List Char} (kind : classify text = .word) :
    ¬ EndsInGreekQuestionMark text := by
  rintro ⟨token, marks, whole, -, word, -, greek⟩
  have member : greekQuestionMark ∈ text := by
    rw [whole]
    exact List.mem_append_right token greek
  have inside := mem_trimTerminal member (by decide)
  have letter := List.all_eq_true.mp (classify_word_iff.mp kind).2 _ inside
  rw [facts.mark greekQuestionMark (by decide)] at letter
  cases letter

theorem UnicodeFacts.blank_ends {text : List Char} {space : Char} (member : space ∈ text)
    (blanks : isWhitespace space = true) : ¬ EndsInGreekQuestionMark text := by
  rintro ⟨token, marks, rfl, -, word, all, -⟩
  rcases List.mem_append.mp member with inside | mark
  · rw [(facts.word_plain word space inside).1] at blanks
    cases blanks
  · have ends := all space mark
    rw [isEndMark, whitespace_not_terminal blanks, Bool.false_or, decide_eq_true_eq] at ends
    rw [ends] at blanks
    revert blanks
    decide

omit facts

/-- A text without layout is prepared as it is. -/
theorem prepareContent_plain {text : List Char} (sourceLang : LanguageCode) {limit : Nat}
    (cleaned : cleanControlCharacters text = text) (trimmed : trim text = text)
    (latin : text.any isLatinLetter = true) (fits : text.length ≤ limit) :
    ∃ second, prepareContent (String.ofList text) sourceLang limit = .ok second ∧
      second.canonical = canonicalContent text sourceLang := by
  refine ⟨_, prepareContent_ok.mpr ⟨?_, ?_, ?_, rfl⟩, ?_⟩
  · rw [String.toList_ofList, cleaned, trimmed]
    intro empty
    rw [empty] at latin
    cases latin
  · rw [String.toList_ofList, cleaned, trimmed]
    exact fits
  · rw [String.toList_ofList, cleaned, trimmed]
    exact latin
  · rw [String.toList_ofList, cleaned, trimmed]

section Word

/-- The canonical text of a word is a word whose canonical text it is. -/
theorem UnicodeFacts.canonical_word (facts : UnicodeFacts) {source : List Char}
    (kind : classify source = .word) (latin : source.any isLatinLetter = true) :
    let text := canonicalize source .word
    cleanControlCharacters text = text ∧ trim text = text ∧ text.any isLatinLetter = true ∧
      classify text = .word ∧ canonicalize text .word = text := by
  obtain ⟨-, word⟩ := classify_word_iff.mp kind
  have solid : Solid isWhitespace (trimTerminalWordPunctuation source) :=
    fun character member => (facts.word_plain word character member).1
  have letters : (trimTerminalWordPunctuation source).any isLatinLetter = true := by
    obtain ⟨letter, member, found⟩ := List.any_eq_true.mp latin
    refine List.any_eq_true.mpr ⟨letter, mem_trimTerminal member ?_, found⟩
    by_contra terminal
    rw [Bool.not_eq_false] at terminal
    have other := facts.mark letter (by rw [isEndMark, terminal, Bool.true_or])
    simp only [isLatinLetter, Bool.and_eq_true] at found
    simp [isWordCharacter, found.2] at other
  have collapsed : ∀ text : List Char, text.all isWordCharacter = true → text ≠ [] →
      collapseWhitespace (trim text) = text := by
    intro text allowed present
    have plain : Solid isWhitespace text :=
      fun character member => (facts.word_plain allowed character member).1
    rw [trim_eq, Words.strip_solid plain, collapseWhitespace_eq, Words.words_solid plain present,
      List.intercalate_singleton]
  have nonempty : ∀ text : List Char, text.any isLatinLetter = true → text ≠ [] := by
    intro text found empty
    rw [empty] at found
    cases found
  have folded : canonicalize source .word =
      nfc (caseFold (nfc (trimTerminalWordPunctuation source))) := by
    rw [canonicalize, collapsed _ word (nonempty _ letters)]
  have allowed : (canonicalize source .word).all isWordCharacter = true := by
    rw [folded, facts.nfc_word]
    apply facts.fold_word
    rw [facts.nfc_word]
    exact word
  have found : (canonicalize source .word).any isLatinLetter = true := by
    rw [folded]
    exact facts.nfc_latin _ (facts.fold_latin _ (facts.nfc_latin _ letters))
  have plain := facts.word_plain allowed
  have token : trimTerminalWordPunctuation (canonicalize source .word) =
      canonicalize source .word := by
    have whole := @UnicodeFacts.token_of_marks _ facts _ [] allowed (by simp)
    rwa [List.append_nil] at whole
  refine ⟨?_, Words.strip_solid (fun character member => (plain character member).1), found, ?_, ?_⟩
  · apply List.filter_eq_self.mpr
    intro character member
    rw [(plain character member).2.1]
    rfl
  · rw [classify_word_iff, token]
    refine ⟨?_, allowed⟩
    obtain ⟨letter, member, both⟩ := List.any_eq_true.mp found
    rw [isLatinLetter, Bool.and_eq_true] at both
    exact List.any_eq_true.mpr ⟨letter, member, both.2⟩
  · rw [canonicalize, token, collapsed _ allowed (nonempty _ found), folded, facts.nfc_nfc]
    exact facts.fold_again _

end Word

section Text

theorem UnicodeFacts.nfc_joined (facts : UnicodeFacts) (parts : List (List Char)) :
    nfc ([' '].intercalate parts) = [' '].intercalate (parts.map nfc) := by
  induction parts with
  | nil => exact (facts.nfc_nil []).mpr rfl
  | cons part rest ih =>
      cases rest with
      | nil => simp
      | cons second rest =>
          simp only [List.map_cons] at ih
          simp only [List.map_cons, List.intercalate_cons_cons, List.append_assoc,
            List.singleton_append, facts.nfc_space, ih]

/-- The canonical text of a text is its own, when it is no word. -/
theorem UnicodeFacts.canonical_text (facts : UnicodeFacts) {source : List Char}
    (cleaned : cleanControlCharacters source = source) (latin : source.any isLatinLetter = true) :
    let text := canonicalize source .text
    cleanControlCharacters text = text ∧ trim text = text ∧ text.any isLatinLetter = true ∧
      canonicalize text .text = text := by
  have space : isWhitespace ' ' = true := by decide
  have solid := @Words.word_solid _ isWhitespace source
  have parts : canonicalize source .text =
      [' '].intercalate ((words isWhitespace source).map nfc) := by
    rw [canonicalize, collapseWhitespace_eq, facts.nfc_joined]
  have plain : ∀ word ∈ words isWhitespace source, ∀ character ∈ word,
      isWhitespace character = false ∧ isControl character = false := by
    intro word present character inside
    obtain ⟨member, visible⟩ := (Words.mem_words_iff source).mp ⟨word, present, inside⟩
    rw [← cleaned] at member
    have kept := (List.mem_filter.mp member).2
    rw [visible, Bool.or_false, Bool.not_eq_true'] at kept
    exact ⟨visible, kept⟩
  have normal : ∀ word ∈ (words isWhitespace source).map nfc,
      word ≠ [] ∧ ∀ character ∈ word, isWhitespace character = false ∧
        isControl character = false := by
    intro word present
    obtain ⟨part, member, rfl⟩ := List.mem_map.mp present
    refine ⟨?_, facts.nfc_plain part (plain part member)⟩
    rw [Ne, facts.nfc_nil]
    exact (solid part member).1
  have each : ∀ word ∈ (words isWhitespace source).map nfc,
      word ≠ [] ∧ Solid isWhitespace word := fun word present =>
    ⟨(normal word present).1, fun character inside => ((normal word present).2 character inside).1⟩
  have collapsed : collapseWhitespace (canonicalize source .text) = canonicalize source .text := by
    rw [parts, collapseWhitespace_eq, Words.words_joined space each]
  refine ⟨?_, ?_, ?_, ?_⟩
  · apply List.filter_eq_self.mpr
    intro character member
    rw [parts] at member
    rcases Words.mem_joined member with same | ⟨word, present, inside⟩
    · rw [same]
      decide
    · rw [((normal word present).2 character inside).2]
      rfl
  · rw [parts, trim_eq]
    exact Words.strip_joined each
  · apply facts.nfc_latin
    have fails : ∀ character, isWhitespace character = true → isLatinLetter character = false := by
      intro character blanks
      rw [isLatinLetter, (facts.blank character blanks).1, Bool.and_false]
    rw [← Words.any_words fails, collapseWhitespace_eq, Words.words_joined space solid,
      Words.any_words fails]
    exact latin
  · rw [canonicalize, collapsed, canonicalize, facts.nfc_nfc]

/-- When the canonical text of a text is a word. -/
theorem UnicodeFacts.classify_canonical (facts : UnicodeFacts) {value : List Char}
    (present : trim value ≠ []) (kind : classify (trim value) = .text) :
    classify (canonicalize (trim value) .text) = .word ↔ EndsInGreekQuestionMark (trim value) := by
  have solid := @Words.word_solid _ isWhitespace value
  cases parts : words isWhitespace value with
  | nil => exact absurd ((Words.strip_eq_nil_iff value).mpr parts) present
  | cons word rest =>
      have joined : canonicalize (trim value) .text = nfc ([' '].intercalate (word :: rest)) := by
        rw [canonicalize, collapseWhitespace_eq, trim_eq, Words.words_strip, parts]
      cases rest with
      | nil =>
          rw [joined, List.intercalate_singleton, trim_eq, (Words.strip_of_words_single parts).1]
          rw [trim_eq, (Words.strip_of_words_single parts).1] at kind
          exact facts.classify_nfc kind
      | cons second rest =>
          obtain ⟨space, member, blanks⟩ := Words.blank_of_words parts
          constructor
          · intro again
            have inside : ' ' ∈ canonicalize (trim value) .text := by
              rw [joined, List.intercalate_cons_cons, List.append_assoc, List.singleton_append,
                facts.nfc_space]
              simp
            rw [classify_of_whitespace facts.blank inside (by decide)] at again
            cases again
          · intro ends
            exact absurd ends (facts.blank_ends member blanks)

end Text

/-- The canonical text of a content is prepared to the same identity, unless it comes from a word
whose end marks include a Greek question mark. -/
theorem canonicalization_idempotent_iff (facts : UnicodeFacts) {rawText : String}
    {sourceLang : LanguageCode} {maxCharacters limit : Nat} {content : PreparedContent}
    (prepared : prepareContent rawText sourceLang maxCharacters = .ok content)
    (fits : content.canonicalText.length ≤ limit) :
    (∃ second, prepareContent content.canonicalText sourceLang limit = .ok second ∧
      second.kind = content.kind ∧ second.canonicalText = content.canonicalText ∧
      second.contentKey = content.contentKey) ↔
    ¬ EndsInGreekQuestionMark (trim (cleanControlCharacters rawText.toList)) := by
  obtain ⟨present, -, latin, equation⟩ := prepareContent_ok.mp prepared
  have cleaned : cleanControlCharacters (trim (cleanControlCharacters rawText.toList)) =
      trim (cleanControlCharacters rawText.toList) := by
    apply List.filter_eq_self.mpr
    intro character member
    exact (List.mem_filter.mp ((trim_sublist _).subset member)).2
  have identity : content.canonical =
      canonicalContent (trim (cleanControlCharacters rawText.toList)) sourceLang := by
    rw [equation]
  have spelled : content.canonicalText =
      String.ofList (canonicalize (trim (cleanControlCharacters rawText.toList))
        (classify (trim (cleanControlCharacters rawText.toList)))) := by
    rw [PreparedContent.canonicalText, identity]
    rfl
  rw [spelled, String.length_ofList] at fits
  cases kind : classify (trim (cleanControlCharacters rawText.toList)) with
  | word =>
      rw [kind] at fits spelled
      obtain ⟨plain, trimmed, letters, again, canonical⟩ := facts.canonical_word kind latin
      obtain ⟨second, repeated, form⟩ :=
        prepareContent_plain sourceLang plain trimmed letters fits
      rw [← spelled] at repeated
      have same : second.canonical = content.canonical := by
        rw [form, identity]
        simp only [canonicalContent, again, canonical, kind]
      exact ⟨fun _ => facts.word_ends kind,
        fun _ => ⟨second, repeated, same_identity repeated prepared same⟩⟩
  | text =>
      rw [kind] at fits spelled
      obtain ⟨plain, trimmed, letters, canonical⟩ := facts.canonical_text cleaned latin
      obtain ⟨second, repeated, form⟩ :=
        prepareContent_plain sourceLang plain trimmed letters fits
      rw [← spelled] at repeated
      rw [← facts.classify_canonical present kind]
      constructor
      · rintro ⟨other, prepared_again, same, -, -⟩ word
        rw [repeated] at prepared_again
        cases prepared_again
        rw [PreparedContent.kind, PreparedContent.kind, form, identity] at same
        simp only [canonicalContent, word, kind] at same
        cases same
      · intro stays
        have again : classify (canonicalize (trim (cleanControlCharacters rawText.toList)) .text) =
            .text := by
          cases other : classify
              (canonicalize (trim (cleanControlCharacters rawText.toList)) .text) with
          | text => rfl
          | word => exact absurd other stays
        have same : second.canonical = content.canonical := by
          rw [form, identity]
          simp only [canonicalContent, again, canonical, kind]
        exact ⟨second, repeated, same_identity repeated prepared same⟩

end Tables

section Greek

/-- ASCII tables with the Greek question mark. -/
@[reducible] def greekTables : ContentTables :=
  { giftTables with nfc := List.map normalMark }

theorem normalMark_other {character : Char} (other : character ≠ greekQuestionMark) :
    normalMark character = character := if_neg other

/-- A test that neither mark passes does not see the normal form. -/
theorem normalMark_test {test : Char → Bool} (greek : test greekQuestionMark = false)
    (semicolon : test ';' = false) (character : Char) :
    test (normalMark character) = test character := by
  by_cases same : character = greekQuestionMark
  · rw [same, greek]
    exact semicolon
  · rw [normalMark_other same]

theorem lower_ne_greek {character : Char} (other : character ≠ greekQuestionMark) :
    character.toLower ≠ greekQuestionMark := by
  intro same
  have letter : character.isUpper = false := by
    by_contra upper
    rw [Bool.not_eq_false] at upper
    have lower : character.toLower.isAlpha = true := by
      rw [Char.isAlpha_toLower_eq_isAlpha, Char.isAlpha, upper, Bool.true_or]
    rw [same] at lower
    revert lower
    decide
  rw [Char.toLower_eq_of_not_isUpper (by simp [letter])] at same
  exact other same

theorem normalMark_ne_greek (character : Char) : normalMark character ≠ greekQuestionMark := by
  unfold normalMark
  split
  · decide
  · assumption

theorem greek_word_iff {character : Char} :
    @isWordCharacter greekTables character = true ↔
      character.isAlphanum = true ∨ character ∈ ['-', '\'', '’'] := by
  have table : @isWordCharacter greekTables character =
      (character.isAlpha || character.isDigit || false || character = '-' || character = '\'' ||
        character = '’') := rfl
  rw [table, Char.isAlphanum]
  simp only [Bool.or_eq_true, decide_eq_true_eq, List.mem_cons, List.not_mem_nil, or_false,
    Bool.false_eq_true]
  tauto

theorem greek_symbol {test : Char → Bool} (joiners : ['-', '\'', '’'].all (fun joiner =>
      !test joiner) = true) (letters : ∀ number : Fin 128, test (Char.ofNat number) = true →
        (Char.ofNat number).isAlphanum = false) (character : Char)
    (found : test character = true) : @isWordCharacter greekTables character = false := by
  by_contra word
  rw [Bool.not_eq_false] at word
  rcases greek_word_iff.mp word with letter | joiner
  · have row := letters ⟨character.toNat, ascii_of_alphanum letter⟩
    simp only [Char.ofNat_toNat] at row
    rw [row found] at letter
    cases letter
  · have fails := List.all_eq_true.mp joiners character joiner
    rw [found] at fails
    cases fails

theorem greek_lower {character : Char} (word : @isWordCharacter greekTables character = true) :
    @isWordCharacter greekTables character.toLower = true := by
  rw [greek_word_iff] at word ⊢
  rcases word with letter | joiner
  · exact Or.inl (toLower_keepsClass letter).alphanum
  · refine Or.inr ?_
    have kept : ['-', '\'', '’'].all (fun joiner =>
        decide (joiner.toLower ∈ ['-', '\'', '’'])) = true := by decide
    exact of_decide_eq_true (List.all_eq_true.mp kept character joiner)

theorem all_map_eq {test : Char → Bool} {change : Char → Char}
    (same : ∀ character, test (change character) = test character) (text : List Char) :
    (text.map change).all test = text.all test := by
  rw [List.all_map]
  congr 1
  funext character
  exact same character

theorem any_map_eq {test : Char → Bool} {change : Char → Char}
    (same : ∀ character, test (change character) = test character) (text : List Char) :
    (text.map change).any test = text.any test := by
  rw [List.any_map]
  congr 1
  funext character
  exact same character

theorem greek_facts : @UnicodeFacts greekTables := by
  have control := @greek_symbol isControl (by decide) (by decide)
  have mark := @greek_symbol isEndMark (by decide) (by decide)
  have word : ∀ character, @isWordCharacter greekTables (normalMark character) =
      @isWordCharacter greekTables character :=
    normalMark_test (mark _ (by decide)) (mark _ (by decide))
  have alpha : ∀ character : Char, (normalMark character).isAlpha = character.isAlpha :=
    normalMark_test (by decide) (by decide)
  have latin : ∀ character, @isLatinLetter greekTables (normalMark character) =
      @isLatinLetter greekTables character := fun character => by
    change ((normalMark character).isAlpha && (normalMark character).isAlpha) =
      (character.isAlpha && character.isAlpha)
    rw [alpha]
  have lower : ∀ character : Char, @isLatinLetter greekTables character.toLower =
      @isLatinLetter greekTables character := fun character => by
    change (character.toLower.isAlpha && character.toLower.isAlpha) =
      (character.isAlpha && character.isAlpha)
    rw [Char.isAlpha_toLower_eq_isAlpha]
  apply @UnicodeFacts.mk greekTables
  · exact asciiTables_blank giftTables.sha256
  · exact control
  · exact mark
  · intro text
    change (text.map normalMark).map normalMark = text.map normalMark
    rw [List.map_map]
    exact List.map_congr_left (fun character _ =>
      normalMark_other (normalMark_ne_greek character))
  · intro text
    exact List.map_eq_nil_iff
  · intro first second
    change (first ++ ' ' :: second).map normalMark = _
    rw [List.map_append, List.map_cons]
    rfl
  · intro text character _
    change (text ++ [character]).map normalMark = _
    rw [List.map_append]
    rfl
  · intro text character start last other normal
    change (text ++ [character]).map normalMark = start ++ [last] at normal
    rw [List.map_append] at normal
    have same : normalMark character = last := by
      have ends := congrArg List.getLast? normal
      simpa using ends
    rw [isEndMark, Bool.or_eq_false_iff, decide_eq_false_iff_not] at other
    rw [← same, normalMark_other other.2]
    exact other.1
  · intro text plain character member
    obtain ⟨source, inside, rfl⟩ := List.mem_map.mp member
    rw [@normalMark_test isWhitespace (by decide) (by decide),
      @normalMark_test isControl (by decide) (by decide)]
    exact plain source inside
  · exact all_map_eq word
  · exact any_map_eq alpha
  · intro text found
    rw [← found]
    exact any_map_eq latin text
  · intro text allowed
    change (text.map Char.toLower).all _ = true
    rw [List.all_map, List.all_eq_true]
    intro character member
    exact greek_lower (List.all_eq_true.mp allowed character member)
  · intro text found
    rw [← found]
    exact any_map_eq lower text
  · intro text
    change ((((text.map normalMark).map Char.toLower).map normalMark).map Char.toLower).map
      normalMark = ((text.map normalMark).map Char.toLower).map normalMark
    simp only [List.map_map]
    apply List.map_congr_left
    intro character _
    have folded := lower_ne_greek (normalMark_ne_greek character)
    simp only [Function.comp_apply, normalMark_other folded, Char.toLower_toLower_eq_toLower]

theorem canonicalization_idempotent_gift : ∃ content second,
    @prepareContent greekTables "Gift." ⟨"en", by decide⟩ 100 = .ok content ∧
    @prepareContent greekTables content.canonicalText ⟨"en", by decide⟩ 100 = .ok second ∧
    second.contentKey = content.contentKey := by
  let _ := greekTables
  have prepared : prepareContent "Gift." ⟨"en", by decide⟩ 100 =
      .ok ⟨"Gift.", ⟨1, .word, ⟨"en", by decide⟩, "gift"⟩, _⟩ := rfl
  obtain ⟨second, again, -, -, key⟩ := (@canonicalization_idempotent_iff _ greek_facts _ _ _ 100 _
    prepared (by decide)).mpr (greek_facts.word_ends rfl)
  exact ⟨_, second, prepared, again, key⟩

/-- A greeting with a Greek question mark is a text, and its canonical text is a word. -/
theorem greek_question_mark_changes_kind : @UnicodeFacts greekTables ∧ ∃ content second,
    @prepareContent greekTables "hello\u037e" ⟨"en", by decide⟩ 100 = .ok content ∧
    @prepareContent greekTables content.canonicalText ⟨"en", by decide⟩ 100 = .ok second ∧
    content.kind = .text ∧ content.canonicalText = "hello;" ∧
    second.kind = .word ∧ second.canonicalText = "hello" := by
  let _ := greekTables
  have prepared : prepareContent "hello\u037e" ⟨"en", by decide⟩ 100 =
      .ok ⟨"hello\u037e", ⟨1, .text, ⟨"en", by decide⟩, "hello;"⟩, _⟩ := rfl
  have again : prepareContent "hello;" ⟨"en", by decide⟩ 100 =
      .ok ⟨"hello;", ⟨1, .word, ⟨"en", by decide⟩, "hello"⟩, _⟩ := rfl
  exact ⟨greek_facts, _, _, prepared, again, rfl, rfl, rfl, rfl⟩

end Greek

end Lvos.Core
