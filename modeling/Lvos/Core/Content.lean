import Lvos.Core.Identity
import Lvos.Core.Language
import Mathlib.Data.List.DropRight

set_option autoImplicit false

namespace Lvos.Core

def contentKeyVersion : Nat := 1

/-- The Unicode tables, the normal forms and the digest come from outside the
repository; content preparation is written over them. -/
class ContentTables where
  isLatin : Char → Bool
  isAlphabetic : Char → Bool
  isNumeric : Char → Bool
  isCombiningMark : Char → Bool
  nfc : List Char → List Char
  caseFold : List Char → List Char
  sha256 : List UInt8 → ContentKey

export ContentTables (isLatin isAlphabetic isNumeric isCombiningMark nfc caseFold sha256)

/-- The tables on ASCII text, for evaluating a concrete run with a given digest. -/
@[reducible] def asciiTables (digest : List UInt8 → ContentKey) : ContentTables where
  isLatin := Char.isAlpha
  isAlphabetic := Char.isAlpha
  isNumeric := Char.isDigit
  isCombiningMark _ := false
  nfc := id
  caseFold := List.map Char.toLower
  sha256 := digest

namespace Sample

/-! The values that concrete runs share. -/

/-- SHA-256 of the identity bytes of the word "gift". -/
def giftKey : ContentKey :=
  ⟨[0x7d, 0xf3, 0x69, 0x09, 0xcc, 0x79, 0xf4, 0xff, 0xaf, 0x2a, 0x7a, 0xf5, 0x14, 0xaa, 0x99, 0x72,
    0x8e, 0xce, 0x1c, 0x0b, 0xbd, 0x83, 0x5c, 0x13, 0x1d, 0x82, 0x9f, 0xd5, 0xac, 0x74, 0xc3,
    0x46], rfl⟩

/-- The digest of the inputs that no run hashes. -/
def otherKey : ContentKey := ⟨List.replicate 32 0, rfl⟩

/-- A UUID of version 4 for each number. -/
def randomId (number : UInt8) : Uuid :=
  ⟨[1, 2, 3, 4, 5, 6, 0x40, 8, 0x80, 10, 11, 12, 13, 14, 15, number], rfl⟩

end Sample

inductive TextKind
  | word
  | text
deriving DecidableEq, Repr

def TextKind.protocolName : TextKind → String
  | .word => "word"
  | .text => "text"

inductive ValidationError
  | empty
  | tooLong (maxCharacters : Nat)
  | noLatinText
deriving DecidableEq, Repr

/-- `char::is_control`: the general category `Cc`. -/
def isControl (character : Char) : Bool :=
  character.toNat < 32 || (127 ≤ character.toNat && character.toNat < 160)

/-- `char::is_whitespace`: the property `White_Space`. -/
def isWhitespace (character : Char) : Bool :=
  let code := character.toNat
  (9 ≤ code && code ≤ 13) || code = 0x20 || code = 0x85 || code = 0xA0 || code = 0x1680 ||
    (0x2000 ≤ code && code ≤ 0x200A) || code = 0x2028 || code = 0x2029 || code = 0x202F ||
    code = 0x205F || code = 0x3000

/-- The fields a Content identity is made from. -/
structure CanonicalContent where
  keyVersion : Nat
  kind : TextKind
  sourceLang : LanguageCode
  text : String
deriving DecidableEq

/-- A validated and canonicalized source Content value. -/
structure PreparedContent where
  sourceText : String
  canonical : CanonicalContent
  contentKey : ContentKey
deriving DecidableEq

namespace PreparedContent

def kind (content : PreparedContent) : TextKind := content.canonical.kind

def sourceLang (content : PreparedContent) : LanguageCode := content.canonical.sourceLang

def canonicalText (content : PreparedContent) : String := content.canonical.text

def keyVersion (content : PreparedContent) : Nat := content.canonical.keyVersion

end PreparedContent

def cleanControlCharacters (value : List Char) : List Char :=
  value.filter (fun character => !isControl character || isWhitespace character)

def trim (value : List Char) : List Char :=
  (value.dropWhile isWhitespace).rdropWhile isWhitespace

def trimTerminalWordPunctuation (value : List Char) : List Char :=
  value.rdropWhile (fun character => character ∈ ['.', ',', '!', '?', ':', ';'])

def collapseWhitespace (value : List Char) : List Char :=
  [' '].intercalate ((value.splitOnP isWhitespace).filter (fun part => !part.isEmpty))

theorem trim_sublist (value : List Char) : (trim value).Sublist value :=
  (List.rdropWhile_prefix isWhitespace _).sublist.trans (List.dropWhile_sublist isWhitespace)

theorem dropWhile_of_prefix {drops : Char → Bool} {value start : List Char}
    (leading : start <+: value.dropWhile drops) : start.dropWhile drops = start := by
  cases start with
  | nil => rfl
  | cons first rest =>
      obtain ⟨after, same⟩ := leading
      have again : (value.dropWhile drops).dropWhile drops = value.dropWhile drops :=
        List.dropWhile_idempotent drops value
      rw [← same] at again
      cases chosen : drops first with
      | false => simp [chosen]
      | true =>
          exfalso
          have shorter : ((first :: rest ++ after).dropWhile drops).length ≤
              (rest ++ after).length := by
            rw [List.cons_append, List.dropWhile_cons_of_pos chosen]
            exact (List.dropWhile_sublist drops).length_le
          rw [again] at shorter
          simp only [List.length_append, List.length_cons] at shorter
          omega

theorem trim_trim (value : List Char) : trim (trim value) = trim value := by
  have front : (trim value).dropWhile isWhitespace = trim value :=
    dropWhile_of_prefix (List.rdropWhile_prefix isWhitespace _)
  calc trim (trim value) = ((trim value).dropWhile isWhitespace).rdropWhile isWhitespace := rfl
    _ = (trim value).rdropWhile isWhitespace := by rw [front]
    _ = trim value := List.rdropWhile_idempotent isWhitespace _

/-- A trimmed and cleaned text is its own source text. -/
theorem clean_trim_again (value : List Char) :
    trim (cleanControlCharacters (trim (cleanControlCharacters value))) =
      trim (cleanControlCharacters value) := by
  have cleaned : cleanControlCharacters (trim (cleanControlCharacters value)) =
      trim (cleanControlCharacters value) := by
    apply List.filter_eq_self.mpr
    intro character member
    have kept := (trim_sublist (cleanControlCharacters value)).subset member
    exact (List.mem_filter.mp kept).2
  rw [cleaned, trim_trim]

section Tables

variable [ContentTables]

def CanonicalContent.contentKey (content : CanonicalContent) : ContentKey :=
  sha256 (Hex.utf8 (toString content.keyVersion).toList ++ 0 ::
    Hex.utf8 content.kind.protocolName.toList ++ 0 ::
    Hex.utf8 content.sourceLang.text.toList ++ 0 ::
    Hex.utf8 content.text.toList)

def isWordCharacter (character : Char) : Bool :=
  isAlphabetic character || isNumeric character || isCombiningMark character ||
    character = '-' || character = '\'' || character = '’'

def classify (value : List Char) : TextKind :=
  let token := trimTerminalWordPunctuation value
  if !token.isEmpty && token.any isAlphabetic && token.all isWordCharacter then .word else .text

def canonicalize (value : List Char) : TextKind → List Char
  | .word => nfc (caseFold (nfc (collapseWhitespace (trim (trimTerminalWordPunctuation value)))))
  | .text => nfc (collapseWhitespace value)

def canonicalContent (sourceText : List Char) (sourceLang : LanguageCode) : CanonicalContent :=
  let kind := classify sourceText
  ⟨contentKeyVersion, kind, sourceLang, String.ofList (canonicalize sourceText kind)⟩

/-- Cleans, validates, classifies, canonicalizes and keys captured text. -/
def prepareContent (rawText : String) (sourceLang : LanguageCode) (maxCharacters : Nat) :
    Except ValidationError PreparedContent :=
  let sourceText := trim (cleanControlCharacters rawText.toList)
  if sourceText = [] then .error .empty
  else if maxCharacters < sourceText.length then .error (.tooLong maxCharacters)
  else if !sourceText.any (fun character => isLatin character && isAlphabetic character) then
    .error .noLatinText
  else
    let canonical := canonicalContent sourceText sourceLang
    .ok ⟨String.ofList sourceText, canonical, canonical.contentKey⟩

theorem prepareContent_ok {rawText : String} {sourceLang : LanguageCode} {maxCharacters : Nat}
    {content : PreparedContent} :
    prepareContent rawText sourceLang maxCharacters = .ok content ↔
      trim (cleanControlCharacters rawText.toList) ≠ [] ∧
        (trim (cleanControlCharacters rawText.toList)).length ≤ maxCharacters ∧
        (trim (cleanControlCharacters rawText.toList)).any
          (fun character => isLatin character && isAlphabetic character) ∧
        content = ⟨String.ofList (trim (cleanControlCharacters rawText.toList)),
          canonicalContent (trim (cleanControlCharacters rawText.toList)) sourceLang,
          (canonicalContent (trim (cleanControlCharacters rawText.toList))
            sourceLang).contentKey⟩ := by
  unfold prepareContent
  by_cases empty : trim (cleanControlCharacters rawText.toList) = []
  · simp [empty]
  · by_cases long : maxCharacters < (trim (cleanControlCharacters rawText.toList)).length
    · simp only [empty, ↓reduceIte, long, reduceCtorEq, false_iff]
      omega
    · have short : (trim (cleanControlCharacters rawText.toList)).length ≤ maxCharacters := by omega
      cases latin : (trim (cleanControlCharacters rawText.toList)).any
          (fun character => isLatin character && isAlphabetic character) with
      | false => simp [empty, long, latin]
      | true =>
          simp only [empty, ↓reduceIte, long, latin, Bool.not_true, Bool.false_eq_true,
            Except.ok.injEq, ne_eq, not_false_eq_true, short, true_and]
          exact eq_comm

/-- Preparing the source text of a prepared content gives that content again. -/
theorem prepareContent_sourceText {rawText : String} {sourceLang : LanguageCode}
    {maxCharacters limit : Nat} {content : PreparedContent}
    (prepared : prepareContent rawText sourceLang maxCharacters = .ok content)
    (fits : content.sourceText.length ≤ limit) :
    prepareContent content.sourceText sourceLang limit = .ok content := by
  obtain ⟨present, _, latin, equation⟩ := prepareContent_ok.mp prepared
  have source : content.sourceText.toList = trim (cleanControlCharacters rawText.toList) := by
    rw [equation, String.toList_ofList]
  have again : trim (cleanControlCharacters content.sourceText.toList) =
      trim (cleanControlCharacters rawText.toList) := by
    rw [source, clean_trim_again]
  apply prepareContent_ok.mpr
  rw [again, ← source, String.length_toList]
  rw [← source] at present latin equation
  exact ⟨present, fits, latin, equation⟩

end Tables

end Lvos.Core
