import Mathlib.Algebra.BigOperators.Group.List.Basic
import Mathlib.Algebra.GroupWithZero.Nat
import Lvos.Lib.Hex

set_option autoImplicit false

/-! JSON text as a serializer writes it, and the bytes it takes. -/

namespace Json

def quote : Char := Char.ofNat 34

def backslash : Char := Char.ofNat 92

def openBrace : Char := Char.ofNat 123

def closeBrace : Char := Char.ofNat 125

/-- The letter of the two-character escapes. -/
def shortEscape (character : Char) : Option Char :=
  if character = quote then some quote
  else if character = backslash then some backslash
  else if character.toNat = 8 then some 'b'
  else if character.toNat = 9 then some 't'
  else if character.toNat = 10 then some 'n'
  else if character.toNat = 12 then some 'f'
  else if character.toNat = 13 then some 'r'
  else none

/-- Quotes, backslashes and control characters are escaped, everything else stands for
itself. -/
def escape (character : Char) : List Char :=
  match shortEscape character with
  | some letter => [backslash, letter]
  | none =>
      if character.toNat < 32 then
        [backslash, 'u', '0', '0', Hex.digit (character.toNat / 16),
          Hex.digit (character.toNat % 16)]
      else [character]

def quoted (value : String) : List Char :=
  quote :: (value.toList.flatMap escape ++ [quote])

def number (value : Int) : List Char := (toString value).toList

def boolean (value : Bool) : List Char := if value then "true".toList else "false".toList

def null : List Char := "null".toList

/-- Values with a separator between them. -/
def joined (separator : List Char) : List (List Char) → List Char
  | [] => []
  | [value] => value
  | value :: next :: rest => value ++ (separator ++ joined separator (next :: rest))

def array (values : List (List Char)) : List Char :=
  '[' :: (joined [','] values ++ [']'])

def member (field : String × List Char) : List Char := quoted field.1 ++ ':' :: field.2

def object (fields : List (String × List Char)) : List Char :=
  openBrace :: (joined [','] (fields.map member) ++ [closeBrace])

section Pretty

/-! The indented form: a value is written at a depth, two blanks for each level. -/

def indented (depth : Nat) : List Char := '\n' :: List.replicate (2 * depth) ' '

/-- The lines between an opening and a closing bracket, one value on each. -/
def lines (first last : Char) (values : List (Nat → List Char)) (depth : Nat) : List Char :=
  match values with
  | [] => [first, last]
  | _ =>
      first :: (joined [','] (values.map (fun value => indented (depth + 1) ++ value (depth + 1))) ++
        (indented depth ++ [last]))

def prettyArray (values : List (Nat → List Char)) : Nat → List Char := lines '[' ']' values

def prettyObject (fields : List (String × (Nat → List Char))) : Nat → List Char :=
  lines openBrace closeBrace (fields.map (fun field depth =>
    quoted field.1 ++ ':' :: ' ' :: field.2 depth))

end Pretty

/-- The bytes a text takes on the wire. -/
def bytes (text : List Char) : Nat := (Hex.utf8 text).length

@[simp] theorem bytes_nil : bytes [] = 0 := rfl

@[simp] theorem bytes_append (first second : List Char) :
    bytes (first ++ second) = bytes first + bytes second := by
  unfold bytes Hex.utf8
  rw [List.flatMap_append, List.length_append]

@[simp] theorem bytes_cons (character : Char) (rest : List Char) :
    bytes (character :: rest) = character.utf8Size + bytes rest := by
  unfold bytes Hex.utf8
  rw [List.flatMap_cons, List.length_append, String.length_utf8EncodeChar]

theorem bytes_joined (values : List (List Char)) :
    bytes (joined [','] values) = (values.map bytes).sum + (values.length - 1) := by
  induction values with
  | nil => rfl
  | cons value rest ih =>
      cases rest with
      | nil => simp [joined]
      | cons next others =>
          have comma : bytes [','] = 1 := by decide
          rw [joined, bytes_append, bytes_append, ih, comma]
          simp only [List.map_cons, List.sum_cons, List.length_cons]
          omega

theorem bytes_array (values : List (List Char)) :
    bytes (array values) = (values.map bytes).sum + (values.length - 1) + 2 := by
  have opening : '['.utf8Size = 1 := by decide
  have closing : bytes [']'] = 1 := by decide
  unfold array
  rw [bytes_cons, bytes_append, bytes_joined, opening, closing]
  omega

/-- The bytes a character takes inside a quoted text. -/
def escapedBytes (character : Char) : Nat :=
  if (shortEscape character).isSome then 2
  else if character.toNat < 32 then 6
  else character.utf8Size

theorem bytes_hexDigit {value : Nat} (small : value < 16) : bytes [Hex.digit value] = 1 := by
  unfold bytes Hex.utf8
  rw [List.flatMap_singleton, Hex.utf8_digit small]
  rfl

theorem bytes_escape (character : Char) : bytes (escape character) = escapedBytes character := by
  unfold escape escapedBytes
  cases short : shortEscape character with
  | some letter =>
      have ascii : letter.utf8Size = 1 := by
        unfold shortEscape at short
        repeat' split at short
        all_goals first | cases short; decide | cases short
      have slash : backslash.utf8Size = 1 := by decide
      simp [ascii, slash]
  | none =>
      simp only [Option.isSome_none, Bool.false_eq_true, ↓reduceIte]
      split
      · rename_i control
        have high := bytes_hexDigit (show character.toNat / 16 < 16 by omega)
        have low := bytes_hexDigit (show character.toNat % 16 < 16 by omega)
        have lead : bytes [backslash, 'u', '0', '0'] = 4 := by decide
        have whole : [backslash, 'u', '0', '0', Hex.digit (character.toNat / 16),
            Hex.digit (character.toNat % 16)] = [backslash, 'u', '0', '0'] ++
              ([Hex.digit (character.toNat / 16)] ++ [Hex.digit (character.toNat % 16)]) := rfl
        rw [whole, bytes_append, bytes_append, high, low, lead]
      · simp

/-- The bytes a text takes between its quotes. -/
def textBytes (value : String) : Nat := (value.toList.map escapedBytes).sum

theorem bytes_quoted (value : String) : bytes (quoted value) = textBytes value + 2 := by
  have flat : ∀ characters : List Char,
      bytes (characters.flatMap escape) = (characters.map escapedBytes).sum := by
    intro characters
    induction characters with
    | nil => rfl
    | cons character rest ih =>
        rw [List.flatMap_cons, bytes_append, bytes_escape, ih, List.map_cons, List.sum_cons]
  have mark : quote.utf8Size = 1 := by decide
  unfold quoted textBytes
  rw [bytes_cons, bytes_append, flat, bytes_cons, mark, bytes_nil]
  omega

theorem bytes_member (field : String × List Char) :
    bytes (member field) = textBytes field.1 + bytes field.2 + 3 := by
  have colon : ':'.utf8Size = 1 := by decide
  unfold member
  rw [bytes_append, bytes_quoted, bytes_cons, colon]
  omega

/-- An object takes its names and values, three bytes for each field, the commas and the
braces. -/
theorem bytes_object (fields : List (String × List Char)) :
    bytes (object fields) =
      (fields.map (fun field => textBytes field.1 + bytes field.2 + 3)).sum +
        (fields.length - 1) + 2 := by
  have opening : openBrace.utf8Size = 1 := by decide
  have closing : bytes [closeBrace] = 1 := by decide
  have sizes : fields.map (bytes ∘ member) =
      fields.map (fun field => textBytes field.1 + bytes field.2 + 3) := by
    apply List.map_congr_left
    intro field _
    exact bytes_member field
  unfold object
  rw [bytes_cons, bytes_append, bytes_joined, opening, closing, List.map_map, sizes,
    List.length_map]
  omega

theorem bytes_object_cons (name : String) (value : List Char) (next : String × List Char)
    (rest : List (String × List Char)) :
    bytes (object ((name, value) :: next :: rest)) =
      textBytes name + bytes value + 4 + bytes (object (next :: rest)) := by
  rw [bytes_object, bytes_object]
  simp only [List.map_cons, List.sum_cons, List.length_cons]
  omega

theorem bytes_object_single (name : String) (value : List Char) :
    bytes (object [(name, value)]) = textBytes name + bytes value + 5 := by
  rw [bytes_object]
  simp

/-- A text without escapes takes a byte for each ASCII character. -/
theorem textBytes_plain {value : String}
    (plain : ∀ character ∈ value.toList, escapedBytes character = 1) :
    textBytes value = value.toList.length := by
  unfold textBytes
  rw [List.map_congr_left plain, List.map_const', List.sum_replicate, Nat.nsmul_eq_mul,
    Nat.mul_one]

theorem escapedBytes_hex {bytes : List UInt8} {character : Char}
    (digit : character ∈ Hex.encode bytes) : escapedBytes character = 1 := by
  obtain ⟨byte, -, among⟩ := List.mem_flatMap.mp digit
  have small : ∃ value < 16, character = Hex.digit value := by
    rw [List.mem_cons, List.mem_singleton] at among
    have bound := byte.toNat_lt
    rcases among with high | low
    · exact ⟨byte.toNat / 16, by omega, high⟩
    · exact ⟨byte.toNat % 16, by omega, low⟩
  obtain ⟨value, bound, rfl⟩ := small
  rcases value with _ | _ | _ | _ | _ | _ | _ | _ | _ | _ | _ | _ | _ | _ | _ | _ | value
  all_goals first | decide | omega

theorem textBytes_replicate (count : Nat) (character : Char) :
    textBytes (String.ofList (List.replicate count character)) = count * escapedBytes character := by
  unfold textBytes
  rw [String.toList_ofList, List.map_replicate, List.sum_replicate, Nat.nsmul_eq_mul]

theorem utf8ByteSize_replicate (count : Nat) (character : Char) :
    (String.ofList (List.replicate count character)).utf8ByteSize =
      count * character.utf8Size := by
  induction count with
  | zero => simp
  | succ count ih =>
      rw [List.replicate_succ', String.ofList_append, String.utf8ByteSize_append, ih,
        Nat.succ_mul]
      simp

end Json
