import Lvos.Lib.Hex

set_option autoImplicit false

namespace Utf8

/-- `str::from_utf8`. -/
def decode (bytes : List UInt8) : Option (List Char) :=
  bytes.toByteArray.utf8Decode?.map Array.toList

theorem encode_eq (text : List Char) : text.utf8Encode = (Hex.utf8 text).toByteArray := rfl

theorem decode_utf8 (text : List Char) : decode (Hex.utf8 text) = some text := by
  rw [decode, ← encode_eq, List.utf8Decode?_utf8Encode, Option.map_some, List.toList_toArray]

/-- Only the bytes of a text are decoded, to that text. -/
theorem decode_iff {bytes : List UInt8} {text : List Char} :
    decode bytes = some text ↔ bytes = Hex.utf8 text := by
  constructor
  · intro decoded
    obtain ⟨characters, found, same⟩ := Option.map_eq_some_iff.mp decoded
    have valid : bytes.toByteArray.utf8Decode?.isSome := by
      rw [found]
      rfl
    have encoded := @ByteArray.utf8Encode_get_utf8Decode? bytes.toByteArray valid
    simp only [found, Option.get_some, same] at encoded
    rw [encode_eq, List.toByteArray_inj] at encoded
    exact encoded.symm
  · intro same
    rw [same, decode_utf8]

theorem utf8_append (first second : List Char) :
    Hex.utf8 (first ++ second) = Hex.utf8 first ++ Hex.utf8 second :=
  List.flatMap_append ..

theorem decode_cons (character : Char) (rest : List UInt8) :
    decode (String.utf8EncodeChar character ++ rest) =
      (decode rest).map (fun text => character :: text) := by
  have bytes : (String.utf8EncodeChar character ++ rest).toByteArray =
      [character].utf8Encode ++ rest.toByteArray := by
    rw [List.toByteArray_append, List.utf8Encode_singleton]
  rw [decode, bytes, ByteArray.utf8Decode?_utf8Encode_singleton_append, decode, Option.map_map,
    Option.map_map]
  congr 1
  funext characters
  simp

theorem decode_append (text : List Char) (rest : List UInt8) :
    decode (Hex.utf8 text ++ rest) = (decode rest).map (fun later => text ++ later) := by
  induction text with
  | nil =>
      change decode rest = (decode rest).map (fun later => later)
      simp
  | cons character text ih =>
      have bytes : Hex.utf8 (character :: text) =
          String.utf8EncodeChar character ++ Hex.utf8 text := rfl
      rw [bytes, List.append_assoc, decode_cons, ih, Option.map_map]
      rfl

/-- The bytes after a text in the bytes of another are those of its rest. -/
theorem utf8_rest {first whole : List Char} {rest : List UInt8}
    (same : Hex.utf8 first ++ rest = Hex.utf8 whole) :
    ∃ later, whole = first ++ later ∧ rest = Hex.utf8 later := by
  have decoded := decode_append first rest
  rw [same, decode_utf8] at decoded
  obtain ⟨later, found, joined⟩ := Option.map_eq_some_iff.mp decoded.symm
  exact ⟨later, joined.symm, decode_iff.mp found⟩

/-! `from_utf8_lossy`: one replacement character for each longest start of a character that the
bytes do not complete. -/

/-- The bytes of a character, by its first one. -/
def width (lead : UInt8) : Nat :=
  if lead < 0x80 then 1
  else if 0xC2 ≤ lead && lead ≤ 0xDF then 2
  else if 0xE0 ≤ lead && lead ≤ 0xEF then 3
  else if 0xF0 ≤ lead && lead ≤ 0xF4 then 4
  else 0

def isContinuation (byte : UInt8) : Bool := 0x80 ≤ byte && byte ≤ 0xBF

/-- The second bytes after a first one: no overlong form, no surrogate, no value too large. -/
def continues (lead second : UInt8) : Bool :=
  if lead = 0xE0 then 0xA0 ≤ second && second ≤ 0xBF
  else if lead = 0xED then 0x80 ≤ second && second ≤ 0x9F
  else if lead = 0xF0 then 0x90 ≤ second && second ≤ 0xBF
  else if lead = 0xF4 then 0x80 ≤ second && second ≤ 0x8F
  else isContinuation second

/-- How many bytes belong to the character its first byte begins. -/
def subpart (lead : UInt8) : List UInt8 → Nat
  | [] => 0
  | second :: rest =>
      if width lead ≤ 1 then 0
      else if continues lead second then
        1 + ((rest.take (width lead - 2)).takeWhile isContinuation).length
      else 0

def replacement : Char := '\uFFFD'

/-- The text after the bytes to skip. -/
def lossyFrom : Nat → List UInt8 → List Char
  | _, [] => []
  | skip + 1, _ :: rest => lossyFrom skip rest
  | 0, lead :: rest =>
      (decode (lead :: rest.take (subpart lead rest))).getD [replacement] ++
        lossyFrom (subpart lead rest) rest

def lossy (bytes : List UInt8) : List Char := lossyFrom 0 bytes

theorem lossyFrom_eq (skip : Nat) (bytes : List UInt8) :
    lossyFrom skip bytes = lossy (bytes.drop skip) := by
  induction bytes generalizing skip with
  | nil =>
      rw [List.drop_nil]
      cases skip <;> rfl
  | cons lead rest ih =>
      cases skip with
      | zero => rfl
      | succ skip => exact ih skip

theorem lossy_cons (lead : UInt8) (rest : List UInt8) :
    lossy (lead :: rest) =
      (decode (lead :: rest.take (subpart lead rest))).getD [replacement] ++
        lossy (rest.drop (subpart lead rest)) := by
  rw [← lossyFrom_eq]
  rfl

/-- A text without replacement characters is that of its own bytes alone. -/
theorem bytes_of_lossy {bytes : List UInt8} {text : List Char} (read : lossy bytes = text)
    (sound : replacement ∉ text) : bytes = Hex.utf8 text := by
  induction size : bytes.length using Nat.strongRecOn generalizing bytes text with
  | ind length ih =>
      cases bytes with
      | nil =>
          rw [← read]
          rfl
      | cons lead rest =>
          rw [lossy_cons] at read
          cases front : decode (lead :: rest.take (subpart lead rest)) with
          | none =>
              rw [front, Option.getD_none] at read
              exact absurd (by simp [← read]) sound
          | some characters =>
              rw [front, Option.getD_some] at read
              have later := @ih (rest.drop (subpart lead rest)).length
                (by rw [← size, List.length_drop, List.length_cons]; omega) _ _ rfl
                (fun there => sound (read ▸ List.mem_append_right _ there)) rfl
              rw [← read, utf8_append, ← decode_iff.mp front, ← later, List.cons_append,
                List.take_append_drop]

theorem subpart_ascii {lead : UInt8} (ascii : lead < 0x80) (rest : List UInt8) :
    subpart lead rest = 0 := by
  cases rest with
  | nil => rfl
  | cons second rest => simp only [subpart, width, ascii, ↓reduceIte, Nat.le_refl]

theorem utf8_ascii {character : Char} (ascii : character.toNat < 128) :
    String.utf8EncodeChar character = [character.val.toUInt8] := by
  apply String.utf8EncodeChar_eq_singleton
  rw [Char.utf8Size_eq_one_iff]
  exact Nat.lt_succ_iff.mp ascii

theorem lossy_ascii {text : List Char} (ascii : ∀ character ∈ text, character.toNat < 128) :
    lossy (Hex.utf8 text) = text := by
  induction text with
  | nil => rfl
  | cons character text ih =>
      have small := ascii character List.mem_cons_self
      have bytes : Hex.utf8 (character :: text) = character.val.toUInt8 :: Hex.utf8 text := by
        rw [Hex.utf8, List.flatMap_cons, utf8_ascii small]
        rfl
      have lead : character.val.toUInt8 < 0x80 := by
        rw [UInt8.lt_iff_toNat_lt, UInt32.toNat_toUInt8]
        change character.toNat % 256 < 128
        omega
      have whole : decode [character.val.toUInt8] = some [character] := by
        have read := decode_utf8 [character]
        rwa [Hex.utf8, List.flatMap_singleton, utf8_ascii small] at read
      rw [bytes, lossy_cons, subpart_ascii lead, List.take_zero, List.drop_zero, whole,
        Option.getD_some, ih (fun other member => ascii other (List.mem_cons_of_mem _ member))]
      rfl

/-- An ASCII text is that of its own bytes alone. -/
theorem lossy_eq_iff {bytes : List UInt8} {text : List Char}
    (ascii : ∀ character ∈ text, character.toNat < 128) :
    lossy bytes = text ↔ bytes = Hex.utf8 text := by
  constructor
  · intro read
    apply bytes_of_lossy read
    intro inside
    exact absurd (ascii replacement inside) (by decide)
  · rintro rfl
    exact lossy_ascii ascii

end Utf8
