import Lvos.Core.Identity

set_option autoImplicit false

namespace Lvos.Core

/-! The text of a Content key: which strings it is, and that reading one never panics. -/

/-- `bytes[index] = byte` on the array of a key. -/
def ContentKey.write (key : ContentKey) (index : Nat) (byte : UInt8) : ContentKey :=
  ⟨key.bytes.set index byte, by rw [List.length_set, key.size]⟩

/-- The loop of `from_str` with its writes; `none` is an index out of bounds. -/
def writePairs (key : ContentKey) (index : Nat) :
    List UInt8 → Option (Except ContentKeyParseError ContentKey)
  | high :: low :: rest =>
      match decodeHex high with
      | .error reason => some (.error reason)
      | .ok high =>
          match decodeHex low with
          | .error reason => some (.error reason)
          | .ok low =>
              if index < 32 then
                writePairs (key.write index (UInt8.ofNat (16 * high + low))) (index + 1) rest
              else none
  | _ => some (.ok key)

def ContentKey.fromStrWriting (value : String) : Option (Except ContentKeyParseError ContentKey) :=
  if (Hex.utf8 value.toList).length ≠ 64 then some (.error .invalidLength)
  else writePairs ⟨List.replicate 32 0, List.length_replicate⟩ 0 (Hex.utf8 value.toList)

theorem decodePairs_cons (high low : UInt8) (rest : List UInt8) :
    decodePairs (high :: low :: rest) =
      match decodeHex high, decodeHex low, decodePairs rest with
      | .error reason, _, _ => .error reason
      | .ok _, .error reason, _ => .error reason
      | .ok _, .ok _, .error reason => .error reason
      | .ok high, .ok low, .ok rest => .ok (UInt8.ofNat (16 * high + low) :: rest) := by
  rw [decodePairs]
  cases decodeHex high with
  | error reason => rfl
  | ok high =>
      cases decodeHex low with
      | error reason => rfl
      | ok low => cases decodePairs rest <;> rfl

theorem length_of_decodePairs : ∀ (text bytes : List UInt8), decodePairs text = .ok bytes →
    bytes.length = text.length / 2
  | [], _, decoded => by
      cases decoded
      rfl
  | [_], _, decoded => by
      cases decoded
      simp
  | high :: low :: rest, bytes, decoded => by
      rw [decodePairs_cons] at decoded
      split at decoded
      case h_1 => cases decoded
      case h_2 => cases decoded
      case h_3 => cases decoded
      case h_4 _ _ tail _ _ others =>
        cases decoded
        have shorter := length_of_decodePairs rest tail others
        simp only [List.length_cons]
        omega

/-- The array with these bytes from `index` on. -/
def splice (bytes : List UInt8) (index : Nat) (written : List UInt8) : List UInt8 :=
  bytes.take index ++ written ++ bytes.drop (index + written.length)

theorem splice_set {bytes : List UInt8} {index : Nat} (inside : index < bytes.length)
    (byte : UInt8) (written : List UInt8) :
    splice (bytes.set index byte) (index + 1) written = splice bytes index (byte :: written) := by
  have front : (bytes.set index byte).take (index + 1) = bytes.take index ++ [byte] := by
    have count : (bytes.take index ++ [byte]).length = index + 1 := by
      rw [List.length_append, List.length_take_of_le (by omega), List.length_singleton]
    rw [List.set_eq_take_append_cons_drop, if_pos inside, ← List.singleton_append,
      ← List.append_assoc, List.take_left' count]
  have back : (bytes.set index byte).drop (index + 1 + written.length) =
      bytes.drop (index + (byte :: written).length) := by
    rw [List.drop_set_of_lt (by omega), List.length_cons]
    congr 1
    omega
  simp only [splice, front, back, List.append_assoc, List.cons_append,
    List.nil_append]

/-- Within the array the writes are those of the pairs decoded at once. -/
theorem writePairs_eq : ∀ (text : List UInt8) (key : ContentKey) (index : Nat),
    index + text.length / 2 ≤ 32 →
    ∃ result, writePairs key index text = some result ∧
      result.map ContentKey.bytes = (decodePairs text).map (splice key.bytes index)
  | [], key, index, _ => ⟨.ok key, rfl, by simp [decodePairs, splice, Except.map]⟩
  | [_], key, index, _ => ⟨.ok key, rfl, by simp [decodePairs, splice, Except.map]⟩
  | high :: low :: rest, key, index, fits => by
      rw [decodePairs_cons, writePairs]
      cases decodeHex high with
      | error reason => exact ⟨.error reason, rfl, rfl⟩
      | ok top =>
          cases decodeHex low with
          | error reason => exact ⟨.error reason, rfl, rfl⟩
          | ok bottom =>
              simp only [List.length_cons] at fits
              have inside : index < 32 := by omega
              obtain ⟨result, written, same⟩ :=
                writePairs_eq rest (key.write index (UInt8.ofNat (16 * top + bottom))) (index + 1)
                  (by omega)
              refine ⟨result, ?_, ?_⟩
              · simp only [inside, ↓reduceIte, written]
              · rw [same]
                cases decodePairs rest with
                | error reason => rfl
                | ok tail =>
                    have within : index < key.bytes.length := by rw [key.size]; exact inside
                    exact congrArg Except.ok (splice_set within _ tail)

/-- No index leaves the array, and the array at the end is what the pairs decode to. -/
theorem fromStrWriting_eq (value : String) :
    ContentKey.fromStrWriting value = some (ContentKey.fromStr value) := by
  unfold ContentKey.fromStrWriting ContentKey.fromStr
  by_cases count : (Hex.utf8 value.toList).length = 64
  · simp only [count, ne_eq, not_true_eq_false, ↓reduceIte]
    obtain ⟨result, written, same⟩ := writePairs_eq (Hex.utf8 value.toList)
      ⟨List.replicate 32 0, List.length_replicate⟩ 0 (by omega)
    rw [written]
    cases decoded : decodePairs (Hex.utf8 value.toList) with
    | error reason =>
        rw [decoded] at same
        cases result with
        | error other =>
            cases same
            rfl
        | ok key => cases same
    | ok bytes =>
        have size : bytes.length = 32 := by
          rw [length_of_decodePairs _ _ decoded, count]
        rw [decoded] at same
        cases result with
        | error other => cases same
        | ok key =>
            have whole : splice (List.replicate 32 0) 0 bytes = bytes := by
              simp [splice, size]
            have stored : key.bytes = bytes := by
              rw [← whole]
              exact Except.ok.inj same
            obtain ⟨stored_bytes, keySize⟩ := key
            subst stored
            simp only [size, ↓reduceDIte]
  · simp only [count, ne_eq, not_false_eq_true, ↓reduceIte]

/-- Sixty-four digits, the letters in lower case. -/
def HexText (value : String) : Prop :=
  value.toList.length = 64 ∧ ∀ character ∈ value.toList,
    ('0' ≤ character ∧ character ≤ '9') ∨ ('a' ≤ character ∧ character ≤ 'f')

theorem digit_range {value : Nat} (small : value < 16) :
    ('0' ≤ Hex.digit value ∧ Hex.digit value ≤ '9') ∨
      ('a' ≤ Hex.digit value ∧ Hex.digit value ≤ 'f') := by
  revert value
  decide

theorem digit_of_range {character : Char}
    (digit : ('0' ≤ character ∧ character ≤ '9') ∨ ('a' ≤ character ∧ character ≤ 'f')) :
    ∃ value, value < 16 ∧ character = Hex.digit value := by
  simp only [Char.le_def, UInt32.le_iff_toNat_le] at digit
  change (48 ≤ character.toNat ∧ character.toNat ≤ 57) ∨
    (97 ≤ character.toNat ∧ character.toNat ≤ 102) at digit
  rcases digit with decimal | letter
  · refine ⟨character.toNat - 48, by omega, ?_⟩
    rw [Hex.digit, Hex.code, if_pos (by omega), Nat.add_sub_cancel' decimal.1, Char.ofNat_toNat]
  · refine ⟨character.toNat - 87, by omega, ?_⟩
    rw [Hex.digit, Hex.code, if_neg (by omega), Nat.add_sub_cancel' (by omega), Char.ofNat_toNat]

theorem encode_range (bytes : List UInt8) : ∀ character ∈ Hex.encode bytes,
    ('0' ≤ character ∧ character ≤ '9') ∨ ('a' ≤ character ∧ character ≤ 'f') := by
  induction bytes with
  | nil => simp
  | cons byte rest ih =>
      have bound := byte.toNat_lt
      rw [Hex.encode_cons]
      intro character member
      rcases List.mem_cons.mp member with rfl | later
      · exact digit_range (by omega)
      · rcases List.mem_cons.mp later with rfl | others
        · exact digit_range (by omega)
        · exact ih character others

theorem encode_of_digits : ∀ text : List Char, text.length % 2 = 0 →
    (∀ character ∈ text,
      ('0' ≤ character ∧ character ≤ '9') ∨ ('a' ≤ character ∧ character ≤ 'f')) →
    ∃ bytes, Hex.encode bytes = text
  | [], _, _ => ⟨[], rfl⟩
  | [_], even, _ => by simp at even
  | high :: low :: rest, even, digits => by
      obtain ⟨top, topSmall, rfl⟩ := digit_of_range (digits high List.mem_cons_self)
      obtain ⟨bottom, bottomSmall, rfl⟩ := digit_of_range
        (digits low (List.mem_cons_of_mem _ List.mem_cons_self))
      have shorter : rest.length % 2 = 0 := by
        simp only [List.length_cons] at even
        omega
      obtain ⟨tail, encoded⟩ := encode_of_digits rest shorter (fun character member =>
        digits character (List.mem_cons_of_mem _ (List.mem_cons_of_mem _ member)))
      have number : (UInt8.ofNat (16 * top + bottom)).toNat = 16 * top + bottom := by
        simp only [UInt8.toNat_ofNat']
        omega
      refine ⟨UInt8.ofNat (16 * top + bottom) :: tail, ?_⟩
      rw [Hex.encode_cons, number, encoded, show (16 * top + bottom) / 16 = top by omega,
        show (16 * top + bottom) % 16 = bottom by omega]

theorem fromStr_ok_iff (value : String) :
    (∃ key, ContentKey.fromStr value = .ok key) ↔ HexText value := by
  constructor
  · rintro ⟨key, parsed⟩
    rw [← ContentKey.toHex_of_fromStr parsed, HexText, ContentKey.toHex, String.toList_ofList,
      Hex.length_encode, key.size]
    exact ⟨rfl, encode_range key.bytes⟩
  · rintro ⟨count, digits⟩
    obtain ⟨bytes, encoded⟩ := encode_of_digits value.toList (by omega) digits
    have size : bytes.length = 32 := by
      have doubled := Hex.length_encode bytes
      rw [encoded, count] at doubled
      omega
    have text : ContentKey.toHex ⟨bytes, size⟩ = value := by
      rw [ContentKey.toHex, encoded, String.ofList_toList]
    exact ⟨⟨bytes, size⟩, by rw [← text, ContentKey.fromStr_toHex]⟩

/-- A key and its text are one to one, and every other string is refused without a panic. -/
theorem content_key_text :
    (∀ key : ContentKey, ContentKey.fromStr key.toHex = .ok key) ∧
      ∀ value : String,
        ContentKey.fromStrWriting value = some (ContentKey.fromStr value) ∧
        ((∃ key, ContentKey.fromStr value = .ok key) ↔ HexText value) ∧
        (HexText value → (ContentKey.fromStr value).map ContentKey.toHex = .ok value) := by
  refine ⟨ContentKey.fromStr_toHex, fun value =>
    ⟨fromStrWriting_eq value, fromStr_ok_iff value, ?_⟩⟩
  intro text
  obtain ⟨key, parsed⟩ := (fromStr_ok_iff value).mpr text
  rw [parsed, Except.map, ContentKey.toHex_of_fromStr parsed]

/-- Sixty-four bytes of two-byte characters. -/
example : ContentKey.fromStr (String.ofList (List.replicate 32 'é')) = .error .invalidHex := by
  decide

def sampleKey : ContentKey := ⟨List.replicate 32 171, List.length_replicate⟩

theorem content_key_text_sample :
    HexText sampleKey.toHex ∧
      (ContentKey.fromStr sampleKey.toHex).map ContentKey.toHex = .ok sampleKey.toHex := by
  have text : HexText sampleKey.toHex :=
    (fromStr_ok_iff sampleKey.toHex).mp ⟨sampleKey, ContentKey.fromStr_toHex sampleKey⟩
  exact ⟨text, (content_key_text.2 sampleKey.toHex).2.2 text⟩

end Lvos.Core
