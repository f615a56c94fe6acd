import Lvos.Lib.Hex

set_option autoImplicit false

namespace Lvos.Core

inductive ContentKeyParseError
  | invalidLength
  | invalidHex
deriving DecidableEq, Repr

/-- A binary SHA-256 Content key rendered as lower-case hexadecimal at protocol
boundaries. -/
structure ContentKey where
  bytes : List UInt8
  size : bytes.length = 32
deriving DecidableEq

def ContentKey.toHex (key : ContentKey) : String :=
  String.ofList (Hex.encode key.bytes)

def decodeHex (byte : UInt8) : Except ContentKeyParseError Nat :=
  match Hex.digitValue byte with
  | some value => .ok value
  | none => .error .invalidHex

/-- The `chunks_exact(2)` loop of `from_str`. -/
def decodePairs : List UInt8 → Except ContentKeyParseError (List UInt8)
  | high :: low :: rest => do
      let high ← decodeHex high
      let low ← decodeHex low
      let rest ← decodePairs rest
      .ok (UInt8.ofNat (16 * high + low) :: rest)
  | _ => .ok []

def ContentKey.fromStr (value : String) : Except ContentKeyParseError ContentKey :=
  if (Hex.utf8 value.toList).length = 64 then
    match decodePairs (Hex.utf8 value.toList) with
    | .error reason => .error reason
    | .ok bytes => if size : bytes.length = 32 then .ok ⟨bytes, size⟩ else .error .invalidLength
  else .error .invalidLength

/-- Sixteen bytes; an event id is one the `uuid` crate generated as version 7. -/
structure Uuid where
  bytes : List UInt8
  size : bytes.length = 16
deriving DecidableEq

/-- The five groups of a rendered id. -/
def hyphenate (digits : List Char) : List Char :=
  digits.take 8 ++ '-' :: (digits.drop 8).take 4 ++ '-' :: (digits.drop 12).take 4 ++
    '-' :: (digits.drop 16).take 4 ++ '-' :: digits.drop 20

/-- `Display`: lower-case hexadecimal in hyphenated groups. -/
def Uuid.text (id : Uuid) : String :=
  String.ofList (hyphenate (Hex.encode id.bytes))

def Uuid.getVersionNum (id : Uuid) : Nat :=
  (id.bytes.getD 6 0).toNat / 16

theorem utf8_encode_cons (byte : UInt8) (rest : List UInt8) :
    Hex.utf8 (Hex.encode (byte :: rest)) =
      UInt8.ofNat (Hex.code (byte.toNat / 16)) :: UInt8.ofNat (Hex.code (byte.toNat % 16)) ::
        Hex.utf8 (Hex.encode rest) := by
  have bound := byte.toNat_lt
  have high := @Hex.utf8_digit (byte.toNat / 16) (by omega)
  have low := @Hex.utf8_digit (byte.toNat % 16) (by omega)
  simp only [Hex.utf8, Hex.encode_cons, List.flatMap_cons, high, low, List.singleton_append]

theorem decodeHex_code {value : Nat} (small : value < 16) :
    decodeHex (UInt8.ofNat (Hex.code value)) = .ok value := by
  unfold decodeHex
  rw [Hex.digitValue_code small]

theorem code_of_decodeHex {byte : UInt8} {value : Nat} (reads : decodeHex byte = .ok value) :
    value < 16 ∧ byte = UInt8.ofNat (Hex.code value) := by
  unfold decodeHex at reads
  cases found : Hex.digitValue byte with
  | none => simp [found] at reads
  | some digit =>
      simp only [found, Except.ok.injEq] at reads
      subst reads
      exact Hex.code_of_digitValue found

theorem decodePairs_encode (bytes : List UInt8) :
    decodePairs (Hex.utf8 (Hex.encode bytes)) = .ok bytes := by
  induction bytes with
  | nil => rfl
  | cons byte rest ih =>
      have bound := byte.toNat_lt
      have whole : 16 * (byte.toNat / 16) + byte.toNat % 16 = byte.toNat := by omega
      rw [utf8_encode_cons, decodePairs, decodeHex_code (by omega), decodeHex_code (by omega)]
      simp only [bind, Except.bind, ih, whole, UInt8.ofNat_toNat]

/-- Nothing but the encoding of its result decodes, up to a last odd byte. -/
theorem encode_of_decodePairs : ∀ (text bytes : List UInt8), text.length % 2 = 0 →
    decodePairs text = .ok bytes → Hex.utf8 (Hex.encode bytes) = text
  | [], _, _, decoded => by
      cases decoded
      rfl
  | [_], _, even, _ => by simp at even
  | high :: low :: rest, bytes, even, decoded => by
      rw [decodePairs] at decoded
      cases first : decodeHex high with
      | error reason => simp [first, bind, Except.bind] at decoded
      | ok top =>
          cases second : decodeHex low with
          | error reason => simp [first, second, bind, Except.bind] at decoded
          | ok bottom =>
              cases others : decodePairs rest with
              | error reason => simp [first, second, others, bind, Except.bind] at decoded
              | ok tail =>
                  simp only [first, second, others, bind, Except.bind, Except.ok.injEq] at decoded
                  subst decoded
                  have shorter : rest.length % 2 = 0 := by
                    simp only [List.length_cons] at even
                    omega
                  have topByte := code_of_decodeHex first
                  have bottomByte := code_of_decodeHex second
                  have number : (UInt8.ofNat (16 * top + bottom)).toNat = 16 * top + bottom := by
                    simp only [UInt8.toNat_ofNat']
                    omega
                  have upper : (16 * top + bottom) / 16 = top := by omega
                  have lower : (16 * top + bottom) % 16 = bottom := by omega
                  rw [utf8_encode_cons, number, upper, lower, ← topByte.2, ← bottomByte.2,
                    encode_of_decodePairs rest tail shorter others]

theorem length_utf8_encode (bytes : List UInt8) :
    (Hex.utf8 (Hex.encode bytes)).length = 2 * bytes.length := by
  induction bytes with
  | nil => rfl
  | cons byte rest ih =>
      rw [utf8_encode_cons]
      simp only [List.length_cons, ih]
      omega

@[simp] theorem ContentKey.fromStr_toHex (key : ContentKey) :
    ContentKey.fromStr key.toHex = .ok key := by
  have length : (Hex.utf8 key.toHex.toList).length = 64 := by
    simp only [ContentKey.toHex, String.toList_ofList, length_utf8_encode, key.size]
  have decoded : decodePairs (Hex.utf8 key.toHex.toList) = .ok key.bytes := by
    simp only [ContentKey.toHex, String.toList_ofList, decodePairs_encode]
  simp [ContentKey.fromStr, length, decoded, key.size]

/-- The text of a key has no second spelling. -/
theorem ContentKey.toHex_of_fromStr {value : String} {key : ContentKey}
    (parsed : ContentKey.fromStr value = .ok key) : key.toHex = value := by
  unfold ContentKey.fromStr at parsed
  split at parsed
  · rename_i length
    split at parsed
    · cases parsed
    · rename_i bytes decoded
      split at parsed
      · cases parsed
        apply Hex.utf8_injective
        rw [ContentKey.toHex, String.toList_ofList]
        exact encode_of_decodePairs _ _ (by omega) decoded
      · cases parsed
  · cases parsed

theorem ContentKey.toHex_injective {first second : ContentKey}
    (same : first.toHex = second.toHex) : first = second := by
  have parsed := ContentKey.fromStr_toHex second
  rw [← same, ContentKey.fromStr_toHex] at parsed
  exact Except.ok.inj parsed

@[simp] theorem ContentKey.toHex_inj {first second : ContentKey} :
    first.toHex = second.toHex ↔ first = second :=
  ⟨ContentKey.toHex_injective, congrArg ContentKey.toHex⟩

theorem encode_injective {first second : List UInt8}
    (same : Hex.encode first = Hex.encode second) : first = second := by
  have decoded := decodePairs_encode second
  rw [← same, decodePairs_encode] at decoded
  exact Except.ok.inj decoded

theorem regroup (digits : List Char) : digits = digits.take 8 ++ ((digits.drop 8).take 4 ++
    ((digits.drop 12).take 4 ++ ((digits.drop 16).take 4 ++ digits.drop 20))) := by
  have last : (digits.drop 16).take 4 ++ digits.drop 20 = digits.drop 16 := by
    have split := List.take_append_drop 4 (digits.drop 16)
    rwa [List.drop_drop] at split
  have middle : (digits.drop 12).take 4 ++ digits.drop 16 = digits.drop 12 := by
    have split := List.take_append_drop 4 (digits.drop 12)
    rwa [List.drop_drop] at split
  have early : (digits.drop 8).take 4 ++ digits.drop 12 = digits.drop 8 := by
    have split := List.take_append_drop 4 (digits.drop 8)
    rwa [List.drop_drop] at split
  rw [last, middle, early, List.take_append_drop]

theorem hyphenate_injective {first second : List Char} (count : first.length = 32)
    (count' : second.length = 32) (same : hyphenate first = hyphenate second) :
    first = second := by
  unfold hyphenate at same
  have tail := List.append_inj' same (by simp [count, count'])
  have third := List.append_inj' tail.1 (by simp [count, count'])
  have upper := List.append_inj' third.1 (by simp [count, count'])
  have start := List.append_inj' upper.1 (by simp [count, count'])
  rw [regroup first, regroup second, start.1, (List.cons.inj start.2).2, (List.cons.inj upper.2).2,
    (List.cons.inj third.2).2, (List.cons.inj tail.2).2]

theorem Uuid.text_injective {first second : Uuid} (same : first.text = second.text) :
    first = second := by
  have groups : hyphenate (Hex.encode first.bytes) = hyphenate (Hex.encode second.bytes) :=
    String.ofList_injective same
  have count := Hex.length_encode first.bytes
  have count' := Hex.length_encode second.bytes
  rw [first.size] at count
  rw [second.size] at count'
  have bytes := encode_injective (hyphenate_injective count count' groups)
  cases first
  cases second
  simpa using bytes

theorem hyphen_not_digit {value : Nat} (small : value < 16) : Hex.digit value ≠ '-' := by
  rcases value with _ | _ | _ | _ | _ | _ | _ | _ | _ | _ | _ | _ | _ | _ | _ | _ | value
  all_goals first | decide | omega

theorem hyphen_not_mem_encode (bytes : List UInt8) : '-' ∉ Hex.encode bytes := by
  induction bytes with
  | nil => simp
  | cons byte rest ih =>
      have bound := byte.toNat_lt
      rw [Hex.encode_cons]
      simp only [List.mem_cons, not_or]
      exact ⟨(hyphen_not_digit (by omega)).symm, (hyphen_not_digit (by omega)).symm, ih⟩

theorem filter_hyphenate {digits : List Char} (plain : '-' ∉ digits) :
    (hyphenate digits).filter (fun character => character ≠ '-') = digits := by
  have keep : ∀ part : List Char, part.Sublist digits →
      part.filter (fun character => character ≠ '-') = part := by
    intro part inside
    apply List.filter_eq_self.mpr
    intro character member
    simp only [ne_eq, decide_not, Bool.not_eq_eq_eq_not, Bool.not_true, decide_eq_false_iff_not]
    intro same
    exact plain (same ▸ inside.subset member)
  unfold hyphenate
  simp only [List.filter_append, List.filter_cons, ne_eq, not_true_eq_false, decide_false,
    Bool.false_eq_true, ↓reduceIte]
  rw [keep _ (List.take_sublist _ _),
    keep _ ((List.take_sublist _ _).trans (List.drop_sublist _ _)),
    keep _ ((List.take_sublist _ _).trans (List.drop_sublist _ _)),
    keep _ ((List.take_sublist _ _).trans (List.drop_sublist _ _)),
    keep _ (List.drop_sublist _ _)]
  simp only [List.append_assoc]
  exact (regroup digits).symm

/-- Reads the hyphenated lower-case form back. -/
def Uuid.ofText (text : String) : Option Uuid :=
  match decodePairs (Hex.utf8 (text.toList.filter (fun character => character ≠ '-'))) with
  | .error _ => none
  | .ok bytes =>
      if size : bytes.length = 16 then
        if (Uuid.mk bytes size).text = text then some ⟨bytes, size⟩ else none
      else none

theorem Uuid.ofText_text (id : Uuid) : Uuid.ofText id.text = some id := by
  have digits : id.text.toList.filter (fun character => character ≠ '-') =
      Hex.encode id.bytes := by
    rw [Uuid.text, String.toList_ofList]
    exact filter_hyphenate (hyphen_not_mem_encode id.bytes)
  unfold Uuid.ofText
  rw [digits, decodePairs_encode]
  simp [id.size]

@[simp] theorem Uuid.text_inj {first second : Uuid} :
    first.text = second.text ↔ first = second :=
  ⟨Uuid.text_injective, congrArg Uuid.text⟩

end Lvos.Core
