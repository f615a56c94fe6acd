import Mathlib.Data.List.Basic

set_option autoImplicit false

namespace Hex

/-- The ASCII code of the lower-case digit of a value below sixteen. -/
def code (value : Nat) : Nat :=
  if value < 10 then 48 + value else 87 + value

def digit (value : Nat) : Char := Char.ofNat (code value)

/-- Two lower-case digits a byte, high half first. -/
def encode (bytes : List UInt8) : List Char :=
  bytes.flatMap (fun byte => [digit (byte.toNat / 16), digit (byte.toNat % 16)])

/-- The value of one ASCII byte read as a lower-case digit. -/
def digitValue (byte : UInt8) : Option Nat :=
  if 48 ≤ byte.toNat ∧ byte.toNat ≤ 57 then some (byte.toNat - 48)
  else if 97 ≤ byte.toNat ∧ byte.toNat ≤ 102 then some (byte.toNat - 87)
  else none

/-- The bytes of a text on disk and on the wire. -/
def utf8 (text : List Char) : List UInt8 :=
  text.flatMap String.utf8EncodeChar

/-- A digit is one byte on the wire. -/
theorem utf8_digit {value : Nat} (small : value < 16) :
    String.utf8EncodeChar (digit value) = [UInt8.ofNat (code value)] := by
  have ascii : (digit value).toNat < 128 ∧ (digit value).toNat = code value := by
    rcases value with _ | _ | _ | _ | _ | _ | _ | _ | _ | _ | _ | _ | _ | _ | _ | _ | value
    all_goals first | exact ⟨by decide, by decide⟩ | omega
  rw [← ascii.2]
  simp [String.utf8EncodeChar, Nat.lt_succ_iff.mp ascii.1]

theorem digitValue_code {value : Nat} (small : value < 16) :
    digitValue (UInt8.ofNat (code value)) = some value := by
  have number : (UInt8.ofNat (code value)).toNat = code value := by
    unfold code
    split
    · simp only [UInt8.toNat_ofNat']
      omega
    · simp only [UInt8.toNat_ofNat']
      omega
  unfold digitValue
  rw [number]
  unfold code
  split
  · rw [if_pos (by omega)]
    congr 1
    omega
  · rw [if_neg (by omega), if_pos (by omega)]
    congr 1
    omega

/-- Only the byte of a digit has a value. -/
theorem code_of_digitValue {byte : UInt8} {value : Nat} (reads : digitValue byte = some value) :
    value < 16 ∧ byte = UInt8.ofNat (code value) := by
  have number : value < 16 ∧ byte.toNat = code value := by
    unfold digitValue at reads
    unfold code
    split at reads
    · cases reads
      split <;> omega
    · split at reads
      · cases reads
        split <;> omega
      · cases reads
  refine ⟨number.1, ?_⟩
  rw [← number.2]
  exact UInt8.ofNat_toNat.symm

@[simp] theorem encode_nil : encode [] = [] := rfl

theorem encode_cons (byte : UInt8) (rest : List UInt8) :
    encode (byte :: rest) =
      digit (byte.toNat / 16) :: digit (byte.toNat % 16) :: encode rest := rfl

theorem length_encode (bytes : List UInt8) : (encode bytes).length = 2 * bytes.length := by
  induction bytes with
  | nil => rfl
  | cons byte rest ih =>
      simp only [encode_cons, List.length_cons, ih]
      omega

/-- A text is its bytes. -/
theorem utf8_injective {first second : String} (same : utf8 first.toList = utf8 second.toList) :
    first = second := by
  have encoded : first.toList.utf8Encode = second.toList.utf8Encode := by
    unfold List.utf8Encode
    exact congrArg List.toByteArray same
  rw [String.utf8Encode_toList, String.utf8Encode_toList] at encoded
  exact String.toByteArray_inj.mp encoded

end Hex
