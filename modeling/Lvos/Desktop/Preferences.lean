import Lvos.Core.Layout
import Lvos.Desktop.UiSession
import Lvos.Lib.Utf8
import Lvos.Lib.Volume
import Lvos.Platform.HotKey
import Mathlib.Algebra.GroupWithZero.Nat

set_option autoImplicit false

namespace Lvos.Desktop

open Lvos.Core (trim isWhitespace)
open Lvos.Platform (parseHotkey)

def popupIdleTimeoutKey : String := "popup_idle_timeout_secs"
def launchMinimizedKey : String := "launch-minimized"
def globalHotkeyKey : String := "global-hotkey"

/-! The store: a file for each preference, in one folder. -/

namespace LocalPreferenceStore

/-- `path`, in the root of the store. -/
def path (name : String) : Option String :=
  let plain (byte : UInt8) : Bool :=
    (Char.ofUInt8 byte).isAlphanum || byte = '-'.toUInt8 || byte = '_'.toUInt8
  if name ≠ "" ∧ (Hex.utf8 name.toList).all plain then some (name ++ ".txt") else none

/-- `load_text`, of what `fs::read` gives: nothing for a file that is missing or not readable. -/
def loadText (read : String → Option (List UInt8)) (name : String) : Option (List Char) := do
  let file ← path name
  let bytes ← read file
  Utf8.decode bytes

/-- The write that `save_text` asks of `atomic_write`; none for an invalid name. -/
def saveText (name : String) (value : List Char) : Option (String × List UInt8) :=
  (path name).map fun file => (file, Hex.utf8 value)

def saveBoolean (name : String) (value : Bool) : Option (String × List UInt8) :=
  saveText name (if value then "true" else "false").toList

end LocalPreferenceStore

open LocalPreferenceStore

structure UiPreferences where
  popupIdleTimeoutSecs : Nat
  launchMinimized : Bool
deriving DecidableEq

inductive UiPreferenceError
  | invalidPopupIdleTimeout (value : Nat)
  | malformedPopupIdleTimeout (text : List Char)
  | persistence
deriving DecidableEq

/-- `str::parse::<u32>`. -/
def parseU32 (text : List Char) : Option Nat :=
  let digits := if text.head? = some '+' then text.tail else text
  let value := Nat.ofDigitChars 10 digits 0
  if digits ≠ [] ∧ digits.all Char.isDigit ∧ value < 2 ^ 32 then some value else none

def validatePopupIdleTimeout (value : Nat) : Except UiPreferenceError Nat :=
  if value ≤ maxPopupIdleTimeoutSecs then .ok value else .error (.invalidPopupIdleTimeout value)

namespace UiPreferences

def default : UiPreferences := ⟨defaultPopupIdleTimeoutSecs, true⟩

/-- `launch_minimized` of `load`: other texts mean the default. -/
def launchMinimizedOf : Option (List Char) → Bool
  | some value =>
      if trim value = "false".toList then false
      else if trim value = "true".toList then true
      else default.launchMinimized
  | none => default.launchMinimized

def load (read : String → Option (List UInt8)) : Except UiPreferenceError UiPreferences := do
  let popupIdleTimeoutSecs ←
    match loadText read popupIdleTimeoutKey with
    | some value =>
        match parseU32 (trim value) with
        | none => .error (.malformedPopupIdleTimeout (trim value))
        | some parsed => validatePopupIdleTimeout parsed
    | none => .ok default.popupIdleTimeoutSecs
  return ⟨popupIdleTimeoutSecs, launchMinimizedOf (loadText read launchMinimizedKey)⟩

/-- The write that `save_popup_idle_timeout` asks for. -/
def savePopupIdleTimeout (value : Nat) : Except UiPreferenceError (String × List UInt8) := do
  let value ← validatePopupIdleTimeout value
  match saveText popupIdleTimeoutKey (Nat.toDigits 10 value) with
  | none => .error .persistence
  | some write => .ok write

end UiPreferences

/-- `load_ui_preferences` of the Agent. -/
def loadUiPreferences (read : String → Option (List UInt8)) : UiPreferences :=
  match UiPreferences.load read with
  | .ok preferences => preferences
  | .error _ => .default

def defaultHotkey : List Char := "Alt+D".toList

/-- `load_platform_hotkey`, on Windows. -/
def loadPlatformHotkey (read : String → Option (List UInt8)) : List Char :=
  ((loadText read globalHotkeyKey).filter fun value => (parseHotkey value).isSome).getD
    defaultHotkey

/-! What is saved is loaded. -/

def popupIdleTimeoutFile : String := "popup_idle_timeout_secs.txt"
def launchMinimizedFile : String := "launch-minimized.txt"
def globalHotkeyFile : String := "global-hotkey.txt"

theorem path_popupIdleTimeout : path popupIdleTimeoutKey = some popupIdleTimeoutFile := by decide

theorem path_launchMinimized : path launchMinimizedKey = some launchMinimizedFile := by decide

theorem path_globalHotkey : path globalHotkeyKey = some globalHotkeyFile := by decide

variable {read : String → Option (List UInt8)} {name file : String}

theorem loadText_eq (names : path name = some file) :
    loadText read name = (read file).bind Utf8.decode := by
  rw [loadText, names]
  rfl

theorem loadText_none (names : path name = some file) (missing : read file = none) :
    loadText read name = none := by
  rw [loadText_eq names, missing, Option.bind_none]

theorem loadText_some {text : List Char} (names : path name = some file)
    (saved : read file = some (Hex.utf8 text)) : loadText read name = some text := by
  rw [loadText_eq names, saved, Option.bind_some, Utf8.decode_utf8]

theorem digit_solid {text : List Char} (digits : ∀ character ∈ text, character.isDigit = true) :
    Words.Solid isWhitespace text := by
  intro character member
  have digit := digits character member
  simp only [Char.isDigit, Bool.and_eq_true, decide_eq_true_eq, UInt32.le_iff_toNat_le,
    ge_iff_le] at digit
  change 48 ≤ character.toNat ∧ character.toNat ≤ 57 at digit
  simp only [isWhitespace, Bool.or_eq_false_iff, Bool.and_eq_false_iff, decide_eq_false_iff_not]
  omega

/-- A number reads back from its decimal digits. -/
theorem parseU32_toDigits {value : Nat} (small : value < 2 ^ 32) :
    parseU32 (trim (Nat.toDigits 10 value)) = some value := by
  have digits : ∀ character ∈ Nat.toDigits 10 value, character.isDigit = true :=
    fun _ member => Nat.isDigit_of_mem_toDigits (by decide) (by decide) member
  have unsigned : (Nat.toDigits 10 value).head? ≠ some '+' := by
    intro plus
    have := digits '+' (List.mem_of_mem_head? plus)
    revert this
    decide
  have all : (Nat.toDigits 10 value).all Char.isDigit = true := List.all_eq_true.mpr digits
  rw [Core.trim_eq, Words.strip_solid (digit_solid digits)]
  simp only [parseU32, unsigned, ↓reduceIte, Nat.ofDigitChars_ten_toDigits]
  rw [if_pos ⟨Nat.toDigits_ne_nil, all, small⟩]

/-! What the files of a store stand for. -/

structure StoredPreferences where
  popupIdleTimeoutSecs : Option Nat
  launchMinimized : Option Bool
  globalHotkey : Option (List Char)
  bounded : ∀ seconds ∈ popupIdleTimeoutSecs, seconds ≤ maxPopupIdleTimeoutSecs
  parsed : ∀ text ∈ globalHotkey, (parseHotkey text).isSome = true

namespace StoredPreferences

def preferences (stored : StoredPreferences) : UiPreferences where
  popupIdleTimeoutSecs := stored.popupIdleTimeoutSecs.getD defaultPopupIdleTimeoutSecs
  launchMinimized := stored.launchMinimized.getD true

def hotkey (stored : StoredPreferences) : List Char := stored.globalHotkey.getD defaultHotkey

/-- The files say what is stored. -/
structure Tells (stored : StoredPreferences) (read : String → Option (List UInt8)) : Prop where
  popupIdleTimeoutSecs : read popupIdleTimeoutFile =
    stored.popupIdleTimeoutSecs.map fun seconds => Hex.utf8 (Nat.toDigits 10 seconds)
  launchMinimized : read launchMinimizedFile =
    stored.launchMinimized.map fun enabled => Hex.utf8 (if enabled then "true" else "false").toList
  globalHotkey : read globalHotkeyFile = stored.globalHotkey.map Hex.utf8

variable {stored : StoredPreferences}

/-- Such files are never malformed, and each gives what was stored in it. -/
theorem Tells.load (tells : stored.Tells read) :
    UiPreferences.load read = .ok stored.preferences := by
  have timeout : ∀ seconds, stored.popupIdleTimeoutSecs = some seconds →
      loadText read popupIdleTimeoutKey = some (Nat.toDigits 10 seconds) := by
    intro seconds saved
    apply loadText_some path_popupIdleTimeout
    rw [tells.popupIdleTimeoutSecs, saved, Option.map_some]
  have enabled : ∀ enabled, stored.launchMinimized = some enabled →
      loadText read launchMinimizedKey = some (if enabled then "true" else "false").toList := by
    intro enabled saved
    apply loadText_some path_launchMinimized
    rw [tells.launchMinimized, saved, Option.map_some]
  have minimized : UiPreferences.launchMinimizedOf (loadText read launchMinimizedKey) =
      stored.launchMinimized.getD true := by
    cases saved : stored.launchMinimized with
    | none =>
        rw [loadText_none path_launchMinimized (by rw [tells.launchMinimized, saved]; rfl)]
        rfl
    | some value =>
        rw [enabled value saved]
        cases value <;> decide
  unfold UiPreferences.load
  rw [minimized]
  cases saved : stored.popupIdleTimeoutSecs with
  | none =>
      rw [loadText_none path_popupIdleTimeout (by rw [tells.popupIdleTimeoutSecs, saved]; rfl),
        preferences, saved]
      rfl
  | some seconds =>
      have bounded := stored.bounded seconds saved
      have small : seconds < 2 ^ 32 := Nat.lt_of_le_of_lt bounded (by decide)
      simp only [timeout seconds saved, parseU32_toDigits small, validatePopupIdleTimeout, bounded,
        ↓reduceIte, preferences, saved]
      rfl

theorem Tells.loadUiPreferences (tells : stored.Tells read) :
    loadUiPreferences read = stored.preferences := by
  rw [Desktop.loadUiPreferences, tells.load]

theorem Tells.loadPlatformHotkey (tells : stored.Tells read) :
    loadPlatformHotkey read = stored.hotkey := by
  cases saved : stored.globalHotkey with
  | none =>
      rw [Desktop.loadPlatformHotkey,
        loadText_none path_globalHotkey (by rw [tells.globalHotkey, saved]; rfl), hotkey, saved]
      rfl
  | some text =>
      have parsed := stored.parsed text saved
      rw [Desktop.loadPlatformHotkey,
        loadText_some path_globalHotkey (by rw [tells.globalHotkey, saved]; rfl), hotkey, saved]
      simp only [Option.filter, parsed, ↓reduceIte, Option.getD_some]

end StoredPreferences

end Lvos.Desktop
