import Lvos.Core.Layout

set_option autoImplicit false

namespace Lvos.Platform

open Lvos.Core (trim isWhitespace)

inductive PlatformError
  | conflict
  | integrationFailure
deriving DecidableEq

structure Modifiers where
  alt : Bool
  control : Bool
  shift : Bool
  super : Bool
deriving DecidableEq

def Modifiers.empty : Modifiers := ⟨false, false, false, false⟩

/-- A shortcut with its upper-case letter. The `id` that registrations go by is made of both. -/
structure HotKey where
  modifiers : Modifiers
  key : Char
deriving DecidableEq

def addModifier (modifiers : Modifiers) (part : List Char) : Option Modifiers :=
  match String.ofList (part.map Char.toLower) with
  | "alt" => some { modifiers with alt := true }
  | "ctrl" => some { modifiers with control := true }
  | "control" => some { modifiers with control := true }
  | "shift" => some { modifiers with shift := true }
  | "win" => some { modifiers with super := true }
  | "super" => some { modifiers with super := true }
  | _ => none

/-- `code_for_ascii_letter` of the part's only byte. -/
def codeForAsciiLetter : List Char → Option Char
  | [letter] => if letter.isAlpha then some letter.toUpper else none
  | _ => none

def parseParts (modifiers : Modifiers) : List (List Char) → Option HotKey
  | [] => none
  | [last] => (codeForAsciiLetter last).map fun key => ⟨modifiers, key⟩
  | part :: next :: rest =>
      (addModifier modifiers part).bind fun more => parseParts more (next :: rest)

/-- `parse_hotkey`; its only error is `IntegrationFailure`. -/
def parseHotkey (value : List Char) : Option HotKey :=
  let parts := (value.splitOn '+').map trim
  if parts.length < 2 then none else parseParts .empty parts

example : parseHotkey " Control +sHIFT+ k".toList = some ⟨⟨false, true, true, false⟩, 'K'⟩ := by
  decide

example : parseHotkey "Alt+".toList = none := by decide

/-- A shortcut is read the same when it is saved without the white space around it. -/
theorem parseHotkey_trim (value : List Char) : parseHotkey (trim value) = parseHotkey value := by
  have blank : isWhitespace '+' = false := by decide
  have same := Words.parts_strip blank value
  have parts : ((trim value).splitOn '+').map trim = (value.splitOn '+').map trim := same
  simp only [parseHotkey, parts]

/-! The registrations of the system, where each shortcut has at most one owner. -/

structure Registrations where
  own : List HotKey
  others : List HotKey

namespace Registrations

variable {registrations : Registrations}

/-- `GlobalHotKeyManager::register`, which the system may also refuse. -/
def register (registrations : Registrations) (hotkey : HotKey) (accepted : Bool) :
    Option Registrations :=
  if accepted ∧ hotkey ∉ registrations.own ∧ hotkey ∉ registrations.others then
    some { registrations with own := hotkey :: registrations.own }
  else none

def unregister (registrations : Registrations) (hotkey : HotKey) (accepted : Bool) :
    Option Registrations :=
  if accepted ∧ hotkey ∈ registrations.own then
    some { registrations with own := registrations.own.erase hotkey }
  else none

/-- Another program takes a shortcut that is free. -/
def take (registrations : Registrations) (hotkey : HotKey) : Option Registrations :=
  if hotkey ∉ registrations.own ∧ hotkey ∉ registrations.others then
    some { registrations with others := hotkey :: registrations.others }
  else none

def release (registrations : Registrations) (hotkey : HotKey) : Registrations :=
  { registrations with others := registrations.others.erase hotkey }

/-- What ends with a process. -/
def dropOwn (registrations : Registrations) : Registrations := { registrations with own := [] }

structure Exclusive (registrations : Registrations) : Prop where
  once : registrations.own.Nodup
  apart : ∀ hotkey ∈ registrations.own, hotkey ∉ registrations.others

theorem register_eq {hotkey : HotKey} {accepted : Bool} {next : Registrations}
    (registered : registrations.register hotkey accepted = some next) :
    (hotkey ∉ registrations.own ∧ hotkey ∉ registrations.others) ∧
      next = { registrations with own := hotkey :: registrations.own } := by
  obtain ⟨free, same⟩ := Option.ite_none_right_eq_some.mp registered
  cases same
  exact ⟨free.2, rfl⟩

theorem unregister_eq {hotkey : HotKey} {accepted : Bool} {next : Registrations}
    (unregistered : registrations.unregister hotkey accepted = some next) :
    next = { registrations with own := registrations.own.erase hotkey } := by
  obtain ⟨_, same⟩ := Option.ite_none_right_eq_some.mp unregistered
  cases same
  rfl

theorem take_own {hotkey : HotKey} {next : Registrations}
    (taken : registrations.take hotkey = some next) : next.own = registrations.own := by
  obtain ⟨_, same⟩ := Option.ite_none_right_eq_some.mp taken
  cases same
  rfl

theorem Exclusive.register {hotkey : HotKey} {accepted : Bool} {next : Registrations}
    (exclusive : Exclusive registrations)
    (registered : registrations.register hotkey accepted = some next) : Exclusive next := by
  obtain ⟨⟨new, free⟩, rfl⟩ := register_eq registered
  refine ⟨List.nodup_cons.mpr ⟨new, exclusive.once⟩, ?_⟩
  intro other among
  rcases List.mem_cons.mp among with rfl | former
  · exact free
  · exact exclusive.apart other former

theorem Exclusive.unregister {hotkey : HotKey} {accepted : Bool} {next : Registrations}
    (exclusive : Exclusive registrations)
    (unregistered : registrations.unregister hotkey accepted = some next) : Exclusive next := by
  rw [unregister_eq unregistered]
  exact ⟨exclusive.once.erase hotkey, fun other among =>
    exclusive.apart other (List.mem_of_mem_erase among)⟩

theorem Exclusive.take {hotkey : HotKey} {next : Registrations}
    (exclusive : Exclusive registrations) (taken : registrations.take hotkey = some next) :
    Exclusive next := by
  obtain ⟨free, same⟩ := Option.ite_none_right_eq_some.mp taken
  cases same
  refine ⟨exclusive.once, fun other among => ?_⟩
  rw [List.mem_cons, not_or]
  exact ⟨fun same => free.1 (same ▸ among), exclusive.apart other among⟩

theorem Exclusive.release (exclusive : Exclusive registrations) (hotkey : HotKey) :
    Exclusive (registrations.release hotkey) :=
  ⟨exclusive.once, fun other among taken =>
    exclusive.apart other among (List.mem_of_mem_erase taken)⟩

theorem Exclusive.dropOwn : Exclusive registrations.dropOwn :=
  ⟨List.nodup_nil, fun _ among => absurd among List.not_mem_nil⟩

end Registrations

/-- What the system answers to the calls of one `update`. -/
structure UpdateAnswers where
  registers : Bool
  unregisters : Bool
  reverts : Bool

/-- `WindowsHotKey::register`. -/
def registerHotkey (registrations : Registrations) (shortcut : List Char) (accepted : Bool) :
    Except PlatformError (HotKey × Registrations) :=
  match parseHotkey shortcut with
  | none => .error .integrationFailure
  | some hotkey =>
      match registrations.register hotkey accepted with
      | none => .error .conflict
      | some registered => .ok (hotkey, registered)

theorem registerHotkey_ok {registrations after : Registrations} {shortcut : List Char}
    {accepted : Bool} {hotkey : HotKey}
    (registered : registerHotkey registrations shortcut accepted = .ok (hotkey, after)) :
    parseHotkey shortcut = some hotkey ∧ registrations.register hotkey accepted = some after := by
  unfold registerHotkey at registered
  split at registered
  · cases registered
  · rename_i parsed
    split at registered
    · cases registered
    · rename_i owns
      cases registered
      exact ⟨parsed, owns⟩

/-- `WindowsHotKey::update`, with the shortcut it leaves active. -/
def update (registrations : Registrations) (active : HotKey) (shortcut : List Char)
    (answers : UpdateAnswers) : Except PlatformError Unit × HotKey × Registrations :=
  match parseHotkey shortcut with
  | none => (.error .integrationFailure, active, registrations)
  | some replacement =>
      if replacement = active then (.ok (), active, registrations)
      else
        match registrations.register replacement answers.registers with
        | none => (.error .conflict, active, registrations)
        | some both =>
            match both.unregister active answers.unregisters with
            | none =>
                (.error .integrationFailure, active,
                  (both.unregister replacement answers.reverts).getD both)
            | some moved => (.ok (), replacement, moved)

/-- What one update can do. -/
inductive Updated (registrations : Registrations) (active : HotKey) (shortcut : List Char)
    (answers : UpdateAnswers) : Except PlatformError Unit → HotKey → Registrations → Prop
  | refused (error : PlatformError) :
      Updated registrations active shortcut answers (.error error) active registrations
  | same (parsed : parseHotkey shortcut = some active) :
      Updated registrations active shortcut answers (.ok ()) active registrations
  | kept (replacement : HotKey) (both : Registrations) (distinct : replacement ≠ active)
      (registered : registrations.register replacement answers.registers = some both) :
      Updated registrations active shortcut answers (.error .integrationFailure) active
        ((both.unregister replacement answers.reverts).getD both)
  | replaced (replacement : HotKey) (both moved : Registrations) (distinct : replacement ≠ active)
      (parsed : parseHotkey shortcut = some replacement)
      (registered : registrations.register replacement answers.registers = some both)
      (unregistered : both.unregister active answers.unregisters = some moved) :
      Updated registrations active shortcut answers (.ok ()) replacement moved

theorem update_cases (registrations : Registrations) (active : HotKey) (shortcut : List Char)
    (answers : UpdateAnswers) :
    Updated registrations active shortcut answers
      (update registrations active shortcut answers).1
      (update registrations active shortcut answers).2.1
      (update registrations active shortcut answers).2.2 := by
  unfold update
  split
  · exact .refused _
  · rename_i replacement parsed
    split
    · rename_i same
      exact .same (same ▸ parsed)
    · rename_i distinct
      split
      · exact .refused _
      · rename_i both registered
        split
        · exact .kept replacement both distinct registered
        · rename_i moved unregistered
          exact .replaced replacement both moved distinct parsed registered unregistered

variable {registrations after : Registrations} {active now : HotKey} {shortcut : List Char}
  {answers : UpdateAnswers} {result : Except PlatformError Unit}

/-- An update that succeeds leaves the shortcut it was given active. -/
theorem Updated.parsed
    (updated : Updated registrations active shortcut answers (.ok ()) now after) :
    parseHotkey shortcut = some now := by
  cases updated with
  | same parsed => exact parsed
  | replaced _ _ _ _ parsed _ _ => exact parsed

/-- One that fails leaves the former. -/
theorem Updated.stays
    (updated : Updated registrations active shortcut answers result now after)
    (failed : result ≠ .ok ()) : now = active := by
  cases updated with
  | refused error => rfl
  | same parsed => rfl
  | kept replacement both distinct registered => rfl
  | replaced _ _ _ _ _ _ _ => exact absurd rfl failed

/-- There is no moment without the active shortcut, and none when another program has it too. -/
theorem Updated.registered
    (updated : Updated registrations active shortcut answers result now after)
    (exclusive : registrations.Exclusive) (held : active ∈ registrations.own) :
    after.Exclusive ∧ now ∈ after.own := by
  cases updated with
  | refused error => exact ⟨exclusive, held⟩
  | same parsed => exact ⟨exclusive, held⟩
  | kept replacement both distinct registered =>
      have two := exclusive.register registered
      obtain ⟨_, rfl⟩ := Registrations.register_eq registered
      cases reverted : Registrations.unregister
          { registrations with own := replacement :: registrations.own } replacement
          answers.reverts with
      | none => exact ⟨two, List.mem_cons_of_mem _ held⟩
      | some back =>
          refine ⟨two.unregister reverted, ?_⟩
          rw [Option.getD_some, Registrations.unregister_eq reverted]
          simpa using held
  | replaced replacement both moved distinct parsed registered unregistered =>
      have two := exclusive.register registered
      obtain ⟨_, rfl⟩ := Registrations.register_eq registered
      refine ⟨two.unregister unregistered, ?_⟩
      rw [Registrations.unregister_eq unregistered]
      exact (List.mem_erase_of_ne distinct).mpr List.mem_cons_self

/-- Nothing but the active shortcut stays registered, unless the system also refuses to take the
replacement back. -/
theorem Updated.alone (updated : Updated registrations active shortcut answers result now after)
    (alone : registrations.own = [active]) (reverts : answers.reverts = true) :
    after.own = [now] := by
  cases updated with
  | refused error => exact alone
  | same parsed => exact alone
  | kept replacement both distinct registered =>
      obtain ⟨_, rfl⟩ := Registrations.register_eq registered
      simp [Registrations.unregister, reverts, alone]
  | replaced replacement both moved distinct parsed registered unregistered =>
      obtain ⟨_, rfl⟩ := Registrations.register_eq registered
      rw [Registrations.unregister_eq unregistered, alone]
      simp [distinct]

end Lvos.Platform
