import Mathlib.Data.List.GetD
import Mathlib.Logic.Function.Basic
import Lvos.Lib.Transition

set_option autoImplicit false

namespace Volume

/-- A name in a folder: a file, or the temporary file of the writer with this number. -/
inductive Entry (ν : Type)
  | file (name : ν)
  | temporary (number : Nat)
deriving DecidableEq

/-- The bytes of a file, and whether all of them are on the disk. -/
structure Node where
  bytes : List UInt8
  synced : Bool

/-- What names stand for. `past` is what a name stood for since the last power loss: the folder
itself is never flushed, so a power loss may bring any of it back. -/
structure Disk (ν : Type) where
  entries : Entry ν → Option Nat
  past : Entry ν → List (Option Nat)
  nodes : Nat → Node
  fresh : Nat

/-- How far a writer is with its temporary file. -/
inductive Stage
  | preparing
  | creating
  | writing (node : Nat) (rest : List UInt8)
  | syncing (node : Nat)
  | replacing (node : Nat)
  | removing
  | finished (success : Bool)
  | stopped

structure Writer (ν : Type) where
  target : ν
  bytes : List UInt8
  stage : Stage

/-- A folder with all the writers there have been. -/
structure Folder (ν : Type) where
  disk : Disk ν
  writers : List (Writer ν)

variable {ν : Type}

section Calls

variable [DecidableEq ν]

namespace Disk

def empty : Disk ν := ⟨fun _ => none, fun _ => [], fun _ => ⟨[], true⟩, 0⟩

def point (disk : Disk ν) (entry : Entry ν) (value : Option Nat) : Disk ν :=
  { disk with
    entries := Function.update disk.entries entry value
    past := Function.update disk.past entry (disk.entries entry :: disk.past entry) }

def create (disk : Disk ν) (entry : Entry ν) : Disk ν :=
  ({ disk with
    nodes := Function.update disk.nodes disk.fresh ⟨[], false⟩
    fresh := disk.fresh + 1 } : Disk ν).point entry (some disk.fresh)

def append (disk : Disk ν) (node : Nat) (bytes : List UInt8) : Disk ν :=
  { disk with
    nodes := Function.update disk.nodes node ⟨(disk.nodes node).bytes ++ bytes, false⟩ }

def sync (disk : Disk ν) (node : Nat) : Disk ν :=
  { disk with nodes := Function.update disk.nodes node ⟨(disk.nodes node).bytes, true⟩ }

/-- Replaces `target` by `source`. -/
def rename (disk : Disk ν) (source target : Entry ν) : Option (Disk ν) :=
  match disk.entries source with
  | none => none
  | some node => some ((disk.point target (some node)).point source none)

def read (disk : Disk ν) (name : ν) : Option (List UInt8) :=
  (disk.entries (.file name)).map fun node => (disk.nodes node).bytes

/-- A power loss takes each name `back` to one of the things it stood for, and leaves anything in
a file that was not flushed. -/
def powerLoss (disk : Disk ν) (back : Entry ν → Nat) (garbage : Nat → List UInt8) : Disk ν :=
  { disk with
    entries := fun entry =>
      (disk.entries entry :: disk.past entry).getD (back entry) (disk.entries entry)
    past := fun _ => []
    nodes := fun node =>
      if (disk.nodes node).synced then disk.nodes node else ⟨garbage node, true⟩ }

end Disk

/-- One system call of a writer. An outcome of `none` is a call that fails; a write that does not
fail may write any number of bytes, but at least one. -/
def Writer.advance (writer : Writer ν) (number : Nat) (disk : Disk ν) :
    Stage → Option Nat → Option (Disk ν × Stage)
  | .preparing, some _ => some (disk, .creating)
  | .preparing, none => some (disk, .finished false)
  | .creating, some _ =>
      match disk.entries (.temporary number) with
      | some _ => some (disk, .removing)
      | none => some (disk.create (.temporary number), .writing disk.fresh writer.bytes)
  | .writing node [], some _ => some (disk, .syncing node)
  | .writing node (byte :: rest), some count =>
      some (disk.append node ((byte :: rest).take (count + 1)),
        .writing node ((byte :: rest).drop (count + 1)))
  | .syncing node, some _ => some (disk.sync node, .replacing node)
  | .replacing _, some _ =>
      match disk.rename (.temporary number) (.file writer.target) with
      | some replaced => some (replaced, .finished true)
      | none => some (disk, .removing)
  | .removing, some _ => some (disk.point (.temporary number) none, .finished false)
  | .removing, none => some (disk, .finished false)
  | .creating, none => some (disk, .removing)
  | .writing _ _, none => some (disk, .removing)
  | .syncing _, none => some (disk, .removing)
  | .replacing _, none => some (disk, .removing)
  | .finished _, _ => none
  | .stopped, _ => none

/-- A process that ends takes its writers along. -/
def Writer.stop (writer : Writer ν) : Writer ν :=
  match writer.stage with
  | .finished _ => writer
  | _ => { writer with stage := .stopped }

inductive Action (ν : Type)
  | save (target : ν) (bytes : List UInt8)
  | advance (number : Nat) (outcome : Option Nat)
  | crash
  | powerLoss (back : Entry ν → Nat) (garbage : Nat → List UInt8)

namespace Folder

def empty : Folder ν := ⟨.empty, []⟩

def read (folder : Folder ν) (name : ν) : Option (List UInt8) := folder.disk.read name

def step (folder : Folder ν) : Action ν → Option (Folder ν)
  | .save target bytes =>
      some { folder with writers := folder.writers ++ [⟨target, bytes, .preparing⟩] }
  | .advance number outcome => do
      let writer ← folder.writers[number]?
      let (disk, stage) ← writer.advance number folder.disk writer.stage outcome
      some ⟨disk, folder.writers.set number { writer with stage := stage }⟩
  | .crash => some { folder with writers := folder.writers.map Writer.stop }
  | .powerLoss back garbage =>
      some ⟨folder.disk.powerLoss back garbage, folder.writers.map Writer.stop⟩

end Folder

end Calls

/-! What the folder is for: a register for each name. -/

/-- Each name has a value, and the values it had since the last power loss. -/
structure Register (ν : Type) where
  current : ν → Option (List UInt8)
  earlier : ν → List (Option (List UInt8))

namespace Register

def assign [DecidableEq ν] (register : Register ν) (name : ν) (value : List UInt8) :
    Register ν where
  current := Function.update register.current name (some value)
  earlier := Function.update register.earlier name
    (register.current name :: register.earlier name)

/-- A power loss brings back an earlier value, whole, or leaves the current one. -/
def lose (register : Register ν) (back : ν → Nat) : Register ν where
  current name :=
    (register.current name :: register.earlier name).getD (back name) (register.current name)
  earlier _ := []

end Register

/-- The value of a node in an entry. -/
def Disk.value (disk : Disk ν) (entry : Option Nat) : Option (List UInt8) :=
  entry.map fun node => (disk.nodes node).bytes

def Folder.register (folder : Folder ν) : Register ν where
  current name := folder.disk.value (folder.disk.entries (.file name))
  earlier name := (folder.disk.past (.file name)).map folder.disk.value

/-! The folder keeps its promise -/

/-- What an entry may stand for after a power loss. -/
def Disk.possible (disk : Disk ν) (entry : Entry ν) : List (Option Nat) :=
  disk.entries entry :: disk.past entry

/-- The temporary file that a writer has open, and what it still has to write to it. -/
def Stage.holds : Stage → Option (Nat × List UInt8)
  | .writing node rest => some (node, rest)
  | .syncing node => some (node, [])
  | .replacing node => some (node, [])
  | _ => none

def Stage.ended : Stage → Bool
  | .finished _ => true
  | .stopped => true
  | _ => false

/-- Whatever a name stands for, or may again, is flushed; a writer has its temporary file for
itself, with the beginning of its bytes, and has flushed it before it replaces. -/
structure Intact (folder : Folder ν) : Prop where
  whole : ∀ {name : ν} {node : Nat}, some node ∈ folder.disk.possible (.file name) →
    node < folder.disk.fresh ∧ (folder.disk.nodes node).synced = true
  held : ∀ {number : Nat} {writer : Writer ν} {node : Nat} {rest : List UInt8},
    folder.writers[number]? = some writer → writer.stage.holds = some (node, rest) →
      folder.disk.entries (.temporary number) = some node ∧ node < folder.disk.fresh ∧
      (folder.disk.nodes node).bytes ++ rest = writer.bytes ∧
      ∀ name, some node ∉ folder.disk.possible (.file name)
  apart : ∀ {first second : Nat} {one other : Writer ν} {node : Nat} {rest more : List UInt8},
    folder.writers[first]? = some one → one.stage.holds = some (node, rest) →
    folder.writers[second]? = some other → other.stage.holds = some (node, more) →
      first = second
  flushed : ∀ {number : Nat} {writer : Writer ν} {node : Nat},
    folder.writers[number]? = some writer → writer.stage = .replacing node →
      (folder.disk.nodes node).synced = true

theorem intact_empty : Intact (Folder.empty : Folder ν) where
  whole := by simp [Folder.empty, Disk.empty, Disk.possible]
  held := by simp [Folder.empty]
  apart := by simp [Folder.empty]
  flushed := by simp [Folder.empty]

variable {folder next : Folder ν} {number : Nat} {writer : Writer ν} {disk : Disk ν}
  {stage : Stage}

theorem set_cases {other : Nat} {after found : Writer ν}
    (there : (folder.writers.set number after)[other]? = some found) :
    (other = number ∧ found = after) ∨ (other ≠ number ∧ folder.writers[other]? = some found) := by
  by_cases same : other = number
  · subst same
    have inside : other < folder.writers.length := by
      have := (List.getElem?_eq_some_iff.mp there).1
      rwa [List.length_set] at this
    rw [List.getElem?_set_self inside] at there
    cases there
    exact .inl ⟨rfl, rfl⟩
  · rw [List.getElem?_set_ne (Ne.symm same)] at there
    exact .inr ⟨same, there⟩

/-- A writer works on its own temporary file. -/
structure OnItsOwn (folder : Folder ν) (number : Nat) (writer : Writer ν) (disk : Disk ν)
    (stage : Stage) : Prop where
  files : ∀ name, disk.possible (.file name) = folder.disk.possible (.file name)
  others : ∀ other, other ≠ number →
    disk.entries (.temporary other) = folder.disk.entries (.temporary other)
  grows : folder.disk.fresh ≤ disk.fresh
  nodes : ∀ node, node < folder.disk.fresh → (∀ rest, writer.stage.holds ≠ some (node, rest)) →
    disk.nodes node = folder.disk.nodes node
  holds : ∀ node rest, stage.holds = some (node, rest) →
    disk.entries (.temporary number) = some node ∧ node < disk.fresh ∧
    (disk.nodes node).bytes ++ rest = writer.bytes ∧
    (folder.disk.fresh ≤ node ∨ ∃ more, writer.stage.holds = some (node, more))
  flushed : ∀ node, stage = .replacing node → (disk.nodes node).synced = true

/-- A node that another writer or a file has is not touched. -/
theorem OnItsOwn.untouched (own : OnItsOwn folder number writer disk stage)
    (intact : Intact folder) (there : folder.writers[number]? = some writer) {name : ν}
    {node : Nat} (among : some node ∈ folder.disk.possible (.file name)) :
    disk.nodes node = folder.disk.nodes node :=
  own.nodes node (intact.whole among).1 fun _ holds => (intact.held there holds).2.2.2 name among

theorem OnItsOwn.intact (own : OnItsOwn folder number writer disk stage) (intact : Intact folder)
    (there : folder.writers[number]? = some writer) :
    Intact ⟨disk, folder.writers.set number { writer with stage := stage }⟩ where
  whole := by
    intro name node among
    have former : some node ∈ folder.disk.possible (.file name) := by
      rw [← own.files]
      exact among
    rw [own.untouched intact there former]
    exact ⟨Nat.lt_of_lt_of_le (intact.whole former).1 own.grows, (intact.whole former).2⟩
  held := by
    intro other found node rest present holds
    rcases set_cases present with ⟨rfl, rfl⟩ | ⟨distinct, former⟩
    · obtain ⟨entry, below, bytes, whence⟩ := own.holds node rest holds
      refine ⟨entry, below, bytes, fun name among => ?_⟩
      have before : some node ∈ folder.disk.possible (.file name) := by
        rw [← own.files]
        exact among
      rcases whence with beyond | ⟨more, held⟩
      · have := (intact.whole before).1
        omega
      · exact (intact.held there held).2.2.2 name before
    · obtain ⟨entry, below, bytes, free⟩ := intact.held former holds
      have same : disk.nodes node = folder.disk.nodes node :=
        own.nodes node below fun more clash =>
          distinct (intact.apart former holds there clash)
      refine ⟨(own.others other distinct).trans entry, Nat.lt_of_lt_of_le below own.grows, ?_, ?_⟩
      · rw [show (Folder.disk _).nodes node = _ from same]
        exact bytes
      · intro name among
        apply free name
        rw [← own.files]
        exact among
  apart := by
    intro first second one other node rest more present holds presence held
    rcases set_cases present with ⟨rfl, rfl⟩ | ⟨distinct, former⟩ <;>
      rcases set_cases presence with ⟨rfl, rfl⟩ | ⟨distinct', former'⟩
    · rfl
    · obtain ⟨_, _, _, whence⟩ := own.holds node rest holds
      rcases whence with beyond | ⟨_, before⟩
      · have := (intact.held former' held).2.1
        omega
      · exact intact.apart there before former' held
    · obtain ⟨_, _, _, whence⟩ := own.holds node more held
      rcases whence with beyond | ⟨_, before⟩
      · have := (intact.held former holds).2.1
        omega
      · exact intact.apart former holds there before
    · exact intact.apart former holds former' held
  flushed := by
    intro other found node present replaces
    rcases set_cases present with ⟨rfl, rfl⟩ | ⟨distinct, former⟩
    · exact own.flushed node replaces
    · have holds : found.stage.holds = some (node, []) := by rw [replaces]; rfl
      have same : disk.nodes node = folder.disk.nodes node :=
        own.nodes node (intact.held former holds).2.1 fun more clash =>
          distinct (intact.apart former holds there clash)
      rw [show (Folder.disk _).nodes node = _ from same]
      exact intact.flushed former replaces

/-- The registers depend on the nodes that the names stand for. -/
theorem register_congr (files : ∀ name, disk.possible (.file name) =
      folder.disk.possible (.file name))
    (nodes : ∀ {name node}, some node ∈ folder.disk.possible (.file name) →
      (disk.nodes node).bytes = (folder.disk.nodes node).bytes) (writers : List (Writer ν)) :
    Folder.register ⟨disk, writers⟩ = folder.register := by
  have value : ∀ name, ∀ entry ∈ folder.disk.possible (.file name),
      disk.value entry = folder.disk.value entry := by
    intro name entry among
    cases entry with
    | none => rfl
    | some node => exact congrArg some (nodes among)
  have entries : ∀ name, disk.entries (.file name) = folder.disk.entries (.file name) :=
    fun name => (List.cons.inj (files name)).1
  have past : ∀ name, disk.past (.file name) = folder.disk.past (.file name) :=
    fun name => (List.cons.inj (files name)).2
  unfold Folder.register
  congr 1
  · funext name
    rw [entries name]
    exact value name _ List.mem_cons_self
  · funext name
    rw [past name]
    exact List.map_congr_left fun entry among => value name entry (List.mem_cons_of_mem _ among)

section Steps

variable [DecidableEq ν]

theorem possible_point (disk : Disk ν) (entry : Entry ν) (value : Option Nat) (name : ν)
    (apart : entry ≠ .file name) :
    (disk.point entry value).possible (.file name) = disk.possible (.file name) := by
  simp only [Disk.possible, Disk.point, Function.update_of_ne apart.symm]

/-- Every call of a writer but the replacement is on its own file. -/
theorem advance_own (intact : Intact folder) (there : folder.writers[number]? = some writer)
    {outcome : Option Nat}
    (taken : writer.advance number folder.disk writer.stage outcome = some (disk, stage))
    (keeps : ∀ node, writer.stage ≠ .replacing node ∨ outcome = none) :
    OnItsOwn folder number writer disk stage := by
  have idle : ∀ {after : Stage}, after.holds = none → (∀ node, after ≠ .replacing node) →
      OnItsOwn folder number writer folder.disk after := by
    intro after holds replaces
    refine ⟨fun _ => rfl, fun _ _ => rfl, Nat.le_refl _, fun _ _ _ => rfl, ?_, ?_⟩
    · intro node rest held
      rw [holds] at held
      cases held
    · intro node same
      exact absurd same (replaces node)
  cases at_ : writer.stage with
  | preparing =>
      rw [at_] at taken
      cases outcome <;> cases taken <;> exact idle rfl (by simp)
  | creating =>
      rw [at_] at taken
      cases outcome with
      | none =>
          cases taken
          exact idle rfl (by simp)
      | some count =>
          simp only [Writer.advance] at taken
          split at taken
          · cases taken
            exact idle rfl (by simp)
          · cases taken
            refine ⟨fun name => possible_point _ _ _ _ (by simp), ?_, Nat.le_succ _, ?_, ?_, ?_⟩
            · intro other distinct
              simp [Disk.create, Disk.point, distinct]
            · intro node below _
              exact Function.update_of_ne (Nat.ne_of_lt below) _ _
            · intro node rest held
              cases held
              refine ⟨?_, Nat.lt_succ_self _, ?_, .inl (Nat.le_refl _)⟩
              · simp [Disk.create, Disk.point]
              · simp [Disk.create, Disk.point]
            · intro node same
              cases same
  | writing node rest =>
      rw [at_] at taken
      have holds : writer.stage.holds = some (node, rest) := by rw [at_]; rfl
      obtain ⟨entry, below, bytes, free⟩ := intact.held there holds
      cases outcome with
      | none =>
          cases rest <;> cases taken <;> exact idle rfl (by simp)
      | some count =>
          cases rest with
          | nil =>
              cases taken
              refine ⟨fun _ => rfl, fun _ _ => rfl, Nat.le_refl _, fun _ _ _ => rfl, ?_, by simp⟩
              intro held more same
              cases same
              exact ⟨entry, below, bytes, .inr ⟨_, holds⟩⟩
          | cons byte rest =>
              cases taken
              refine ⟨fun _ => rfl, fun _ _ => rfl, Nat.le_refl _, ?_, ?_, by simp⟩
              · intro other _ apart
                exact Function.update_of_ne (fun same => apart _ (same ▸ holds)) _ _
              · intro held more same
                cases same
                refine ⟨entry, below, ?_, .inr ⟨_, holds⟩⟩
                simp only [Disk.append, Function.update_self]
                rw [List.append_assoc, List.take_append_drop]
                exact bytes
  | syncing node =>
      rw [at_] at taken
      have holds : writer.stage.holds = some (node, []) := by rw [at_]; rfl
      obtain ⟨entry, below, bytes, free⟩ := intact.held there holds
      cases outcome with
      | none =>
          cases taken
          exact idle rfl (by simp)
      | some count =>
          cases taken
          refine ⟨fun _ => rfl, fun _ _ => rfl, Nat.le_refl _, ?_, ?_, ?_⟩
          · intro other _ apart
            exact Function.update_of_ne (fun same => apart _ (same ▸ holds)) _ _
          · intro held more same
            cases same
            refine ⟨entry, below, ?_, .inr ⟨_, holds⟩⟩
            simp only [Disk.sync, Function.update_self]
            exact bytes
          · intro held same
            cases same
            simp [Disk.sync]
  | replacing node =>
      rcases keeps node with clash | rfl
      · exact absurd at_ clash
      · rw [at_] at taken
        cases taken
        exact idle rfl (by simp)
  | removing =>
      rw [at_] at taken
      cases outcome with
      | none =>
          cases taken
          exact idle rfl (by simp)
      | some count =>
          cases taken
          refine ⟨fun name => possible_point _ _ _ _ (by simp), ?_, Nat.le_refl _,
            fun _ _ _ => rfl, ?_, ?_⟩
          · intro other distinct
            simp [Disk.point, distinct]
          · intro node rest held
            cases held
          · intro node same
            cases same
  | finished success =>
      rw [at_] at taken
      cases outcome <;> cases taken
  | stopped =>
      rw [at_] at taken
      cases outcome <;> cases taken

/-- The replacement makes the whole of the writer's bytes the value of its name. -/
theorem replaced (intact : Intact folder) (there : folder.writers[number]? = some writer)
    {node count : Nat} (replaces : writer.stage = .replacing node)
    (taken : writer.advance number folder.disk writer.stage (some count) = some (disk, stage)) :
    Intact ⟨disk, folder.writers.set number { writer with stage := stage }⟩ ∧
      stage = .finished true ∧
      Folder.register ⟨disk, folder.writers.set number { writer with stage := stage }⟩ =
        folder.register.assign writer.target writer.bytes := by
  have holds : writer.stage.holds = some (node, []) := by rw [replaces]; rfl
  obtain ⟨entry, below, bytes, free⟩ := intact.held there holds
  have synced := intact.flushed there replaces
  rw [replaces] at taken
  simp only [Writer.advance, Disk.rename, entry] at taken
  cases taken
  have files : ∀ name, ((folder.disk.point (.file writer.target) (some node)).point
      (.temporary number) none).possible (.file name) =
      if name = writer.target then some node :: folder.disk.possible (.file name)
      else folder.disk.possible (.file name) := by
    intro name
    rw [possible_point _ _ _ _ (by simp)]
    by_cases same : name = writer.target
    · subst same
      simp [Disk.possible, Disk.point]
    · rw [if_neg same, possible_point _ _ _ _ (by simpa using Ne.symm same)]
  have others : ∀ other, other ≠ number → ((folder.disk.point (.file writer.target)
      (some node)).point (.temporary number) none).entries (.temporary other) =
      folder.disk.entries (.temporary other) := by
    intro other distinct
    simp [Disk.point, distinct]
  have inside : ∀ {name other}, some other ∈ ((folder.disk.point (.file writer.target)
      (some node)).point (.temporary number) none).possible (.file name) →
      other = node ∨ some other ∈ folder.disk.possible (.file name) := by
    intro name other among
    rw [files] at among
    split at among
    · rcases List.mem_cons.mp among with same | former
      · exact .inl (Option.some.inj same)
      · exact .inr former
    · exact .inr among
  refine ⟨⟨?_, ?_, ?_, ?_⟩, rfl, ?_⟩
  · intro name other among
    rcases inside among with rfl | former
    · exact ⟨below, synced⟩
    · exact intact.whole former
  · intro other found held rest present holding
    rcases set_cases present with ⟨rfl, rfl⟩ | ⟨distinct, former⟩
    · cases holding
    · obtain ⟨entry', below', bytes', free'⟩ := intact.held former holding
      refine ⟨(others other distinct).trans entry', below', bytes', fun name among => ?_⟩
      rcases inside among with rfl | before
      · exact distinct (intact.apart former holding there holds)
      · exact free' name before
  · intro first second one other held rest more present holding presence clinging
    rcases set_cases present with ⟨rfl, rfl⟩ | ⟨_, former⟩
    · cases holding
    · rcases set_cases presence with ⟨rfl, rfl⟩ | ⟨_, former'⟩
      · cases clinging
      · exact intact.apart former holding former' clinging
  · intro other found held present replacing
    rcases set_cases present with ⟨rfl, rfl⟩ | ⟨_, former⟩
    · cases replacing
    · exact intact.flushed former replacing
  · rw [List.append_nil] at bytes
    have value : folder.disk.value (some node) = some writer.bytes := congrArg some bytes
    unfold Folder.register Register.assign
    congr 1
    · funext name
      by_cases same : name = writer.target
      · subst same
        simpa [Disk.point, Disk.value] using value
      · simp [Disk.point, Disk.value, same]
    · funext name
      by_cases same : name = writer.target
      · subst same
        simp [Disk.point, Disk.value]
      · simp [Disk.point, Disk.value, same]

omit [DecidableEq ν] in
theorem stop_holds (writer : Writer ν) : writer.stop.stage.holds = none := by
  unfold Writer.stop
  cases stage : writer.stage <;> simp [Stage.holds, stage]

omit [DecidableEq ν] in
theorem stop_ended (writer : Writer ν) : writer.stop.stage.ended = true := by
  unfold Writer.stop
  cases stage : writer.stage <;> simp [Stage.ended, stage]

omit [DecidableEq ν] in
/-- When every writer has stopped, only what the names may stand for matters. -/
theorem Intact.stopped (whole : ∀ {name : ν} {node : Nat},
      some node ∈ disk.possible (.file name) →
        node < disk.fresh ∧ (disk.nodes node).synced = true) (writers : List (Writer ν)) :
    Intact ⟨disk, writers.map Writer.stop⟩ := by
  have idle : ∀ {number : Nat} {writer : Writer ν} {node : Nat} {rest : List UInt8},
      (writers.map Writer.stop)[number]? = some writer →
      writer.stage.holds ≠ some (node, rest) := by
    intro number writer node rest there holds
    rw [List.getElem?_map, Option.map_eq_some_iff] at there
    obtain ⟨former, _, rfl⟩ := there
    rw [stop_holds] at holds
    cases holds
  refine ⟨whole, ?_, ?_, ?_⟩
  · intro number writer node rest there holds
    exact absurd holds (idle there)
  · intro first second one other node rest more there holds
    exact absurd holds (idle there)
  · intro number writer node there replaces
    have holds : writer.stage.holds = some (node, []) := by rw [replaces]; rfl
    exact absurd holds (idle there)

omit [DecidableEq ν] in
theorem mem_getD {α : Type} {first : α} {rest : List α} (index : Nat) :
    (first :: rest).getD index first ∈ first :: rest := by
  rw [List.getD_eq_getElem?_getD]
  cases found : (first :: rest)[index]? with
  | none => exact List.mem_cons_self
  | some value => exact List.mem_of_getElem? found

omit [DecidableEq ν] in
theorem append_cases {writers : List (Writer ν)} {new : Writer ν}
    (there : (writers ++ [new])[number]? = some writer) :
    writers[number]? = some writer ∨ (number = writers.length ∧ writer = new) := by
  rcases Nat.lt_or_ge number writers.length with inside | beyond
  · rw [List.getElem?_append_left inside] at there
    exact .inl there
  · rw [List.getElem?_append_right beyond, List.getElem?_singleton] at there
    obtain ⟨first, same⟩ := Option.ite_none_right_eq_some.mp there
    exact .inr ⟨by omega, (Option.some.inj same).symm⟩

omit [DecidableEq ν] in
theorem Intact.saved (intact : Intact folder) (target : ν) (bytes : List UInt8) :
    Intact { folder with writers := folder.writers ++ [⟨target, bytes, .preparing⟩] } := by
  have old : ∀ {number : Nat} {writer : Writer ν} {node : Nat} {rest : List UInt8},
      (folder.writers ++ [⟨target, bytes, .preparing⟩])[number]? = some writer →
      writer.stage.holds = some (node, rest) → folder.writers[number]? = some writer := by
    intro number writer node rest there holds
    rcases append_cases there with known | ⟨_, rfl⟩
    · exact known
    · cases holds
  refine ⟨intact.whole, ?_, ?_, ?_⟩
  · intro number writer node rest there holds
    exact intact.held (old there holds) holds
  · intro first second one other node rest more there holds there' holds'
    exact intact.apart (old there holds) holds (old there' holds') holds'
  · intro number writer node there replaces
    have holds : writer.stage.holds = some (node, []) := by rw [replaces]; rfl
    exact intact.flushed (old there holds) replaces

/-- What a step does to the registers and to the writers. -/
inductive Effect (folder : Folder ν) : Action ν → Register ν → List (Writer ν) → Prop
  | save (target : ν) (bytes : List UInt8) :
      Effect folder (.save target bytes) folder.register
        (folder.writers ++ [⟨target, bytes, .preparing⟩])
  | replace {number count node : Nat} {writer : Writer ν}
      (there : folder.writers[number]? = some writer) (replaces : writer.stage = .replacing node) :
      Effect folder (.advance number (some count))
        (folder.register.assign writer.target writer.bytes)
        (folder.writers.set number { writer with stage := .finished true })
  | work {number : Nat} {outcome : Option Nat} {writer : Writer ν} {stage : Stage}
      (there : folder.writers[number]? = some writer) (busy : writer.stage.ended = false)
      (unfinished : stage ≠ .finished true) :
      Effect folder (.advance number outcome) folder.register
        (folder.writers.set number { writer with stage := stage })
  | crash : Effect folder .crash folder.register (folder.writers.map Writer.stop)
  | powerLoss (back : Entry ν → Nat) (garbage : Nat → List UInt8) :
      Effect folder (.powerLoss back garbage)
        (folder.register.lose fun name => back (.file name)) (folder.writers.map Writer.stop)

/-- A save succeeds by the replacement and by nothing else, and makes no call after its end. -/
theorem advance_stage {at_ : Stage} {outcome : Option Nat} {before : Disk ν}
    (taken : writer.advance number before at_ outcome = some (disk, stage)) :
    at_.ended = false ∧
      (stage = .finished true → ∃ node count, at_ = .replacing node ∧ outcome = some count) := by
  cases at_ with
  | replacing node =>
      cases outcome with
      | none =>
          cases taken
          exact ⟨rfl, by simp⟩
      | some count => exact ⟨rfl, fun _ => ⟨node, count, rfl, rfl⟩⟩
  | creating =>
      refine ⟨rfl, ?_⟩
      rintro rfl
      cases outcome with
      | none => cases taken
      | some count =>
          simp only [Writer.advance] at taken
          split at taken <;> cases taken
  | preparing => cases outcome <;> cases taken <;> exact ⟨rfl, by simp⟩
  | writing node rest => cases rest <;> cases outcome <;> cases taken <;> exact ⟨rfl, by simp⟩
  | syncing node => cases outcome <;> cases taken <;> exact ⟨rfl, by simp⟩
  | removing => cases outcome <;> cases taken <;> exact ⟨rfl, by simp⟩
  | finished success => cases outcome <;> cases taken
  | stopped => cases outcome <;> cases taken

omit [DecidableEq ν] in
/-- A power loss leaves each register a value it had, whole. -/
theorem powerLoss_register (intact : Intact folder) (back : Entry ν → Nat)
    (garbage : Nat → List UInt8) (writers : List (Writer ν)) :
    Intact ⟨folder.disk.powerLoss back garbage, writers.map Writer.stop⟩ ∧
      Folder.register ⟨folder.disk.powerLoss back garbage, writers.map Writer.stop⟩ =
        folder.register.lose fun name => back (.file name) := by
  have kept : ∀ {name : ν} {node : Nat}, some node ∈ folder.disk.possible (.file name) →
      (folder.disk.powerLoss back garbage).nodes node = folder.disk.nodes node := by
    intro name node among
    exact if_pos (intact.whole among).2
  have chosen : ∀ name, (folder.disk.powerLoss back garbage).entries (.file name) ∈
      folder.disk.possible (.file name) := fun name => mem_getD (back (.file name))
  refine ⟨.stopped ?_ _, ?_⟩
  · intro name node among
    have former : some node ∈ folder.disk.possible (.file name) := by
      rw [List.mem_singleton.mp among]
      exact chosen name
    rw [kept former]
    exact intact.whole former
  · unfold Folder.register Register.lose
    congr 1
    funext name
    have value : (folder.disk.powerLoss back garbage).value
        ((folder.disk.powerLoss back garbage).entries (.file name)) =
        folder.disk.value ((folder.disk.powerLoss back garbage).entries (.file name)) := by
      cases entry : (folder.disk.powerLoss back garbage).entries (.file name) with
      | none => rfl
      | some node => exact congrArg (fun node => some node.bytes) (kept (entry ▸ chosen name))
    rw [value]
    exact (@List.getD_map _ _ _ (folder.disk.entries (.file name)) _ folder.disk.value).symm

/-- Step by step the folder is its registers: no save is ever seen half done, whatever the others
do, wherever the process ends and whatever a power loss leaves. -/
theorem step_effect (intact : Intact folder) {action : Action ν}
    (taken : folder.step action = some next) :
    Intact next ∧ Effect folder action next.register next.writers := by
  cases action with
  | save target bytes =>
      cases taken
      exact ⟨intact.saved target bytes, .save target bytes⟩
  | advance number outcome =>
      simp only [Folder.step, Option.bind_eq_bind, Option.bind_eq_some_iff] at taken
      obtain ⟨writer, there, ⟨disk, stage⟩, moved, here⟩ := taken
      cases here
      by_cases replaces : ∃ node count, writer.stage = .replacing node ∧ outcome = some count
      · obtain ⟨node, count, at_, rfl⟩ := replaces
        obtain ⟨kept, rfl, assigned⟩ := replaced intact there at_ moved
        rw [assigned]
        exact ⟨kept, .replace there at_⟩
      · obtain ⟨busy, succeeds⟩ := advance_stage moved
        have own := advance_own intact there moved fun node => by
          by_cases at_ : writer.stage = .replacing node
          · cases outcome with
            | none => exact .inr rfl
            | some count => exact absurd ⟨node, count, at_, rfl⟩ replaces
          · exact .inl at_
        have same : Folder.register ⟨disk, folder.writers.set number { writer with stage := stage }⟩
            = folder.register :=
          register_congr own.files
            (fun among => congrArg Node.bytes (own.untouched intact there among)) _
        rw [same]
        exact ⟨own.intact intact there, .work there busy fun done => replaces (succeeds done)⟩
  | crash =>
      cases taken
      exact ⟨.stopped intact.whole _, .crash⟩
  | powerLoss back garbage =>
      cases taken
      obtain ⟨kept, lost⟩ := powerLoss_register intact back garbage folder.writers
      refine ⟨kept, ?_⟩
      rw [lost]
      exact .powerLoss back garbage

/-! Runs -/

omit [DecidableEq ν] in
theorem stop_same (writer : Writer ν) :
    writer.stop.target = writer.target ∧ writer.stop.bytes = writer.bytes := by
  unfold Writer.stop
  split
  · exact ⟨rfl, rfl⟩
  · exact ⟨rfl, rfl⟩

def Register.values (register : Register ν) (name : ν) : List (Option (List UInt8)) :=
  register.current name :: register.earlier name

/-- All that is written, or may come back, is allowed. -/
structure Sanctioned (allowed : ν → List UInt8 → Prop) (folder : Folder ν) : Prop where
  intact : Intact folder
  writers : ∀ {writer}, writer ∈ folder.writers → allowed writer.target writer.bytes
  values : ∀ {name bytes}, some bytes ∈ folder.register.values name → allowed name bytes

omit [DecidableEq ν] in
theorem Sanctioned.imp {allowed more : ν → List UInt8 → Prop}
    (sanctioned : Sanctioned allowed folder)
    (weaker : ∀ name bytes, allowed name bytes → more name bytes) : Sanctioned more folder :=
  ⟨sanctioned.intact, fun among => weaker _ _ (sanctioned.writers among),
    fun among => weaker _ _ (sanctioned.values among)⟩

omit [DecidableEq ν] in
theorem sanctioned_empty (allowed : ν → List UInt8 → Prop) :
    Sanctioned allowed (Folder.empty : Folder ν) where
  intact := intact_empty
  writers := fun among => absurd among List.not_mem_nil
  values := by
    intro name bytes among
    simp [Register.values, Folder.register, Folder.empty, Disk.empty, Disk.value] at among

theorem Sanctioned.step {allowed : ν → List UInt8 → Prop} {action : Action ν}
    (sanctioned : Sanctioned allowed folder) (taken : folder.step action = some next)
    (saves : ∀ target bytes, action = .save target bytes → allowed target bytes) :
    Sanctioned allowed next := by
  obtain ⟨intact, effect⟩ := step_effect sanctioned.intact taken
  suffices both : (∀ writer ∈ next.writers, allowed writer.target writer.bytes) ∧
      ∀ name bytes, some bytes ∈ next.register.values name → allowed name bytes from
    ⟨intact, both.1 _, both.2 _ _⟩
  have stopped : ∀ writer ∈ folder.writers.map Writer.stop,
      allowed writer.target writer.bytes := by
    intro writer among
    obtain ⟨former, known, rfl⟩ := List.mem_map.mp among
    rw [(stop_same former).1, (stop_same former).2]
    exact sanctioned.writers known
  have moved : ∀ {number : Nat} {writer : Writer ν} {stage : Stage},
      folder.writers[number]? = some writer →
      ∀ found ∈ folder.writers.set number { writer with stage := stage },
        allowed found.target found.bytes := by
    intro number writer stage there found among
    rcases List.mem_or_eq_of_mem_set among with known | rfl
    · exact sanctioned.writers known
    · have former : allowed writer.target writer.bytes :=
        sanctioned.writers (List.mem_of_getElem? there)
      exact former
  generalize next.register = register at effect
  generalize next.writers = writers at effect
  cases effect with
  | save target bytes =>
      refine ⟨fun writer among => ?_, fun name value => sanctioned.values⟩
      rcases List.mem_append.mp among with former | new
      · exact sanctioned.writers former
      · rw [List.mem_singleton.mp new]
        exact saves target bytes rfl
  | @replace number count node writer there replaces =>
      refine ⟨moved there, fun name bytes among => ?_⟩
      by_cases same : name = writer.target
      · subst same
        simp only [Register.values, Register.assign, Function.update_self, List.mem_cons] at among
        rcases among with now | former
        · cases now
          exact sanctioned.writers (List.mem_of_getElem? there)
        · exact sanctioned.values (List.mem_cons.mpr former)
      · simp only [Register.values, Register.assign, ne_eq, same, not_false_eq_true,
          Function.update_of_ne] at among
        exact sanctioned.values among
  | work there busy unfinished => exact ⟨moved there, fun name value => sanctioned.values⟩
  | crash => exact ⟨stopped, fun name value => sanctioned.values⟩
  | powerLoss back garbage =>
      refine ⟨stopped, fun name bytes among => ?_⟩
      have former : some bytes ∈ folder.register.values name := by
        rw [List.mem_singleton.mp among]
        exact mem_getD (back (.file name))
      exact sanctioned.values former

end Steps

end Volume
