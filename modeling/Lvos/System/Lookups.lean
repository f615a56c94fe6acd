import Lvos.System.World

set_option autoImplicit false

namespace Lvos.System.Lookup

open Lvos.Core Lvos.Storage
open Relational (Table)
open Transition (run Meets run_keeps_of_meets)

inductive LookupMode
  | useCache
  | refresh
deriving DecidableEq, Repr

structure TranslationResult where
  text : String
  provider : String
deriving DecidableEq, Repr

/-- What a lookup does next; each is a job of the database worker or the wait for the
Provider. -/
inductive LookupStage
  | reading
  | translating
  | storing (entry : HistoryEntry) (cacheHit : Bool)
deriving DecidableEq

/-- A lookup under way; `profile` is the one that was active when it was started. -/
structure LookupTask where
  content : PreparedContent
  targetLang : LanguageCode
  now : Int
  profile : Option Uuid
  stage : LookupStage
deriving DecidableEq

/-- What of `ProfileMetadata` opening a Profile depends on. -/
structure ProfileMetadata where
  profileId : Uuid
  deviceId : String
  createdAt : Int
deriving DecidableEq

/-- The database worker with its Profile files, and the lookups under way. -/
structure Desktop where
  clock : Int
  profiles : Table Uuid ProfileDb
  active : Option Uuid
  lookups : Table Nat LookupTask

inductive DesktopStep
  | lookup (id : Nat) (content : PreparedContent) (targetLang : LanguageCode) (mode : LookupMode)
      (now : Int)
  | readCache (id : Nat)
  | translate (id : Nat) (outcome : Option TranslationResult)
  | store (id : Nat) (eventId : Uuid)
  | switchProfile (metadata : ProfileMetadata)
  | clearHistory
  | importData (document : PortableDataExport) (target : Uuid) (now : Int)
      (eventIds : ContentKey → Uuid)

/-- `history(key)`. -/
def history (db : ProfileDb) (key : ContentKey) : Option HistoryEntry := db.historyEntries.get key

/-- The entry a lookup stores when it has found `found` in the cache. -/
def cachedEntry (task : LookupTask) (found : Option HistoryEntry) : Option HistoryEntry :=
  (found.filter (fun entry => decide (entry.translation.targetLang = task.targetLang))).map
    (fun entry => { entry with lastQueriedAt := task.now })

def translatedEntry (task : LookupTask) (translated : TranslationResult) : HistoryEntry where
  content := storedContent task.content
  translation := ⟨task.targetLang, translated.text, translated.provider, task.now⟩
  lastQueriedAt := task.now

namespace Desktop

/-- The database `execute` hands to a job; without one the job fails. -/
def database (desktop : Desktop) : Option ProfileDb := desktop.active.bind desktop.profiles.get

/-- The effect of a job of `execute`. -/
def execute (desktop : Desktop) (operation : ProfileDb → ProfileDb) : Desktop :=
  match desktop.active with
  | none => desktop
  | some profileId =>
      match desktop.profiles.get profileId with
      | none => desktop
      | some db => { desktop with profiles := desktop.profiles.put profileId (operation db) }

def moveTo (desktop : Desktop) (id : Nat) (task : LookupTask) (stage : LookupStage) : Desktop :=
  { desktop with lookups := desktop.lookups.put id { task with stage := stage } }

def finish (desktop : Desktop) (id : Nat) : Desktop :=
  { desktop with lookups := desktop.lookups.delete (fun key _ => decide (key = id)) }

/-- Opens the target Profile, a new one where there is no file, and replaces the active
one; a file of another Device is refused. -/
def switchProfile (desktop : Desktop) (metadata : ProfileMetadata) : Desktop :=
  match desktop.profiles.get metadata.profileId with
  | none =>
      { desktop with
        profiles := desktop.profiles.put metadata.profileId
          (ProfileDb.initial metadata.profileId metadata.deviceId metadata.createdAt)
        active := some metadata.profileId }
  | some db =>
      if db.profileMeta.deviceId ≠ metadata.deviceId then desktop
      else { desktop with active := some metadata.profileId }

def readCache (desktop : Desktop) (id : Nat) (task : LookupTask) : Desktop :=
  match desktop.database with
  | none => desktop.finish id
  | some db =>
      match cachedEntry task (history db task.content.contentKey) with
      | some entry => desktop.moveTo id task (.storing entry true)
      | none => desktop.moveTo id task .translating

def store (desktop : Desktop) (id : Nat) (entry : HistoryEntry) (eventId : Uuid) : Desktop :=
  (desktop.execute (fun db => (recordSuccessfulQuery db entry eventId).1)).finish id

variable [ContentTables]

def step (desktop : Desktop) : DesktopStep → Option Desktop
  | .lookup id content targetLang mode now =>
      if desktop.lookups.get id ≠ none ∨ now < desktop.clock then none
      else
        some { desktop with
          clock := now
          lookups := desktop.lookups.put id
            ⟨content, targetLang, now, desktop.active,
              match mode with
              | .useCache => .reading
              | .refresh => .translating⟩ }
  | .readCache id =>
      match desktop.lookups.get id with
      | some task =>
          match task.stage with
          | .reading => some (desktop.readCache id task)
          | _ => none
      | none => none
  | .translate id outcome =>
      match desktop.lookups.get id with
      | some task =>
          match task.stage with
          | .translating =>
              match outcome with
              | none => some (desktop.finish id)
              | some translated =>
                  some (desktop.moveTo id task (.storing (translatedEntry task translated) false))
          | _ => none
      | none => none
  | .store id eventId =>
      match desktop.lookups.get id with
      | some task =>
          match task.stage with
          | .storing entry _ => some (desktop.store id entry eventId)
          | _ => none
      | none => none
  | .switchProfile metadata => some (desktop.switchProfile metadata)
  | .clearHistory => some (desktop.execute Storage.clearHistory)
  | .importData document target now eventIds =>
      if now < desktop.clock then none
      else
        match validateExport document with
        | .error _ => some { desktop with clock := now }
        | .ok validated =>
            some (({ desktop with clock := now } : Desktop).execute
              (fun db => (applyPortableImport db ⟨target, validated⟩ now eventIds).1))

end Desktop

/-- The lookup a step is taken on behalf of. -/
def DesktopStep.owner : DesktopStep → Option Nat
  | .lookup id _ _ _ _ | .readCache id | .translate id _ | .store id _ => some id
  | .switchProfile _ | .clearHistory | .importData _ _ _ _ => none

/-- Every lookup under way when a Profile is switched to was started in that Profile. -/
def NoneElsewhere (desktop : Desktop) : DesktopStep → Prop
  | .switchProfile metadata =>
      ∀ entry ∈ desktop.lookups.rows, entry.2.profile = some metadata.profileId
  | _ => True

instance NoneElsewhere.decidable (desktop : Desktop) :
    (action : DesktopStep) → Decidable (NoneElsewhere desktop action)
  | .switchProfile _ => inferInstanceAs (Decidable (∀ entry ∈ desktop.lookups.rows, _))
  | .lookup _ _ _ _ _ | .readCache _ | .translate _ _ | .store _ _ | .clearHistory
  | .importData _ _ _ _ => .isTrue trivial

namespace Desktop

@[simp] theorem execute_active (desktop : Desktop) (operation : ProfileDb → ProfileDb) :
    (desktop.execute operation).active = desktop.active := by
  unfold execute
  split
  · rfl
  · split <;> rfl

@[simp] theorem execute_lookups (desktop : Desktop) (operation : ProfileDb → ProfileDb) :
    (desktop.execute operation).lookups = desktop.lookups := by
  unfold execute
  split
  · rfl
  · split <;> rfl

@[simp] theorem execute_clock (desktop : Desktop) (operation : ProfileDb → ProfileDb) :
    (desktop.execute operation).clock = desktop.clock := by
  unfold execute
  split
  · rfl
  · split <;> rfl

/-- A job leaves every Profile but the active one as it was. -/
theorem execute_others (desktop : Desktop) (operation : ProfileDb → ProfileDb) {profile : Uuid}
    (other : some profile ≠ desktop.active) :
    (desktop.execute operation).profiles.get profile = desktop.profiles.get profile := by
  unfold execute
  split
  · rfl
  · rename_i profileId chosen
    split
    · rfl
    · apply Table.get_put_of_ne
      intro same
      exact other (by rw [chosen, same])

theorem execute_get {desktop : Desktop} {profile : Uuid} {db : ProfileDb}
    (chosen : desktop.active = some profile) (found : desktop.profiles.get profile = some db)
    (operation : ProfileDb → ProfileDb) :
    (desktop.execute operation).profiles.get profile = some (operation db) := by
  unfold execute
  simp only [chosen, found]
  exact Table.get_put_self _ _ _

theorem get_finish {desktop : Desktop} {id other : Nat} {task : LookupTask}
    (found : (desktop.finish id).lookups.get other = some task) :
    other ≠ id ∧ desktop.lookups.get other = some task := by
  unfold finish at found
  dsimp only at found
  rw [Table.get_delete_key] at found
  split at found
  · cases found
  · rename_i differs
    exact ⟨differs, found⟩

theorem get_moveTo {desktop : Desktop} {id other : Nat} {old task : LookupTask}
    {stage : LookupStage} (found : (desktop.moveTo id old stage).lookups.get other = some task) :
    other = id ∧ task = { old with stage := stage } ∨
      other ≠ id ∧ desktop.lookups.get other = some task := by
  unfold moveTo at found
  dsimp only at found
  rw [Table.get_put] at found
  split at found
  · rename_i same
    exact Or.inl ⟨same, (Option.some.inj found).symm⟩
  · rename_i differs
    exact Or.inr ⟨differs, found⟩

/-- What a read of the cache leaves: the lookup goes on, or ends for want of a database. -/
theorem readCache_cases (desktop : Desktop) (id : Nat) (task : LookupTask) :
    desktop.database = none ∧ desktop.readCache id task = desktop.finish id ∨
      ∃ db, desktop.database = some db ∧
        ((∃ entry, cachedEntry task (history db task.content.contentKey) = some entry ∧
            desktop.readCache id task = desktop.moveTo id task (.storing entry true)) ∨
          desktop.readCache id task = desktop.moveTo id task .translating) := by
  unfold readCache
  split
  · rename_i missing
    exact Or.inl ⟨missing, rfl⟩
  · rename_i db present
    refine Or.inr ⟨db, present, ?_⟩
    split
    · rename_i entry cached
      exact Or.inl ⟨entry, cached, rfl⟩
    · exact Or.inr rfl

theorem switchProfile_cases (desktop : Desktop) (metadata : ProfileMetadata) :
    (desktop.switchProfile metadata).lookups = desktop.lookups ∧
      ((desktop.switchProfile metadata).active = some metadata.profileId ∨
        desktop.switchProfile metadata = desktop) := by
  unfold switchProfile
  split
  · exact ⟨rfl, Or.inl rfl⟩
  · split
    · exact ⟨rfl, Or.inr rfl⟩
    · exact ⟨rfl, Or.inl rfl⟩

/-- Every lookup under way was started in the active Profile. -/
def AtHome (desktop : Desktop) : Prop :=
  ∀ id task, desktop.lookups.get id = some task → task.profile = desktop.active

theorem AtHome.finish {desktop : Desktop} (home : desktop.AtHome) (id : Nat) :
    (desktop.finish id).AtHome := by
  intro other task found
  exact home other task (get_finish found).2

theorem AtHome.moveTo {desktop : Desktop} (home : desktop.AtHome) {id : Nat} {task : LookupTask}
    (found : desktop.lookups.get id = some task) (stage : LookupStage) :
    (desktop.moveTo id task stage).AtHome := by
  intro other moved located
  rcases get_moveTo located with ⟨-, rfl⟩ | ⟨-, before⟩
  · exact home id task found
  · exact home other moved before

theorem AtHome.execute {desktop : Desktop} (home : desktop.AtHome)
    (operation : ProfileDb → ProfileDb) : (desktop.execute operation).AtHome := by
  intro id task found
  rw [execute_lookups] at found
  rw [execute_active]
  exact home id task found

/-- What a step can be. -/
inductive Turn [ContentTables] (desktop : Desktop) : DesktopStep → Desktop → Prop
  | started (id : Nat) (content : PreparedContent) (targetLang : LanguageCode) (mode : LookupMode)
      (now : Int) (stage : LookupStage) (absent : desktop.lookups.get id = none)
      (later : desktop.clock ≤ now) (begins : stage = .reading ∨ stage = .translating) :
      Turn desktop (.lookup id content targetLang mode now)
        { desktop with
          clock := now
          lookups := desktop.lookups.put id ⟨content, targetLang, now, desktop.active, stage⟩ }
  | ended (id : Nat) (action : DesktopStep) (mine : action.owner = some id) :
      Turn desktop action (desktop.finish id)
  | cached (id : Nat) (task : LookupTask) (db : ProfileDb) (entry : HistoryEntry)
      (found : desktop.lookups.get id = some task) (stage : task.stage = .reading)
      (present : desktop.database = some db)
      (hit : cachedEntry task (history db task.content.contentKey) = some entry) :
      Turn desktop (.readCache id) (desktop.moveTo id task (.storing entry true))
  | missed (id : Nat) (task : LookupTask) (found : desktop.lookups.get id = some task)
      (stage : task.stage = .reading) :
      Turn desktop (.readCache id) (desktop.moveTo id task .translating)
  | translated (id : Nat) (task : LookupTask) (result : TranslationResult)
      (found : desktop.lookups.get id = some task) (stage : task.stage = .translating) :
      Turn desktop (.translate id (some result))
        (desktop.moveTo id task (.storing (translatedEntry task result) false))
  | stored (id : Nat) (task : LookupTask) (entry : HistoryEntry) (cacheHit : Bool)
      (eventId : Uuid) (found : desktop.lookups.get id = some task)
      (stage : task.stage = .storing entry cacheHit) :
      Turn desktop (.store id eventId) (desktop.store id entry eventId)
  | switched (metadata : ProfileMetadata) :
      Turn desktop (.switchProfile metadata) (desktop.switchProfile metadata)
  | cleared : Turn desktop .clearHistory (desktop.execute Storage.clearHistory)
  | refused (document : PortableDataExport) (target : Uuid) (now : Int)
      (eventIds : ContentKey → Uuid) (later : desktop.clock ≤ now) :
      Turn desktop (.importData document target now eventIds) { desktop with clock := now }
  | imported (document : PortableDataExport) (target : Uuid) (now : Int)
      (eventIds : ContentKey → Uuid) (validated : ValidatedExport) (later : desktop.clock ≤ now)
      (valid : validateExport document = .ok validated) :
      Turn desktop (.importData document target now eventIds)
        (({ desktop with clock := now } : Desktop).execute
          (fun db => (applyPortableImport db ⟨target, validated⟩ now eventIds).1))

section Steps

variable [ContentTables] {desktop next : Desktop} {action : DesktopStep}

theorem step_turn (taken : desktop.step action = some next) : desktop.Turn action next := by
  cases action with
  | lookup id content targetLang mode now =>
      simp only [step] at taken
      split at taken
      · cases taken
      · rename_i enabled
        simp only [not_or, ne_eq, not_not, not_lt] at enabled
        cases taken
        cases mode with
        | useCache => exact .started id _ _ _ now _ enabled.1 enabled.2 (Or.inl rfl)
        | refresh => exact .started id _ _ _ now _ enabled.1 enabled.2 (Or.inr rfl)
  | readCache id =>
      simp only [step] at taken
      split at taken
      · rename_i task found
        split at taken
        · rename_i stage
          cases taken
          rcases desktop.readCache_cases id task with
            ⟨-, ended⟩ | ⟨db, present, ⟨entry, hit, moved⟩ | moved⟩
          · rw [ended]
            exact .ended id _ rfl
          · rw [moved]
            exact .cached id task db entry found stage present hit
          · rw [moved]
            exact .missed id task found stage
        · cases taken
      · cases taken
  | translate id outcome =>
      simp only [step] at taken
      split at taken
      · rename_i task found
        split at taken
        · rename_i stage
          split at taken
          · cases taken
            exact .ended id _ rfl
          · cases taken
            exact .translated id task _ found stage
        · cases taken
      · cases taken
  | store id eventId =>
      simp only [step] at taken
      split at taken
      · rename_i task found
        split at taken
        · rename_i entry cacheHit stage
          cases taken
          exact .stored id task entry cacheHit eventId found stage
        · cases taken
      · cases taken
  | switchProfile metadata =>
      cases taken
      exact .switched metadata
  | clearHistory =>
      cases taken
      exact .cleared
  | importData document target now eventIds =>
      simp only [step] at taken
      split at taken
      · cases taken
      · rename_i later
        split at taken
        · cases taken
          exact .refused document target now eventIds (Int.not_lt.mp later)
        · rename_i validated valid
          cases taken
          exact .imported document target now eventIds validated (Int.not_lt.mp later) valid

theorem AtHome.step (home : desktop.AtHome) (settled : NoneElsewhere desktop action)
    (taken : desktop.step action = some next) : next.AtHome := by
  cases step_turn taken with
  | started id content targetLang mode now stage absent later begins =>
      intro other task found
      dsimp only at found
      rw [Table.get_put] at found
      split at found
      · cases found
        rfl
      · exact home other task found
  | ended id action mine => exact home.finish id
  | cached id task db entry found stage present hit => exact home.moveTo found _
  | missed id task found stage => exact home.moveTo found _
  | translated id task result found stage => exact home.moveTo found _
  | stored id task entry cacheHit eventId found stage => exact (home.execute _).finish id
  | switched metadata =>
      obtain ⟨lookups, opened | refused⟩ := desktop.switchProfile_cases metadata
      · intro id task found
        rw [lookups] at found
        rw [opened]
        exact settled (id, task) ((Table.mem_rows_iff _ _ _).mpr found)
      · rw [refused]
        exact home
  | cleared => exact home.execute _
  | refused document target now eventIds later => exact home
  | imported document target now eventIds validated later valid =>
      have before : ({ desktop with clock := now } : Desktop).AtHome := home
      exact before.execute _

/-- A step of a lookup leaves every Profile but the active one as it was. -/
theorem step_others {id : Nat} (mine : action.owner = some id)
    (taken : desktop.step action = some next) {profile : Uuid}
    (other : some profile ≠ desktop.active) :
    next.profiles.get profile = desktop.profiles.get profile := by
  cases step_turn taken with
  | started id content targetLang mode now stage absent later begins => rfl
  | ended id action mine => rfl
  | cached id task db entry found stage present hit => rfl
  | missed id task found stage => rfl
  | translated id task result found stage => rfl
  | stored id task entry cacheHit eventId found stage => exact desktop.execute_others _ other
  | switched metadata => cases mine
  | cleared => cases mine
  | refused document target now eventIds later => cases mine
  | imported document target now eventIds validated later valid => cases mine

end Steps

end Desktop

section Isolation

variable [ContentTables]

/-- In every interleaving of lookups with Profile switches in which no Profile is switched
to while a lookup of another one is under way, a lookup writes the Profile it was started
in and no other. -/
theorem lookups_stay_in_profile {first last : Desktop} (idle : first.lookups = Table.empty)
    {actions : List DesktopStep} (settled : Meets Desktop.step NoneElsewhere first actions)
    (reached : run Desktop.step first actions = some last) {id : Nat} {task : LookupTask}
    (running : last.lookups.get id = some task) {action : DesktopStep}
    (mine : action.owner = some id) {next : Desktop} (taken : last.step action = some next) :
    (∀ profile, some profile ≠ task.profile →
      next.profiles.get profile = last.profiles.get profile) ∧
      ∀ eventId entry cacheHit profile db, action = .store id eventId →
        task.stage = .storing entry cacheHit → task.profile = some profile →
        last.profiles.get profile = some db →
        next.profiles.get profile = some (recordSuccessfulQuery db entry eventId).1 := by
  have starts : first.AtHome := by
    intro id task found
    rw [idle, Table.get_empty] at found
    cases found
  have home : last.AtHome := run_keeps_of_meets
    (fun _ _ _ holds meets taken => Desktop.AtHome.step holds meets taken)
    actions first last starts settled reached
  have own := home id task running
  constructor
  · intro profile other
    rw [own] at other
    exact Desktop.step_others mine taken other
  · intro eventId entry cacheHit profile db asked stage started found
    subst asked
    simp only [Desktop.step, running, stage, Option.some.injEq] at taken
    rw [← taken]
    unfold Desktop.store
    rw [own] at started
    exact Desktop.execute_get started found _

end Isolation

namespace Sample

/-! One Desktop with a Profile, for evaluating concrete runs. -/

def gift : PreparedContent :=
  ⟨"gift", ⟨1, .word, System.Sample.english, "gift"⟩, System.Sample.giftKey⟩

def present : TranslationResult := ⟨"礼物", "tokenhub"⟩

def firstProfile : Uuid := System.Sample.eventId 1

def secondProfile : Uuid := System.Sample.eventId 2

def desktop : Desktop where
  clock := 100
  profiles := Table.empty.put firstProfile (ProfileDb.initial firstProfile "desk" 50)
  active := some firstProfile
  lookups := .empty

def lookUp (id : Nat) (mode : LookupMode) (now : Int) : DesktopStep :=
  .lookup id gift System.Sample.chinese mode now

/-- The account is switched while the Provider translates. -/
def switched : List DesktopStep :=
  [lookUp 0 .useCache 100, .readCache 0, .switchProfile ⟨secondProfile, "desk", 101⟩,
    .translate 0 (some present)]

/-- The account is switched after the lookup. -/
def inTurn : List DesktopStep :=
  [lookUp 0 .useCache 100, .readCache 0, .translate 0 (some present),
    .store 0 (System.Sample.eventId 3), .switchProfile ⟨secondProfile, "desk", 101⟩,
    lookUp 1 .useCache 102, .readCache 1, .translate 1 (some present)]

end Sample

section Witness

attribute [local instance] System.Sample.tables

/-- The lookup of the first Profile is stored in the second. -/
theorem lookup_crosses_profiles : ∃ last task next,
    Sample.desktop.lookups = Table.empty ∧
    run Desktop.step Sample.desktop Sample.switched = some last ∧
    last.lookups.get 0 = some task ∧ task.profile = some Sample.firstProfile ∧
    last.step (.store 0 (System.Sample.eventId 3)) = some next ∧
    next.profiles.get Sample.secondProfile ≠ last.profiles.get Sample.secondProfile := by
  have facts : (run Desktop.step Sample.desktop Sample.switched).any (fun last =>
      (last.lookups.get 0).any (fun task => task.profile = some Sample.firstProfile) &&
        (last.step (.store 0 (System.Sample.eventId 3))).any (fun next =>
          next.profiles.get Sample.secondProfile ≠
            last.profiles.get Sample.secondProfile)) = true := by
    decide
  obtain ⟨last, reached, holds⟩ := (Option.any_eq_true _ _).mp facts
  rw [Bool.and_eq_true] at holds
  obtain ⟨task, running, started⟩ := (Option.any_eq_true _ _).mp holds.1
  obtain ⟨next, taken, changed⟩ := (Option.any_eq_true _ _).mp holds.2
  exact ⟨last, task, next, rfl, reached, running, of_decide_eq_true started, taken,
    of_decide_eq_true changed⟩

theorem lookups_stay_in_profile_in_turn : ∃ last task next,
    run Desktop.step Sample.desktop Sample.inTurn = some last ∧
    last.lookups.get 1 = some task ∧
    last.step (.store 1 (System.Sample.eventId 4)) = some next ∧
    next.profiles.get Sample.firstProfile = last.profiles.get Sample.firstProfile := by
  have facts : (run Desktop.step Sample.desktop Sample.inTurn).any (fun last =>
      (last.lookups.get 1).any (fun task => task.profile = some Sample.secondProfile) &&
        (last.step (.store 1 (System.Sample.eventId 4))).isSome) = true := by
    decide
  obtain ⟨last, reached, holds⟩ := (Option.any_eq_true _ _).mp facts
  rw [Bool.and_eq_true] at holds
  obtain ⟨task, running, started⟩ := (Option.any_eq_true _ _).mp holds.1
  obtain ⟨next, taken⟩ := Option.isSome_iff_exists.mp holds.2
  have settled : Meets Desktop.step NoneElsewhere Sample.desktop Sample.inTurn := by
    decide
  have other : some Sample.firstProfile ≠ task.profile := by
    rw [of_decide_eq_true started]
    decide
  exact ⟨last, task, next, reached, running, taken,
    (lookups_stay_in_profile rfl settled reached running rfl taken).1 _ other⟩

end Witness

end Lvos.System.Lookup
