import Lvos.Lib.Migration
import Lvos.Lib.Transition
import Lvos.Storage.Export
import Lvos.Storage.Metadata

set_option autoImplicit false

namespace Lvos.Storage

open Lvos.Core
open Lvos.Core.Sample (randomId)
open Lvos.Sync (i64Limit)
open Migrations Relational Schema

/-! Opening a profile database: the copy before its schema changes, one transaction for each
migration, and the check of whose profile it is. -/

inductive OpenError
  | io
  | storage (error : StorageError)
  | migration (version : Int)
  | backup
deriving DecidableEq

def migration1 : List Statement :=
  [.createTable false "schema_migrations" (["version", "name", "applied_at"].map .plain),
    .createTable false "profile_meta" ((["singleton_id", "profile_id", "user_id", "username",
      "device_id", "platform", "server_origin"].map .plain) ++
      [⟨"last_server_revision", .integer 0⟩] ++ (["created_at", "updated_at"].map .plain)),
    .createTable false "history_entries" (["content_key", "key_version", "kind", "source_lang",
      "target_lang", "source_text", "canonical_text", "translation", "provider",
      "last_queried_at", "translation_updated_at"].map .plain),
    .createIndex false "idx_history_last_queried" "history_entries" ["last_queried_at"],
    .createTable false "query_stats" [.plain "content_key", ⟨"device_query_count", .integer 1⟩,
      .plain "first_queried_at", .plain "last_queried_at",
      ⟨"last_synced_device_query_count", .integer 0⟩, ⟨"server_total_query_count", .integer 0⟩,
      .plain "server_first_queried_at", .plain "server_last_queried_at",
      .plain "server_snapshot_at"],
    .createTable false "favorites" ((["content_key", "key_version", "kind", "source_lang",
      "target_lang", "source_text", "canonical_text", "translation", "provider", "created_at",
      "updated_at", "deleted_at"].map .plain) ++ [⟨"entity_revision", .integer 0⟩]),
    .createIndex false "idx_favorites_created" "favorites" ["created_at"],
    .createIndex false "idx_favorites_active" "favorites" ["deleted_at"],
    .createTable false "sync_outbox" ((["event_id", "content_key", "operation", "payload_json",
      "coalesce_key", "base_entity_revision", "created_at", "updated_at"].map .plain) ++
      [⟨"attempt_count", .integer 0⟩] ++ (["next_retry_at", "last_error"].map .plain)),
    .createIndex false "idx_outbox_retry" "sync_outbox" ["next_retry_at"],
    .createIndex false "idx_outbox_coalesce" "sync_outbox" ["coalesce_key"]]

def migration2 : List Statement :=
  [.addColumn "profile_meta" (.plain "last_successful_sync_at"),
    .addColumn "profile_meta" (.plain "last_sync_error"),
    .addColumn "profile_meta" ⟨"sse_connected", .integer 0⟩,
    .addColumn "sync_outbox" ⟨"conflict_replay_count", .integer 0⟩]

def profileMigrations : List Migration :=
  [⟨1, "desktop_initial", migration1⟩, ⟨2, "desktop_sync_runtime", migration2⟩]

def profileLedger : Ledger := ⟨"schema_migrations", "version", "name", "applied_at"⟩

/-- What the system answers while a profile is opened. -/
structure OpenHost where
  createsParent : Bool
  /-- The file of an empty database has a length. -/
  hasHeader : Bool
  opens : Bool
  readsVersion : Bool
  createsBackups : Bool
  opensCopy : Bool
  copies : Bool
  closes : Bool
  begins : Migration → Bool
  runs : Migration → Bool
  readsProfile : Bool
  inserts : Bool

/-- The profile database, and the copies beside it, of which some are only begun. -/
structure ProfileFiles where
  database : Catalogue
  backups : Table String (Option Catalogue)

/-- `MAX` of a column, which ignores nulls. -/
def greatest (values : List Value) : Value :=
  values.foldl (fun best value => if best.sortsBefore value then value else best) .null

def currentSchemaVersion (host : OpenHost) (database : Catalogue) : Except OpenError Int :=
  if host.readsVersion = false then .error (.storage .sqlite)
  else if profileLedger.stands database = false then .ok 0
  else
    match select database profileLedger.table [profileLedger.version] with
    | none => .error (.storage .sqlite)
    | some rows =>
        match greatest (rows.map (fun row => row.headD .null)) with
        | .null => .ok 0
        | .integer version =>
            if 0 ≤ version ∧ version < 4294967296 then .ok version
            else .error (.storage (.invalidData "schema version"))
        | _ => .error (.storage .sqlite)

/-- `SCHEMA_VERSION` of a release that knows these migrations. -/
def supportedVersion (known : List Migration) : Int := versionAt known known.length

/-- The loop of `apply_migrations`, one transaction for each. -/
def applyMigrations (host : OpenHost) (now : Int) :
    Catalogue → List Migration → Catalogue × Except OpenError Unit
  | database, [] => (database, .ok ())
  | database, migration :: rest =>
      if host.begins migration = false then (database, .error (.storage .sqlite))
      else if host.runs migration = false then (database, .error (.migration migration.version))
      else
        match profileLedger.apply (.integer now) database migration with
        | none => (database, .error (.migration migration.version))
        | some next => applyMigrations host now next rest

def backupFile (profileId : Uuid) (current : Int) (id : Uuid) : String :=
  "profile-" ++ profileId.text ++ ".pre-v" ++ toString current ++ ".app-" ++ softwareVersion ++
    "." ++ id.text ++ ".sqlite3"

/-- `create_backup`: the path of the copy, and what stands beside the database. -/
def createBackup (host : OpenHost) (files : ProfileFiles) (path : String) :
    Except OpenError String × Table String (Option Catalogue) :=
  if host.createsBackups = false ∨ host.opensCopy = false then (.error .backup, files.backups)
  else if host.copies = false then (.error .backup, files.backups.put path none)
  else if host.closes = false then
    (.error .backup, files.backups.put path (some files.database))
  else (.ok path, files.backups.put path (some files.database))

/-- The rows of `profile_meta` with `singleton_id=1`: profile and device. -/
def profileIdentity (database : Catalogue) : Option (List (List Value)) :=
  (select database "profile_meta" ["singleton_id", "profile_id", "device_id"]).map (fun rows =>
    (rows.filter (fun row => row.headD .null = .integer 1)).map List.tail)

def textOrNull : Option String → Value
  | none => .null
  | some text => .text text

/-- The row that is inserted. -/
def profileCells (metadata : ProfileMetadata) : List (String × Value) :=
  [("singleton_id", .integer 1), ("profile_id", .text metadata.profileId.text),
    ("user_id", textOrNull (metadata.userId.map Uuid.text)),
    ("username", textOrNull metadata.username), ("device_id", .text metadata.deviceId.text),
    ("platform", .text metadata.platform), ("server_origin", textOrNull metadata.serverOrigin),
    ("last_server_revision", .integer metadata.lastServerRevision),
    ("created_at", .integer metadata.createdAt), ("updated_at", .integer metadata.updatedAt)]

/-- `upsert_or_validate_profile` on the database. -/
def upsertProfile (host : OpenHost) (database : Catalogue) (metadata : ProfileMetadata) :
    Except OpenError Catalogue :=
  if host.readsProfile = false then .error (.storage .sqlite)
  else
    match profileIdentity database with
    | none => .error (.storage .sqlite)
    | some ([.text profileId, .text deviceId] :: _) =>
        if profileId ≠ metadata.profileId.text ∨ deviceId ≠ metadata.deviceId.text then
          .error (.storage (.invalidData "Profile identity does not match its database"))
        else .ok database
    | some (_ :: _) => .error (.storage .sqlite)
    | some [] =>
        match sqliteI64 metadata.lastServerRevision with
        | .error error => .error (.storage error)
        | .ok _ =>
            if host.inserts = false then .error (.storage .sqlite)
            else
              match Schema.insert database "profile_meta" (profileCells metadata) with
              | none => .error (.storage .sqlite)
              | some written => .ok written

/-- One call of `ProfileDatabase::open`: the release knows the first `release` migrations. -/
structure Opening where
  release : Nat
  host : OpenHost
  metadata : ProfileMetadata
  now : Int
  id : Uuid

/-- The backup before a migration, where one is needed. -/
def preMigrationBackup (opening : Opening) (files : ProfileFiles) (current : Int) :
    Except OpenError (Option String) × Table String (Option Catalogue) :=
  if current < supportedVersion (profileMigrations.take opening.release) ∧
      (files.database ≠ Table.empty ∨ opening.host.hasHeader = true) then
    let copied := createBackup opening.host files
      (backupFile opening.metadata.profileId current opening.id)
    (copied.1.map some, copied.2)
  else (.ok none, files.backups)

/-- The migrations and the row, once the copy is made. -/
def migrateProfile (opening : Opening) (current : Int) (files : ProfileFiles)
    (artifact : Option String) : Except OpenError (Option String) × ProfileFiles :=
  let migrated := applyMigrations opening.host opening.now files.database
    ((profileMigrations.take opening.release).filter
      (fun migration => current < migration.version))
  match migrated.2 with
  | .error error => (.error error, { files with database := migrated.1 })
  | .ok () =>
      match upsertProfile opening.host migrated.1 opening.metadata with
      | .error error => (.error error, { files with database := migrated.1 })
      | .ok written => (.ok artifact, { files with database := written })

/-- `ProfileDatabase::open`: the backup that it made, and the files it leaves. -/
def openDatabase (files : ProfileFiles) (opening : Opening) :
    Except OpenError (Option String) × ProfileFiles :=
  match validateProfileMetadata opening.metadata with
  | .error error => (.error (.storage error), files)
  | .ok () =>
      if opening.host.createsParent = false then (.error .io, files)
      else if opening.host.opens = false then (.error (.storage .sqlite), files)
      else
        match currentSchemaVersion opening.host files.database with
        | .error error => (.error error, files)
        | .ok current =>
            if supportedVersion (profileMigrations.take opening.release) < current then
              (.error (.storage
                (.invalidData "profile schema is newer than this application")), files)
            else
              match preMigrationBackup opening files current with
              | (.error error, backups) => (.error error, { files with backups })
              | (.ok artifact, backups) =>
                  migrateProfile opening current { files with backups } artifact

section Cases

variable {files : ProfileFiles} {opening : Opening} {host : OpenHost}

/-- Everything an opening can come to. -/
inductive Opened (files : ProfileFiles) (opening : Opening) :
    Except OpenError (Option String) × ProfileFiles → Prop
  | refused (error : OpenError) : Opened files opening (.error error, files)
  | unsaved {current : Int} {error : OpenError} {backups : Table String (Option Catalogue)}
      (made : preMigrationBackup opening files current = (.error error, backups)) :
      Opened files opening (.error error, { files with backups })
  | migrated {current : Int} {artifact : Option String}
      {backups : Table String (Option Catalogue)}
      (read : currentSchemaVersion opening.host files.database = .ok current)
      (known : current ≤ supportedVersion (profileMigrations.take opening.release))
      (made : preMigrationBackup opening files current = (.ok artifact, backups)) :
      Opened files opening (migrateProfile opening current { files with backups } artifact)

theorem openDatabase_opened (files : ProfileFiles) (opening : Opening) :
    Opened files opening (openDatabase files opening) := by
  unfold openDatabase
  split
  case h_1 error _ => exact .refused (.storage error)
  case h_2 =>
    split
    case isTrue => exact .refused .io
    case isFalse =>
      split
      case isTrue => exact .refused (.storage .sqlite)
      case isFalse =>
        split
        case h_1 error _ => exact .refused error
        case h_2 current read =>
          split
          case isTrue => exact .refused _
          case isFalse known =>
            split
            case h_1 error backups made => exact .unsaved made
            case h_2 artifact backups made => exact .migrated read (Int.not_lt.mp known) made

/-- Some of the pending migrations ran, and all of them where none failed. -/
theorem applyMigrations_ran (host : OpenHost) (now : Int) :
    ∀ (pending : List Migration) (database : Catalogue), ∃ ran, ran <+: pending ∧
      profileLedger.applyAll (.integer now) database ran =
        some (applyMigrations host now database pending).1 ∧
      ((applyMigrations host now database pending).2 = .ok () → ran = pending) := by
  intro pending
  induction pending with
  | nil => exact fun database => ⟨[], List.prefix_refl [], rfl, fun _ => rfl⟩
  | cons migration rest ih =>
      intro database
      have none_ran : ∀ error : OpenError,
          applyMigrations host now database (migration :: rest) = (database, .error error) →
          ∃ ran, ran <+: migration :: rest ∧
            profileLedger.applyAll (.integer now) database ran =
              some (applyMigrations host now database (migration :: rest)).1 ∧
            ((applyMigrations host now database (migration :: rest)).2 = .ok () →
              ran = migration :: rest) := by
        intro error stopped
        refine ⟨[], List.nil_prefix, by rw [stopped]; rfl, ?_⟩
        intro finished
        rw [stopped] at finished
        cases finished
      by_cases begins : host.begins migration = false
      · exact none_ran (.storage .sqlite) (by simp [applyMigrations, begins])
      · by_cases runs : host.runs migration = false
        · exact none_ran (.migration migration.version)
            (by simp [applyMigrations, begins, runs])
        · cases applied : profileLedger.apply (.integer now) database migration with
          | none =>
              exact none_ran (.migration migration.version)
                (by simp [applyMigrations, begins, runs, applied])
          | some next =>
              have step : applyMigrations host now database (migration :: rest) =
                  applyMigrations host now next rest := by
                simp [applyMigrations, begins, runs, applied]
              obtain ⟨ran, within, reached, all⟩ := ih next
              refine ⟨migration :: ran, (List.prefix_cons_inj migration).mpr within, ?_, ?_⟩
              · rw [Ledger.applyAll, applied, Option.bind_some, reached, step]
              · intro finished
                rw [step] at finished
                rw [all finished]

/-- The migrations stop early and the error is reported, or all of them ran and the row is
there. -/
theorem migrateProfile_cases (opening : Opening) (current : Int) (files : ProfileFiles)
    (artifact : Option String) :
    (∃ error ran after, ran <+: (profileMigrations.take opening.release).filter
          (fun migration => current < migration.version) ∧
        profileLedger.applyAll (.integer opening.now) files.database ran = some after ∧
        migrateProfile opening current files artifact =
          (.error error, { files with database := after })) ∨
      ∃ after written, profileLedger.applyAll (.integer opening.now) files.database
            ((profileMigrations.take opening.release).filter
              (fun migration => current < migration.version)) = some after ∧
        upsertProfile opening.host after opening.metadata = .ok written ∧
        migrateProfile opening current files artifact =
          (.ok artifact, { files with database := written }) := by
  obtain ⟨ran, within, reached, all⟩ := applyMigrations_ran opening.host opening.now
    ((profileMigrations.take opening.release).filter
      (fun migration => current < migration.version)) files.database
  cases outcome : (applyMigrations opening.host opening.now files.database
    ((profileMigrations.take opening.release).filter
      (fun migration => current < migration.version))).2 with
  | error error =>
      refine Or.inl ⟨error, ran, _, within, reached, ?_⟩
      simp only [migrateProfile, outcome]
  | ok =>
      have same := all outcome
      subst same
      cases upserted : upsertProfile opening.host (applyMigrations opening.host opening.now
          files.database ((profileMigrations.take opening.release).filter
            (fun migration => current < migration.version))).1 opening.metadata with
      | error error =>
          refine Or.inl ⟨error, _, _, List.prefix_refl _, reached, ?_⟩
          simp only [migrateProfile, outcome, upserted]
      | ok written =>
          refine Or.inr ⟨_, written, reached, upserted, ?_⟩
          simp only [migrateProfile, outcome, upserted]

/-- The database whose row is checked is unchanged, or it had no row and is given one. -/
theorem upsertProfile_ok {database written : Catalogue} {metadata : ProfileMetadata}
    (upserted : upsertProfile host database metadata = .ok written) :
    (written = database ∧ ∃ others, profileIdentity database =
        some ([.text metadata.profileId.text, .text metadata.deviceId.text] :: others)) ∨
      (profileIdentity database = some [] ∧
        Schema.insert database "profile_meta" (profileCells metadata) = some written) := by
  unfold upsertProfile at upserted
  split at upserted
  case isTrue => cases upserted
  case isFalse =>
    split at upserted
    case h_1 => cases upserted
    case h_2 profileId deviceId others found =>
      split at upserted
      case isTrue => cases upserted
      case isFalse same =>
        cases upserted
        rw [not_or, not_not, not_not] at same
        obtain ⟨rfl, rfl⟩ := same
        exact Or.inl ⟨rfl, others, found⟩
    case h_3 => cases upserted
    case h_4 absent =>
      split at upserted
      case h_1 => cases upserted
      case h_2 =>
        split at upserted
        case isTrue => cases upserted
        case isFalse =>
          split at upserted
          case h_1 => cases upserted
          case h_2 after inserted =>
            cases upserted
            exact Or.inr ⟨absent, inserted⟩

theorem upsertProfile_grows {database written : Catalogue} {metadata : ProfileMetadata}
    (upserted : upsertProfile host database metadata = .ok written) :
    Schema.Grows database written := by
  rcases upsertProfile_ok upserted with ⟨rfl, -⟩ | ⟨-, inserted⟩
  · exact Schema.Grows.refl _
  · exact insert_grows inserted

/-- The cells of the row under the columns that are read back. -/
theorem profileCells_find (metadata : ProfileMetadata) :
    ((profileCells metadata).find? (fun cell => folded cell.1 = folded "singleton_id")).map
        Prod.snd = some (.integer 1) ∧
      ((profileCells metadata).find? (fun cell => folded cell.1 = folded "profile_id")).map
        Prod.snd = some (.text metadata.profileId.text) ∧
      ((profileCells metadata).find? (fun cell => folded cell.1 = folded "device_id")).map
        Prod.snd = some (.text metadata.deviceId.text) := by
  have apart : folded "singleton_id" ≠ folded "profile_id" ∧
      folded "singleton_id" ≠ folded "device_id" ∧ folded "profile_id" ≠ folded "device_id" ∧
      folded "user_id" ≠ folded "device_id" ∧ folded "username" ≠ folded "device_id" := by
    decide
  refine ⟨?_, ?_, ?_⟩
  · simp [profileCells]
  · simp [profileCells, apart]
  · simp [profileCells, apart]

/-- Then the row is that of the profile. -/
theorem upsertProfile_identity {database written : Catalogue} {metadata : ProfileMetadata}
    (upserted : upsertProfile host database metadata = .ok written) :
    ∃ others, profileIdentity written =
      some ([.text metadata.profileId.text, .text metadata.deviceId.text] :: others) := by
  rcases upsertProfile_ok upserted with ⟨rfl, stands⟩ | ⟨absent, inserted⟩
  · exact stands
  · refine ⟨[], ?_⟩
    obtain ⟨read, selected, none⟩ := Option.map_eq_some_iff.mp absent
    obtain ⟨columns, known, reread⟩ := select_insert inserted selected
    have present : hasColumn columns "singleton_id" = true ∧
        hasColumn columns "profile_id" = true ∧ hasColumn columns "device_id" = true := by
      simpa using known
    have row : ["singleton_id", "profile_id", "device_id"].map
        (cellAt columns (columns.map (cellOf (profileCells metadata)))) =
        [.integer 1, .text metadata.profileId.text, .text metadata.deviceId.text] := by
      obtain ⟨singleton, profile, device⟩ := profileCells_find metadata
      have first := cellAt_inserted present.1 singleton
      have second := cellAt_inserted present.2.1 profile
      have third := cellAt_inserted present.2.2 device
      rw [List.map_cons, List.map_cons, List.map_cons, List.map_nil, first, second, third]
    rw [List.map_eq_nil_iff] at none
    rw [profileIdentity, reread, row, Option.map_some, List.filter_append, none]
    rfl

end Cases

section Conserved

variable {files : ProfileFiles} {opening : Opening}

/-- The opening would give this name to a backup. -/
def Opening.names (opening : Opening) (name : String) : Prop :=
  ∃ current, name = backupFile opening.metadata.profileId current opening.id

/-- Nothing that stood in the profile is gone: each new copy is of a state in between, and what
stood beside the database still does, unless an opening has drawn its name again. -/
structure Conserved (openings : List Opening) (before after : ProfileFiles) : Prop where
  database : Schema.Grows before.database after.database
  copies : ∀ name copy, after.backups.get name = some (some copy) →
    before.backups.get name = some (some copy) ∨
      (Schema.Grows before.database copy ∧ Schema.Grows copy after.database)
  kept : ∀ name copy, before.backups.get name = some copy →
    (∀ opening ∈ openings, ¬opening.names name) → after.backups.get name = some copy

theorem Conserved.refl (openings : List Opening) (files : ProfileFiles) :
    Conserved openings files files :=
  ⟨Schema.Grows.refl _, fun _ _ found => Or.inl found, fun _ _ found _ => found⟩

theorem Conserved.trans {early late : List Opening} {first second third : ProfileFiles}
    (left : Conserved early first second) (right : Conserved late second third) :
    Conserved (early ++ late) first third where
  database := left.database.trans right.database
  copies := by
    intro name copy found
    rcases right.copies name copy found with stood | ⟨later, earlier⟩
    · rcases left.copies name copy stood with first | ⟨after, before⟩
      · exact Or.inl first
      · exact Or.inr ⟨after, before.trans right.database⟩
    · exact Or.inr ⟨left.database.trans later, earlier⟩
  kept := by
    intro name copy found fresh
    have stands := left.kept name copy found
      (fun opening member => fresh opening (List.mem_append_left _ member))
    exact right.kept name copy stands
      (fun opening member => fresh opening (List.mem_append_right _ member))

/-- What becomes of the backup before the migrations: where it fails, a part of it may be left. -/
inductive BackedUp (files : ProfileFiles) (opening : Opening) (current : Int) :
    Except OpenError (Option String) → Table String (Option Catalogue) → Prop
  | needless (unneeded : files.database = Table.empty ∨
        ¬current < supportedVersion (profileMigrations.take opening.release)) :
      BackedUp files opening current (.ok none) files.backups
  | unopened : BackedUp files opening current (.error .backup) files.backups
  | failed (content : Option Catalogue)
      (part : content = none ∨ content = some files.database) :
      BackedUp files opening current (.error .backup)
        (files.backups.put (backupFile opening.metadata.profileId current opening.id) content)
  | made : BackedUp files opening current
      (.ok (some (backupFile opening.metadata.profileId current opening.id)))
      (files.backups.put (backupFile opening.metadata.profileId current opening.id)
        (some files.database))

theorem preMigrationBackup_backedUp {current : Int} {result : Except OpenError (Option String)}
    {backups : Table String (Option Catalogue)}
    (made : preMigrationBackup opening files current = (result, backups)) :
    BackedUp files opening current result backups := by
  unfold preMigrationBackup at made
  split at made
  case isFalse needless =>
    cases made
    refine .needless ?_
    by_cases empty : files.database = Table.empty
    · exact Or.inl empty
    · exact Or.inr (fun older => needless ⟨older, Or.inl empty⟩)
  case isTrue =>
    cases made
    unfold createBackup
    split
    · exact .unopened
    · split
      · exact .failed none (Or.inl rfl)
      · split
        · exact .failed _ (Or.inr rfl)
        · exact .made

section Backups

variable {current : Int} {result : Except OpenError (Option String)}
  {backups : Table String (Option Catalogue)} {name : String}

/-- A backup that is made is a copy of the database; one that fails may be there as well. -/
theorem BackedUp.copies (backed : BackedUp files opening current result backups)
    {copy : Catalogue} (found : backups.get name = some (some copy)) :
    files.backups.get name = some (some copy) ∨ copy = files.database := by
  have written : ∀ {path : String} {content : Option Catalogue},
      (files.backups.put path content).get name = some (some copy) →
      content = none ∨ content = some files.database →
      files.backups.get name = some (some copy) ∨ copy = files.database := by
    intro path content stands allowed
    rw [Table.get_put] at stands
    split at stands
    · rcases allowed with rfl | rfl
      · cases stands
      · cases stands
        exact Or.inr rfl
    · exact Or.inl stands
  cases backed with
  | needless unneeded => exact Or.inl found
  | unopened => exact Or.inl found
  | failed content part => exact written found part
  | made => exact written found (Or.inr rfl)

/-- It is written under no name but the one that is drawn for it. -/
theorem BackedUp.spares (backed : BackedUp files opening current result backups)
    (fresh : ¬opening.names name) : backups.get name = files.backups.get name := by
  have apart : name ≠ backupFile opening.metadata.profileId current opening.id :=
    fun same => fresh ⟨current, same⟩
  cases backed with
  | needless unneeded => rfl
  | unopened => rfl
  | failed content part => exact Table.get_put_of_ne _ _ apart
  | made => exact Table.get_put_of_ne _ _ apart

theorem BackedUp.saved {path : String}
    (backed : BackedUp files opening current (.ok (some path)) backups) :
    backups.get path = some (some files.database) := by
  cases backed with
  | made => exact Table.get_put_self _ _ _

theorem BackedUp.unsaved (backed : BackedUp files opening current (.ok none) backups) :
    files.database = Table.empty ∨
      ¬current < supportedVersion (profileMigrations.take opening.release) := by
  cases backed with
  | needless unneeded => exact unneeded

end Backups

theorem openDatabase_preserves (files : ProfileFiles) (opening : Opening) :
    Conserved [opening] files (openDatabase files opening).2 := by
  have opened := openDatabase_opened files opening
  generalize openDatabase files opening = outcome at opened
  have copied : ∀ {current : Int} {result : Except OpenError (Option String)}
      {backups : Table String (Option Catalogue)} {after : Catalogue},
      preMigrationBackup opening files current = (result, backups) →
      Schema.Grows files.database after → Conserved [opening] files ⟨after, backups⟩ := by
    intro current result backups after made grows
    refine ⟨grows, ?_, ?_⟩
    · intro name copy found
      rcases (preMigrationBackup_backedUp made).copies found with stood | rfl
      · exact Or.inl stood
      · exact Or.inr ⟨Schema.Grows.refl _, grows⟩
    · intro name copy found fresh
      rw [(preMigrationBackup_backedUp made).spares (fresh opening List.mem_cons_self)]
      exact found
  cases opened with
  | refused error => exact Conserved.refl _ files
  | unsaved made => exact copied made (Schema.Grows.refl _)
  | @migrated current artifact backups read known made =>
      rcases migrateProfile_cases opening current { files with backups } artifact with
        ⟨error, ran, after, within, applied, stopped⟩ | ⟨after, written, applied, upserted, done⟩
      · rw [stopped]
        exact copied made (applyAll_grows applied)
      · rw [done]
        exact copied made ((applyAll_grows applied).trans (upsertProfile_grows upserted))

/-- The files after openings of any kind, one after another. -/
def reopened (files : ProfileFiles) (openings : List Opening) : ProfileFiles :=
  openings.foldl (fun files opening => (openDatabase files opening).2) files

theorem reopened_preserves (openings : List Opening) :
    ∀ files, Conserved openings files (reopened files openings) := by
  induction openings with
  | nil => exact Conserved.refl []
  | cons opening rest ih =>
      intro files
      exact (openDatabase_preserves files opening).trans (ih (openDatabase files opening).2)

end Conserved

section Versions

/-- The greatest of versions that ascend is the last. -/
theorem foldl_greatest {versions : List Int} :
    ∀ {first : Int}, (first :: versions).Pairwise (· < ·) →
      (versions.map Value.integer).foldl
        (fun best value => if best.sortsBefore value then value else best) (.integer first) =
          .integer (versions.getLastD first) := by
  induction versions with
  | nil => exact fun _ => rfl
  | cons version rest ih =>
      intro first ascending
      have less : first < version := List.rel_of_pairwise_cons ascending List.mem_cons_self
      have sorts : (Value.integer first).sortsBefore (.integer version) = true := by
        simp only [Value.sortsBefore, decide_eq_true_eq]
        omega
      rw [List.map_cons, List.foldl_cons, if_pos sorts, ih ascending.of_cons,
        List.getLastD_cons]

theorem greatest_ascending {version : Int} {versions : List Int}
    (ascending : (version :: versions).Pairwise (· < ·)) :
    greatest ((version :: versions).map Value.integer) =
      .integer (versions.getLastD version) := by
  have first : Value.null.sortsBefore (.integer version) = true := rfl
  rw [greatest, List.map_cons, List.foldl_cons, if_pos first, foldl_greatest ascending]

theorem profileMigrations_coherent : Coherent profileLedger profileMigrations where
  apart := by decide
  ascending := by decide
  positive := by decide
  builds := by
    intro count inside
    have bound : count < 2 := inside
    rcases count with _ | _ | count
    · exact ⟨_, rfl, by decide⟩
    · exact ⟨_, rfl, by decide⟩
    · omega
  spares := by decide

/-- The version that is read is that of the last migration. -/
theorem currentSchemaVersion_eq {count : Nat} (known : count ≤ profileMigrations.length)
    {database : Catalogue} (descends : Descends profileLedger profileMigrations count database)
    {host : OpenHost} (reads : host.readsVersion = true) :
    currentSchemaVersion host database = .ok (versionAt profileMigrations count) := by
  have bounds : ∀ count < 3, 0 ≤ versionAt profileMigrations count ∧
      versionAt profileMigrations count < 4294967296 := by decide
  have small : profileMigrations.length = 2 := rfl
  unfold currentSchemaVersion
  rw [if_neg (by simp [reads])]
  cases count with
  | zero =>
      have empty := descends.of_zero
      subst empty
      have absent : profileLedger.stands Table.empty = false := rfl
      rw [if_pos absent]
      rfl
  | succ count =>
      have inside : count < profileMigrations.length := by omega
      have stands := descends.stands profileMigrations_coherent inside
      have versions := descends.versions profileMigrations_coherent inside
      have heads : ((fun row : List Value => row.headD .null) ∘
          fun migration : Migration => [Value.integer migration.version]) =
          Value.integer ∘ Migration.version := rfl
      have ascending := (profileMigrations_coherent.take (count + 1)).ascending
      rw [← List.pairwise_map (f := Migration.version)] at ascending
      have greatest_last : greatest (((profileMigrations.take (count + 1)).map
          Migration.version).map Value.integer) =
          .integer (versionAt profileMigrations (count + 1)) := by
        unfold versionAt
        cases ran : (profileMigrations.take (count + 1)).map Migration.version with
        | nil =>
            have length := congrArg List.length ran
            rw [List.length_map, List.length_take, List.length_nil] at length
            omega
        | cons version rest =>
            rw [ran] at ascending
            rw [greatest_ascending ascending, List.getLastD_cons]
      simp only [stands, Bool.true_eq_false, if_false, versions, List.map_map, heads]
      rw [← List.map_map, greatest_last]
      exact if_pos (bounds (count + 1) (by omega))

theorem currentSchemaVersion_of_descends {count : Nat} (known : count ≤ profileMigrations.length)
    {database : Catalogue} (descends : Descends profileLedger profileMigrations count database)
    {host : OpenHost} {current : Int}
    (read : currentSchemaVersion host database = .ok current) :
    current = versionAt profileMigrations count := by
  by_cases reads : host.readsVersion = true
  · rw [currentSchemaVersion_eq known descends reads] at read
    cases read
    rfl
  · rw [currentSchemaVersion, if_pos (by simpa using reads)] at read
    cases read

/-- The versions of the releases ascend with them. -/
theorem supportedVersion_take :
    ∀ release < 3, supportedVersion (profileMigrations.take release) =
      versionAt profileMigrations release := by
  decide

theorem versionAt_ascends :
    ∀ release < 3, ∀ count < 3,
      release < count ↔ versionAt profileMigrations release < versionAt profileMigrations count := by
  decide

end Versions

section Lineage

variable {files : ProfileFiles} {opening : Opening}

/-- No call of the system fails. -/
structure OpenHost.Healthy (host : OpenHost) : Prop where
  createsParent : host.createsParent = true
  opens : host.opens = true
  readsVersion : host.readsVersion = true
  createsBackups : host.createsBackups = true
  opensCopy : host.opensCopy = true
  copies : host.copies = true
  closes : host.closes = true
  begins : ∀ migration, host.begins migration = true
  runs : ∀ migration, host.runs migration = true
  readsProfile : host.readsProfile = true
  inserts : host.inserts = true

/-- A profile on which the first `count` migrations have run. -/
structure ProfileLineage (count : Nat) (files : ProfileFiles) : Prop where
  known : count ≤ profileMigrations.length
  database : Descends profileLedger profileMigrations count files.database
  formed : WellFormed files.database

/-- The row of the profile is missing, or it names this profile and device. -/
def Owned (database : Catalogue) (metadata : ProfileMetadata) : Prop :=
  profileIdentity database = none ∨ profileIdentity database = some [] ∨
    ∃ others, profileIdentity database =
      some ([.text metadata.profileId.text, .text metadata.deviceId.text] :: others)

theorem applyMigrations_healthy {host : OpenHost} (healthy : host.Healthy) (now : Int) :
    ∀ {pending : List Migration} {database after : Catalogue},
      profileLedger.applyAll (.integer now) database pending = some after →
      applyMigrations host now database pending = (after, .ok ()) := by
  intro pending
  induction pending with
  | nil =>
      intro database after applied
      cases applied
      rfl
  | cons migration rest ih =>
      intro database after applied
      obtain ⟨next, first, later⟩ := Option.bind_eq_some_iff.mp applied
      simp only [applyMigrations, healthy.begins, healthy.runs, first, Bool.true_eq_false,
        if_false]
      exact ih later

theorem preMigrationBackup_healthy (healthy : opening.host.Healthy) (current : Int) :
    ∃ artifact backups, preMigrationBackup opening files current = (.ok artifact, backups) := by
  unfold preMigrationBackup
  split
  · simp only [createBackup, healthy.createsBackups, healthy.opensCopy, healthy.copies,
      healthy.closes, Bool.true_eq_false, or_self, if_false]
    exact ⟨_, _, rfl⟩
  · exact ⟨_, _, rfl⟩

def profileColumns : List String :=
  ["singleton_id", "profile_id", "user_id", "username", "device_id", "platform",
    "server_origin", "last_server_revision", "created_at", "updated_at"]

theorem profileCells_names (metadata : ProfileMetadata) :
    (profileCells metadata).map Prod.fst = profileColumns := rfl

/-- From the first release on a profile has the table of its identity. -/
theorem profile_table {count : Nat} (positive : 0 < count)
    (known : count ≤ profileMigrations.length) {database : Catalogue}
    (descends : Descends profileLedger profileMigrations count database) :
    ∃ name columns rows, database.get (folded "profile_meta") = some (.table name columns rows) ∧
      profileColumns.all (hasColumn columns) = true := by
  have small : profileMigrations.length = 2 := rfl
  have made : ∃ columns,
      (shape database).get (folded "profile_meta") = some (.table "profile_meta" columns []) ∧
        profileColumns.all (hasColumn columns) = true := by
    have shaped := descends.shaped
    rcases count with _ | _ | _ | count
    · omega
    · rw [← Option.some.inj shaped]
      exact ⟨_, rfl, by decide⟩
    · rw [← Option.some.inj shaped]
      exact ⟨_, rfl, by decide⟩
    · omega
  obtain ⟨columns, found, present⟩ := made
  rw [get_shape] at found
  obtain ⟨object, stands, emptied⟩ := Option.map_eq_some_iff.mp found
  cases object with
  | table name wide rows =>
      cases emptied
      exact ⟨_, columns, rows, stands, present⟩
  | view => cases emptied
  | index => cases emptied

theorem profileIdentity_isSome {count : Nat} (positive : 0 < count)
    (known : count ≤ profileMigrations.length) {database : Catalogue}
    (descends : Descends profileLedger profileMigrations count database) :
    (profileIdentity database).isSome = true := by
  obtain ⟨name, columns, rows, found, present⟩ := profile_table positive known descends
  rw [List.all_eq_true] at present
  have three : hasColumn columns "singleton_id" = true ∧ hasColumn columns "profile_id" = true ∧
      hasColumn columns "device_id" = true :=
    ⟨present _ (by decide), present _ (by decide), present _ (by decide)⟩
  simp [profileIdentity, select, found, three]

/-- What the columns of the identity are read to hold decides it. -/
theorem profileIdentity_of_select {first second : Catalogue} {read : List (List Value)}
    (left : select first "profile_meta" ["singleton_id", "profile_id", "device_id"] = some read)
    (right : select second "profile_meta" ["singleton_id", "profile_id", "device_id"] = some read) :
    profileIdentity second = profileIdentity first := by
  rw [profileIdentity, profileIdentity, left, right]

/-- The first migration makes a profile that has no identity yet. -/
theorem migration1_identity : ∃ made, executeBatch Table.empty migration1 = some made ∧
    select made "profile_meta" ["singleton_id", "profile_id", "device_id"] = some [] :=
  ⟨_, rfl, rfl⟩

/-- The migrations leave the identity as it was. -/
theorem profileIdentity_upgraded {count release : Nat} (lineage : ProfileLineage count files)
    (positive : 0 < release) (within : count ≤ release) {after : Catalogue} {now : Int}
    (applied : profileLedger.applyAll (.integer now) files.database
      ((profileMigrations.take release).drop count) = some after) :
    profileIdentity after = some ((profileIdentity files.database).getD []) := by
  have apart : folded "profile_meta" ≠ folded profileLedger.table := by decide
  cases count with
  | zero =>
      have empty := lineage.database.of_zero
      have bare : profileIdentity Table.empty = none := rfl
      rw [empty, bare, Option.getD_none]
      rw [empty, List.drop_zero] at applied
      have first : profileMigrations.take release =
          ⟨1, "desktop_initial", migration1⟩ :: (profileMigrations.drop 1).take (release - 1) := by
        obtain ⟨earlier, rfl⟩ := Nat.exists_eq_succ_of_ne_zero (Nat.pos_iff_ne_zero.mp positive)
        rfl
      rw [first] at applied
      obtain ⟨next, begun, later⟩ := Option.bind_eq_some_iff.mp applied
      obtain ⟨made, executed, inserted⟩ := apply_ok begun
      obtain ⟨built, same, none⟩ := migration1_identity
      rw [executed] at same
      cases same
      have formed := executeBatch_wellFormed WellFormed.empty executed
      rw [← select_of_get (insert_get inserted apart)] at none
      have still := applyAll_select apart (insert_wellFormed formed inserted) later none
      rw [profileIdentity, still]
      rfl
  | succ count =>
      have known := profileIdentity_isSome (Nat.succ_pos count) lineage.known lineage.database
      obtain ⟨identity, found⟩ := Option.isSome_iff_exists.mp known
      obtain ⟨read, selected, -⟩ := Option.map_eq_some_iff.mp found
      have still := applyAll_select apart lineage.formed applied selected
      rw [profileIdentity_of_select selected still, found, Option.getD_some]

theorem upsertProfile_formed {host : OpenHost} {database written : Catalogue}
    {metadata : ProfileMetadata} (formed : WellFormed database)
    (upserted : upsertProfile host database metadata = .ok written) : WellFormed written := by
  rcases upsertProfile_ok upserted with ⟨rfl, -⟩ | ⟨-, inserted⟩
  · exact formed
  · exact insert_wellFormed formed inserted

theorem descends_upserted {host : OpenHost} {database written : Catalogue} {count : Nat}
    {metadata : ProfileMetadata}
    (descends : Descends profileLedger profileMigrations count database)
    (upserted : upsertProfile host database metadata = .ok written) :
    Descends profileLedger profileMigrations count written := by
  rcases upsertProfile_ok upserted with ⟨rfl, -⟩ | ⟨-, inserted⟩
  · exact descends
  · have apart : folded profileLedger.table ≠ folded "profile_meta" := by decide
    refine ⟨?_, ?_⟩
    · rw [insert_shaped inserted]
      exact descends.shaped
    · rw [← descends.recorded, Ledger.recorded, Ledger.recorded,
        select_of_get (insert_get inserted apart)]

/-- The row is checked or written exactly where the profile is the one that is named. -/
theorem upsertProfile_healthy {host : OpenHost} (healthy : host.Healthy) {count : Nat}
    (positive : 0 < count) (known : count ≤ profileMigrations.length) {database : Catalogue}
    (descends : Descends profileLedger profileMigrations count database)
    {metadata : ProfileMetadata} (representable : metadata.lastServerRevision < i64Limit)
    {identity : List (List Value)} (found : profileIdentity database = some identity) :
    (∃ written, upsertProfile host database metadata = .ok written) ↔
      identity = [] ∨ ∃ others, identity =
        [.text metadata.profileId.text, .text metadata.deviceId.text] :: others := by
  constructor
  · rintro ⟨written, upserted⟩
    rcases upsertProfile_ok upserted with ⟨-, others, own⟩ | ⟨absent, -⟩
    · rw [found] at own
      exact Or.inr ⟨others, Option.some.inj own⟩
    · rw [found] at absent
      exact Or.inl (Option.some.inj absent)
  · rintro (rfl | ⟨others, rfl⟩)
    · obtain ⟨name, columns, rows, stands, present⟩ :=
        profile_table positive known descends
      rw [← profileCells_names metadata, List.all_map] at present
      have inserted : ∃ written,
          Schema.insert database "profile_meta" (profileCells metadata) = some written := by
        rw [Schema.insert, stands]
        exact ⟨_, if_pos present⟩
      obtain ⟨written, done⟩ := inserted
      have fits : sqliteI64 metadata.lastServerRevision = .ok metadata.lastServerRevision :=
        if_pos representable
      refine ⟨written, ?_⟩
      simp only [upsertProfile, healthy.readsProfile, healthy.inserts, found, fits, done,
        Bool.true_eq_false, if_false]
    · refine ⟨database, ?_⟩
      simp only [upsertProfile, healthy.readsProfile, found, ne_eq, not_true_eq_false, or_self,
        Bool.true_eq_false, if_false]

theorem openDatabase_older {count : Nat} (lineage : ProfileLineage count files)
    (healthy : opening.host.Healthy) (valid : validateProfileMetadata opening.metadata = .ok ())
    (older : opening.release < count) :
    openDatabase files opening = (.error (.storage
      (.invalidData "profile schema is newer than this application")), files) := by
  have small : profileMigrations.length = 2 := rfl
  have known := lineage.known
  have read := currentSchemaVersion_eq known lineage.database healthy.readsVersion
  have newer := (versionAt_ascends opening.release (by omega) count (by omega)).mp older
  rw [← supportedVersion_take opening.release (by omega)] at newer
  simp only [openDatabase, valid, healthy.createsParent, healthy.opens, read, newer,
    Bool.true_eq_false, if_false, if_true]

theorem openDatabase_current {count : Nat} (lineage : ProfileLineage count files)
    (healthy : opening.host.Healthy) (valid : validateProfileMetadata opening.metadata = .ok ())
    (representable : opening.metadata.lastServerRevision < i64Limit)
    (positive : 0 < opening.release) (released : opening.release ≤ profileMigrations.length)
    (within : count ≤ opening.release) :
    Descends profileLedger profileMigrations opening.release
        (openDatabase files opening).2.database ∧
      ((∃ artifact, (openDatabase files opening).1 = .ok artifact) ↔
        Owned files.database opening.metadata) := by
  have small : profileMigrations.length = 2 := rfl
  have known := lineage.known
  have read := currentSchemaVersion_eq known lineage.database healthy.readsVersion
  have newest : ¬supportedVersion (profileMigrations.take opening.release) <
      versionAt profileMigrations count := by
    rw [supportedVersion_take opening.release (by omega),
      ← versionAt_ascends opening.release (by omega) count (by omega)]
    omega
  obtain ⟨artifact, backups, made⟩ :=
    @preMigrationBackup_healthy files _ healthy (versionAt profileMigrations count)
  obtain ⟨after, applied, descends⟩ := lineage.database.upgrade profileMigrations_coherent
    released within (.integer opening.now)
  have ran := applyMigrations_healthy healthy opening.now applied
  have identity := profileIdentity_upgraded lineage positive within applied
  have checked := upsertProfile_healthy healthy positive released descends representable identity
  have opened : openDatabase files opening = migrateProfile opening
      (versionAt profileMigrations count) { files with backups } artifact := by
    simp only [openDatabase, valid, healthy.createsParent, healthy.opens, read, newest, made,
      Bool.true_eq_false, if_false]
  have owned : Owned files.database opening.metadata ↔
      ((profileIdentity files.database).getD [] = [] ∨ ∃ others,
        (profileIdentity files.database).getD [] =
          [.text opening.metadata.profileId.text, .text opening.metadata.deviceId.text] ::
            others) := by
    unfold Owned
    cases profileIdentity files.database with
    | none => simp
    | some rows => simp
  rw [owned, ← checked, opened]
  unfold migrateProfile
  simp only [pending_eq profileMigrations_coherent within, ran]
  cases upserted : upsertProfile opening.host after opening.metadata with
  | error error =>
      refine ⟨descends, ?_⟩
      simp
  | ok written =>
      refine ⟨descends_upserted descends upserted, ?_⟩
      simp

/-- What happens to the file of a profile. -/
inductive OpeningAction
  | opening (opening : Opening)
  | write (database : Catalogue)

def openingStep (files : ProfileFiles) : OpeningAction → Option ProfileFiles
  | .opening opening => some (openDatabase files opening).2
  | .write database => some { files with database }

/-- Openings are of releases of this program; a write keeps the schema and its record, and
gives every row its cells. -/
def ProfileAllowed (files : ProfileFiles) : OpeningAction → Prop
  | .opening opening => opening.release ≤ profileMigrations.length
  | .write database => shape database = shape files.database ∧
      profileLedger.recorded database = profileLedger.recorded files.database ∧
      WellFormed database

/-- An opening gets past the check of the schema only where its release knows it. -/
theorem ProfileLineage.within {count : Nat} (lineage : ProfileLineage count files)
    (released : opening.release ≤ profileMigrations.length) {current : Int}
    (read : currentSchemaVersion opening.host files.database = .ok current)
    (known : current ≤ supportedVersion (profileMigrations.take opening.release)) :
    count ≤ opening.release ∧ current = versionAt profileMigrations count := by
  have version := currentSchemaVersion_of_descends lineage.known lineage.database read
  refine ⟨?_, version⟩
  have small : profileMigrations.length = 2 := rfl
  have bound := lineage.known
  by_contra older
  rw [version, supportedVersion_take opening.release (by omega)] at known
  have newer := (versionAt_ascends opening.release (by omega) count (by omega)).mp (by omega)
  omega

/-- Wherever an opening stops, the profile is one of some schema. -/
theorem ProfileLineage.opened {count : Nat} (lineage : ProfileLineage count files)
    (released : opening.release ≤ profileMigrations.length) :
    ∃ reached, ProfileLineage reached (openDatabase files opening).2 := by
  have opened := openDatabase_opened files opening
  generalize openDatabase files opening = outcome at opened
  cases opened with
  | refused error => exact ⟨count, lineage⟩
  | unsaved made => exact ⟨count, lineage.known, lineage.database, lineage.formed⟩
  | @migrated current artifact backups read known made =>
      obtain ⟨within, rfl⟩ := lineage.within released read known
      rcases migrateProfile_cases opening (versionAt profileMigrations count)
        { files with backups } artifact with
        ⟨error, ran, after, front, applied, stopped⟩ | ⟨after, written, applied, upserted, done⟩
      · rw [stopped]
        rw [pending_eq profileMigrations_coherent within] at front
        obtain ⟨reached, bounded, descends⟩ :=
          lineage.database.begun profileMigrations_coherent released within front applied
        exact ⟨reached, bounded, descends, applyAll_wellFormed lineage.formed applied⟩
      · rw [done]
        rw [pending_eq profileMigrations_coherent within] at applied
        obtain ⟨last, same, descends⟩ := lineage.database.upgrade profileMigrations_coherent
          released within (.integer opening.now)
        rw [applied] at same
        cases same
        exact ⟨opening.release, released, descends_upserted descends upserted,
          upsertProfile_formed (applyAll_wellFormed lineage.formed applied) upserted⟩

theorem ProfileLineage.step {count : Nat} (lineage : ProfileLineage count files)
    {action : OpeningAction} {next : ProfileFiles} (allowed : ProfileAllowed files action)
    (taken : openingStep files action = some next) :
    ∃ reached, ProfileLineage reached next := by
  cases action with
  | opening opening =>
      cases taken
      exact lineage.opened allowed
  | write database =>
      cases taken
      obtain ⟨same, recorded, formed⟩ := allowed
      refine ⟨count, lineage.known, ⟨?_, ?_⟩, formed⟩
      · rw [same]
        exact lineage.database.shaped
      · rw [recorded]
        exact lineage.database.recorded

theorem run_profileLineage {actions : List OpeningAction} {last : ProfileFiles}
    (allowed : Transition.Meets openingStep ProfileAllowed ⟨Table.empty, Table.empty⟩ actions)
    (reached : Transition.run openingStep ⟨Table.empty, Table.empty⟩ actions = some last) :
    ∃ count, ProfileLineage count last :=
  @Transition.run_keeps_of_meets _ _ _ _ (fun files => ∃ count, ProfileLineage count files)
    (fun _ _ _ known meets taken => by
      obtain ⟨_, lineage⟩ := known
      exact lineage.step meets taken)
    actions _ last
    ⟨0, Nat.zero_le _, Descends.empty profileLedger profileMigrations, WellFormed.empty⟩
    allowed reached

theorem reopened_lineage {openings : List Opening}
    (released : ∀ opening ∈ openings, opening.release ≤ profileMigrations.length) :
    ∀ {files : ProfileFiles}, (∃ count, ProfileLineage count files) →
      ∃ count, ProfileLineage count (reopened files openings) := by
  induction openings with
  | nil => exact fun lineage => lineage
  | cons opening rest ih =>
      rintro files ⟨count, lineage⟩
      exact ih (fun other member => released other (List.mem_cons_of_mem _ member))
        (lineage.opened (released opening List.mem_cons_self))

/-- What an opening that succeeds has made sure of. -/
structure OpenedProfile (before after : ProfileFiles) (opening : Opening)
    (artifact : Option String) : Prop where
  current : Descends profileLedger profileMigrations opening.release after.database
  identity : ∃ others, profileIdentity after.database =
    some ([.text opening.metadata.profileId.text, .text opening.metadata.deviceId.text] :: others)
  saved : ∀ path, artifact = some path → after.backups.get path = some (some before.database)
  unsaved : artifact = none → before.database = Table.empty ∨
    Descends profileLedger profileMigrations opening.release before.database

theorem openDatabase_succeeds {count : Nat} (lineage : ProfileLineage count files)
    (released : opening.release ≤ profileMigrations.length) {after : ProfileFiles}
    {artifact : Option String}
    (succeeded : openDatabase files opening = (.ok artifact, after)) :
    OpenedProfile files after opening artifact := by
  have opened := openDatabase_opened files opening
  rw [succeeded] at opened
  generalize reached :
    ((.ok artifact, after) : Except OpenError (Option String) × ProfileFiles) = outcome at opened
  cases opened with
  | refused => cases reached
  | unsaved => cases reached
  | @migrated current made backups read known copied =>
      obtain ⟨within, rfl⟩ := lineage.within released read known
      rcases migrateProfile_cases opening (versionAt profileMigrations count)
        { files with backups } made with
        ⟨_, _, _, _, _, stopped⟩ | ⟨_, written, applied, upserted, done⟩
      · rw [stopped] at reached
        cases reached
      · rw [done] at reached
        cases reached
        rw [pending_eq profileMigrations_coherent within] at applied
        obtain ⟨last, same, descends⟩ := lineage.database.upgrade profileMigrations_coherent
          released within (.integer opening.now)
        rw [applied] at same
        cases same
        refine ⟨descends_upserted descends upserted, upsertProfile_identity upserted, ?_, ?_⟩
        · rintro path rfl
          exact (preMigrationBackup_backedUp copied).saved
        · rintro rfl
          refine (preMigrationBackup_backedUp copied).unsaved.imp_right ?_
          intro newest
          have small : profileMigrations.length = 2 := rfl
          rw [supportedVersion_take opening.release (by omega),
            ← versionAt_ascends count (by omega) opening.release (by omega)] at newest
          have same : count = opening.release := Nat.le_antisymm within (Nat.le_of_not_lt newest)
          exact same ▸ lineage.database

/-- Whatever releases try to open a profile under whatever identity, and wherever they fail,
after any run: no row and no copy is lost, and an opening that succeeds brings the profile it
names to its release's schema and has copied what stood before its migrations. -/
theorem openings_preserve_profile (actions : List OpeningAction) (files : ProfileFiles)
    (openings : List Opening)
    (allowed : Transition.Meets openingStep ProfileAllowed ⟨Table.empty, Table.empty⟩ actions)
    (arrived : Transition.run openingStep ⟨Table.empty, Table.empty⟩ actions = some files)
    (released : ∀ opening ∈ openings, opening.release ≤ profileMigrations.length) :
    Conserved openings files (reopened files openings) ∧
      ∀ (last : Opening) (artifact : Option String) (after : ProfileFiles),
        last.release ≤ profileMigrations.length →
        openDatabase (reopened files openings) last = (.ok artifact, after) →
        Conserved (openings ++ [last]) files after ∧
          OpenedProfile (reopened files openings) after last artifact := by
  have preserved := reopened_preserves openings files
  refine ⟨preserved, ?_⟩
  intro last artifact after known succeeded
  obtain ⟨count, lineage⟩ := reopened_lineage released (run_profileLineage allowed arrived)
  have further := openDatabase_preserves (reopened files openings) last
  rw [succeeded] at further
  exact ⟨preserved.trans further, openDatabase_succeeds lineage known succeeded⟩

/-- After any run of openings that stop anywhere and writes between them, a profile is one of
some schema. On a sound system a release that is older refuses it and changes nothing; any
other brings it up to date, and opens it exactly where it is the profile that is asked for. -/
theorem profile_opens_or_refuses (actions : List OpeningAction) (last : ProfileFiles)
    (allowed : Transition.Meets openingStep ProfileAllowed ⟨Table.empty, Table.empty⟩ actions)
    (reached : Transition.run openingStep ⟨Table.empty, Table.empty⟩ actions = some last) :
    ∃ count ≤ profileMigrations.length,
      Descends profileLedger profileMigrations count last.database ∧
      ∀ opening : Opening, opening.host.Healthy →
        validateProfileMetadata opening.metadata = .ok () →
        opening.metadata.lastServerRevision < i64Limit → 0 < opening.release →
        opening.release ≤ profileMigrations.length →
        (opening.release < count → openDatabase last opening = (.error (.storage
          (.invalidData "profile schema is newer than this application")), last)) ∧
        (count ≤ opening.release →
          Descends profileLedger profileMigrations opening.release
              (openDatabase last opening).2.database ∧
            ((∃ artifact, (openDatabase last opening).1 = .ok artifact) ↔
              Owned last.database opening.metadata)) := by
  obtain ⟨count, lineage⟩ := run_profileLineage allowed reached
  refine ⟨count, lineage.known, lineage.database, ?_⟩
  intro opening healthy valid representable positive released
  constructor
  · intro older
    exact openDatabase_older lineage healthy valid older
  · intro within
    exact openDatabase_current lineage healthy valid representable positive released within

end Lineage

section Sample

def soundOpenHost : OpenHost where
  createsParent := true
  hasHeader := true
  opens := true
  readsVersion := true
  createsBackups := true
  opensCopy := true
  copies := true
  closes := true
  begins _ := true
  runs _ := true
  readsProfile := true
  inserts := true

theorem soundOpenHost_healthy : soundOpenHost.Healthy :=
  ⟨rfl, rfl, rfl, rfl, rfl, rfl, rfl, fun _ => rfl, fun _ => rfl, rfl, rfl⟩

def sampleProfile : ProfileMetadata where
  profileId := randomId 1
  userId := none
  username := none
  deviceId := randomId 1
  platform := "macos"
  serverOrigin := none
  lastServerRevision := 0
  createdAt := 0
  updatedAt := 0

/-- The second migration does not run to its end. -/
def brokenOff : Opening :=
  ⟨2, { soundOpenHost with runs := fun migration => migration.version = 1 }, sampleProfile, 1,
    randomId 1⟩

def openedAgain : Opening := ⟨2, soundOpenHost, sampleProfile, 2, randomId 2⟩

def openedFirst : Opening := ⟨1, soundOpenHost, sampleProfile, 0, randomId 3⟩

/-- A text was looked up with the first release. -/
def withHistory : Catalogue :=
  (Schema.insert (openDatabase ⟨Table.empty, Table.empty⟩ openedFirst).2.database
    "history_entries" [("content_key", .text "7f"), ("source_text", .text "gift")]).getD Table.empty

def usedProfile : List OpeningAction := [.opening openedFirst, .write withHistory]

/-- What becomes of the row and of the profile's identity. -/
theorem usedProfile_runs :
    (Schema.insert (openDatabase ⟨Table.empty, Table.empty⟩ openedFirst).2.database
      "history_entries" [("content_key", .text "7f"), ("source_text", .text "gift")]).isSome =
        true ∧
    ((Transition.run openingStep ⟨Table.empty, Table.empty⟩ usedProfile).any (fun files =>
      select files.database "history_entries" ["source_text"] = some [[.text "gift"]] &&
        decide (files.backups ≠ Table.empty) &&
        (openDatabase (reopened files [brokenOff]) openedAgain).1.toOption.join.isSome)) = true ∧
    ((Transition.run openingStep ⟨Table.empty, Table.empty⟩
      (usedProfile ++ [.opening brokenOff])).any (fun last =>
        select last.database "history_entries" ["source_text"] = some [[.text "gift"]] &&
          profileIdentity last.database =
            some [[.text sampleProfile.profileId.text, .text sampleProfile.deviceId.text]])) =
              true ∧
    ((Transition.run openingStep ⟨Table.empty, Table.empty⟩
      (usedProfile ++ [.opening openedAgain])).any (fun last =>
        profileIdentity last.database =
            some [[.text sampleProfile.profileId.text, .text sampleProfile.deviceId.text]] &&
          !(openDatabase last openedFirst).1.isOk)) = true := by
  decide +kernel

theorem usedProfile_allowed {later : List Opening}
    (released : ∀ opening ∈ later, opening.release ≤ profileMigrations.length) :
    Transition.Meets openingStep ProfileAllowed ⟨Table.empty, Table.empty⟩
      (usedProfile ++ later.map .opening) := by
  have first : openedFirst.release ≤ profileMigrations.length := by decide
  have apart : folded profileLedger.table ≠ folded "history_entries" := by decide
  obtain ⟨after, inserted⟩ := Option.isSome_iff_exists.mp usedProfile_runs.1
  have written : withHistory = after := congrArg (fun found => found.getD Table.empty) inserted
  obtain ⟨count, lineage⟩ := @run_profileLineage [.opening openedFirst] _ ⟨first, trivial⟩ rfl
  refine ⟨first, ⟨?_, ?_, ?_⟩, Transition.meets_of_forall ?_ _⟩
  · rw [written]
    exact insert_shaped inserted
  · rw [written, Ledger.recorded, select_of_get (insert_get inserted apart)]
    rfl
  · rw [written]
    exact insert_wellFormed lineage.formed inserted
  · intro action member files
    obtain ⟨opening, inside, rfl⟩ := List.mem_map.mp member
    exact released opening inside

/-- The upgrade of a profile in use is broken off once, and then succeeds. -/
theorem openings_preserve_profile_used : ∃ files path after,
    Transition.run openingStep ⟨Table.empty, Table.empty⟩ usedProfile = some files ∧
      select files.database "history_entries" ["source_text"] = some [[.text "gift"]] ∧
      files.backups ≠ Table.empty ∧
      openDatabase (reopened files [brokenOff]) openedAgain = (.ok (some path), after) ∧
      Conserved [brokenOff, openedAgain] files after ∧
      OpenedProfile (reopened files [brokenOff]) after openedAgain (some path) := by
  obtain ⟨files, arrived, holds⟩ := (Option.any_eq_true _ _).mp usedProfile_runs.2.1
  simp only [Bool.and_eq_true, decide_eq_true_eq] at holds
  obtain ⟨⟨stored, copied⟩, succeeds⟩ := holds
  have settled := openings_preserve_profile usedProfile files [brokenOff]
    (usedProfile_allowed (List.forall_mem_nil _)) arrived
    (fun opening member => by rw [List.mem_singleton.mp member]; decide)
  rcases opened : openDatabase (reopened files [brokenOff]) openedAgain with ⟨_ | artifact, after⟩
  · rw [opened] at succeeds
    cases succeeds
  · rw [opened] at succeeds
    obtain ⟨path, rfl⟩ := Option.isSome_iff_exists.mp succeeds
    have upgraded := settled.2 openedAgain (some path) after (by decide) opened
    exact ⟨files, path, after, arrived, stored, copied, opened, upgraded⟩

/-- The profile that the first release made is opened by the second, which had broken off; once
it has been, the first one refuses it. -/
theorem profile_opens_or_refuses_used :
    (∃ last artifact,
      Transition.run openingStep ⟨Table.empty, Table.empty⟩
          (usedProfile ++ [.opening brokenOff]) = some last ∧
        select last.database "history_entries" ["source_text"] = some [[.text "gift"]] ∧
        (openDatabase last openedAgain).1 = .ok artifact ∧
        Descends profileLedger profileMigrations 2 (openDatabase last openedAgain).2.database) ∧
    ∃ last,
      Transition.run openingStep ⟨Table.empty, Table.empty⟩
          (usedProfile ++ [.opening openedAgain]) = some last ∧
        openDatabase last openedFirst = (.error (.storage
          (.invalidData "profile schema is newer than this application")), last) := by
  have allowed : ∀ opening : Opening, opening.release = 2 →
      Transition.Meets openingStep ProfileAllowed ⟨Table.empty, Table.empty⟩
        (usedProfile ++ [.opening opening]) := by
    intro opening second
    refine @usedProfile_allowed [opening] ?_
    intro other member
    rw [List.mem_singleton.mp member]
    exact second.le
  have valid : validateProfileMetadata sampleProfile = .ok () := by decide
  constructor
  · obtain ⟨last, reached, holds⟩ := (Option.any_eq_true _ _).mp usedProfile_runs.2.2.1
    simp only [Bool.and_eq_true, decide_eq_true_eq] at holds
    obtain ⟨stored, identity⟩ := holds
    obtain ⟨count, known, -, opens⟩ := profile_opens_or_refuses _ last (allowed brokenOff rfl)
      reached
    obtain ⟨descends, owned⟩ := (opens openedAgain soundOpenHost_healthy valid (by decide)
      (by decide) (by decide)).2 known
    obtain ⟨artifact, succeeded⟩ := owned.mpr (Or.inr (Or.inr ⟨[], identity⟩))
    exact ⟨last, artifact, reached, stored, succeeded, descends⟩
  · obtain ⟨last, reached, holds⟩ := (Option.any_eq_true _ _).mp usedProfile_runs.2.2.2
    simp only [Bool.and_eq_true, decide_eq_true_eq, Bool.not_eq_true'] at holds
    obtain ⟨identity, refuses⟩ := holds
    obtain ⟨count, known, -, opens⟩ := profile_opens_or_refuses _ last (allowed openedAgain rfl)
      reached
    have first := opens openedFirst soundOpenHost_healthy valid (by decide) (by decide) (by decide)
    by_cases newer : 1 < count
    · exact ⟨last, reached, first.1 newer⟩
    · obtain ⟨artifact, succeeded⟩ := (first.2 (Nat.le_of_not_lt newer)).2.mpr
        (Or.inr (Or.inr ⟨[], identity⟩))
      rw [succeeded] at refuses
      cases refuses

end Sample

end Lvos.Storage
