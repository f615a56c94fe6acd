import Lvos.Lib.Migration
import Lvos.Lib.Transaction
import Lvos.Lib.Transition
import Lvos.Server.Backup

set_option autoImplicit false

namespace Lvos.Server

open Lvos.Core (Uuid)
open Migrations Relational Schema

/-! The start of the server on its database: the check of the schema that stands there, the
backup before it is changed, and the migrations in one transaction. -/

inductive StartupFailure
  | database
  | migration
  | backup (failure : BackupFailure)
deriving DecidableEq, Repr

def serverSchemaV1 : List Statement :=
  [.createTable true "schema_migrations" (["version", "name", "applied_at"].map .plain),
    .createTable true "users" ((["user_id", "username", "password_hash"].map .plain) ++
      [⟨"sync_revision", .integer 0⟩] ++ (["created_at", "disabled_at"].map .plain)),
    .createTable true "devices" (["user_id", "device_id", "platform", "device_name", "created_at",
      "last_seen_at", "revoked_at"].map .plain),
    .createTable true "sessions" (["session_id", "user_id", "device_id", "access_token_hash",
      "refresh_token_hash", "access_expires_at", "created_at", "last_refreshed_at",
      "last_seen_at", "revoked_at"].map .plain),
    .createIndex true "idx_sessions_user_device" "sessions" ["user_id", "device_id"],
    .createIndex true "idx_sessions_refresh_hash" "sessions" ["refresh_token_hash"]]

def serverSchemaV2 : List Statement :=
  [.createTable false "favorites" (["user_id", "content_key", "key_version", "kind",
      "source_lang", "target_lang", "source_text", "canonical_text", "translation", "provider",
      "favorited_at", "updated_at", "deleted_at", "entity_revision",
      "server_received_at"].map .plain),
    .createIndex false "idx_server_favorites_active" "favorites"
      ["user_id", "deleted_at", "favorited_at"],
    .createTable false "device_query_stats" (["user_id", "device_id", "content_key",
      "query_count", "first_queried_at", "last_queried_at", "updated_at"].map .plain),
    .createIndex false "idx_device_query_stats_content" "device_query_stats"
      ["user_id", "content_key"],
    .createTable false "processed_sync_events" (["user_id", "event_id", "event_fingerprint",
      "operation", "ack_status", "entity_revision", "user_revision", "aggregate_query_count",
      "aggregate_first_queried_at", "aggregate_last_queried_at", "processed_at"].map .plain),
    .createTable false "change_log" (["user_id", "revision", "content_key", "entity_revision",
      "operation", "changed_at"].map .plain),
    .createIndex false "idx_change_log_content" "change_log"
      ["user_id", "content_key", "revision"]]

def migrations : List Migration :=
  [⟨1, "server_identity_auth", serverSchemaV1⟩, ⟨2, "server_sync_core", serverSchemaV2⟩]

def ledger : Ledger := ⟨"schema_migrations", "version", "name", "applied_at"⟩

/-- What the system answers while the server starts. -/
structure StartHost where
  pragmas : Bool
  readsCatalogue : Bool
  readsLedger : Bool
  countsTables : Bool
  begins : Bool
  runs : Migration → Bool
  commits : Bool
  backup : BackupHost Catalogue

/-- The database and the directory of its backups. -/
structure ServerFiles where
  database : Catalogue
  backups : Directory Catalogue

/-- The loop of `current_schema_version`: each row is to be the next known migration. -/
def checkVersions : List Migration → Int → List (List Value) → Except StartupFailure Int
  | _, current, [] => .ok current
  | expected :: later, _, [.integer version, .text name] :: rest =>
      if version ≠ expected.version ∨ name ≠ expected.name then .error .migration
      else checkVersions later version rest
  | _, _, _ => .error .migration

/-- `ORDER BY version`. -/
def byVersion (rows : List (List Value)) : List (List Value) :=
  rows.insertionSort
    (fun first second => (first.headD .null).sortsBefore (second.headD .null) = true)

def currentSchemaVersion (known : List Migration) (host : StartHost) (database : Catalogue) :
    Except StartupFailure Int :=
  if host.readsCatalogue = false then .error .migration
  else if ledger.stands database = false then .ok 0
  else
    match select database ledger.table ledger.columns with
    | none => .error .migration
    | some rows =>
        if host.readsLedger = false then .error .migration
        else checkVersions known 0 (byVersion rows)

/-- `name NOT LIKE 'sqlite_%'`, where `_` is any character. -/
def isApplicationTable : Object → Bool
  | .table name _ _ =>
      !("sqlite".toList.isPrefixOf (folded name) && "sqlite".toList.length < (folded name).length)
  | _ => false

def databaseHasApplicationTables (database : Catalogue) : Bool :=
  database.rows.any (fun entry => isApplicationTable entry.2)

/-- The loop of `apply_migrations`. -/
def runMigrations (host : StartHost) (now : Int) :
    Catalogue → List Migration → Option Catalogue
  | database, [] => some database
  | database, migration :: rest =>
      if host.runs migration then
        (ledger.apply (.integer now) database migration).bind
          (fun next => runMigrations host now next rest)
      else none

/-- `apply_migrations`, one transaction. -/
def applyMigrations (host : StartHost) (pending : List Migration) (now : Int) :
    Catalogue → Catalogue × Except StartupFailure Unit :=
  Transaction.atomically (fun database =>
    if host.begins = false then .error .migration
    else
      match runMigrations host now database pending with
      | none => .error .migration
      | some after => if host.commits then .ok (after, ()) else .error .migration)

/-- Whether a backup has to be made first. -/
def needsBackup (host : StartHost) (database : Catalogue) (current : Int) :
    Except StartupFailure Bool :=
  if 0 < current then .ok true
  else if host.countsTables = false then .error .migration
  else .ok (databaseHasApplicationTables database)

/-- `apply_migrations` on the files of the server. -/
def migrateFiles (host : StartHost) (pending : List Migration) (now : Int) (files : ServerFiles) :
    Except StartupFailure Unit × ServerFiles :=
  ((applyMigrations host pending now files.database).2,
    { files with database := (applyMigrations host pending now files.database).1 })

/-- `initialize` of a release that knows these migrations; `configured` is whether it is given
a directory for backups. -/
def initializeDatabase (known : List Migration) (host : StartHost) (configured : Bool)
    (files : ServerFiles) (retentionCount : Nat) (now : Int) (id : Uuid) :
    Except StartupFailure Unit × ServerFiles :=
  if host.pragmas = false then (.error .database, files)
  else
    match currentSchemaVersion known host files.database with
    | .error failure => (.error failure, files)
    | .ok current =>
        let pending := known.filter (fun migration => current < migration.version)
        if pending = [] then (.ok (), files)
        else
          match needsBackup host files.database current with
          | .error failure => (.error failure, files)
          | .ok false => migrateFiles host pending now files
          | .ok true =>
              if configured = false then (.error (.backup .backup), files)
              else
                match createBackup host.backup files.backups files.database retentionCount current
                  "pre-migration" now id with
                | (.error failure, backups) => (.error (.backup failure), { files with backups })
                | (.ok _, backups) => migrateFiles host pending now { files with backups }

section Start

variable {known pending : List Migration} {host : StartHost} {configured : Bool}
  {files : ServerFiles} {retentionCount : Nat} {now : Int} {id : Uuid}

/-- Everything a start can come to. -/
inductive Started (known : List Migration) (host : StartHost) (configured : Bool)
    (files : ServerFiles) (retentionCount : Nat) (now : Int) (id : Uuid) :
    Except StartupFailure Unit × ServerFiles → Prop
  | refused (failure : StartupFailure) :
      Started known host configured files retentionCount now id (.error failure, files)
  | unchanged {current : Int}
      (read : currentSchemaVersion known host files.database = .ok current)
      (none : known.filter (fun migration => current < migration.version) = []) :
      Started known host configured files retentionCount now id (.ok (), files)
  | unsaved {current : Int} {failure : BackupFailure} {backups : Directory Catalogue}
      (made : createBackup host.backup files.backups files.database retentionCount current
        "pre-migration" now id = (.error failure, backups)) :
      Started known host configured files retentionCount now id
        (.error (.backup failure), { files with backups })
  | bare {current : Int}
      (read : currentSchemaVersion known host files.database = .ok current)
      (needs : needsBackup host files.database current = .ok false) :
      Started known host configured files retentionCount now id
        (migrateFiles host (known.filter (fun migration => current < migration.version)) now files)
  | saved {current : Int} {path : FileName} {backups : Directory Catalogue}
      (read : currentSchemaVersion known host files.database = .ok current)
      (made : createBackup host.backup files.backups files.database retentionCount current
        "pre-migration" now id = (.ok path, backups)) :
      Started known host configured files retentionCount now id
        (migrateFiles host (known.filter (fun migration => current < migration.version)) now
          { files with backups })

theorem initializeDatabase_started (known : List Migration) (host : StartHost)
    (configured : Bool) (files : ServerFiles) (retentionCount : Nat) (now : Int) (id : Uuid) :
    Started known host configured files retentionCount now id
      (initializeDatabase known host configured files retentionCount now id) := by
  unfold initializeDatabase
  split
  case isTrue => exact .refused .database
  case isFalse =>
    split
    case h_1 failure _ => exact .refused failure
    case h_2 current read =>
      simp only
      split
      case isTrue none => exact .unchanged read none
      case isFalse =>
        split
        case h_1 failure _ => exact .refused failure
        case h_2 needs => exact .bare read needs
        case h_3 needs =>
          split
          case isTrue => exact .refused (.backup .backup)
          case isFalse =>
            split
            case h_1 failure backups made => exact .unsaved made
            case h_2 path backups made => exact .saved read made

theorem runMigrations_ok :
    ∀ {pending : List Migration} {database after : Catalogue},
      runMigrations host now database pending = some after →
      ledger.applyAll (.integer now) database pending = some after := by
  intro pending
  induction pending with
  | nil => exact fun ran => ran
  | cons migration rest ih =>
      intro database after ran
      unfold runMigrations at ran
      split at ran
      case isFalse => cases ran
      case isTrue =>
        obtain ⟨next, first, later⟩ := Option.bind_eq_some_iff.mp ran
        rw [Ledger.applyAll, first, Option.bind_some, ih later]

/-- The transaction is rolled back, or every pending migration has run. -/
theorem migrateFiles_cases (host : StartHost) (pending : List Migration) (now : Int)
    (files : ServerFiles) :
    migrateFiles host pending now files = (.error .migration, files) ∨
      ∃ after, migrateFiles host pending now files = (.ok (), { files with database := after }) ∧
        ledger.applyAll (.integer now) files.database pending = some after := by
  unfold migrateFiles applyMigrations Transaction.atomically
  by_cases begins : host.begins = false
  · exact Or.inl (by simp [begins])
  · cases ran : runMigrations host now files.database pending with
    | none => exact Or.inl (by simp [begins, ran])
    | some after =>
        by_cases commits : host.commits = true
        · exact Or.inr ⟨after, by simp [begins, ran, commits], runMigrations_ok ran⟩
        · exact Or.inl (by simp [begins, ran, commits])

theorem removeFiles_within {δ : Type} {host : BackupHost δ} :
    ∀ {entries : List (FileName × DirEntry δ)} {directory : Directory δ} {name : FileName}
      {entry : DirEntry δ}, (removeFiles host directory entries).2.get name = some entry →
      directory.get name = some entry := by
  intro entries
  induction entries with
  | nil => exact fun found => found
  | cons first rest ih =>
      intro directory name entry found
      unfold removeFiles at found
      split at found
      case isFalse => exact found
      case isTrue =>
        have stands := ih found
        rw [Table.get_delete_key] at stands
        split at stands
        · cases stands
        · exact stands

theorem enforceRetention_within {δ : Type} {host : BackupHost δ} {directory : Directory δ}
    {retentionCount : Nat} {name : FileName} {entry : DirEntry δ}
    (found : (enforceRetention host directory retentionCount).2.get name = some entry) :
    directory.get name = some entry := by
  unfold enforceRetention at found
  split at found
  · exact found
  · exact removeFiles_within found

/-- Whatever becomes of a backup, the directory has no new content but the database, and
perhaps a part of it. -/
theorem createBackup_within {δ : Type} (host : BackupHost δ) (directory : Directory δ)
    (source : δ) (retentionCount : Nat) (schemaVersion : Int) (reason : String) (now : Int)
    (id : Uuid) {name : FileName} {entry : DirEntry δ}
    (found : (createBackup host directory source retentionCount schemaVersion reason now
      id).2.get name = some entry) :
    directory.get name = some entry ∨ entry = ⟨true, none⟩ ∨ entry = ⟨true, some source⟩ := by
  have written : ∀ {key : FileName} {content : DirEntry δ},
      (directory.put key content).get name = some entry →
      directory.get name = some entry ∨ entry = content := by
    intro key content stands
    rw [Table.get_put] at stands
    split at stands
    · exact Or.inr (Option.some.inj stands).symm
    · exact Or.inl stands
  unfold createBackup at found
  split at found
  case isTrue => exact Or.inl found
  case isFalse =>
    split at found
    case isTrue => exact Or.inl found
    case isFalse =>
      simp only at found
      split at found
      case isTrue => exact Or.inl found
      case isFalse =>
        split at found
        case h_1 =>
          simp only at found
          split at found
          · rw [Table.get_delete_key] at found
            split at found
            · cases found
            · exact (written found).imp_right Or.inl
          · exact (written found).imp_right Or.inl
        case h_2 =>
          split at found
          case isTrue => exact (written found).imp_right Or.inr
          case isFalse =>
            have kept : ((directory.delete (fun other _ => other = withExtension
                (Hex.utf8 (backupFilename schemaVersion reason now id)) "sqlite3.partial")).put
                  (Hex.utf8 (backupFilename schemaVersion reason now id))
                  ⟨true, some source⟩).get name = some entry := by
              split at found
              case h_1 failure after enforced =>
                rw [← congrArg Prod.snd enforced] at found
                exact enforceRetention_within found
              case h_2 after enforced =>
                rw [← congrArg Prod.snd enforced] at found
                exact enforceRetention_within found
            rw [Table.get_put] at kept
            split at kept
            · exact Or.inr (Or.inr (Option.some.inj kept).symm)
            · rw [Table.get_delete_key] at kept
              split at kept
              · cases kept
              · exact Or.inl kept

end Start

section Attempts

/-- One start: the release that is started knows the first `release` migrations. -/
structure StartAttempt where
  release : Nat
  host : StartHost
  configured : Bool
  retentionCount : Nat
  now : Int
  id : Uuid

def start (files : ServerFiles) (attempt : StartAttempt) :
    Except StartupFailure Unit × ServerFiles :=
  initializeDatabase (migrations.take attempt.release) attempt.host attempt.configured files
    attempt.retentionCount attempt.now attempt.id

/-- A start that fails, and what it leaves behind. -/
def failedStart (files : ServerFiles) (attempt : StartAttempt) : Option ServerFiles :=
  match start files attempt with
  | (.ok (), _) => none
  | (.error _, after) => some after

theorem migrations_create :
    ∀ migration ∈ migrations, ∀ statement ∈ migration.sql, statement.creates = true := by
  decide

/-- The migrations of a release widen no table. -/
theorem migrations_spare (release : Nat) (current : Int) (key : List Char) :
    ∀ migration ∈ (migrations.take release).filter (fun migration => current < migration.version),
      ∀ statement ∈ migration.sql, statement.widens key = false := by
  intro migration member statement inside
  have known := List.mem_of_mem_take (List.mem_of_mem_filter member)
  exact widens_of_creates (migrations_create migration known statement inside) key

/-- What stands in `after` stood in `before`, or is the database or a part of it. -/
def NewCopies (database : Catalogue) (before after : Directory Catalogue) : Prop :=
  ∀ name entry, after.get name = some entry →
    before.get name = some entry ∨ entry = ⟨true, none⟩ ∨ entry = ⟨true, some database⟩

theorem NewCopies.refl (database : Catalogue) (backups : Directory Catalogue) :
    NewCopies database backups backups :=
  fun _ _ found => Or.inl found

theorem NewCopies.trans {database : Catalogue} {first second third : Directory Catalogue}
    (left : NewCopies database first second) (right : NewCopies database second third) :
    NewCopies database first third := by
  intro name entry found
  rcases right name entry found with stood | copy
  · exact left name entry stood
  · exact Or.inr copy

theorem NewCopies.made {host : BackupHost Catalogue} {before after : Directory Catalogue}
    {database : Catalogue} {retentionCount : Nat} {schemaVersion now : Int} {reason : String}
    {id : Uuid} {result : Except BackupFailure FileName}
    (made : createBackup host before database retentionCount schemaVersion reason now id =
      (result, after)) : NewCopies database before after := by
  intro name entry found
  have written := @createBackup_within Catalogue host before database retentionCount
    schemaVersion reason now id name entry
  rw [made] at written
  exact written found

theorem Prunes.made {host : BackupHost Catalogue} {before after : Directory Catalogue}
    {database : Catalogue} {retentionCount : Nat} {schemaVersion now : Int} {reason : String}
    {id : Uuid} {result : Except BackupFailure FileName}
    (made : createBackup host before database retentionCount schemaVersion reason now id =
      (result, after)) : Prunes database retentionCount before after := by
  have pruned := createBackup_prunes host before database retentionCount schemaVersion reason now id
  rw [made] at pruned
  exact pruned

/-- Nothing is made of a backup of which none is to be retained. -/
theorem createBackup_none {host : BackupHost Catalogue} {before after : Directory Catalogue}
    {database : Catalogue} {schemaVersion now : Int} {reason : String} {id : Uuid}
    {result : Except BackupFailure FileName}
    (made : createBackup host before database 0 schemaVersion reason now id = (result, after)) :
    after = before := by
  rw [createBackup, if_pos (Or.inl rfl)] at made
  exact (congrArg Prod.snd made).symm

/-- What a start has made of the backups: copies of the database, within its retention. -/
structure Copied (files : ServerFiles) (attempt : StartAttempt) (after : ServerFiles) : Prop where
  copies : NewCopies files.database files.backups after.backups
  pruned : Prunes files.database attempt.retentionCount files.backups after.backups
  unused : attempt.retentionCount = 0 → after.backups = files.backups

theorem Copied.refl (files : ServerFiles) (attempt : StartAttempt) (database : Catalogue) :
    Copied files attempt { files with database } :=
  ⟨NewCopies.refl _ _, Prunes.refl _ _ _, fun _ => rfl⟩

theorem Copied.made {files : ServerFiles} {attempt : StartAttempt} {schemaVersion : Int}
    {result : Except BackupFailure FileName} {backups : Directory Catalogue}
    (made : createBackup attempt.host.backup files.backups files.database attempt.retentionCount
      schemaVersion "pre-migration" attempt.now attempt.id = (result, backups))
    (database : Catalogue) : Copied files attempt ⟨database, backups⟩ where
  copies := NewCopies.made made
  pruned := Prunes.made made
  unused := fun none => createBackup_none (none ▸ made)

section Made

variable {host : BackupHost Catalogue} {before after : Directory Catalogue} {database : Catalogue}
  {retentionCount : Nat} {schemaVersion now : Int} {reason : String} {id : Uuid} {path : FileName}

theorem createBackup_stored_iff
    (made : createBackup host before database retentionCount schemaVersion reason now id =
      (.ok path, after)) :
    after.get path = some ⟨true, some database⟩ ↔ RanksNew retentionCount before path := by
  obtain ⟨allowed, named, enforced⟩ := createBackup_ok made
  obtain ⟨backups, listed, remains⟩ := enforceRetention_ok enforced
  exact stored_iff allowed named listed remains

/-- The copy stands, or retention has preferred enough others. -/
theorem createBackup_stands
    (made : createBackup host before database retentionCount schemaVersion reason now id =
      (.ok path, after)) :
    after.get path = some ⟨true, some database⟩ ∨ Superseded retentionCount after path := by
  obtain ⟨-, -, enforced⟩ := createBackup_ok made
  have written : (renamedTo before path database).get path = some ⟨true, some database⟩ := by
    rw [renamedTo, Table.get_put_self]
  have kept := enforceRetention_prunes host retentionCount written
  rw [enforced] at kept
  exact kept

end Made

end Attempts

section Versions

theorem checkVersions_entries :
    ∀ (ran later : List Migration) (current : Int),
      checkVersions (ran ++ later) current (ran.map Migration.entry) =
        .ok ((ran.map Migration.version).getLastD current) := by
  intro ran
  induction ran with
  | nil =>
      intro later current
      cases later <;> rfl
  | cons migration rest ih =>
      intro later current
      rw [List.cons_append, List.map_cons, Migration.entry, checkVersions,
        if_neg (by simp), ih later, List.map_cons, List.getLastD_cons]

/-- An older release meets a migration that it does not know. -/
theorem checkVersions_beyond :
    ∀ (known extra : List Migration) (current : Int), extra ≠ [] →
      checkVersions known current ((known ++ extra).map Migration.entry) = .error .migration := by
  intro known
  induction known with
  | nil =>
      intro extra current some
      cases extra with
      | nil => exact absurd rfl some
      | cons migration rest => rfl
  | cons migration rest ih =>
      intro extra current some
      rw [List.cons_append, List.map_cons, Migration.entry, checkVersions, if_neg (by simp),
        ih extra _ some]

/-- Rows that ascend stand in the order of their versions. -/
theorem byVersion_entries {ran : List Migration}
    (ascending : ran.Pairwise (fun first second => first.version < second.version)) :
    byVersion (ran.map Migration.entry) = ran.map Migration.entry := by
  apply List.Pairwise.insertionSort_eq
  rw [List.pairwise_map]
  refine ascending.imp ?_
  intro first second less
  simp only [Migration.entry, List.headD_cons, Value.sortsBefore, decide_eq_true_eq]
  omega

theorem migrations_coherent : Coherent ledger migrations where
  apart := by decide
  ascending := by decide
  positive := by decide
  builds := by
    intro count inside
    have bound : count < 2 := inside
    rcases count with _ | _ | count
    · exact ⟨_, rfl, by decide⟩
    · exact ⟨_, rfl, by decide⟩
    · omega
  spares := fun migration member statement inside =>
    widens_of_creates (migrations_create migration member statement inside) _

end Versions

section Lineage

variable {files : ServerFiles}

/-- No call of the system fails. -/
structure StartHost.Healthy (host : StartHost) : Prop where
  pragmas : host.pragmas = true
  readsCatalogue : host.readsCatalogue = true
  readsLedger : host.readsLedger = true
  countsTables : host.countsTables = true
  begins : host.begins = true
  runs : ∀ migration, host.runs migration = true
  commits : host.commits = true
  createDirAll : host.backup.createDirAll = true
  opensTemporary : host.backup.opensTemporary = true
  copies : host.backup.copies = .ok ()
  renames : host.backup.renames = true
  reads : ∀ entries, (host.backup.readDir entries).isSome = true
  removes : ∀ name, host.backup.removes name = true

theorem removeFiles_healthy {host : BackupHost Catalogue}
    (removes : ∀ name, host.removes name = true) :
    ∀ (entries : List (FileName × DirEntry Catalogue)) (directory : Directory Catalogue),
      ∃ after, removeFiles host directory entries = (.ok (), after) := by
  intro entries
  induction entries with
  | nil => exact fun directory => ⟨directory, rfl⟩
  | cons entry rest ih =>
      intro directory
      obtain ⟨after, removed⟩ := ih (directory.delete (fun name _ => name = entry.1))
      exact ⟨after, by rw [removeFiles, if_pos (removes entry.1), removed]⟩

theorem createBackup_healthy {host : StartHost} (healthy : host.Healthy)
    (directory : Directory Catalogue) (database : Catalogue) {retentionCount : Nat}
    (positive : retentionCount ≠ 0) (schemaVersion now : Int) (id : Uuid) :
    ∃ path after, createBackup host.backup directory database retentionCount schemaVersion
      "pre-migration" now id = (.ok path, after) := by
  have allowed : ¬(retentionCount = 0 ∨ reasonAllowed "pre-migration" = false) := by
    rw [not_or]
    exact ⟨positive, by decide⟩
  unfold createBackup
  rw [if_neg allowed]
  simp only [healthy.createDirAll, healthy.opensTemporary, healthy.copies, healthy.renames,
    Bool.true_eq_false, if_false]
  generalize (directory.delete _).put _ _ = renamed
  obtain ⟨listed, read⟩ := Option.isSome_iff_exists.mp (healthy.reads renamed.rows)
  obtain ⟨after, removed⟩ := removeFiles_healthy healthy.removes
    (Retention.expired (fun entry => backupKey entry.1) retentionCount (listed.filter isBackup))
    renamed
  simp only [enforceRetention, read, removed]
  exact ⟨_, _, rfl⟩

theorem runMigrations_healthy {host : StartHost} (healthy : host.Healthy) (now : Int) :
    ∀ (pending : List Migration) (database : Catalogue),
      runMigrations host now database pending =
        ledger.applyAll (.integer now) database pending := by
  intro pending
  induction pending with
  | nil => exact fun _ => rfl
  | cons migration rest ih =>
      intro database
      rw [runMigrations, if_pos (healthy.runs migration), Ledger.applyAll]
      exact congrArg _ (funext ih)

theorem migrateFiles_healthy {host : StartHost} (healthy : host.Healthy) {now : Int}
    {pending : List Migration} {after : Catalogue}
    (ran : ledger.applyAll (.integer now) files.database pending = some after) :
    migrateFiles host pending now files = (.ok (), { files with database := after }) := by
  have applied := (runMigrations_healthy healthy now pending files.database).trans ran
  simp only [migrateFiles, applyMigrations, Transaction.atomically, healthy.begins, applied,
    healthy.commits, Bool.true_eq_false, if_true, if_false]

/-- The database on which the first `count` migrations have run, and backups of such ones. -/
structure Lineage (count : Nat) (files : ServerFiles) : Prop where
  known : count ≤ migrations.length
  database : Descends ledger migrations count files.database
  backups : ∀ name entry source, files.backups.get name = some entry →
    entry.data = some source →
    ∃ earlier ≤ migrations.length, Descends ledger migrations earlier source

/-- The version that a release reads off a database: that of the last migration, if it
knows it. -/
theorem currentSchemaVersion_of_descends {count : Nat} (release : Nat)
    (known : count ≤ migrations.length)
    {database : Catalogue} (descends : Descends ledger migrations count database)
    {host : StartHost} (catalogue : host.readsCatalogue = true)
    (entries : host.readsLedger = true) :
    (count ≤ release → currentSchemaVersion (migrations.take release) host database =
      .ok (versionAt migrations count)) ∧
    (release < count → currentSchemaVersion (migrations.take release) host database =
      .error .migration) := by
  have ordered : byVersion ((migrations.take count).map Migration.entry) =
      (migrations.take count).map Migration.entry :=
    byVersion_entries (migrations_coherent.ascending.sublist (List.take_sublist count _))
  cases count with
  | zero =>
      have empty := descends.of_zero
      subst empty
      refine ⟨fun _ => ?_, fun less => absurd less (Nat.not_lt_zero _)⟩
      have absent : ledger.stands Table.empty = false := rfl
      rw [currentSchemaVersion, if_neg (by simp [catalogue]), if_pos absent]
      rfl
  | succ count =>
      have inside : count < migrations.length := by omega
      have stands := descends.stands migrations_coherent inside
      have selected := descends.selected migrations_coherent inside
      have reads : currentSchemaVersion (migrations.take release) host database =
          checkVersions (migrations.take release) 0
            ((migrations.take (count + 1)).map Migration.entry) := by
        simp only [currentSchemaVersion, catalogue, stands, selected, entries,
          Bool.true_eq_false, if_false, ordered]
      rw [reads]
      constructor
      · intro within
        have parts : migrations.take release =
            migrations.take (count + 1) ++ (migrations.take release).drop (count + 1) := by
          have same : (migrations.take release).take (count + 1) = migrations.take (count + 1) := by
            rw [List.take_take, Nat.min_eq_left within]
          rw [← same, List.take_append_drop]
        rw [parts]
        exact checkVersions_entries _ _ 0
      · intro beyond
        have parts : migrations.take (count + 1) =
            migrations.take release ++ (migrations.take (count + 1)).drop release := by
          have same : (migrations.take (count + 1)).take release = migrations.take release := by
            rw [List.take_take, Nat.min_eq_left (by omega)]
          rw [← same, List.take_append_drop]
        rw [parts]
        refine checkVersions_beyond _ _ 0 ?_
        intro none
        have length := congrArg List.length none
        rw [List.length_drop, List.length_take, List.length_nil] at length
        omega

/-- A version that is read is that of the last migration, and the release knows it. -/
theorem currentSchemaVersion_read {count release : Nat} (known : count ≤ migrations.length)
    {database : Catalogue} (descends : Descends ledger migrations count database)
    {host : StartHost} {current : Int}
    (read : currentSchemaVersion (migrations.take release) host database = .ok current) :
    count ≤ release ∧ current = versionAt migrations count := by
  have catalogue : host.readsCatalogue = true := by
    by_contra failed
    rw [currentSchemaVersion, if_pos (by simpa using failed)] at read
    cases read
  cases count with
  | zero =>
      have empty := descends.of_zero
      subst empty
      have absent : ledger.stands Table.empty = false := rfl
      rw [currentSchemaVersion, if_neg (by simp [catalogue]), if_pos absent] at read
      cases read
      exact ⟨Nat.zero_le release, rfl⟩
  | succ count =>
      have entries : host.readsLedger = true := by
        by_contra failed
        have inside : count < migrations.length := by omega
        have stands := descends.stands migrations_coherent inside
        have selected := descends.selected migrations_coherent inside
        have unread : host.readsLedger = false := by simpa using failed
        simp only [currentSchemaVersion, catalogue, stands, selected, unread, Bool.true_eq_false,
          if_false, if_true] at read
        cases read
      have versions := currentSchemaVersion_of_descends release known descends catalogue entries
      by_cases within : count + 1 ≤ release
      · rw [versions.1 within] at read
        cases read
        exact ⟨within, rfl⟩
      · rw [versions.2 (by omega)] at read
        cases read

/-- A release at least as new as the database brings it up to date. -/
theorem start_current {count : Nat} (lineage : Lineage count files) {attempt : StartAttempt}
    (healthy : attempt.host.Healthy) (configured : attempt.configured = true)
    (positive : attempt.retentionCount ≠ 0) (released : attempt.release ≤ migrations.length)
    (within : count ≤ attempt.release) :
    ∃ after, start files attempt = (.ok (), after) ∧
      Descends ledger migrations attempt.release after.database := by
  have read := (currentSchemaVersion_of_descends attempt.release lineage.known lineage.database
    healthy.readsCatalogue healthy.readsLedger).1 within
  have pending := pending_eq migrations_coherent within
  obtain ⟨after, ran, last⟩ :=
    lineage.database.upgrade migrations_coherent released within (.integer attempt.now)
  unfold start initializeDatabase
  simp only [healthy.pragmas, Bool.true_eq_false, if_false, read, pending]
  split
  case isTrue none =>
    rw [none] at ran
    cases ran
    exact ⟨files, rfl, last⟩
  case isFalse =>
    split
    case h_1 failure needs =>
      unfold needsBackup at needs
      split at needs
      · cases needs
      · rw [if_neg (by simp [healthy.countsTables])] at needs
        cases needs
    case h_2 => exact ⟨_, migrateFiles_healthy healthy ran, last⟩
    case h_3 =>
      obtain ⟨path, backups, made⟩ := createBackup_healthy healthy files.backups files.database
        positive (versionAt migrations count) attempt.now
        attempt.id
      simp only [configured, Bool.true_eq_false, if_false, made]
      exact ⟨_, @migrateFiles_healthy { files with backups } _ healthy _ _ _ ran, last⟩

/-- A release that is older than the database refuses it and changes nothing. -/
theorem start_older {count : Nat} (lineage : Lineage count files) {attempt : StartAttempt}
    (healthy : attempt.host.Healthy) (older : attempt.release < count) :
    start files attempt = (.error .migration, files) := by
  have read := (currentSchemaVersion_of_descends attempt.release lineage.known lineage.database
    healthy.readsCatalogue healthy.readsLedger).2 older
  simp only [start, initializeDatabase, healthy.pragmas, Bool.true_eq_false, if_false, read]

/-- What the start that succeeds at last makes of the files it finds. -/
structure Upgraded (before : ServerFiles) (attempt : StartAttempt) (after : ServerFiles) :
    Prop where
  current : Descends ledger migrations attempt.release after.database
  grows : Grows before.database after.database
  unchanged : ∀ key object, key ≠ folded ledger.table →
    before.database.get key = some object → after.database.get key = some object
  copies : NewCopies before.database before.backups after.backups
  pruned : Prunes before.database attempt.retentionCount before.backups after.backups
  saved : before.database ≠ Table.empty → after.database ≠ before.database →
    ∃ schemaVersion path,
      currentSchemaVersion (migrations.take attempt.release) attempt.host before.database =
        .ok schemaVersion ∧
      createBackup attempt.host.backup before.backups before.database attempt.retentionCount
        schemaVersion "pre-migration" attempt.now attempt.id = (.ok path, after.backups) ∧
      (after.backups.get path = some ⟨true, some before.database⟩ ∨
        Superseded attempt.retentionCount after.backups path) ∧
      (after.backups.get path = some ⟨true, some before.database⟩ ↔
        RanksNew attempt.retentionCount before.backups path)

/-- The migrations of a start that succeeds have all run, on what stood there. -/
theorem Lineage.migrated {count : Nat} (lineage : Lineage count files) {attempt : StartAttempt}
    (released : attempt.release ≤ migrations.length) {current : Int}
    (read : currentSchemaVersion (migrations.take attempt.release) attempt.host files.database =
      .ok current) {stored after : ServerFiles} (same : stored.database = files.database)
    (done : migrateFiles attempt.host
      ((migrations.take attempt.release).filter (fun migration => current < migration.version))
      attempt.now stored = (.ok (), after)) :
    after.backups = stored.backups ∧
      Descends ledger migrations attempt.release after.database ∧
      Grows files.database after.database ∧
      ∀ key object, key ≠ folded ledger.table →
        files.database.get key = some object → after.database.get key = some object := by
  rcases migrateFiles_cases attempt.host ((migrations.take attempt.release).filter
    (fun migration => current < migration.version)) attempt.now stored with
    undone | ⟨next, outcome, ran⟩
  · rw [undone] at done
    cases done
  · rw [outcome] at done
    cases done
    rw [same] at ran
    refine ⟨rfl, ?_, applyAll_grows ran, ?_⟩
    · obtain ⟨within, rfl⟩ := currentSchemaVersion_read lineage.known lineage.database read
      obtain ⟨last, applied, descends⟩ :=
        lineage.database.upgrade migrations_coherent released within (.integer attempt.now)
      rw [pending_eq migrations_coherent within, applied] at ran
      cases ran
      exact descends
    · intro key object apart found
      exact applyAll_get (migrations_spare attempt.release current key) apart ran found

/-- Only an empty database goes without a backup. -/
theorem Lineage.bare {count : Nat} (lineage : Lineage count files) {release : Nat}
    {host : StartHost} {current : Int}
    (read : currentSchemaVersion (migrations.take release) host files.database = .ok current)
    (needs : needsBackup host files.database current = .ok false) :
    files.database = Table.empty := by
  obtain ⟨-, rfl⟩ := currentSchemaVersion_read lineage.known lineage.database read
  cases count with
  | zero => exact lineage.database.of_zero
  | succ count =>
      have later : 0 < versionAt migrations (count + 1) :=
        versionAt_positive migrations_coherent lineage.known
      rw [needsBackup, if_pos later] at needs
      cases needs

theorem Lineage.unchanged {count : Nat} (lineage : Lineage count files) {release : Nat}
    (released : release ≤ migrations.length) {host : StartHost} {current : Int}
    (read : currentSchemaVersion (migrations.take release) host files.database = .ok current)
    (none : (migrations.take release).filter (fun migration => current < migration.version) = []) :
    Descends ledger migrations release files.database := by
  obtain ⟨within, rfl⟩ := currentSchemaVersion_read lineage.known lineage.database read
  rw [pending_eq migrations_coherent within, List.drop_eq_nil_iff, List.length_take,
    Nat.min_eq_left released] at none
  have same : count = release := Nat.le_antisymm within none
  exact same ▸ lineage.database

theorem start_upgrades {count : Nat} (lineage : Lineage count files) {after : ServerFiles}
    {attempt : StartAttempt} (released : attempt.release ≤ migrations.length)
    (started : start files attempt = (.ok (), after)) : Upgraded files attempt after := by
  have cases := initializeDatabase_started (migrations.take attempt.release) attempt.host
    attempt.configured files attempt.retentionCount attempt.now attempt.id
  unfold start at started
  rw [started] at cases
  generalize reached : ((.ok (), after) : Except StartupFailure Unit × ServerFiles) = outcome
    at cases
  cases cases with
  | refused => cases reached
  | unchanged read none =>
      cases reached
      exact ⟨lineage.unchanged released read none, Grows.refl _, fun _ _ _ found => found,
        NewCopies.refl _ _, Prunes.refl _ _ _, fun _ changed => absurd rfl changed⟩
  | unsaved => cases reached
  | @bare current read needs =>
      obtain ⟨backups, descends, grows, unchanged⟩ :=
        lineage.migrated released read rfl reached.symm
      refine ⟨descends, grows, unchanged, ?_, ?_, ?_⟩
      · rw [backups]
        exact NewCopies.refl _ _
      · rw [backups]
        exact Prunes.refl _ _ _
      · intro used
        exact absurd (lineage.bare read needs) used
  | @saved current path backups read made =>
      have kept : ({ files with backups } : ServerFiles).database = files.database := rfl
      obtain ⟨same, descends, grows, unchanged⟩ :=
        lineage.migrated released read kept reached.symm
      have copied : after.backups = backups := same
      rw [← copied] at made
      exact ⟨descends, grows, unchanged, NewCopies.made made, Prunes.made made,
        fun _ _ => ⟨current, path, read, made, createBackup_stands made,
          createBackup_stored_iff made⟩⟩

/-- What happens to the files of a server: starts of any release that may fail anywhere,
writes of rows, backups, and restores of what stands in the directory. -/
inductive ServerAction
  | start (attempt : StartAttempt)
  | write (database : Catalogue)
  | backup (host : BackupHost Catalogue) (retentionCount : Nat) (schemaVersion : Int)
      (reason : String) (now : Int) (id : Uuid)
  | restore (host : RestoreHost Catalogue) (databaseUrl : String) (name : FileName)
      (retentionCount : Nat) (now : Int) (id : Uuid)

/-- The files after a restore. -/
def restored (host : RestoreHost Catalogue) (databaseUrl : String) (source : Catalogue)
    (files : ServerFiles) (retentionCount : Nat) (now : Int) (id : Uuid) : ServerFiles :=
  let outcome := restoreDatabase host databaseUrl files.backups source files.database
    retentionCount now id
  ⟨outcome.2.2, outcome.2.1⟩

/-- A write keeps the schema and its record; the copy over the database is complete or
is undone. -/
def serverStep (files : ServerFiles) : ServerAction → Option ServerFiles
  | .start attempt => some (start files attempt).2
  | .write database =>
      if shape database = shape files.database ∧
          ledger.recorded database = ledger.recorded files.database then
        some { files with database }
      else none
  | .backup host retentionCount schemaVersion reason now id =>
      some { files with
        backups := (createBackup host files.backups files.database retentionCount schemaVersion
          reason now id).2 }
  | .restore host databaseUrl name retentionCount now id =>
      (files.backups.get name).bind (fun entry => entry.data.bind (fun source =>
        let after := restored host databaseUrl source files retentionCount now id
        if after.database = source ∨ after.database = files.database then some after else none))

theorem Lineage.copies {count : Nat} {after : ServerFiles} (lineage : Lineage count files)
    (same : after.database = files.database)
    (copies : NewCopies files.database files.backups after.backups) : Lineage count after where
  known := lineage.known
  database := same ▸ lineage.database
  backups := by
    intro name entry source found content
    rcases copies name entry found with stood | rfl | rfl
    · exact lineage.backups name entry source stood content
    · cases content
    · cases content
      exact ⟨count, lineage.known, lineage.database⟩

/-- The database of a server only ever goes from one schema to a later one, unless an earlier
one is restored. -/
theorem Lineage.start {count : Nat} (lineage : Lineage count files) {attempt : StartAttempt}
    (released : attempt.release ≤ migrations.length) :
    ∃ reached, Lineage reached (start files attempt).2 := by
  have migrated : ∀ {current : Int} (stored : ServerFiles),
      currentSchemaVersion (migrations.take attempt.release) attempt.host files.database =
        .ok current →
      stored.database = files.database →
      NewCopies files.database files.backups stored.backups →
      ∃ reached, Lineage reached (migrateFiles attempt.host
        ((migrations.take attempt.release).filter (fun migration => current < migration.version))
        attempt.now stored).2 := by
    intro current stored read same copies
    obtain ⟨within, rfl⟩ := currentSchemaVersion_read lineage.known lineage.database read
    have kept := lineage.copies same copies
    rw [pending_eq migrations_coherent within]
    rcases migrateFiles_cases attempt.host ((migrations.take attempt.release).drop count)
      attempt.now stored with undone | ⟨after, done, ran⟩
    · rw [undone]
      exact ⟨count, kept⟩
    · obtain ⟨last, applied, descends⟩ :=
        kept.database.upgrade migrations_coherent released within (.integer attempt.now)
      rw [applied] at ran
      cases ran
      rw [done]
      exact ⟨attempt.release, released, descends, kept.backups⟩
  have started := initializeDatabase_started (migrations.take attempt.release) attempt.host
    attempt.configured files attempt.retentionCount attempt.now attempt.id
  unfold Server.start
  generalize initializeDatabase (migrations.take attempt.release) attempt.host
    attempt.configured files attempt.retentionCount attempt.now attempt.id = outcome at started
  cases started with
  | refused => exact ⟨count, lineage⟩
  | unchanged => exact ⟨count, lineage⟩
  | unsaved made => exact ⟨count, lineage.copies rfl (NewCopies.made made)⟩
  | bare read => exact migrated files read rfl (NewCopies.refl _ _)
  | saved read made => exact migrated _ read rfl (NewCopies.made made)

/-- A restore leaves in the directory what stood there and perhaps a copy of the database. -/
theorem restoreDatabase_within (host : RestoreHost Catalogue) (databaseUrl : String)
    (source : Catalogue) (files : ServerFiles) (retentionCount : Nat) (now : Int) (id : Uuid) :
    NewCopies files.database files.backups
      (restored host databaseUrl source files retentionCount now id).backups := by
  have prepared : NewCopies files.database files.backups
      (prepareRestore host databaseUrl files.backups files.database retentionCount now id).2 := by
    unfold prepareRestore
    split
    case isTrue => exact NewCopies.refl _ _
    case isFalse =>
      split
      case h_1 => exact NewCopies.refl _ _
      case h_2 =>
        split
        case isTrue => exact NewCopies.refl _ _
        case isFalse =>
          split
          case h_1 => exact NewCopies.refl _ _
          case h_2 =>
            split
            case h_1 failure after made => exact NewCopies.made made
            case h_2 recovery after made => exact NewCopies.made made
  unfold restored restoreDatabase
  split
  case h_1 failure after same =>
    rw [same] at prepared
    exact prepared
  case h_2 recovery after same =>
    rw [same] at prepared
    split
    · exact prepared
    · exact prepared

theorem Lineage.step {count : Nat} {next : ServerFiles} {action : ServerAction}
    (lineage : Lineage count files)
    (released : ∀ attempt, action = .start attempt → attempt.release ≤ migrations.length)
    (taken : serverStep files action = some next) : ∃ reached, Lineage reached next := by
  cases action with
  | start attempt =>
      cases taken
      exact lineage.start (released attempt rfl)
  | write database =>
      simp only [serverStep] at taken
      split at taken
      case isFalse => cases taken
      case isTrue same =>
        cases taken
        refine ⟨count, lineage.known, ⟨?_, ?_⟩, lineage.backups⟩
        · rw [same.1]
          exact lineage.database.shaped
        · rw [same.2]
          exact lineage.database.recorded
  | backup host retentionCount schemaVersion reason now id =>
      cases taken
      refine ⟨count, lineage.copies rfl ?_⟩
      intro name entry found
      exact createBackup_within _ _ _ _ _ _ _ _ found
  | restore host databaseUrl name retentionCount now id =>
      obtain ⟨entry, found, later⟩ := Option.bind_eq_some_iff.mp taken
      obtain ⟨source, content, written⟩ := Option.bind_eq_some_iff.mp later
      have copies := restoreDatabase_within host databaseUrl source files retentionCount now id
      simp only at written
      split at written
      case isFalse => cases written
      case isTrue complete =>
        cases written
        rcases complete with copied | undone
        · obtain ⟨earlier, known, descends⟩ := lineage.backups name entry source found content
          refine ⟨earlier, known, ?_, ?_⟩
          · rw [copied]
            exact descends
          · intro other stored copy stands holds
            rcases copies other stored stands with stood | rfl | rfl
            · exact lineage.backups other stored copy stood holds
            · cases holds
            · cases holds
              exact ⟨count, lineage.known, lineage.database⟩
        · exact ⟨count, lineage.copies undone copies⟩

theorem lineage_empty : Lineage 0 ⟨Table.empty, Table.empty⟩ := by
  refine ⟨Nat.zero_le _, Descends.empty ledger migrations, ?_⟩
  intro name entry source found
  cases found

/-- Every start is of a release that this repository made. -/
def Released (_ : ServerFiles) (action : ServerAction) : Prop :=
  ∀ attempt, action = .start attempt → attempt.release ≤ migrations.length

theorem run_lineage {actions : List ServerAction} {last : ServerFiles}
    (released : Transition.Meets serverStep Released ⟨Table.empty, Table.empty⟩ actions)
    (reached : Transition.run serverStep ⟨Table.empty, Table.empty⟩ actions = some last) :
    ∃ count, Lineage count last :=
  @Transition.run_keeps_of_meets _ _ _ _ (fun files => ∃ count, Lineage count files)
    (fun _ _ _ known meets taken => by
      obtain ⟨_, lineage⟩ := known
      exact lineage.step meets taken)
    actions _ last ⟨0, lineage_empty⟩ released reached

/-- After any run from an empty database, in which starts of any releases fail anywhere, rows
are written and backups are made and restored, the database is of one schema; on a sound
system a release that knows it brings it up to date, with every row, and one that does not
refuses it. -/
theorem releases_start_or_refuse (actions : List ServerAction) (last : ServerFiles)
    (released : Transition.Meets serverStep Released ⟨Table.empty, Table.empty⟩ actions)
    (reached : Transition.run serverStep ⟨Table.empty, Table.empty⟩ actions = some last) :
    ∃ count ≤ migrations.length, Descends ledger migrations count last.database ∧
      ∀ attempt : StartAttempt, attempt.host.Healthy → attempt.configured = true →
        attempt.retentionCount ≠ 0 → attempt.release ≤ migrations.length →
        (count ≤ attempt.release → ∃ after, start last attempt = (.ok (), after) ∧
          Descends ledger migrations attempt.release after.database ∧
          Grows last.database after.database) ∧
        (attempt.release < count → start last attempt = (.error .migration, last)) := by
  obtain ⟨count, lineage⟩ := run_lineage released reached
  refine ⟨count, lineage.known, lineage.database, ?_⟩
  intro attempt healthy configured positive bounded
  constructor
  · intro within
    obtain ⟨after, started, descends⟩ :=
      start_current lineage healthy configured positive bounded within
    exact ⟨after, started, descends, (start_upgrades lineage bounded started).grows⟩
  · intro older
    exact start_older lineage healthy older

end Lineage

section Sample

/-- A system on which every call succeeds. -/
def soundHost : StartHost where
  pragmas := true
  readsCatalogue := true
  readsLedger := true
  countsTables := true
  begins := true
  runs _ := true
  commits := true
  backup :=
    { createDirAll := true
      opensTemporary := true
      copies := .ok ()
      renames := true
      readDir := some
      removes _ := true
      readDir_perm := fun _ _ same => Option.some.inj same ▸ List.Perm.refl _ }

theorem soundHost_healthy : soundHost.Healthy :=
  ⟨rfl, rfl, rfl, rfl, rfl, fun _ => rfl, rfl, rfl, rfl, rfl, rfl, fun _ => rfl, fun _ => rfl⟩

def soundStart (release : Nat) (now : Int) : StartAttempt :=
  ⟨release, soundHost, true, 3, now, newId⟩

/-- The disk is full when the transaction is to be committed. -/
def diskFull (release : Nat) (now : Int) : StartAttempt :=
  { soundStart release now with host := { soundHost with commits := false } }

/-- A user has signed up on the first release. -/
def withUser : Catalogue :=
  (insert (start ⟨Table.empty, Table.empty⟩ (soundStart 1 1)).2.database "users"
    [("user_id", .text "7f"), ("username", .text "reader")]).getD Table.empty

def signedUp : List ServerAction := [.start (soundStart 1 1), .write withUser]

theorem meets_released {actions : List ServerAction}
    (known : ∀ attempt, .start attempt ∈ actions → attempt.release ≤ migrations.length)
    (files : ServerFiles) : Transition.Meets serverStep Released files actions := by
  refine Transition.meets_of_forall ?_ _
  rintro _ member _ attempt rfl
  exact known attempt member

/-- What becomes of the user's row, and of the first release after the second. -/
theorem signedUp_runs :
    ((Transition.run serverStep ⟨Table.empty, Table.empty⟩ signedUp).any (fun files =>
      (Transition.run failedStart files [diskFull 2 2]).any (fun reached =>
        decide (reached.backups ≠ Table.empty) && (start reached (soundStart 2 3)).1.isOk &&
          select (start reached (soundStart 2 3)).2.database "users" ["username"] =
            some [[.text "reader"]]))) = true ∧
    ((Transition.run serverStep ⟨Table.empty, Table.empty⟩
      (signedUp ++ [.start (diskFull 2 2)])).any (fun last =>
        select last.database "users" ["username"] = some [[.text "reader"]])) = true ∧
    ((Transition.run serverStep ⟨Table.empty, Table.empty⟩
      (signedUp ++ [.start (soundStart 2 3)])).any (fun last =>
        !(start last (soundStart 1 4)).1.isOk)) = true := by
  decide +kernel

/-- The second release failed to bring the database up to date, and then does; once it has,
the first one refuses it. -/
theorem releases_start_or_refuse_used :
    (∃ last after,
      Transition.run serverStep ⟨Table.empty, Table.empty⟩ (signedUp ++ [.start (diskFull 2 2)]) =
          some last ∧
        select last.database "users" ["username"] = some [[.text "reader"]] ∧
        start last (soundStart 2 3) = (.ok (), after) ∧
        Descends ledger migrations 2 after.database ∧ Grows last.database after.database) ∧
    ∃ last,
      Transition.run serverStep ⟨Table.empty, Table.empty⟩ (signedUp ++ [.start (soundStart 2 3)]) =
          some last ∧
        start last (soundStart 1 4) = (.error .migration, last) := by
  have known : ∀ attempt : StartAttempt, attempt.release = 2 → ∀ files,
      Transition.Meets serverStep Released files (signedUp ++ [.start attempt]) := by
    intro attempt second files
    refine meets_released ?_ files
    intro other member
    simp only [signedUp, List.cons_append, List.nil_append, List.mem_cons,
      ServerAction.start.injEq, reduceCtorEq, List.not_mem_nil, or_false, false_or] at member
    rcases member with rfl | rfl
    · decide
    · exact second.le
  constructor
  · obtain ⟨last, reached, stored⟩ := (Option.any_eq_true _ _).mp signedUp_runs.2.1
    obtain ⟨count, bounded, -, starts⟩ := releases_start_or_refuse _ last
      (known (diskFull 2 2) rfl _) reached
    obtain ⟨after, started⟩ := (starts (soundStart 2 3) soundHost_healthy rfl (by decide)
      (by decide)).1 bounded
    exact ⟨last, after, reached, of_decide_eq_true stored, started⟩
  · obtain ⟨last, reached, refuses⟩ := (Option.any_eq_true _ _).mp signedUp_runs.2.2
    obtain ⟨count, -, -, starts⟩ := releases_start_or_refuse _ last
      (known (soundStart 2 3) rfl _) reached
    have first := starts (soundStart 1 4) soundHost_healthy rfl (by decide) (by decide)
    by_cases newer : 1 < count
    · exact ⟨last, reached, first.2 newer⟩
    · obtain ⟨after, started, -⟩ := first.1 (Nat.le_of_not_lt newer)
      rw [started] at refuses
      cases refuses

end Sample

end Lvos.Server
