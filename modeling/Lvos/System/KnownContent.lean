import Lvos.System.Client

set_option autoImplicit false

namespace Lvos.System

open Lvos.Core Lvos.Sync Lvos.Storage
open Relational (Table)
open Lvos.Server (EventFingerprint UuidParser)
open Transition (run Meets run_keeps_of_meets)
open Transaction (bind_ok_iff)

/-! The statistics rows of a Device, whatever its user and the server do. -/

def missingStats : StorageError := .invalidData "favorite query stats are missing"

section Calls

variable [ContentTables] {db next : ProfileDb}

/-- Only an import brings content that was not looked up. -/
theorem Call.input_bare {call : Call}
    (direct : ∀ document now eventIds, call ≠ .importData document now eventIds) :
    (∀ entry, ¬ call.input.imported entry) ∧ ∀ favorite, ¬ call.input.archived favorite := by
  cases call with
  | importData document now eventIds => exact absurd rfl (direct document now eventIds)
  | query entry eventId => exact ⟨fun _ => id, fun _ => id⟩
  | favorite key now eventId => exact ⟨fun _ => id, fun _ => id⟩
  | unfavorite key now eventId => exact ⟨fun _ => id, fun _ => id⟩
  | clearHistory => exact ⟨fun _ => id, fun _ => id⟩

theorem importPortable_covered (covered : Covered db) (document : PortableDataExport) (now : Int)
    (eventIds : ContentKey → Uuid) :
    Covered (importPortable db document now eventIds) ∧
      KeepsActive db (importPortable db document now eventIds) := by
  unfold importPortable
  split
  · rename_i validated valid
    have keys := (validateExport_iff.mp valid).2.2.2.2.2.2.2.1
    exact applyPortableImport_covered covered _ now eventIds keys
  · exact ⟨covered, .of_same rfl⟩

theorem call_covered (covered : Covered db) (call : Call) : Covered (call.perform db) := by
  by_cases direct : ∀ document now eventIds, call ≠ .importData document now eventIds
  · obtain ⟨asked, unarchived⟩ := Call.input_bare direct
    have moves := call.moves db
    generalize call.perform db = performed at moves
    induction moves with
    | refl => exact covered
    | tail _ move ih => exact ih.localMove move asked unarchived
  · push Not at direct
    obtain ⟨document, now, eventIds, rfl⟩ := direct
    exact (importPortable_covered covered document now eventIds).1

theorem call_filed (filed : HistoryFiled db) (call : Call) : HistoryFiled (call.perform db) := by
  have moves := call.moves db
  generalize call.perform db = performed at moves
  induction moves with
  | refl => exact filed
  | tail _ move ih =>
      intro key entry stored
      rcases move.historyOrigin stored with old | ⟨-, keyed⟩
      · exact ih key entry old
      · exact keyed

end Calls

section Errors

variable {db : ProfileDb}

/-- The computation does not miss statistics, whatever else fails. -/
def FindsStats {τ : Type} (result : StorageResult τ) : Prop := result ≠ .error missingStats

theorem FindsStats.bind {τ υ : Type} {first : StorageResult τ} {next : τ → StorageResult υ}
    (finds : FindsStats first) (later : ∀ value, first = .ok value → FindsStats (next value)) :
    FindsStats (first >>= next) := by
  cases found : first with
  | ok value => exact later value found
  | error reason =>
      intro missed
      have same : (Except.error reason : StorageResult υ) = .error missingStats := missed
      apply finds
      rw [found, Except.error.inj same]

theorem FindsStats.ok {τ : Type} (value : τ) : FindsStats (.ok value) := by
  rintro ⟨⟩

theorem sqliteI64_finds (value : Nat) : FindsStats (sqliteI64 value) := by
  unfold sqliteI64
  split
  · exact .ok value
  · simp [FindsStats, missingStats]

theorem parseLanguage_finds {message : String} (named : message ≠ "favorite query stats are missing")
    (value : String) : FindsStats (parseLanguage message value) := by
  unfold parseLanguage
  split
  · exact .ok _
  · simpa [FindsStats, missingStats] using named

theorem parseKind_finds (value : String) : FindsStats (parseKind value) := by
  unfold parseKind
  split
  · exact .ok _
  · split
    · exact .ok _
    · simp [FindsStats, missingStats]

theorem favoriteTx_finds (db : ProfileDb) (key : ContentKey) : FindsStats (favoriteTx db key) := by
  have language : ∀ value, FindsStats (parseLanguage "language code" value) :=
    parseLanguage_finds (by decide)
  unfold favoriteTx
  split
  · exact .ok none
  · unfold parseFavorite readFavorite
    refine .bind ?_ (fun _ _ => .ok _)
    refine .bind (parseKind_finds _) (fun _ _ => ?_)
    refine .bind (language _) (fun _ _ => ?_)
    exact .bind (language _) (fun _ _ => .ok _)

theorem upsertOutbox_finds (db : ProfileDb) (event : PendingOutbox) :
    FindsStats (upsertOutbox db event) := by
  unfold upsertOutbox sqliteI64Option
  refine .bind ?_ (fun _ _ => ?_)
  · split
    · exact .ok none
    · exact .bind (sqliteI64_finds _) (fun _ _ => .ok _)
  · split
    · simp [FindsStats, missingStats]
    · exact .ok _

theorem readBack_finds {message : String}
    (named : message ≠ "favorite query stats are missing") (key : ContentKey)
    {body : ProfileDb → StorageResult (ProfileDb × Unit)} (finds : FindsStats (body db)) :
    FindsStats (readBack message key (Transaction.atomically body db)).2 := by
  cases result : body db with
  | error reason =>
      rw [Transaction.atomically_of_error result]
      intro missed
      apply finds
      rw [result, Except.error.inj missed]
  | ok pair =>
      rw [Transaction.atomically_of_ok result]
      refine .bind (favoriteTx_finds _ key) (fun found _ => ?_)
      cases found with
      | none => simpa [FindsStats, missingStats] using named
      | some favorite => exact .ok favorite

/-- Statistics are there for what may become a Favorite. -/
theorem favorite_finds (covered : Covered db) (key : ContentKey) (now : Int) (eventId : Uuid) :
    FindsStats (favorite db key now eventId).2 := by
  refine readBack_finds (by decide) key ?_
  unfold favoriteBody
  refine .bind ?_ (fun _ _ => .ok _)
  unfold favoriteFromHistoryTx
  split
  · simp [FindsStats, missingStats]
  · rename_i history known
    split
    · rename_i absent
      have counted := (covered key).mpr (Or.inl (by rw [known]; rfl))
      rw [absent] at counted
      cases counted
    · refine .bind (favoriteTx_finds db key) (fun existing _ => ?_)
      split
      · exact .ok _
      · refine .bind (sqliteI64_finds _) (fun revision _ => ?_)
        refine .bind (upsertOutbox_finds _ _) (fun written _ => ?_)
        refine .bind (favoriteTx_finds written key) (fun found _ => ?_)
        split
        · simp [FindsStats, missingStats]
        · exact .ok _

theorem unfavorite_finds (covered : Covered db) (key : ContentKey) (now : Int)
    (eventId : Uuid) : FindsStats (unfavorite db key now eventId).2 := by
  refine readBack_finds (by decide) key ?_
  unfold unfavoriteBody
  refine .bind (favoriteTx_finds db key) (fun existing looked => ?_)
  rcases favoriteTx_ok looked with ⟨-, rfl⟩ | ⟨row, favorite, stored, -, rfl⟩
  · simp [FindsStats, missingStats]
  · dsimp only
    split
    · exact .ok _
    · split
      · rename_i absent
        have counted := (covered key).mpr (Or.inr (by rw [stored]; rfl))
        rw [absent] at counted
        cases counted
      · split
        · exact .ok _
        · exact .bind (upsertOutbox_finds _ _) (fun _ _ => .ok _)

end Errors

section Exports

variable {db : ProfileDb}

/-- Every archive of an export is of a content the export lists. -/
theorem exportDocument_known (covered : Covered db) (filed : HistoryFiled db)
    {username : Option String} {document : PortableDataExport}
    (exported : exportDocument db username = .ok document) :
    ∀ archive ∈ document.queryStatsArchive, archive.contentKey ∈
      document.history.map (fun entry => entry.content.contentKey) ++
        document.favorites.map (fun favorite => favorite.content.contentKey) := by
  obtain ⟨-, favorites, parsed, rfl⟩ := exportDocument_ok exported
  intro archive member
  dsimp only at member ⊢
  unfold exportQueryStatsArchive at member
  obtain ⟨⟨key, stats⟩, listed, rfl⟩ := List.mem_map.mp member
  have counted : (db.queryStats.get key).isSome = true := by
    rw [(mem_byContentKey _ key stats).mp listed]
    rfl
  rw [List.mem_append]
  rcases (covered key).mp counted with history | favorited
  · left
    obtain ⟨entry, stored⟩ := Option.isSome_iff_exists.mp history
    unfold exportHistory
    rw [List.map_map]
    refine List.mem_map.mpr ⟨(key, entry), (mem_byContentKey _ key entry).mpr stored, ?_⟩
    show entry.content.contentKey.toHex = key.toHex
    rw [filed key entry stored]
  · right
    obtain ⟨row, stored⟩ := Option.isSome_iff_exists.mp favorited
    have inside : key ∈ (byContentKey db.favorites).map Prod.fst :=
      List.mem_map_of_mem ((mem_byContentKey _ key row).mpr stored)
    rw [← parsed_keys parsed] at inside
    obtain ⟨favorite, present, rfl⟩ := List.mem_map.mp inside
    rw [List.map_map]
    exact List.mem_map.mpr ⟨favorite, present, rfl⟩

end Exports

section Runs

variable {φ : Type} [DecidableEq φ] [EventFingerprint φ] [ContentTables] [UuidParser]
  {client next : Device}

/-- What every step of a Device keeps of its statistics rows. -/
structure Inventory (client : Device) : Prop where
  standing : Standing client
  covered : Covered client.profile
  filed : HistoryFiled client.profile

omit [ContentTables] [UuidParser] in
theorem Inventory.initial (profileId : Uuid) (deviceId : String) (now : Int) :
    Inventory ⟨ProfileDb.initial profileId deviceId now, .idle⟩ where
  standing := .initial profileId deviceId now
  covered := by
    intro key
    simp [ProfileDb.initial, Known]
  filed := by
    intro key entry stored
    cases stored

theorem DeviceMove.covered {action : DeviceAction} (move : DeviceMove client next action)
    (honest : Honest φ client action) (standing : Standing client)
    (covered : Covered client.profile) : Covered next.profile := by
  cases move with
  | called asked written stays =>
      rw [written]
      exact call_covered covered asked
  | replaced expectedCurrent replacement now written stays =>
      rw [written]
      exact replaceDeviceIdentity_covered covered expectedCurrent replacement now
  | read now limit events ready same batched =>
      rw [same]
      exact covered
  | built events request batched built same pushing =>
      rw [same]
      exact covered
  | acknowledged response now events request items pushing matched written idle =>
      rw [written]
      refine acknowledgeEvents_covered covered items ?_
      intro item member
      obtain ⟨pair, listed, event, -⟩ :=
        Transaction.related_of_mem_right (matchAcknowledgements_ok matched) item member
      have held := standing.inside pair.1 (by
        rw [pushing]
        exact (List.of_mem_zip listed).1)
      rw [event]
      exact held
  | resolved conflict now event chosen written idle =>
      rw [written]
      exact resolveConflict_covered covered now
        (fun record current => (honest event record chosen current).keyed)
        (standing.inside event (conflictedEvent_mem chosen))
  | retried reply events nextRetryAt now written idle =>
      have kept := markRetry_favorites client.profile events nextRetryAt
        Desktop.serverUnavailable now
      rw [written]
      exact covered.congr kept.2.2.1 (fun key => by rw [kept.1]) kept.2.1
  | pulled reply changes nextRevision now written idle =>
      rw [written]
      exact applyRemotePage_covered covered changes nextRevision now
  | noted action error now written idle =>
      rw [written]
      exact covered.congr rfl (fun _ => rfl) rfl
  | dropped action same idle =>
      rw [same]
      exact covered

theorem Inventory.moved {action : DeviceAction} (inventory : Inventory client)
    (honest : Honest φ client action) (move : DeviceMove client next action) : Inventory next where
  standing := inventory.standing.moved honest move
  covered := move.covered honest inventory.standing inventory.covered
  filed := by
    rcases move.history with same | ⟨asked, written⟩
    · unfold HistoryFiled
      rw [same]
      exact inventory.filed
    · rw [written]
      exact call_filed inventory.filed asked

/-- After any calls and replacements, and with an honest server any jobs of the worker: the
contents with statistics are those of the history and of the Favorites. So no Favorite call
misses a statistics row, and an export has an archive of listed contents alone. -/
theorem statistics_cover_content {profileId : Uuid} {deviceId : String} {now : Int}
    {actions : List DeviceAction}
    (reached : run deviceStep ⟨ProfileDb.initial profileId deviceId now, .idle⟩ actions =
      some client)
    (honest : Meets deviceStep (Honest φ) ⟨ProfileDb.initial profileId deviceId now, .idle⟩
      actions) :
    (∀ key, (client.profile.queryStats.get key).isSome = true ↔
      (client.profile.historyEntries.get key).isSome = true ∨
        (client.profile.favorites.get key).isSome = true) ∧
    (∀ key now eventId, (favorite client.profile key now eventId).2 ≠ .error missingStats ∧
      (unfavorite client.profile key now eventId).2 ≠ .error missingStats) ∧
    ∀ username document, exportDocument client.profile username = .ok document →
      ∀ archive ∈ document.queryStatsArchive, archive.contentKey ∈
        document.history.map (fun entry => entry.content.contentKey) ++
          document.favorites.map (fun favorite => favorite.content.contentKey) := by
  have inventory : Inventory client := run_keeps_of_meets
    (fun _ _ _ holds truthful taken => holds.moved truthful (deviceStep_moves taken))
    actions _ client (Inventory.initial profileId deviceId now) honest reached
  exact ⟨inventory.covered,
    fun key now eventId => ⟨favorite_finds inventory.covered key now eventId,
      unfavorite_finds inventory.covered key now eventId⟩,
    fun _ _ exported => exportDocument_known inventory.covered inventory.filed exported⟩

end Runs

section Witness

attribute [local instance] Sample.tables Sample.parser

/-- The word is queried, favorited and pushed, then the history cleared. -/
def clearedDesk : List DeviceAction :=
  [.call (.query (Sample.gift 60) (Sample.eventId 1)),
    .call (.favorite Sample.giftKey 61 (Sample.eventId 2)), .readBatch 62 10, .buildBatch,
    .settle (.ok ⟨[⟨(Sample.eventId 2).text, .applied, some 1, 1, some ⟨1, 60, 60⟩⟩], 1⟩) 63,
    .call .clearHistory]

theorem statistics_cover_content_cleared : ∃ client,
    run deviceStep ⟨ProfileDb.initial (Sample.eventId 0) "desk" 50, .idle⟩ clearedDesk =
      some client ∧
    client.profile.historyEntries.get Sample.giftKey = none ∧
    client.profile.syncOutbox.rows = [] ∧
    ((client.profile.queryStats.get Sample.giftKey).isSome = true ↔
      (client.profile.historyEntries.get Sample.giftKey).isSome = true ∨
        (client.profile.favorites.get Sample.giftKey).isSome = true) := by
  have facts : (run deviceStep ⟨ProfileDb.initial (Sample.eventId 0) "desk" 50, .idle⟩
      clearedDesk).any (fun client => decide
        (client.profile.historyEntries.get Sample.giftKey = none ∧
          client.profile.syncOutbox.rows = [])) = true := by
    decide
  obtain ⟨client, reached, left⟩ := (Option.any_eq_true _ _).mp facts
  obtain ⟨cleared, settled⟩ := of_decide_eq_true left
  have honest : Meets deviceStep (Honest PushEvent)
      ⟨ProfileDb.initial (Sample.eventId 0) "desk" 50, .idle⟩ clearedDesk :=
    honest_of_unrefused (by decide) _
  have covers := statistics_cover_content reached honest
  exact ⟨client, reached, cleared, settled, covers.1 Sample.giftKey⟩

end Witness

end Lvos.System
