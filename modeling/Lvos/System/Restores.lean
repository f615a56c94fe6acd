import Lvos.System.CatchUp

set_option autoImplicit false

namespace Lvos.System

open Lvos.Core Lvos.Sync Lvos.Storage
open Lvos.Server (ServerDb EventFingerprint LogInv changesSince ChangeRow operationName)
open Desktop (SessionError)
open Transaction (bind_ok_iff)
open Transition (run Meets run_keeps_of_meets)

/-- The server with its backups, and one Device of an account that pulls from it: the page
on its way to the Device, the account's revision at its request, and the changes of every
page the Device has accepted. -/
structure Installation (φ : Type) where
  server : ServerDb φ
  backups : List (ServerDb φ)
  client : ProfileDb
  pending : Option ChangesResponse
  newest : Nat
  delivered : List SyncChange

/-- `elsewhere` is anything else the Device does to its Profile. -/
inductive InstallationStep
  | serve (action : Server.Action)
  | backup
  | restore (index : Nat)
  | request (limit : Nat)
  | receive (now : Int)
  | elsewhere (client : ProfileDb)

/-- The changes the client applies out of a page: all of them or, with an error, none. -/
def acceptedChanges [ContentTables] (client : ProfileDb) (page : ChangesResponse) (now : Int) :
    List SyncChange :=
  match (applyRemotePage client page.changes page.nextRevision now).2 with
  | .ok _ => page.changes
  | .error _ => []

/-- The change of a log row has reached the client. -/
def Delivered (delivered : List SyncChange) (revision : Nat) (row : ChangeRow) : Prop :=
  ∃ change ∈ delivered, change.revision = revision ∧ change.favorite.contentKey = row.contentKey ∧
    operationName change.operation = row.operation ∧
    row.entityRevision ≤ change.favorite.entityRevision

instance Delivered.decidable (delivered : List SyncChange) (revision : Nat) (row : ChangeRow) :
    Decidable (Delivered delivered revision row) := by
  unfold Delivered
  infer_instance

namespace Installation

variable {φ : Type}

def initial (userIds : List String) (devices : List (String × String)) (client : ProfileDb) :
    Installation φ where
  server := ServerDb.initial userIds devices
  backups := []
  client := client
  pending := none
  newest := 0
  delivered := []

/-- Where the client stands once the page on its way has arrived. -/
def reach (installation : Installation φ) : Nat :=
  match installation.pending with
  | none => cursorOf installation.client
  | some page => page.nextRevision

section Step

variable [DecidableEq φ] [EventFingerprint φ] [ContentTables]

def step (userId : String) (installation : Installation φ) :
    InstallationStep → Option (Installation φ)
  | .serve action => some { installation with server := Server.serve installation.server action }
  | .backup =>
      some { installation with backups := installation.backups ++ [installation.server] }
  | .restore index =>
      match installation.backups[index]? with
      | none => none
      | some source =>
          -- The database in use is kept as a recovery backup.
          some { installation with
            server := source
            backups := installation.backups ++ [installation.server] }
  | .request limit =>
      if limit = 0 ∨ installation.pending ≠ none then none
      else
        match changesSince installation.server userId (cursorOf installation.client) limit with
        | .error _ => some installation
        | .ok page =>
            some { installation with
              pending := some page
              newest := (installation.server.users.get userId).getD 0 }
  | .receive now =>
      match installation.pending with
      | none => none
      | some page =>
          some { installation with
            client := (Desktop.pullPage installation.client (.ok page) now).1
            pending := none
            delivered := installation.delivered ++ acceptedChanges installation.client page now }
  | .elsewhere client =>
      if cursorOf client ≠ cursorOf installation.client then none
      else some { installation with client := client }

end Step

/-- A backup is restored only when it holds every change the client has received or is
about to receive. -/
def NotBehind (userId : String) (installation : Installation φ) : InstallationStep → Prop
  | .restore index =>
      match installation.backups[index]? with
      | none => True
      | some source =>
          installation.reach ≤ (source.users.get userId).getD 0 ∧
          ∀ revision ∈ List.range (installation.reach + 1),
            source.changeLog.get (userId, revision) =
              installation.server.changeLog.get (userId, revision)
  | _ => True

instance NotBehind.decidable [DecidableEq φ] (userId : String) (installation : Installation φ)
    (action : InstallationStep) : Decidable (NotBehind userId installation action) := by
  unfold NotBehind
  split
  · split <;> infer_instance
  · infer_instance

end Installation

section Page

variable {φ : Type} {db : ServerDb φ} {userId : String}

theorem parseOperation_name {value : String} {operation : SyncOperation}
    (parsed : Server.parseOperation value = .ok operation) : operationName operation = value := by
  unfold Server.parseOperation at parsed
  split at parsed
  · rename_i upsert
    cases parsed
    exact upsert.symm
  · split at parsed
    · rename_i deletion
      cases parsed
      exact deletion.symm
    · split at parsed
      · rename_i stats
        cases parsed
        exact stats.symm
      · cases parsed

/-- The rows of a page against its changes, with their operations. -/
theorem pageChanges_operations :
    ∀ (rows : List (Nat × ChangeRow)) (changes : List SyncChange),
      Server.pageChanges db userId rows = .ok changes →
      List.Forall₂ (fun entry change => Server.PageEntry db userId entry change ∧
        operationName change.operation = entry.2.operation) rows changes := by
  intro rows
  induction rows with
  | nil =>
      intro changes success
      cases success
      exact .nil
  | cons entry rest ih =>
      intro changes success
      obtain ⟨revision, row⟩ := entry
      unfold Server.pageChanges at success
      obtain ⟨found, looked, afterLook⟩ := bind_ok_iff.mp success
      cases found with
      | none => cases afterLook
      | some favorite =>
          obtain ⟨operation, named, afterName⟩ := bind_ok_iff.mp afterLook
          obtain ⟨others, paged, same⟩ := bind_ok_iff.mp afterName
          cases same
          exact .cons ⟨⟨rfl, looked⟩, parseOperation_name named⟩ (ih others paged)

/-- A page brings every change of the log between its cursors. -/
theorem changesSince_covers (inv : LogInv db) {since limit latest : Nat} {page : ChangesResponse}
    (known : db.users.get userId = some latest)
    (success : changesSince db userId since limit = .ok page) {revision : Nat} {row : ChangeRow}
    (found : db.changeLog.get (userId, revision) = some row) (above : since < revision)
    (below : revision ≤ page.nextRevision) : Delivered page.changes revision row := by
  have numbers := changesSince_numbers inv known success
  have listed : revision ∈ page.changes.map SyncChange.revision := by
    rw [numbers.numbered, List.mem_range'_1]
    have reached := numbers.reached
    omega
  obtain ⟨change, member, numbered⟩ := List.mem_map.mp listed
  unfold changesSince at success
  obtain ⟨newest, -, afterRevision⟩ := bind_ok_iff.mp success
  obtain ⟨start, startOk, afterStart⟩ := bind_ok_iff.mp afterRevision
  obtain ⟨bound, boundOk, afterBound⟩ := bind_ok_iff.mp afterStart
  obtain ⟨changes, paged, same⟩ := bind_ok_iff.mp afterBound
  cases same
  obtain ⟨⟨number, logged⟩, stored, ⟨sameNumber, looked⟩, named⟩ :=
    Transaction.related_of_mem_right (pageChanges_operations _ _ paged) change member
  obtain rfl : number = revision := sameNumber.symm.trans numbered
  have same : logged = row :=
    Option.some.inj ((Server.mem_pageRows stored).1.symm.trans found)
  subst same
  obtain ⟨favorite, present, newer⟩ := inv.recorded userId number logged found
  obtain ⟨held, aggregate, current, record⟩ := Server.favoriteRecord_contentKey looked
  rw [present] at current
  cases current
  refine ⟨change, member, numbered, ?_, named, ?_⟩
  · rw [record]
    rfl
  · rw [record]
    exact newer

theorem Delivered.mono {first second : List SyncChange} {revision : Nat} {row : ChangeRow}
    (delivered : Delivered first revision row) (kept : ∀ change ∈ first, change ∈ second) :
    Delivered second revision row := by
  obtain ⟨change, member, matched⟩ := delivered
  exact ⟨change, kept change member, matched⟩

end Page

section Pull

variable [ContentTables] {client : ProfileDb} {page : ChangesResponse} {now : Int}

/-- A page that is received moves the cursor to its end and hands over its changes, or
leaves both as they were. -/
theorem receive_cases (client : ProfileDb) (page : ChangesResponse) (now : Int) :
    cursorOf (Desktop.pullPage client (.ok page) now).1 = cursorOf client ∧
        acceptedChanges client page now = [] ∨
      cursorOf (Desktop.pullPage client (.ok page) now).1 = page.nextRevision ∧
        acceptedChanges client page now = page.changes := by
  dsimp only [Desktop.pullPage, acceptedChanges]
  cases outcome : applyRemotePage client page.changes page.nextRevision now with
  | mk next result =>
      cases result with
      | error reason =>
          apply Or.inl
          have failed : (applyRemotePage client page.changes page.nextRevision now).2 =
              .error reason := by
            rw [outcome]
          have same := Transaction.atomically_rolls_back failed
          change (applyRemotePage client page.changes page.nextRevision now).1 = client at same
          rw [outcome] at same
          exact ⟨congrArg cursorOf same, rfl⟩
      | ok value =>
          apply Or.inr
          have moved := (applyRemotePage_cursor outcome).1
          dsimp only
          split
          · exact ⟨moved, rfl⟩
          · split
            · exact ⟨moved, rfl⟩
            · exact ⟨moved, rfl⟩

/-- A turn without an error stands at the end of its page and goes on as announced. -/
theorem pullPage_announced {next : ProfileDb} {more : Bool}
    (turned : Desktop.pullPage client (.ok page) now = (next, .ok more)) :
    cursorOf next = page.nextRevision ∧ page.hasMore = more := by
  dsimp only [Desktop.pullPage] at turned
  split at turned
  · cases turned
  · rename_i after outcome
    have moved := (applyRemotePage_cursor outcome).1
    split at turned
    · rename_i final
      cases turned
      exact ⟨moved, by simpa using final⟩
    · rename_i goesOn
      split at turned
      · cases turned
      · cases turned
        exact ⟨moved, by simpa using goesOn⟩

end Pull

section Log

variable {φ : Type} [DecidableEq φ] [EventFingerprint φ] {db : ServerDb φ} {userId : String}

theorem serve_log (inv : LogInv db) (action : Server.Action) {revision : Nat} {row : ChangeRow}
    (found : db.changeLog.get (userId, revision) = some row) :
    (Server.serve db action).changeLog.get (userId, revision) = some row := by
  refine (@Server.serve_keeps φ _ _ (fun db => LogInv db ∧
    db.changeLog.get (userId, revision) = some row) ?_ db action ⟨inv, found⟩).2
  rintro db next owner contentKey operation now ⟨logged, stored⟩ move
  refine ⟨logged.move move, ?_⟩
  cases move with
  | quiet favorites users changeLog =>
      rw [changeLog]
      exact stored
  | stats row present favorites log => exact log.log logged userId stored
  | entity fresh advanced favorites log => exact log.log logged userId stored

/-- A request writes only above the account's revision. -/
theorem serve_log_below (inv : LogInv db) (action : Server.Action) {latest revision : Nat}
    {row : ChangeRow} (known : db.users.get userId = some latest) (below : revision ≤ latest)
    (found : (Server.serve db action).changeLog.get (userId, revision) = some row) :
    db.changeLog.get (userId, revision) = some row := by
  have after : LogInv (Server.serve db action) := serveAll_logInv inv [action]
  obtain ⟨-, -, positive, -⟩ := after.bounded userId revision row found
  obtain ⟨old, stored⟩ := Option.isSome_iff_exists.mp
    (inv.complete userId latest revision known positive below)
  rw [serve_log inv action stored] at found
  rw [stored, found]

end Log

namespace Installation

variable {φ : Type} {userId : String}

/-- No change of the log at or below the client's cursor has been passed over. -/
structure Sound (userId : String) (installation : Installation φ) : Prop where
  log : LogInv installation.server
  known : ∃ latest, installation.server.users.get userId = some latest ∧
    installation.reach ≤ latest
  backups : ∀ source ∈ installation.backups, LogInv source ∧
    ∃ latest, source.users.get userId = some latest
  ahead : cursorOf installation.client ≤ installation.reach
  delivered : ∀ revision row,
    installation.server.changeLog.get (userId, revision) = some row →
    revision ≤ cursorOf installation.client → Delivered installation.delivered revision row
  paged : ∀ page, installation.pending = some page → ∀ revision row,
    installation.server.changeLog.get (userId, revision) = some row →
    cursorOf installation.client < revision → revision ≤ page.nextRevision →
    Delivered page.changes revision row
  announced : ∀ page, installation.pending = some page →
    page.latestRevision = installation.newest ∧
      (page.hasMore = false → page.nextRevision = installation.newest) ∧
      (page.hasMore = true → cursorOf installation.client < page.nextRevision)

/-- The log may be replaced by one that agrees with it as far as the client reaches. -/
theorem Sound.replace {installation : Installation φ} (sound : Sound userId installation)
    {server : ServerDb φ} {backups : List (ServerDb φ)} (log : LogInv server)
    (known : ∃ latest, server.users.get userId = some latest ∧ installation.reach ≤ latest)
    (kept : ∀ source ∈ backups, LogInv source ∧ ∃ latest, source.users.get userId = some latest)
    (agrees : ∀ revision row, server.changeLog.get (userId, revision) = some row →
      revision ≤ installation.reach →
      installation.server.changeLog.get (userId, revision) = some row) :
    Sound userId { installation with server := server, backups := backups } := by
  refine ⟨log, known, kept, sound.ahead, ?_, ?_, sound.announced⟩
  · intro revision row found below
    exact sound.delivered revision row (agrees revision row found (below.trans sound.ahead)) below
  · intro page pending revision row found above below
    have reached : installation.reach = page.nextRevision := by
      unfold reach
      rw [show installation.pending = some page from pending]
    exact sound.paged page pending revision row
      (agrees revision row found (reached ▸ below)) above below

section Step

variable [DecidableEq φ] [EventFingerprint φ] [ContentTables]

theorem Sound.step {installation next : Installation φ} {action : InstallationStep}
    (sound : Sound userId installation) (notBehind : NotBehind userId installation action)
    (taken : installation.step userId action = some next) : Sound userId next := by
  obtain ⟨latest, known, reached⟩ := sound.known
  cases action with
  | serve action =>
      cases taken
      obtain ⟨later, stored, grown⟩ := serveAll_users known [action]
      apply sound.replace (serveAll_logInv sound.log [action]) ⟨later, stored, by omega⟩
        sound.backups
      intro revision row found below
      exact serve_log_below sound.log action known (by omega) found
  | backup =>
      cases taken
      apply sound.replace sound.log ⟨latest, known, reached⟩
      · intro source member
        rcases List.mem_append.mp member with old | new
        · exact sound.backups source old
        · rw [List.mem_singleton] at new
          exact new ▸ ⟨sound.log, latest, known⟩
      · exact fun _ _ found _ => found
  | restore index =>
      simp only [Installation.step] at taken
      split at taken
      · cases taken
      · rename_i source chosen
        cases taken
        simp only [NotBehind, chosen] at notBehind
        obtain ⟨log, newest, stored⟩ := sound.backups source (List.mem_of_getElem? chosen)
        rw [stored, Option.getD_some] at notBehind
        apply sound.replace log ⟨newest, stored, notBehind.1⟩
        · intro other member
          rcases List.mem_append.mp member with old | new
          · exact sound.backups other old
          · rw [List.mem_singleton] at new
            exact new ▸ ⟨sound.log, latest, known⟩
        · intro revision row found below
          rw [← notBehind.2 revision (List.mem_range.mpr (by omega))]
          exact found
  | request limit =>
      simp only [Installation.step] at taken
      split at taken
      · cases taken
      · rename_i idle
        rw [not_or, not_not] at idle
        have stands : installation.reach = cursorOf installation.client := by
          unfold reach
          rw [idle.2]
        split at taken
        · cases taken
          exact sound
        · rename_i page answered
          cases taken
          have numbers := changesSince_numbers sound.log known answered
          have forward := numbers.reached
          have size := numbers.size
          refine ⟨sound.log, ⟨latest, known, ?_⟩, sound.backups, ?_, sound.delivered, ?_, ?_⟩
          · show page.nextRevision ≤ latest
            omega
          · show cursorOf installation.client ≤ page.nextRevision
            omega
          · intro other pending revision row found above below
            cases pending
            exact changesSince_covers sound.log known answered found above below
          · intro other pending
            cases pending
            have more := numbers.more
            have asked : (installation.server.users.get userId).getD 0 = latest := by
              rw [known, Option.getD_some]
            refine ⟨numbers.newest.trans asked.symm, ?_, ?_⟩
            · intro final
              rw [final] at more
              have caught := of_decide_eq_false more.symm
              show page.nextRevision = (installation.server.users.get userId).getD 0
              omega
            · intro goesOn
              rw [goesOn] at more
              have behind := of_decide_eq_true more.symm
              show cursorOf installation.client < page.nextRevision
              omega
  | receive now =>
      simp only [Installation.step] at taken
      split at taken
      · cases taken
      · rename_i page pending
        cases taken
        have ends : installation.reach = page.nextRevision := by
          unfold reach
          rw [pending]
        have ahead := sound.ahead
        rcases receive_cases installation.client page now with ⟨stays, none⟩ | ⟨moves, all⟩
        · refine ⟨sound.log, ⟨latest, known, ?_⟩, sound.backups, Nat.le_refl _, ?_,
            by rintro page ⟨⟩, by rintro page ⟨⟩⟩
          · show cursorOf (Desktop.pullPage installation.client (.ok page) now).1 ≤ latest
            omega
          · intro revision row found below
            dsimp only at found below ⊢
            rw [none, List.append_nil]
            exact sound.delivered revision row found (stays ▸ below)
        · refine ⟨sound.log, ⟨latest, known, ?_⟩, sound.backups, Nat.le_refl _, ?_,
            by rintro page ⟨⟩, by rintro page ⟨⟩⟩
          · show cursorOf (Desktop.pullPage installation.client (.ok page) now).1 ≤ latest
            omega
          · intro revision row found below
            dsimp only at found below ⊢
            rw [all]
            by_cases before : revision ≤ cursorOf installation.client
            · exact (sound.delivered revision row found before).mono
                (fun change member => List.mem_append_left _ member)
            · exact (sound.paged page pending revision row found (by omega) (moves ▸ below)).mono
                (fun change member => List.mem_append_right _ member)
  | elsewhere client =>
      simp only [Installation.step] at taken
      split at taken
      · cases taken
      · rename_i same
        cases taken
        rw [not_not] at same
        have reaches : ({ installation with client := client } : Installation φ).reach =
            installation.reach := by
          unfold reach
          cases installation.pending with
          | none => exact same
          | some page => rfl
        refine ⟨sound.log, ⟨latest, known, reaches ▸ reached⟩, sound.backups, ?_, ?_, ?_, ?_⟩
        · rw [reaches]
          exact same.symm ▸ sound.ahead
        · intro revision row found below
          exact sound.delivered revision row found (same ▸ below)
        · intro page pending revision row found above below
          exact sound.paged page pending revision row found (same ▸ above) below
        · intro page pending
          rw [show cursorOf client = cursorOf installation.client from same]
          exact sound.announced page pending

end Step

theorem Sound.initial (userIds : List String) (devices : List (String × String))
    {client : ProfileDb} (fresh : cursorOf client = 0)
    (account : ∃ latest, (ServerDb.initial userIds devices : ServerDb φ).users.get userId =
      some latest) :
    Sound userId (initial userIds devices client : Installation φ) where
  log := LogInv.initial userIds devices
  known := by
    obtain ⟨latest, known⟩ := account
    refine ⟨latest, known, ?_⟩
    show cursorOf client ≤ latest
    omega
  backups := nofun
  ahead := Nat.le_refl _
  delivered := by
    intro revision row found
    cases found
  paged := nofun
  announced := nofun

end Installation

section Delivery

variable {φ : Type} [DecidableEq φ] [EventFingerprint φ] [ContentTables]

/-- In every run in which a backup is restored only when it holds what the client has
received, no change of the server's log at or below the client's cursor has been passed
over; and a turn of the pull loop that reports no error has caught up with the account's
revision at the request of its page, which the page tells, or has advanced and goes on. -/
theorem restored_changes_delivered (userIds : List String) (devices : List (String × String))
    (userId : String) {client : ProfileDb} (fresh : cursorOf client = 0)
    (account : ∃ latest, (ServerDb.initial userIds devices : ServerDb φ).users.get userId =
      some latest)
    {actions : List InstallationStep} {last : Installation φ}
    (safe : Meets (Installation.step userId) (Installation.NotBehind userId)
      (Installation.initial userIds devices client : Installation φ) actions)
    (reached : run (Installation.step userId)
      (Installation.initial userIds devices client : Installation φ) actions = some last) :
    (∀ revision row, last.server.changeLog.get (userId, revision) = some row →
      revision ≤ cursorOf last.client → Delivered last.delivered revision row) ∧
    ∀ page, last.pending = some page → page.latestRevision = last.newest ∧
      ∀ now next more, Desktop.pullPage last.client (.ok page) now = (next, .ok more) →
        if more then cursorOf last.client < cursorOf next else cursorOf next = last.newest := by
  have sound : last.Sound userId := run_keeps_of_meets
    (fun _ _ _ holds meets taken => Installation.Sound.step holds meets taken)
    actions _ last (Installation.Sound.initial userIds devices fresh account) safe reached
  refine ⟨sound.delivered, ?_⟩
  intro page pending
  obtain ⟨tells, final, goesOn⟩ := sound.announced page pending
  refine ⟨tells, ?_⟩
  intro now next more turned
  obtain ⟨moved, announced⟩ := pullPage_announced turned
  cases more with
  | true =>
      rw [if_pos rfl, moved]
      exact goesOn announced
  | false =>
      rw [if_neg Bool.false_ne_true, moved]
      exact final announced

end Delivery

section Runs

attribute [local instance] Sample.tables

/-- A query of the word, as a Device sends it. -/
def giftCount (eventId : String) : PushEvent where
  eventId := eventId
  operation := .queryStatsUpsert
  contentKey := Sample.giftKey.toHex
  keyVersion := 1
  baseEntityRevision := 0
  favorite := none
  queryStats := some ⟨3, 60, 103, 103⟩

/-- A Device that has pulled two changes of the word, and a backup between them. -/
def pulledTwice : List InstallationStep :=
  [.serve (.push "user" "desk" [giftPush "first" 0 .favoriteUpsert] 100), .backup,
    .serve (.push "user" "desk" [giftPush "second" 1 .favoriteDelete] 101), .request 200,
    .receive 102]

/-- The backup is restored. -/
def restoredEarlier : List InstallationStep := pulledTwice ++ [InstallationStep.restore 0]

/-- Another Device queries the word, and the first one asks for the changes. -/
def askedAgain : List InstallationStep :=
  restoredEarlier ++
    [InstallationStep.serve (.push "user" "desk" [giftCount "third"] 103), .request 200]

/-- A backup is restored that holds both changes. -/
def restoredLater : List InstallationStep :=
  pulledTwice ++ [InstallationStep.backup, .restore 1,
    .serve (.push "user" "desk" [giftPush "third" 2 .favoriteUpsert] 103), .request 200,
    .receive 104]

def installation : Installation PushEvent :=
  Installation.initial ["user"] [("user", "desk")] deskProfile

/-- The pull loop is through and reports no error. -/
def endsWell : Desktop.EngineResult Bool → Bool
  | .ok more => !more
  | .error _ => false

/-- What is evaluated of the three runs. -/
theorem installation_runs :
    (run (Installation.step "user") installation restoredEarlier).any (fun restored =>
      restored.server.changeLog.get ("user", 2) = none) = true ∧
    (run (Installation.step "user") installation askedAgain).any (fun last =>
      (last.server.changeLog.get ("user", 2)).any (fun row =>
        last.pending.any (fun page =>
          endsWell (Desktop.pullPage last.client (.ok page) 104).2 = true ∧
          2 ≤ cursorOf (Desktop.pullPage last.client (.ok page) 104).1 ∧
          ¬ Delivered (last.delivered ++ acceptedChanges last.client page 104) 2 row))) = true ∧
    (run (Installation.step "user") installation restoredLater).any (fun last =>
      (last.server.changeLog.get ("user", 3)).isSome ∧ 3 ≤ cursorOf last.client) = true ∧
    Meets (Installation.step "user") (Installation.NotBehind "user") installation
      restoredLater := by
  decide +kernel

/-- The pull loop ends without an error, and the change committed after the restore is not
among those the Device has received. -/
theorem restored_change_is_skipped : ∃ restored last page next row,
    run (Installation.step "user") installation restoredEarlier = some restored ∧
    restored.server.changeLog.get ("user", 2) = none ∧
    run (Installation.step "user") installation askedAgain = some last ∧
    last.server.changeLog.get ("user", 2) = some row ∧ last.pending = some page ∧
    Desktop.pullPage last.client (.ok page) 104 = (next, .ok false) ∧
    2 ≤ cursorOf next ∧
    ¬ Delivered (last.delivered ++ acceptedChanges last.client page 104) 2 row := by
  obtain ⟨undone, facts, -⟩ := installation_runs
  obtain ⟨restored, rewound, missing⟩ := (Option.any_eq_true _ _).mp undone
  obtain ⟨last, reached, afterRun⟩ := (Option.any_eq_true _ _).mp facts
  obtain ⟨row, logged, afterRow⟩ := (Option.any_eq_true _ _).mp afterRun
  obtain ⟨page, pending, afterPage⟩ := (Option.any_eq_true _ _).mp afterRow
  obtain ⟨ended, caught, skipped⟩ := of_decide_eq_true afterPage
  cases turned : Desktop.pullPage last.client (.ok page) 104 with
  | mk next outcome =>
      rw [turned] at ended caught
      cases outcome with
      | error reason => cases ended
      | ok more =>
          cases more with
          | true => cases ended
          | false =>
              exact ⟨restored, last, page, next, row, rewound, of_decide_eq_true missing, reached,
                logged, pending, turned, caught, skipped⟩

theorem restored_changes_delivered_later : ∃ last row,
    run (Installation.step "user") installation restoredLater = some last ∧
    last.server.changeLog.get ("user", 3) = some row ∧ Delivered last.delivered 3 row := by
  obtain ⟨-, -, facts, safe⟩ := installation_runs
  have account : (ServerDb.initial ["user"] [("user", "desk")] :
      ServerDb PushEvent).users.get "user" = some 0 := by
    decide +kernel
  obtain ⟨last, reached, holds⟩ := (Option.any_eq_true _ _).mp facts
  obtain ⟨stored, caught⟩ := of_decide_eq_true holds
  obtain ⟨row, logged⟩ := Option.isSome_iff_exists.mp stored
  exact ⟨last, row, reached, logged,
    (restored_changes_delivered ["user"] [("user", "desk")] "user" rfl ⟨0, account⟩ safe
      reached).1 3 row logged caught⟩

end Runs

end Lvos.System
