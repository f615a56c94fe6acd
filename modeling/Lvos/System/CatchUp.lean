import Lvos.Server.Pages
import Lvos.Server.Statistics
import Lvos.System.Progress

set_option autoImplicit false

namespace Lvos.System

open Lvos.Core Lvos.Sync Lvos.Storage
open Lvos.Server (ServerDb EventFingerprint RepositoryResult LogInv Representable changesSince
  serveAll)
open Transaction (bind_ok_iff)

/-- One request of a catch-up: its page limit, and what anyone sent before it. -/
structure CatchUpRequest where
  limit : Nat
  before : List Server.Action
deriving DecidableEq

/-- A page, the cursor it was asked from and the server that answered. -/
structure CatchUpTurn (φ : Type) where
  server : ServerDb φ
  asked : Nat
  page : ChangesResponse

section CatchUp

variable {φ : Type} [DecidableEq φ] [EventFingerprint φ]

/-- The pages obtained by repeating `changes_since` from the previous `next_revision`; a
refused request brings none. -/
def catchUp (userId : String) :
    ServerDb φ → Nat → List CatchUpRequest → List (CatchUpTurn φ)
  | _, _, [] => []
  | db, cursor, request :: rest =>
      match changesSince (serveAll db request.before) userId cursor request.limit with
      | .ok page => ⟨serveAll db request.before, cursor, page⟩ ::
          catchUp userId (serveAll db request.before) page.nextRevision rest
      | .error _ => catchUp userId (serveAll db request.before) cursor rest

end CatchUp

section Turns

variable {φ : Type}

/-- Where a reader stands after the pages. -/
def lastCursor (start : Nat) (turns : List (CatchUpTurn φ)) : Nat :=
  (turns.getLast?.map (fun turn => turn.page.nextRevision)).getD start

def revisionsOf (turns : List (CatchUpTurn φ)) : List Nat :=
  turns.flatMap (fun turn => turn.page.changes.map SyncChange.revision)

theorem lastCursor_cons (start asked : Nat) (server : ServerDb φ) (page : ChangesResponse)
    (turns : List (CatchUpTurn φ)) :
    lastCursor start (⟨server, asked, page⟩ :: turns) = lastCursor page.nextRevision turns := by
  unfold lastCursor
  cases turns with
  | nil => rfl
  | cons next rest => rfl

end Turns

section Accepted

variable [ContentTables]

/-- The changes of a page one after the other, without a look at their numbers. -/
def applyChanges (now : Int) : ProfileDb → List SyncChange → StorageResult ProfileDb
  | db, [] => .ok db
  | db, change :: rest => do
      let db ← applyRemoteChange db change now
      applyChanges now db rest

/-- `apply_remote_page` accepts the numbering: it does what applying the changes and
moving the cursor does. -/
def NumberingAccepted (asked : Nat) (page : ChangesResponse) : Prop :=
  ∀ (db : ProfileDb) (now : Int), cursorOf db = asked →
    applyRemotePageBody page.changes page.nextRevision now db =
      (do
        let db ← applyChanges now db page.changes
        .ok (synchronizedAt (advanceCursor db page.nextRevision) now, ()))

theorem applyRemoteLoop_numbered {nextRevision : Nat} {now : Int} (small : nextRevision < u64Limit) :
    ∀ (changes : List SyncChange) (db : ProfileDb) (expected : Nat),
      changes.map SyncChange.revision = List.range' (expected + 1) changes.length →
      expected + changes.length = nextRevision →
      applyRemoteLoop nextRevision now db expected changes =
        (do
          let db ← applyChanges now db changes
          .ok (db, nextRevision)) := by
  intro changes
  induction changes with
  | nil =>
      intro db expected _ reached
      simp only [List.length_nil, Nat.add_zero] at reached
      simp [applyRemoteLoop, applyChanges, reached, bind, Except.bind]
  | cons change rest ih =>
      intro db expected numbered reached
      simp only [List.map_cons, List.length_cons, List.range'_succ, List.cons.injEq] at numbered
      obtain ⟨first, later⟩ := numbered
      rw [List.length_cons] at reached
      have inside : ¬ u64Limit ≤ expected + 1 := by omega
      have expectedNext : ¬ (change.revision ≠ expected + 1 ∨ nextRevision < change.revision) := by
        omega
      have tail := fun next => ih next change.revision (by rw [first]; exact later) (by omega)
      unfold applyRemoteLoop applyChanges
      rw [if_neg inside, if_neg expectedNext]
      cases applyRemoteChange db change now with
      | error reason => rfl
      | ok next => exact tail next

theorem numberingAccepted {asked : Nat} {page : ChangesResponse}
    (numbered : page.changes.map SyncChange.revision =
      List.range' (asked + 1) page.changes.length)
    (reached : page.nextRevision = asked + page.changes.length)
    (small : page.nextRevision < i64Limit) : NumberingAccepted asked page := by
  intro db now stands
  have wide : page.nextRevision < u64Limit := by
    have limits : i64Limit < u64Limit := by decide
    omega
  replace stands : db.profileMeta.lastServerRevision = asked := stands
  have forward : ¬ page.nextRevision < db.profileMeta.lastServerRevision := by omega
  unfold applyRemotePageBody
  dsimp only
  rw [if_neg forward, stands, applyRemoteLoop_numbered wide page.changes db asked numbered
    reached.symm]
  cases applyChanges now db page.changes with
  | error reason => rfl
  | ok next => simp [sqliteI64, small, bind, Except.bind]

end Accepted

section Pages

variable {φ : Type} {db : ServerDb φ} {userId : String} {since limit latest : Nat}

/-- How a page is numbered, for a reader at `since` of a log that ends at `latest`. -/
structure PageNumbers (since limit latest : Nat) (page : ChangesResponse) : Prop where
  numbered : page.changes.map SyncChange.revision =
    List.range' (since + 1) page.changes.length
  reached : page.nextRevision = since + page.changes.length
  size : page.changes.length = min limit (latest - since)
  newest : page.latestRevision = latest
  more : page.hasMore = decide (page.nextRevision < latest)

theorem pageRows_numbered (inv : LogInv db) (known : db.users.get userId = some latest) :
    (Server.pageRows db userId since limit).map Prod.fst =
      List.range' (since + 1) (min limit (latest - since)) := by
  have whole : Server.pageRows db userId since limit =
      (Server.logAbove db userId since).take limit := rfl
  rw [whole, List.map_take, Server.logAbove_numbered inv known]
  rcases Nat.le_total limit (latest - since) with short | long
  · rw [List.take_range'_of_length_ge short, Nat.min_eq_left short]
  · rw [List.take_range'_of_length_le long, Nat.min_eq_right long]

theorem pageEntries_numbered {rows : List (Nat × Server.ChangeRow)} {changes : List SyncChange}
    (entries : List.Forall₂ (Server.PageEntry db userId) rows changes) :
    changes.map SyncChange.revision = rows.map Prod.fst := by
  induction entries with
  | nil => rfl
  | cons head tail ih => rw [List.map_cons, List.map_cons, head.1, ih]

theorem changesSince_numbers {page : ChangesResponse} (inv : LogInv db)
    (known : db.users.get userId = some latest)
    (success : changesSince db userId since limit = .ok page) :
    PageNumbers since limit latest page := by
  unfold changesSince at success
  obtain ⟨newest, revisionOk, afterRevision⟩ := bind_ok_iff.mp success
  obtain ⟨start, startOk, afterStart⟩ := bind_ok_iff.mp afterRevision
  obtain ⟨bound, boundOk, afterBound⟩ := bind_ok_iff.mp afterStart
  obtain ⟨changes, paged, same⟩ := bind_ok_iff.mp afterBound
  obtain ⟨rfl, -⟩ := Server.toI64_ok startOk
  obtain ⟨rfl, -⟩ := Server.toI64_ok boundOk
  cases same
  have stored := Server.userRevision_ok revisionOk
  rw [known] at stored
  cases stored
  have revisions : changes.map SyncChange.revision =
      List.range' (start + 1) (min bound (latest - start)) :=
    (pageEntries_numbered (Server.pageChanges_ok _ _ paged)).trans (pageRows_numbered inv known)
  have size : changes.length = min bound (latest - start) := by
    have lengths := congrArg List.length revisions
    simpa using lengths
  have ending : (changes.getLast?.map SyncChange.revision).getD start =
      start + changes.length := by
    rw [← List.getLast?_map, revisions, List.getLast?_range', size]
    split
    · rename_i none
      rw [none]
      rfl
    · simp only [Option.getD_some]
      omega
  refine ⟨?_, ending, size, rfl, rfl⟩
  show changes.map SyncChange.revision = List.range' (start + 1) changes.length
  rw [revisions, size]

theorem pageChanges_total (inv : LogInv db) (fits : Representable db) :
    ∀ rows : List (Nat × Server.ChangeRow),
      (∀ entry ∈ rows, db.changeLog.get (userId, entry.1) = some entry.2) →
      ∃ changes, Server.pageChanges db userId rows = .ok changes := by
  intro rows
  induction rows with
  | nil => exact fun _ => ⟨[], rfl⟩
  | cons entry rest ih =>
      intro logged
      obtain ⟨revision, row⟩ := entry
      have here := logged (revision, row) (by simp)
      obtain ⟨favorite, present, -⟩ := inv.recorded userId revision row here
      obtain ⟨operation, named⟩ := inv.named userId revision row here
      obtain ⟨aggregate, counted⟩ := fits.sums userId row.contentKey
      obtain ⟨changes, tail⟩ := ih (fun other member => logged other (by simp [member]))
      refine ⟨⟨revision, operation, Server.recordOf row.contentKey favorite aggregate⟩ :: changes,
        ?_⟩
      simp [Server.pageChanges, Server.favoriteRecord, present, counted, named,
        Server.parseOperation_operationName, tail, bind, Except.bind]

/-- A request from a cursor of the account is answered. -/
theorem changesSince_total (inv : LogInv db) (fits : Representable db)
    (known : db.users.get userId = some latest) (below : since < i64Limit)
    (small : limit < i64Limit) : ∃ page, changesSince db userId since limit = .ok page := by
  obtain ⟨changes, paged⟩ := @pageChanges_total φ db userId inv fits
    (Server.pageRows db userId since limit) (fun entry member => (Server.mem_pageRows member).1)
  refine ⟨⟨changes, (changes.getLast?.map SyncChange.revision).getD since, latest,
    decide ((changes.getLast?.map SyncChange.revision).getD since < latest)⟩, ?_⟩
  simp only [changesSince, Server.userRevision, known, Server.toI64, below, small, ↓reduceIte,
    paged, bind, Except.bind]

end Pages

section Run

variable {φ : Type} [DecidableEq φ] [EventFingerprint φ] {userId : String}

theorem serveAll_users {db : ServerDb φ} {latest : Nat} (known : db.users.get userId = some latest)
    (actions : List Server.Action) :
    ∃ later, (serveAll db actions).users.get userId = some later ∧ latest ≤ later := by
  refine @Server.serveAll_keeps φ _ _ (fun db => ∃ later, db.users.get userId = some later ∧
    latest ≤ later) ?_ actions db ⟨latest, known, Nat.le_refl latest⟩
  intro before action holds
  refine @Server.serve_keeps φ _ _ (fun db => ∃ later, db.users.get userId = some later ∧
    latest ≤ later) ?_ before action holds
  rintro db next owner contentKey operation now ⟨later, stored, above⟩ move
  have logged : ∀ {entityRevision : Nat},
      Server.Logged db next owner contentKey entityRevision operation now →
      ∃ later, next.users.get userId = some later ∧ latest ≤ later := by
    intro entityRevision log
    obtain ⟨last, final, grown⟩ := log.users userId stored
    exact ⟨last, final, Nat.le_trans above grown⟩
  cases move with
  | quiet favorites users changeLog =>
      rw [users]
      exact ⟨later, stored, above⟩
  | stats row present favorites log => exact logged log
  | entity fresh advanced favorites log => exact logged log

theorem serveAll_logInv {db : ServerDb φ} (inv : LogInv db) (actions : List Server.Action) :
    LogInv (serveAll db actions) :=
  Server.serveAll_keeps (fun db action holds =>
    Server.serve_keeps (fun _ _ _ _ _ _ here move => here.move move) db action holds)
    actions db inv

theorem serveAll_representable {db : ServerDb φ} (fits : Representable db)
    (actions : List Server.Action) : Representable (serveAll db actions) :=
  Server.serveAll_keeps Server.serve_representable actions db fits

/-- What the pages of a catch-up are, from any cursor of a server that keeps its log. -/
theorem catchUp_facts : ∀ (requests : List CatchUpRequest) (db : ServerDb φ) (cursor latest : Nat),
    LogInv db → Representable db → db.users.get userId = some latest → cursor ≤ latest →
    cursor ≤ lastCursor cursor (catchUp userId db cursor requests) ∧
      revisionsOf (catchUp userId db cursor requests) = List.range' (cursor + 1)
        (lastCursor cursor (catchUp userId db cursor requests) - cursor) ∧
      (∀ turn ∈ catchUp userId db cursor requests,
        ∃ request ∈ requests, ∃ newest, turn.server.users.get userId = some newest ∧
          turn.asked ≤ newest ∧ newest < i64Limit ∧
          PageNumbers turn.asked request.limit newest turn.page) ∧
      ((∀ request ∈ requests, request.limit < i64Limit) →
        (catchUp userId db cursor requests).length = requests.length) := by
  intro requests
  induction requests with
  | nil =>
      intro db cursor latest _ _ _ _
      simp [catchUp, lastCursor, revisionsOf]
  | cons request rest ih =>
      intro db cursor latest inv fits known low
      have nextInv := serveAll_logInv inv request.before
      have nextFits := serveAll_representable fits request.before
      obtain ⟨newest, stored, grown⟩ := serveAll_users known request.before
      have bounded := nextFits.revisions userId newest stored
      have below : cursor ≤ newest := by omega
      unfold catchUp
      cases answer : changesSince (serveAll db request.before) userId cursor request.limit with
      | error reason =>
          obtain ⟨ahead, listed, pages, counted⟩ := ih (serveAll db request.before) cursor newest
            nextInv nextFits stored below
          refine ⟨ahead, listed, ?_, ?_⟩
          · intro turn member
            obtain ⟨other, inside, facts⟩ := pages turn member
            exact ⟨other, List.mem_cons_of_mem _ inside, facts⟩
          · intro small
            obtain ⟨page, found⟩ := changesSince_total nextInv nextFits stored
              (Nat.lt_of_le_of_lt below bounded) (small request (by simp))
            rw [answer] at found
            cases found
      | ok page =>
          have numbers := changesSince_numbers nextInv stored answer
          have size := numbers.size
          have reached := numbers.reached
          obtain ⟨ahead, listed, pages, counted⟩ := ih (serveAll db request.before)
            page.nextRevision newest nextInv nextFits stored (by omega)
          dsimp only
          rw [lastCursor_cons]
          refine ⟨by omega, ?_, ?_, ?_⟩
          · have meets : page.nextRevision + 1 = cursor + 1 + page.changes.length := by omega
            unfold revisionsOf at listed ⊢
            rw [List.flatMap_cons, listed, numbers.numbered, meets, List.range'_append_1]
            congr 1
            omega
          · intro turn member
            rcases List.mem_cons.mp member with rfl | later
            · exact ⟨request, by simp, newest, stored, below, bounded, numbers⟩
            · obtain ⟨found, inside, facts⟩ := pages turn later
              exact ⟨found, List.mem_cons_of_mem _ inside, facts⟩
          · intro small
            rw [List.length_cons, List.length_cons,
              counted (fun other member => small other (by simp [member]))]

end Run

/-- A reader that asks again from where the last page ended, while anyone pushes: it is
answered, the pages hold every revision above its start once and in order, each page tells
the account's revision at its request, `has_more` is false exactly at the end of the log, a
page that announces more moves on, and the client takes the numbers of every page. -/
theorem catch_up_complete {φ : Type} [DecidableEq φ] [EventFingerprint φ] [ContentTables]
    (userIds : List String) (devices : List (String × String)) (actions : List Server.Action)
    (userId : String) (cursor latest : Nat)
    (known : (serveAll (ServerDb.initial userIds devices : ServerDb φ) actions).users.get userId =
      some latest)
    (low : cursor ≤ latest) (requests : List CatchUpRequest)
    (positive : ∀ request ∈ requests, 0 < request.limit) :
    let turns := catchUp userId
      (serveAll (ServerDb.initial userIds devices : ServerDb φ) actions) cursor requests
    ((∀ request ∈ requests, request.limit < i64Limit) → turns.length = requests.length) ∧
      revisionsOf turns = List.range' (cursor + 1) (lastCursor cursor turns - cursor) ∧
      (∀ turn, turns.getLast? = some turn → turn.page.hasMore = false →
        lastCursor cursor turns = turn.page.latestRevision) ∧
      ∀ turn ∈ turns,
        turn.server.users.get userId = some turn.page.latestRevision ∧
        (turn.page.hasMore = false ↔ turn.page.nextRevision = turn.page.latestRevision) ∧
        (turn.page.hasMore = true → turn.asked < turn.page.nextRevision) ∧
        NumberingAccepted turn.asked turn.page := by
  intro turns
  have inv : LogInv (serveAll (ServerDb.initial userIds devices : ServerDb φ) actions) :=
    serveAll_logInv (LogInv.initial userIds devices) actions
  have fits : Representable (serveAll (ServerDb.initial userIds devices : ServerDb φ) actions) :=
    serveAll_representable (Representable.initial userIds devices) actions
  obtain ⟨-, listed, facts, counted⟩ :=
    @catchUp_facts φ _ _ userId requests _ cursor latest inv fits known low
  have ends : ∀ turn ∈ turns,
      (turn.page.hasMore = false ↔ turn.page.nextRevision = turn.page.latestRevision) := by
    intro turn member
    obtain ⟨request, -, newest, -, below, -, numbers⟩ := facts turn member
    have size := numbers.size
    have reached := numbers.reached
    rw [numbers.more, numbers.newest, decide_eq_false_iff_not]
    omega
  refine ⟨counted, listed, ?_, ?_⟩
  · intro turn final complete
    have member := List.mem_of_getLast? final
    have stands : lastCursor cursor turns = turn.page.nextRevision := by
      unfold lastCursor
      rw [final]
      rfl
    rw [stands]
    exact (ends turn member).mp complete
  · intro turn member
    obtain ⟨request, listed, newest, stored, below, small, numbers⟩ := facts turn member
    have size := numbers.size
    have reached := numbers.reached
    have limit := positive request listed
    refine ⟨?_, ends turn member, ?_, ?_⟩
    · rw [numbers.newest]
      exact stored
    · intro more
      rw [numbers.more, decide_eq_true_eq] at more
      omega
    · exact numberingAccepted numbers.numbered reached (by omega)

section Runs

attribute [local instance] Sample.tables

/-- The favorited word as a Device sends it. -/
def giftPush (eventId : String) (base : Nat) (operation : SyncOperation) : PushEvent where
  eventId := eventId
  operation := operation
  contentKey := Sample.giftKey.toHex
  keyVersion := 1
  baseEntityRevision := base
  favorite := if operation = .favoriteUpsert then some giftRecord.favorite else none
  queryStats := none

def giftActions : List Server.Action :=
  [.push "user" "desk" [giftPush "first" 0 .favoriteUpsert] 100]

/-- Two pages of one change; the word is withdrawn between them. -/
def giftRequests : List CatchUpRequest :=
  [⟨1, []⟩, ⟨1, [.push "user" "desk" [giftPush "second" 1 .favoriteDelete] 101]⟩]

theorem catch_up_complete_gift :
    revisionsOf (catchUp "user" (serveAll (ServerDb.initial ["user"] [("user", "desk")] :
        ServerDb PushEvent) giftActions) 0 giftRequests) = [1, 2] ∧
      ∀ turn ∈ catchUp "user" (serveAll (ServerDb.initial ["user"] [("user", "desk")] :
          ServerDb PushEvent) giftActions) 0 giftRequests,
        turn.server.users.get "user" = some turn.page.latestRevision ∧
          NumberingAccepted turn.asked turn.page := by
  have known : (serveAll (ServerDb.initial ["user"] [("user", "desk")] : ServerDb PushEvent)
      giftActions).users.get "user" = some 1 := by
    decide +kernel
  have final : lastCursor 0 (catchUp "user" (serveAll
      (ServerDb.initial ["user"] [("user", "desk")] : ServerDb PushEvent) giftActions) 0
      giftRequests) = 2 := by
    decide +kernel
  obtain ⟨-, listed, -, turns⟩ := catch_up_complete ["user"] [("user", "desk")] giftActions "user"
    0 1 known (by decide) giftRequests (by decide)
  rw [final] at listed
  refine ⟨listed, ?_⟩
  intro turn member
  obtain ⟨tells, -, -, accepted⟩ := turns turn member
  exact ⟨tells, accepted⟩

end Runs

end Lvos.System
