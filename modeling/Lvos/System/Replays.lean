import Lvos.Lib.Measure
import Lvos.System.Exchange
import Lvos.System.Progress

set_option autoImplicit false

namespace Lvos.System

open Lvos.Core Lvos.Sync Lvos.Storage
open Relational (Table)
open Desktop (SessionError EngineResult PushDisposition SyncRunOutcome settlePush)

section Cycles

variable [ContentTables]

/-- What the network answers during one `synchronize_once`. -/
structure Answers where
  now : Int
  push : Except SessionError PushResponse
  pages : List PageReply

/-- `push_events` on a batch, with the answer to its request. -/
def pushEvents (db : ProfileDb) (events : List OutboxEvent) (answers : Answers) :
    ProfileDb × EngineResult PushDisposition :=
  match Desktop.buildEvents db events with
  | .error reason => (db, .error (.database reason))
  | .ok sent => settlePush db events sent answers.push answers.now

/-- The end of `synchronize_once`: the pull and the full-batch test. -/
def pullAndFinish (pushBatch : Nat) (db : ProfileDb) (events : List OutboxEvent)
    (answers : Answers) : Option (ProfileDb × EngineResult SyncRunOutcome) :=
  match pullAll answers.now db answers.pages with
  | none => none
  | some (db, .error reason) => some (db, .error reason)
  | some (db, .ok _) =>
      some (db, .ok (if events.length = pushBatch then .workRemaining else .idle))

/-- Executes one bounded push followed by complete paginated catch-up; `none` while
`pull_all` has not returned. -/
def synchronizeOnce (pushBatch : Nat) (db : ProfileDb) (answers : Answers) :
    Option (ProfileDb × EngineResult SyncRunOutcome) :=
  match readyOutboxEvents db answers.now pushBatch with
  | .error reason => some (db, .error (.database reason))
  | .ok [] => pullAndFinish pushBatch db [] answers
  | .ok events =>
      match pushEvents db events answers with
      | (db, .error reason) => some (db, .error reason)
      | (db, .ok .proceed) => pullAndFinish pushBatch db events answers
      | (db, .ok .replayPrepared) => some (db, .ok .workRemaining)
      | (db, .ok .manualConflict) => some (db, .ok .manualConflict)
      | (db, .ok (.retryAt timestamp)) => some (db, .ok (.retryAt timestamp))
      | (db, .ok (.halted reason)) => some (db, .ok (.halted reason))

/-- A call that returns `WorkRemaining`. -/
def workTurn (pushBatch : Nat) (db : ProfileDb) (answers : Answers) : Option ProfileDb :=
  match synchronizeOnce pushBatch db answers with
  | some (db, .ok .workRemaining) => some db
  | _ => none

/-- The content whose pending intent one call rebases. -/
def rebasedBy (pushBatch : Nat) (db : ProfileDb) (answers : Answers) : Option ContentKey :=
  match readyOutboxEvents db answers.now pushBatch with
  | .error _ => none
  | .ok events =>
      match (pushEvents db events answers).2, answers.push with
      | .ok .replayPrepared, .error (.transport (.conflict conflict)) =>
          (Desktop.conflictedEvent events conflict).map (fun event => event.contentKey)
      | _, _ => none

/-- The contents rebased over repeated calls, in order. -/
def rebasings (pushBatch : Nat) : ProfileDb → List Answers → List ContentKey
  | _, [] => []
  | db, answers :: rest =>
      (rebasedBy pushBatch db answers).toList ++
        match synchronizeOnce pushBatch db answers with
        | none => []
        | some (next, _) => rebasings pushBatch next rest

/-- Every Outbox row was there before, and a replay is not forgotten. -/
def ReplaysKept (db next : ProfileDb) : Prop :=
  ∀ coalesceKey row, next.syncOutbox.get coalesceKey = some row →
    ∃ old, db.syncOutbox.get coalesceKey = some old ∧
      (old.conflictReplayCount ≠ 0 → row.conflictReplayCount ≠ 0)

/-- What a row may still cost: a replay and its acknowledgement. -/
def remaining (row : OutboxRow) : Nat := if row.conflictReplayCount = 0 then 2 else 1

section Kept

variable {db middle next : ProfileDb}

omit [ContentTables]

theorem ReplaysKept.refl (db : ProfileDb) : ReplaysKept db db :=
  fun _ row stored => ⟨row, stored, fun spent => spent⟩

theorem ReplaysKept.trans (first : ReplaysKept db middle) (second : ReplaysKept middle next) :
    ReplaysKept db next := by
  intro coalesceKey row stored
  obtain ⟨between, here, later⟩ := second coalesceKey row stored
  obtain ⟨old, there, earlier⟩ := first coalesceKey between here
  exact ⟨old, there, fun spent => later (earlier spent)⟩

theorem ReplaysKept.weightAt (kept : ReplaysKept db next) (coalesceKey : CoalesceKey) :
    next.syncOutbox.weightAt remaining coalesceKey ≤
      db.syncOutbox.weightAt remaining coalesceKey := by
  cases stored : next.syncOutbox.get coalesceKey with
  | none =>
      rw [Table.weightAt_none stored]
      omega
  | some row =>
      obtain ⟨old, here, spent⟩ := kept coalesceKey row stored
      rw [Table.weightAt_some stored, Table.weightAt_some here]
      unfold remaining
      split <;> split <;> omega

/-- A row that is gone or replayed for the first time lowers what remains. -/
theorem ReplaysKept.total_lt {coalesceKey : CoalesceKey} {old : OutboxRow}
    (kept : ReplaysKept db next) (here : db.syncOutbox.get coalesceKey = some old)
    (spent : ∀ row, next.syncOutbox.get coalesceKey = some row →
      old.conflictReplayCount = 0 ∧ row.conflictReplayCount ≠ 0) :
    next.syncOutbox.total remaining < db.syncOutbox.total remaining := by
  refine Table.total_lt kept.weightAt coalesceKey ?_
  rw [Table.weightAt_some here]
  cases stored : next.syncOutbox.get coalesceKey with
  | none =>
      rw [Table.weightAt_none stored]
      unfold remaining
      split <;> omega
  | some row =>
      obtain ⟨fresh, used⟩ := spent row stored
      rw [Table.weightAt_some stored]
      simp [remaining, fresh, used]

theorem acknowledgeEvents_replays (items : List AcknowledgedEvent) (now : Int) (db : ProfileDb) :
    ReplaysKept db (acknowledgeEvents db items now).1 := by
  unfold acknowledgeEvents
  cases body : acknowledgeBody items now db with
  | error reason =>
      rw [Transaction.atomically_of_error body]
      exact .refl db
  | ok pair =>
      obtain ⟨after, done⟩ := pair
      rw [Transaction.atomically_of_ok body]
      obtain ⟨last, looped, rfl⟩ := acknowledgeBody_ok body
      exact acknowledgeLoop_induct (fun _ db last => ReplaysKept db last) .refl
        (fun item rest db middle last turned tail => by
          refine ReplaysKept.trans (fun coalesceKey row stored => ?_) tail
          obtain ⟨-, table, -, equation⟩ := acknowledgeEvent_ok turned
          replace equation : middle =
            acknowledged db item.event item.acknowledgement.entityRevision table := equation
          rw [equation] at stored
          obtain ⟨old, here, -, rfl | ⟨revision, -, -, -, rfl⟩⟩ :=
            acknowledged_carried _ _ _ _ stored
          · exact ⟨row, here, fun spent => spent⟩
          · exact ⟨old, here, fun spent => spent⟩)
        items db last looped

theorem Resolved.replays {event : OutboxEvent} {current : Option FavoriteRecord} {now : Int}
    {resolution : ConflictResolution} (resolved : Resolved db next event current now resolution) :
    ReplaysKept db next := by
  intro coalesceKey row stored
  by_cases same : coalesceKey = .favorite event.contentKey
  · subst same
    cases resolved with
    | converged record key localValue table answer keyed found reached kept changed =>
        rw [changed] at stored
        dsimp only at stored
        rw [Table.get_delete_key, if_pos rfl] at stored
        cases stored
    | replayed record old table answer pending first kept changed =>
        rw [changed] at stored
        replace stored : (prepareReplay _ _ _ _).syncOutbox.get _ = some row := stored
        rw [prepareReplay_get, if_pos rfl] at stored
        obtain ⟨before, here, rfl⟩ := Option.map_eq_some_iff.mp stored
        exact ⟨before, here, fun _ => Nat.one_ne_zero⟩
    | manual table kept changed =>
        rw [changed] at stored
        replace stored : (markManualConflict _ _ _).syncOutbox.get _ = some row := stored
        rw [markManualConflict_get, if_pos rfl] at stored
        obtain ⟨before, here, rfl⟩ := Option.map_eq_some_iff.mp stored
        exact ⟨before, here, fun spent => spent⟩
  · rw [resolved.outbox_apart same] at stored
    exact ⟨row, stored, fun spent => spent⟩

theorem resolveConflict_replays (db : ProfileDb) (event : OutboxEvent)
    (current : Option FavoriteRecord) (now : Int) :
    ReplaysKept db (resolveConflict db event current now).1 := by
  unfold resolveConflict
  cases body : resolveConflictBody event current now db with
  | error reason =>
      rw [Transaction.atomically_of_error body]
      exact .refl db
  | ok pair =>
      obtain ⟨after, resolution⟩ := pair
      rw [Transaction.atomically_of_ok body]
      exact Resolved.replays (resolveConflictBody_ok body).2

theorem Pulled.replays {record : FavoriteRecord} {key : ContentKey} {now : Int}
    (pulled : Pulled db next record key now) : ReplaysKept db next := by
  intro coalesceKey row stored
  by_cases same : coalesceKey = .favorite key
  · subst same
    cases pulled with
    | written table idle kept changed =>
        rw [changed] at stored
        exact ⟨row, stored, fun spent => spent⟩
    | converged table old localValue pending found reached kept changed =>
        rw [changed] at stored
        dsimp only at stored
        rw [Table.get_delete_key, if_pos rfl] at stored
        cases stored
    | rebased table old localValue pending found apart kept changed =>
        rw [changed] at stored
        replace stored : (rebase _ _ _ _).syncOutbox.get _ = some row := stored
        rw [rebase_get, if_pos rfl] at stored
        obtain ⟨before, here, rfl⟩ := Option.map_eq_some_iff.mp stored
        exact ⟨before, here, fun spent => spent⟩
  · rw [pulled.outbox_apart same] at stored
    exact ⟨row, stored, fun spent => spent⟩

theorem markRetry_replays (db : ProfileDb) (events : List OutboxEvent) (nextRetryAt : Int)
    (error : String) (now : Int) :
    ReplaysKept db (markRetry db events nextRetryAt error now) := by
  intro coalesceKey row stored
  obtain ⟨old, here, like⟩ := markRetry_like db events nextRetryAt error now stored
  exact ⟨old, here, fun spent => by rw [like.replays]; exact spent⟩

theorem retryLater_replays (db : ProfileDb) (events : List OutboxEvent) (now : Int) :
    ReplaysKept db (Desktop.retryLater db events now).1 :=
  Desktop.retryLater_keeps (.refl db)
    (fun retryAt _ => markRetry_replays db events retryAt Desktop.serverUnavailable now)

end Kept

section Jobs

variable {db next : ProfileDb}

theorem applyRemotePage_replays (db : ProfileDb) (changes : List SyncChange) (nextRevision : Nat)
    (now : Int) : ReplaysKept db (applyRemotePage db changes nextRevision now).1 := by
  unfold applyRemotePage
  cases body : applyRemotePageBody changes nextRevision now db with
  | error reason =>
      rw [Transaction.atomically_of_error body]
      exact .refl db
  | ok pair =>
      obtain ⟨after, done⟩ := pair
      rw [Transaction.atomically_of_ok body]
      obtain ⟨last, looped, rfl⟩ := applyRemotePage_ok body
      exact applyRemoteLoop_induct (fun _ db last => ReplaysKept db last) .refl
        (fun change rest db middle last key _ _ pulled tail =>
          ReplaysKept.trans (Pulled.replays pulled) tail)
        changes db last _ _ looped

theorem pullPage_replays (db : ProfileDb) (reply : PageReply) (now : Int) :
    ReplaysKept db (Desktop.pullPage db reply now).1 := by
  unfold Desktop.pullPage
  split
  · split
    · exact .refl db
    · exact .refl db
  · rename_i page
    have replays := applyRemotePage_replays db page.changes page.nextRevision now
    split
    · rename_i outcome
      rw [outcome] at replays
      exact replays
    · rename_i outcome
      rw [outcome] at replays
      split
      · exact replays
      · split
        · exact replays
        · exact replays

theorem pullAll_kept {now : Int} : ∀ (replies : List PageReply) (db next : ProfileDb)
    (outcome : EngineResult Unit), pullAll now db replies = some (next, outcome) →
    ReplaysKept db next ∧ OutboxKept db next := by
  intro replies
  induction replies with
  | nil =>
      intro db next outcome returned
      cases returned
  | cons reply rest ih =>
      intro db next outcome returned
      have turn := And.intro (pullPage_replays db reply now) (pullPage_kept db reply now)
      unfold pullAll at returned
      split at returned
      · rename_i page
        cases returned
        rw [page] at turn
        exact turn
      · rename_i page
        cases returned
        rw [page] at turn
        exact turn
      · rename_i middle page
        rw [page] at turn
        obtain ⟨replays, rows⟩ := ih middle next outcome returned
        exact ⟨turn.1.trans replays, turn.2.trans rows⟩

omit [ContentTables] in
theorem settlePush_replays (db : ProfileDb) (events : List OutboxEvent) (sent : List PushEvent)
    (reply : Except SessionError PushResponse) (now : Int) :
    ReplaysKept db (settlePush db events sent reply now).1 := by
  unfold settlePush
  split
  · split
    · exact .refl db
    · rw [fromDatabase_fst]
      exact acknowledgeEvents_replays _ now db
  · split
    · exact .refl db
    · rw [fromDatabase_fst]
      exact resolveConflict_replays db _ _ now
  · split
    · exact retryLater_replays db events now
    · split
      · exact .refl db
      · exact .refl db

omit [ContentTables] in
theorem pushEvents_kept (db : ProfileDb) (events : List OutboxEvent) (answers : Answers) :
    ReplaysKept db (pushEvents db events answers).1 ∧
      OutboxKept db (pushEvents db events answers).1 := by
  unfold pushEvents
  split
  · exact ⟨.refl db, .refl db⟩
  · exact ⟨settlePush_replays db events _ answers.push answers.now,
      settlePush_kept db events _ answers.push answers.now⟩

theorem pullAndFinish_kept {pushBatch : Nat} {events : List OutboxEvent} {answers : Answers}
    {outcome : EngineResult SyncRunOutcome}
    (returned : pullAndFinish pushBatch db events answers = some (next, outcome)) :
    ReplaysKept db next ∧ OutboxKept db next := by
  unfold pullAndFinish at returned
  split at returned
  · cases returned
  · rename_i after reason pulled
    cases returned
    exact pullAll_kept answers.pages db next _ pulled
  · rename_i after done pulled
    cases returned
    exact pullAll_kept answers.pages db next _ pulled

theorem synchronizeOnce_kept {pushBatch : Nat} {answers : Answers}
    {outcome : EngineResult SyncRunOutcome}
    (returned : synchronizeOnce pushBatch db answers = some (next, outcome)) :
    ReplaysKept db next ∧ OutboxKept db next := by
  unfold synchronizeOnce at returned
  split at returned
  · cases returned
    exact ⟨.refl db, .refl db⟩
  · exact pullAndFinish_kept returned
  · rename_i events _ _
    have pushed := pushEvents_kept db events answers
    split at returned
    · rename_i settled
      cases returned
      rw [settled] at pushed
      exact pushed
    · rename_i settled
      rw [settled] at pushed
      obtain ⟨replays, rows⟩ := pullAndFinish_kept returned
      exact ⟨pushed.1.trans replays, pushed.2.trans rows⟩
    all_goals
      rename_i settled
      cases returned
      rw [settled] at pushed
      exact pushed

section Settled

variable {events : List OutboxEvent} {sent : List PushEvent}
  {reply : Except SessionError PushResponse} {now : Int}

omit [ContentTables]

theorem fromDatabase_ok {τ ρ : Type} {finish : τ → ρ} {outcome : ProfileDb × StorageResult τ}
    {result : ρ} (success : Desktop.fromDatabase finish outcome = (next, .ok result)) :
    ∃ value, outcome = (next, .ok value) ∧ finish value = result := by
  unfold Desktop.fromDatabase at success
  split at success
  · cases success
    exact ⟨_, rfl, rfl⟩
  · cases success

/-- A push after which the cycle goes on: acknowledged, or a conflict that converged. -/
theorem settlePush_proceed (settled : settlePush db events sent reply now = (next, .ok .proceed)) :
    (∃ acks items, Desktop.matchAcknowledgements events sent acks = .ok items ∧
      acknowledgeEvents db items now = (next, .ok ())) ∨
    ∃ conflict event, Desktop.conflictedEvent events conflict = some event ∧
      resolveConflict db event conflict.current now = (next, .ok .converged) := by
  unfold settlePush at settled
  split at settled
  · rename_i response
    split at settled
    · cases settled
    · rename_i items matched
      obtain ⟨⟨⟩, stored, -⟩ := fromDatabase_ok settled
      exact Or.inl ⟨_, items, matched, stored⟩
  · rename_i conflict
    split at settled
    · cases settled
    · rename_i event chosen
      obtain ⟨resolution, resolved, same⟩ := fromDatabase_ok settled
      cases resolution with
      | converged => exact Or.inr ⟨conflict, event, chosen, resolved⟩
      | replayPrepared => cases same
      | manualRetryRequired => cases same
  · split at settled
    · obtain ⟨retryAt, impossible⟩ := Desktop.retryLater_delays settled
      cases impossible
    · split at settled <;> cases settled

theorem settlePush_replay
    (settled : settlePush db events sent reply now = (next, .ok .replayPrepared)) :
    ∃ conflict event, reply = .error (.transport (.conflict conflict)) ∧
      Desktop.conflictedEvent events conflict = some event ∧
      resolveConflict db event conflict.current now = (next, .ok .replayPrepared) := by
  unfold settlePush at settled
  split at settled
  · split at settled
    · cases settled
    · obtain ⟨-, -, same⟩ := fromDatabase_ok settled
      cases same
  · rename_i conflict
    split at settled
    · cases settled
    · rename_i event chosen
      obtain ⟨resolution, resolved, same⟩ := fromDatabase_ok settled
      cases resolution with
      | converged => cases same
      | replayPrepared => exact ⟨conflict, event, rfl, chosen, resolved⟩
      | manualRetryRequired => cases same
  · split at settled
    · obtain ⟨retryAt, impossible⟩ := Desktop.retryLater_delays settled
      cases impossible
    · split at settled <;> cases settled

/-- The row of a converged event is gone. -/
theorem converged_gone {event : OutboxEvent} {current : Option FavoriteRecord}
    (resolved : resolveConflict db event current now = (next, .ok .converged)) :
    isFavoriteOperation event.operation = true ∧
      next.syncOutbox.get (.favorite event.contentKey) = none := by
  obtain ⟨favorite, moved⟩ := resolveConflictBody_ok (Transaction.ok_of_atomically resolved)
  refine ⟨favorite, ?_⟩
  cases moved with
  | converged record key localValue table answer keyed found reached kept changed =>
      rw [changed]
      dsimp only
      rw [Table.get_delete_key, if_pos rfl]

/-- The row of a replayed event had not been replayed before. -/
theorem replayed_spent {event : OutboxEvent} {current : Option FavoriteRecord}
    (resolved : resolveConflict db event current now = (next, .ok .replayPrepared)) :
    isFavoriteOperation event.operation = true ∧
      ∃ old, db.syncOutbox.get (.favorite event.contentKey) = some old ∧
        old.conflictReplayCount = 0 ∧
        ∀ row, next.syncOutbox.get (.favorite event.contentKey) = some row →
          row.conflictReplayCount ≠ 0 := by
  obtain ⟨favorite, moved⟩ := resolveConflictBody_ok (Transaction.ok_of_atomically resolved)
  refine ⟨favorite, ?_⟩
  cases moved with
  | replayed record old table answer pending first kept changed =>
      refine ⟨old, pending, first, fun row stored => ?_⟩
      rw [changed] at stored
      replace stored : (prepareReplay _ _ _ _).syncOutbox.get _ = some row := stored
      rw [prepareReplay_get, if_pos rfl] at stored
      obtain ⟨before, -, rfl⟩ := Option.map_eq_some_iff.mp stored
      exact Nat.one_ne_zero

/-- The row of an acknowledged event is gone. -/
theorem acknowledged_row_gone {items : List AcknowledgedEvent} {event : OutboxEvent}
    (stored : db.syncOutbox.get event.coalesceKey = some event.toOutboxRow)
    (listed : ∃ item ∈ items, item.event = event)
    (acknowledged : acknowledgeEvents db items now = (next, .ok ())) :
    next.syncOutbox.get event.coalesceKey = none := by
  obtain ⟨last, looped, rfl⟩ := acknowledgeBody_ok (Transaction.ok_of_atomically acknowledged)
  obtain ⟨kept, gone⟩ := acknowledgeLoop_rows looped
  obtain ⟨item, member, rfl⟩ := listed
  cases here : (synchronizedAt last now).syncOutbox.get item.event.coalesceKey with
  | none => rfl
  | some row =>
      obtain ⟨old, before, eventId, -⟩ := kept _ row here
      rw [stored] at before
      cases before
      exact absurd eventId (gone item member _ row here)

end Settled

section Turns

variable {pushBatch : Nat} {answers : Answers} {events : List OutboxEvent}

omit [ContentTables] in
theorem pushEvents_built {disposition : PushDisposition}
    (settled : pushEvents db events answers = (next, .ok disposition)) :
    ∃ sent, settlePush db events sent answers.push answers.now = (next, .ok disposition) := by
  unfold pushEvents at settled
  split at settled
  · cases settled
  · exact ⟨_, settled⟩

omit [ContentTables] in
/-- A push that lets the cycle go on, or prepares a replay, lowers what remains. -/
theorem pushEvents_spends {disposition : PushDisposition} (labelled : Labelled db)
    (read : readyOutboxEvents db answers.now pushBatch = .ok events) (filled : events ≠ [])
    (settled : pushEvents db events answers = (next, .ok disposition))
    (counted : disposition = .proceed ∨ disposition = .replayPrepared) :
    next.syncOutbox.total remaining < db.syncOutbox.total remaining := by
  obtain ⟨-, stored, -⟩ := readyOutboxEvents_ok read
  have kept := (pushEvents_kept db events answers).1
  rw [settled] at kept
  obtain ⟨sent, outcome⟩ := pushEvents_built settled
  rcases counted with rfl | rfl
  · rcases settlePush_proceed outcome with ⟨acks, items, matched, stores⟩ |
      ⟨conflict, event, chosen, resolved⟩
    · obtain ⟨event, member⟩ := List.exists_mem_of_ne_nil events filled
      have here := (stored event member).1
      have gone := acknowledged_row_gone here (matchAcknowledgements_covers matched event member)
        stores
      exact kept.total_lt here (by simp [gone])
    · obtain ⟨favorite, gone⟩ := converged_gone resolved
      have here := (stored event (conflictedEvent_mem chosen)).1
      rw [labelled.filed here favorite] at here
      exact kept.total_lt here (by simp [gone])
  · obtain ⟨conflict, event, -, chosen, resolved⟩ := settlePush_replay outcome
    obtain ⟨-, old, here, fresh, spent⟩ := replayed_spent resolved
    exact kept.total_lt here (fun row after => ⟨fresh, spent row after⟩)

/-- Every `WorkRemaining` lowers what remains. -/
theorem workTurn_spends (labelled : Labelled db)
    (worked : workTurn pushBatch db answers = some next) :
    next.syncOutbox.total remaining < db.syncOutbox.total remaining := by
  unfold workTurn at worked
  split at worked
  · rename_i after returned
    cases worked
    unfold synchronizeOnce at returned
    split at returned
    · cases returned
    · -- An empty batch is not a full one: the limit is positive.
      rename_i read
      have positive : pushBatch ≠ 0 := by
        intro zero
        simp [readyOutboxEvents, zero] at read
      unfold pullAndFinish at returned
      split at returned
      · cases returned
      · cases returned
      · rename_i pulled
        have idle : ¬ ([] : List OutboxEvent).length = pushBatch := fun same => positive same.symm
        rw [if_neg idle] at returned
        cases returned
    · rename_i events nonempty read
      have filled : events ≠ [] := fun none => nonempty none
      split at returned
      · cases returned
      · rename_i middle settled
        have spent := pushEvents_spends labelled read filled settled (Or.inl rfl)
        have later := Table.total_le (pullAndFinish_kept returned).1.weightAt
        omega
      · rename_i middle settled
        cases returned
        exact pushEvents_spends labelled read filled settled (Or.inr rfl)
      · cases returned
      · cases returned
      · cases returned
  · cases worked

theorem workTurn_labelled (labelled : Labelled db)
    (worked : workTurn pushBatch db answers = some next) : Labelled next := by
  unfold workTurn at worked
  split at worked
  · rename_i returned
    cases worked
    exact labelled.kept (synchronizeOnce_kept returned).2
  · cases worked

/-- Calls that all return `WorkRemaining` are at most what remained at first. -/
theorem workTurns_bounded : ∀ (cycles : List Answers) (db last : ProfileDb), Labelled db →
    Transition.run (workTurn pushBatch) db cycles = some last →
    cycles.length + last.syncOutbox.total remaining ≤ db.syncOutbox.total remaining := by
  intro cycles
  induction cycles with
  | nil =>
      intro db last _ reached
      cases reached
      simp
  | cons answers rest ih =>
      intro db last labelled reached
      unfold Transition.run at reached
      cases worked : workTurn pushBatch db answers with
      | none => simp [worked] at reached
      | some middle =>
          simp only [worked] at reached
          have spent := workTurn_spends labelled worked
          have later := ih middle last (workTurn_labelled labelled worked) reached
          rw [List.length_cons]
          omega

/-- The pending intent of the content, if any, was rebased before. -/
def Spent (key : ContentKey) (db : ProfileDb) : Prop :=
  ∀ row, db.syncOutbox.get (.favorite key) = some row → row.conflictReplayCount ≠ 0

omit [ContentTables] in
theorem Spent.kept {key : ContentKey} (spent : Spent key db) (kept : ReplaysKept db next) :
    Spent key next := by
  intro row stored
  obtain ⟨old, here, later⟩ := kept _ row stored
  exact later (spent old here)

omit [ContentTables] in
/-- One rebased content: not spent before, spent after the push. -/
theorem rebasedBy_some {key : ContentKey} (rebased : rebasedBy pushBatch db answers = some key) :
    ¬ Spent key db ∧ ∃ events, readyOutboxEvents db answers.now pushBatch = .ok events ∧
      events ≠ [] ∧ ∃ middle, pushEvents db events answers = (middle, .ok .replayPrepared) ∧
        Spent key middle := by
  unfold rebasedBy at rebased
  split at rebased
  · cases rebased
  · rename_i events read
    split at rebased
    · rename_i conflict replayed answered
      obtain ⟨event, chosen, rfl⟩ := Option.map_eq_some_iff.mp rebased
      have settled : pushEvents db events answers =
          ((pushEvents db events answers).1, .ok .replayPrepared) := Prod.ext rfl replayed
      obtain ⟨sent, outcome⟩ := pushEvents_built settled
      obtain ⟨other, found, same, picked, resolved⟩ := settlePush_replay outcome
      rw [answered] at same
      cases same
      rw [chosen] at picked
      cases picked
      obtain ⟨-, old, here, fresh, spent⟩ := replayed_spent resolved
      refine ⟨fun before => before old here fresh, events, read, ?_, _, settled, spent⟩
      rintro rfl
      have member := conflictedEvent_mem chosen
      simp at member
    · cases rebased

theorem synchronizeOnce_replayed {middle : ProfileDb}
    (read : readyOutboxEvents db answers.now pushBatch = .ok events) (filled : events ≠ [])
    (settled : pushEvents db events answers = (middle, .ok .replayPrepared)) :
    synchronizeOnce pushBatch db answers = some (middle, .ok .workRemaining) := by
  unfold synchronizeOnce
  rw [read]
  cases events with
  | nil => exact absurd rfl filled
  | cons event rest =>
      dsimp only
      rw [settled]

theorem spent_not_rebased {key : ContentKey} : ∀ (cycles : List Answers) (db : ProfileDb),
    Spent key db → key ∉ rebasings pushBatch db cycles := by
  intro cycles
  induction cycles with
  | nil => simp [rebasings]
  | cons answers rest ih =>
      intro db spent member
      unfold rebasings at member
      rcases List.mem_append.mp member with now | later
      · rw [Option.mem_toList] at now
        exact (rebasedBy_some now).1 spent
      · split at later
        · simp at later
        · rename_i next outcome returned
          exact ih next (spent.kept (synchronizeOnce_kept returned).1) later

/-- No content is rebased twice over repeated calls. -/
theorem rebasings_nodup : ∀ (cycles : List Answers) (db : ProfileDb),
    (rebasings pushBatch db cycles).Nodup := by
  intro cycles
  induction cycles with
  | nil => simp [rebasings]
  | cons answers rest ih =>
      intro db
      unfold rebasings
      cases rebased : rebasedBy pushBatch db answers with
      | none =>
          simp only [Option.toList_none, List.nil_append]
          split
          · exact List.nodup_nil
          · exact ih _
      | some key =>
          obtain ⟨-, events, read, filled, middle, settled, spent⟩ := rebasedBy_some rebased
          rw [synchronizeOnce_replayed read filled settled]
          simp only [Option.toList_some, List.singleton_append, List.nodup_cons]
          exact ⟨spent_not_rebased rest middle spent, ih middle⟩

end Turns

/-- Whatever happens to a profile, its rows stay filed under what they are about. -/
theorem clientStep_labelled {action : ClientAction} (labelled : Labelled db)
    (taken : clientStep db action = some next) : Labelled next := by
  have called : ∀ call : Call, Labelled (call.perform db) := fun call =>
    call.perform_keeps labelled (fun _ _ _ _ move => labelled.localMove move)
      (fun _ _ _ before move => before.localMove move)
  cases action with
  | call call =>
      have performed : call.perform db = next := by
        cases call with
        | query entry eventId =>
            simp only [clientStep] at taken
            split at taken
            · exact Option.some.inj taken
            · cases taken
        | favorite key now eventId => exact Option.some.inj taken
        | unfavorite key now eventId => exact Option.some.inj taken
        | importData document now eventIds => exact Option.some.inj taken
        | clearHistory => exact Option.some.inj taken
      rw [← performed]
      exact called call
  | acknowledge items now =>
      cases taken
      exact labelled.kept (acknowledgeEvents_rows items now db)
  | page changes nextRevision now =>
      cases taken
      exact labelled.kept (applyRemotePage_rows db changes nextRevision now)
  | resolve event current now =>
      cases taken
      exact labelled.kept (resolveConflict_rows db event current now)
  | retry events nextRetryAt error now =>
      cases taken
      exact labelled.kept (markRetry_rows db events nextRetryAt error now)
  | failed error now =>
      cases taken
      exact labelled

end Jobs

/-- From any profile that can be reached, whatever the server answers: in a row,
`WorkRemaining` is returned at most twice for each row, and over any number of calls no
content is rebased twice. -/
theorem replay_bounded (profileId : Uuid) (deviceId : String) (created : Int)
    (actions : List ClientAction) (db : ProfileDb)
    (reached : Transition.run clientStep (ProfileDb.initial profileId deviceId created) actions =
      some db) (pushBatch : Nat) (cycles : List Answers) :
    (∀ last, Transition.run (workTurn pushBatch) db cycles = some last →
      cycles.length ≤ 2 * db.syncOutbox.rows.length) ∧
    (rebasings pushBatch db cycles).Nodup := by
  have labelled : Labelled db := Transition.run_keeps
    (fun _ _ _ before taken => clientStep_labelled before taken)
    (IdentityInv.initial profileId deviceId created).labelled reached
  refine ⟨fun last worked => ?_, rebasings_nodup cycles db⟩
  have spent := workTurns_bounded cycles db last labelled worked
  have most : db.syncOutbox.total remaining ≤ 2 * db.syncOutbox.rows.length :=
    Table.total_le_length (fun row => by unfold remaining; split <;> omega) _
  omega

end Cycles

section Runs

attribute [local instance] Sample.tables

/-- The favorited word, refused once and then acknowledged. -/
def conflictThenAck : List Answers :=
  [⟨102, .error (.transport (.conflict
      ⟨some (Sample.eventId 2).text, some { giftRecord with entityRevision := 4 }, 4⟩)), []⟩,
    ⟨103, .ok ⟨[⟨(Sample.eventId 2).text, .applied, some 5, 5, none⟩], 5⟩,
      [.ok ⟨[], 0, 0, false⟩]⟩]

/-- One row and batches of one: both bounds are met. -/
theorem replay_bounded_gift :
    ∃ db last,
      Transition.run clientStep deskProfile
        [.call (.query (Sample.gift 100) (Sample.eventId 1)),
          .call (.favorite Sample.giftKey 101 (Sample.eventId 2))] = some db ∧
      db.syncOutbox.rows.length = 1 ∧
      Transition.run (workTurn 1) db conflictThenAck = some last ∧
      conflictThenAck.length ≤ 2 * db.syncOutbox.rows.length ∧
      rebasings 1 db conflictThenAck = [Sample.giftKey] ∧
      (rebasings 1 db conflictThenAck).Nodup := by
  have facts : (Transition.run clientStep deskProfile
      [.call (.query (Sample.gift 100) (Sample.eventId 1)),
        .call (.favorite Sample.giftKey 101 (Sample.eventId 2))]).any (fun db =>
      db.syncOutbox.rows.length = 1 &&
        (Transition.run (workTurn 1) db conflictThenAck).isSome &&
        rebasings 1 db conflictThenAck = [Sample.giftKey]) = true := by
    decide +kernel
  obtain ⟨db, ran, holds⟩ := (Option.any_eq_true _ _).mp facts
  simp only [Bool.and_eq_true, decide_eq_true_eq] at holds
  obtain ⟨⟨single, worked⟩, listed⟩ := holds
  obtain ⟨last, reached⟩ := Option.isSome_iff_exists.mp worked
  have bounds := replay_bounded (Sample.eventId 0) "desk" 50 _ db ran 1 conflictThenAck
  exact ⟨db, last, ran, single, reached, bounds.1 last reached, listed, bounds.2⟩

end Runs

end Lvos.System
