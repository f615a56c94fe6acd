import Lvos.Storage.Draft
import Lvos.System.Agreement
import Lvos.System.Validators
import Mathlib.Data.Fintype.Basic

set_option autoImplicit false

namespace Lvos.System

open Lvos.Core Lvos.Sync Lvos.Storage
open Lvos.Server (ServerDb ServerInv EventFingerprint UuidParser ApiResult Stored Seen Versioned)

/-- The events a worker has sent and not settled, each with what it was sent as. -/
def Worker.exchange : Worker → List (OutboxEvent × PushEvent)
  | .pushing events request => events.zip request
  | .answered events request _ => events.zip request
  | _ => []

variable {φ ι : Type}

/-- The server has processed the event. -/
def isProcessed (server : ServerDb φ) (userId : String) (eventId : Uuid) : Bool :=
  (server.processedSyncEvents.get (userId, eventId.text)).isSome

/-- A query of a content whose pending Favorite event the server has processed is
made while that event is in an exchange. -/
def queriesSettled (server : ServerDb φ) (userId : String) (device : Device) (key : ContentKey) :
    Bool :=
  (device.profile.syncOutbox.get (.favorite key)).all (fun row =>
    !isProcessed server userId row.eventId ||
      device.worker.exchange.any (fun pair => pair.1.eventId = row.eventId))

/-- A processed event of the exchange that the end of the exchange leaves pending
has the base and the counts it was sent with. -/
def leavesAlike (server : ServerDb φ) (userId : String) (device : Device) (next : ProfileDb) :
    Bool :=
  device.worker.exchange.all (fun pair =>
    !isProcessed server userId pair.1.eventId ||
      (next.syncOutbox.get pair.1.coalesceKey).all (fun row =>
        row.eventId ≠ pair.1.eventId || stamp pair.2 = rowStamp next row))

/-- A page gives no other base to a processed event that is still pending. -/
def rebasesNone (server : ServerDb φ) (userId : String) (db next : ProfileDb) : Bool :=
  next.syncOutbox.rows.all (fun entry =>
    !isProcessed server userId entry.2.eventId ||
      (db.syncOutbox.get entry.1).all (fun old =>
        entry.2.baseEntityRevision = old.baseEntityRevision))

/-- A late request processes an event only with the base and the counts its pending
row has, or the exchange that is going on sent it with. -/
def arrivesAlike (server : ServerDb φ) (userId : String) (device : Device)
    (request : List PushEvent) : Bool :=
  request.all (fun sent =>
    (server.processedSyncEvents.get (userId, sent.eventId)).isSome ||
      device.profile.syncOutbox.rows.all (fun entry =>
        entry.2.eventId.text ≠ sent.eventId ||
          match device.worker.exchange.find? (fun pair => pair.1.eventId = entry.2.eventId) with
          | some pair => stamp sent = stamp pair.2
          | none => stamp sent = rowStamp device.profile entry.2))

/-- The condition on one step under which retries stay recognised. -/
def keepsEvents [ContentTables] (account : Account) (world : World φ ι) : Action ι → Prop
  | .call device (.query entry _) =>
      queriesSettled world.server account.userId (world.devices device) entry.content.contentKey
  | .work device (.receive now) =>
      match (world.devices device).worker with
      | .answered events request reply =>
          leavesAlike world.server account.userId (world.devices device)
            (settleReply (world.devices device).profile events request reply now)
      | _ => True
  | .work device (.lose _) | .work device .abandon =>
      leavesAlike world.server account.userId (world.devices device)
        (world.devices device).profile
  | .work device (.applyPage now) =>
      match (world.devices device).worker with
      | .pulled page =>
          rebasesNone world.server account.userId (world.devices device).profile
            (applyRemotePage (world.devices device).profile page.changes page.nextRevision now).1
      | _ => True
  | .latePush _ request _ =>
      ∀ device, arrivesAlike world.server account.userId (world.devices device) request
  | _ => True

instance keepsEvents.decidable [ContentTables] [Fintype ι] (account : Account)
    (world : World φ ι) : ∀ action, Decidable (keepsEvents account world action)
  | .call device (.query entry _) => inferInstanceAs (Decidable
      (queriesSettled world.server account.userId (world.devices device)
        entry.content.contentKey = true))
  | .call _ (.favorite _ _ _) | .call _ (.unfavorite _ _ _) | .call _ (.importData _ _ _)
  | .call _ .clearHistory => isTrue trivial
  | .work device (.receive now) =>
      match waiting : (world.devices device).worker with
      | .answered events request reply => decidable_of_iff
          (leavesAlike world.server account.userId (world.devices device)
            (settleReply (world.devices device).profile events request reply now) = true)
          (by simp [keepsEvents, waiting])
      | .idle | .batched _ | .pushing _ _ | .pulled _ => isTrue (by simp [keepsEvents, waiting])
  | .work device (.lose _) | .work device .abandon => inferInstanceAs (Decidable
      (leavesAlike world.server account.userId (world.devices device)
        (world.devices device).profile = true))
  | .work device (.applyPage now) =>
      match waiting : (world.devices device).worker with
      | .pulled page => decidable_of_iff
          (rebasesNone world.server account.userId (world.devices device).profile
            (applyRemotePage (world.devices device).profile page.changes page.nextRevision
              now).1 = true) (by simp [keepsEvents, waiting])
      | .idle | .batched _ | .pushing _ _ | .answered _ _ _ =>
          isTrue (by simp [keepsEvents, waiting])
  | .work _ (.readBatch _ _) | .work _ .buildBatch | .work _ (.serverPush _)
  | .work _ (.requestChanges _) => isTrue trivial
  | .latePush _ request _ => inferInstanceAs (Decidable (∀ device,
      arrivesAlike world.server account.userId (world.devices device) request = true))
  | .patch _ _ _ _ => isTrue trivial

/-- Every push of a pending row whose event the server has processed is answered with
the stored acknowledgement, and what `push_event` builds from such a row is the event
the server processed. -/
structure RetriesRecognised [DecidableEq φ] [EventFingerprint φ] [ContentTables] [UuidParser]
    (account : Account) (world : World φ ι) (device : ι) : Prop where
  answered : ∀ events request, (world.devices device).worker = .pushing events request →
    ∀ early sent late, request = early ++ sent :: late → ∀ coalesceKey row,
    (world.devices device).profile.syncOutbox.get coalesceKey = some row →
    sent.eventId = row.eventId.text → Seen world.server account.userId sent.eventId →
    ∃ ack, Stored world.server account.userId sent ack ∧ Server.validateEvent sent = .ok () ∧
      ∀ deviceId now middle acks changed,
        Server.pushLoop account.userId deviceId now early world.server =
          .ok (middle, acks, changed) →
        Server.pushEvent middle account.userId deviceId sent now = .ok (middle, ⟨ack, none⟩)
  rebuilt : ∀ coalesceKey row,
    (world.devices device).profile.syncOutbox.get coalesceKey = some row →
    (∀ pair ∈ (world.devices device).worker.exchange, pair.1.eventId ≠ row.eventId) →
    ∀ sent ack, Stored world.server account.userId sent ack → sent.eventId = row.eventId.text →
    ∀ again, Storage.pushEvent (world.devices device).profile ⟨row, coalesceKey⟩ = .ok again →
      again = sent

section Device

variable [EventFingerprint φ]

/-- What holds of a Device when every event the server has processed is rebuilt as it
was: `settled` for the rows no exchange carries, `exchanged` for the others, and no
row that replaced an event of the exchange was ever sent. -/
structure Rebuilds (server : ServerDb φ) (userId : String)
    (abandoned : List (String × List PushEvent)) (device : Device) : Prop where
  alike : ∀ coalesceKey row, device.profile.syncOutbox.get coalesceKey = some row → ∀ sent,
    (sent ∈ device.worker.exchange.map Prod.snd ∨ (∃ pair ∈ abandoned, sent ∈ pair.2) ∨
      ∃ ack, Stored server userId sent ack) → sent.eventId = row.eventId.text →
    bare sent = bare (draft device.profile row)
  settled : ∀ coalesceKey row, device.profile.syncOutbox.get coalesceKey = some row →
    (∀ pair ∈ device.worker.exchange, pair.1.eventId ≠ row.eventId) → ∀ sent ack,
    Stored server userId sent ack → sent.eventId = row.eventId.text →
    stamp sent = rowStamp device.profile row
  exchanged : ∀ pair ∈ device.worker.exchange, ∀ row,
    device.profile.syncOutbox.get pair.1.coalesceKey = some row →
    row.eventId = pair.1.eventId → ∀ sent ack, Stored server userId sent ack →
    sent.eventId = row.eventId.text → stamp sent = stamp pair.2
  newer : ∀ event ∈ device.worker.events, ∀ row,
    device.profile.syncOutbox.get event.coalesceKey = some row → row.eventId ≠ event.eventId →
    ¬ Seen server userId row.eventId.text ∧
      ∀ pair ∈ abandoned, ∀ sent ∈ pair.2, sent.eventId ≠ row.eventId.text
  versions : Versions device.profile
  own : OwnStats device.profile
  refusals : ∀ events request conflict,
    device.worker = .answered events request (.error (.conflict conflict)) → ∀ record,
    conflict.current = some record → record.keyVersion = contentKeyVersion

variable {server later : ServerDb φ} {userId : String} {issued : List Uuid}
  {abandoned : List (String × List PushEvent)} {device : Device}

omit [EventFingerprint φ] in
/-- Which row an event of the exchange is about. -/
theorem exchange_faithful
    (linked : WorkerInv server userId issued device.profile device.worker)
    {pair : OutboxEvent × PushEvent} (member : pair ∈ device.worker.exchange) :
    pair.1 ∈ device.worker.events ∧ Held issued device.profile pair.1 ∧
      Faithful device.profile pair.1 pair.2 := by
  cases worker : device.worker with
  | idle => simp [worker, Worker.exchange] at member
  | batched events => simp [worker, Worker.exchange] at member
  | pulled page => simp [worker, Worker.exchange] at member
  | pushing events request =>
      rw [worker] at linked member
      have inside := List.of_mem_zip (show (pair.1, pair.2) ∈ events.zip request from member)
      exact ⟨inside.1, linked.batch.held _ inside.1, Forall₂.mem_zip linked.pairs pair member⟩
  | answered events request reply =>
      rw [worker] at linked member
      have inside := List.of_mem_zip (show (pair.1, pair.2) ∈ events.zip request from member)
      exact ⟨inside.1, linked.1.batch.held _ inside.1, Forall₂.mem_zip linked.1.pairs pair member⟩

omit [EventFingerprint φ] in
theorem leavesAlike_stamp {next : ProfileDb} (alike : leavesAlike server userId device next = true)
    {pair : OutboxEvent × PushEvent} (member : pair ∈ device.worker.exchange)
    (seen : Seen server userId pair.1.eventId.text) {row : OutboxRow}
    (stored : next.syncOutbox.get pair.1.coalesceKey = some row)
    (same : row.eventId = pair.1.eventId) : stamp pair.2 = rowStamp next row := by
  have here := List.all_eq_true.mp alike pair member
  rw [stored, show isProcessed server userId pair.1.eventId = true from seen] at here
  simpa [same] using here

/-- The worker lets go of its exchange over a profile that keeps the intents. -/
theorem Rebuilds.idle (rebuilds : Rebuilds server userId abandoned device)
    (linked : WorkerInv server userId issued device.profile device.worker) {next : ProfileDb}
    (left : List (String × List PushEvent)) (kept : KeepsIntents device.profile next)
    (behind : ∀ pair ∈ left, ∀ sent ∈ pair.2, sent ∈ device.worker.exchange.map Prod.snd)
    (inside : leavesAlike server userId device next = true)
    (outside : ∀ coalesceKey row old, next.syncOutbox.get coalesceKey = some row →
      device.profile.syncOutbox.get coalesceKey = some old → row.eventId = old.eventId →
      Seen server userId row.eventId.text →
      (∀ pair ∈ device.worker.exchange, pair.1.eventId ≠ row.eventId) →
      row.baseEntityRevision = old.baseEntityRevision)
    (versions : Versions next)
    (deviceId : next.profileMeta.deviceId = device.profile.profileMeta.deviceId) :
    Rebuilds server userId (left ++ abandoned) ⟨next, .idle⟩ where
  alike := by
    intro coalesceKey row stored sent known named
    obtain ⟨old, here, eventId, -, same⟩ := kept.2 coalesceKey row stored
    rw [same]
    refine rebuilds.alike coalesceKey old here sent ?_ (by rw [named, eventId])
    rcases known with impossible | ⟨pair, member, asked⟩ | answered
    · cases impossible
    · rcases List.mem_append.mp member with new | before
      · exact Or.inl (behind pair new sent asked)
      · exact Or.inr (Or.inl ⟨pair, before, asked⟩)
    · exact Or.inr (Or.inr answered)
  settled := by
    intro coalesceKey row stored _ sent ack answered named
    obtain ⟨old, here, eventId, contentKey, -⟩ := kept.2 coalesceKey row stored
    have seen : Seen server userId row.eventId.text := named ▸ answered.seen
    by_cases carried : ∃ pair ∈ device.worker.exchange, pair.1.eventId = row.eventId
    · obtain ⟨pair, member, sameId⟩ := carried
      have held := (exchange_faithful linked member).2.1
      have keyed := (held.owner coalesceKey old here (by rw [← eventId, sameId])).1
      subst keyed
      rw [rebuilds.exchanged pair member old here (by rw [← eventId, sameId]) sent ack answered
        (by rw [named, eventId])]
      exact leavesAlike_stamp inside member (by rw [sameId]; exact seen) stored sameId.symm
    · have apart : ∀ pair ∈ device.worker.exchange, pair.1.eventId ≠ row.eventId :=
        fun pair member same => carried ⟨pair, member, same⟩
      rw [kept.rowStamp contentKey (outside coalesceKey row old stored here eventId seen apart)]
      exact rebuilds.settled coalesceKey old here (by rw [← eventId]; exact apart) sent ack answered
        (by rw [named, eventId])
  exchanged := by
    intro pair impossible
    cases impossible
  newer := by
    intro event impossible
    cases impossible
  versions := versions
  own := rebuilds.own.kept (fun coalesceKey row stored =>
    (kept.2 coalesceKey row stored).imp (fun _ facts => facts.1)) deviceId
  refusals := by
    intro events request conflict impossible
    cases impossible

/-- The worker takes up events or a page, and has nothing under way. -/
theorem Rebuilds.batched (rebuilds : Rebuilds server userId abandoned device) {worker : Worker}
    (before : device.worker.exchange = []) (after : worker.exchange = [])
    (current : ∀ event ∈ worker.events, ∀ row,
      device.profile.syncOutbox.get event.coalesceKey = some row → row.eventId ≠ event.eventId →
      ¬ Seen server userId row.eventId.text ∧
        ∀ pair ∈ abandoned, ∀ sent ∈ pair.2, sent.eventId ≠ row.eventId.text)
    (open' : ∀ events request reply, worker ≠ .answered events request reply) :
    Rebuilds server userId abandoned ⟨device.profile, worker⟩ where
  alike := by
    rw [after]
    rw [← before]
    exact rebuilds.alike
  settled := by
    rw [after]
    rw [← before]
    exact rebuilds.settled
  exchanged := by
    intro pair member
    rw [after] at member
    cases member
  newer := current
  versions := rebuilds.versions
  own := rebuilds.own
  refusals := fun events request conflict same => absurd same (open' events request _)

/-- What `push_event` builds from a row that still has the event's id. -/
theorem pushEvent_draft {db : ProfileDb} {event : OutboxEvent} {sent : PushEvent} {row : OutboxRow}
    (shape : Shape issued db) (versions : Versions db) (held : Held issued db event)
    (stored : db.syncOutbox.get event.coalesceKey = some row) (same : row.eventId = event.eventId)
    (success : Storage.pushEvent db event = .ok sent) : sent = draft db row := by
  have faithful := faithful_of_built shape held success
  obtain ⟨found, snapshot, looked, rendered, -, rfl⟩ := pushEvent_ok success
  have operation := (held.owner _ row stored same).2
  have version : (found.map (fun value => value.content.keyVersion)).getD contentKeyVersion =
      contentKeyVersion := by
    rcases favoriteTx_ok looked with ⟨-, rfl⟩ | ⟨favorite, parsed, here, reading, rfl⟩
    · rfl
    · show parsed.content.keyVersion = contentKeyVersion
      rw [(readFavorite_ok reading).2.2.1]
      exact versions.favorites _ favorite here
  have row_eq : row.contentKey = event.contentKey ∧
      row.baseEntityRevision = event.baseEntityRevision := by
    cases kind : isFavoriteOperation event.operation with
    | true =>
        obtain ⟨keyed, base⟩ := held.favorite kind
        rw [keyed] at stored
        have pending := shape.favorites event.contentKey row stored
        exact ⟨pending.contentKey, by rw [pending.base, base]⟩
    | false =>
        obtain ⟨deviceId, keyed⟩ := held.stats kind
        rw [keyed] at stored
        have pending := shape.stats deviceId event.contentKey row stored
        exact ⟨pending.contentKey, by rw [pending.base, held.baseless kind]⟩
  unfold draft
  rw [version, same, operation, row_eq.1, row_eq.2]
  congr 1
  cases kind : event.operation with
  | favoriteUpsert =>
      have keyed := (held.favorite (by rw [kind]; rfl)).1
      rw [keyed] at stored
      obtain ⟨value, here, -, asked⟩ := faithful.still row stored same kind
      rw [here]
      exact asked
  | favoriteDelete =>
      rw [kind] at rendered
      exact (Except.ok.inj rendered).symm
  | queryStatsUpsert =>
      rw [kind] at rendered
      exact (Except.ok.inj rendered).symm

/-- A request is built from a batch: each event of it is the row as it stands. -/
theorem Rebuilds.pushing (rebuilds : Rebuilds server userId abandoned device)
    (shape : Shape issued device.profile) {events : List OutboxEvent}
    {request : List PushEvent} (waiting : device.worker = .batched events)
    (batch : Batch issued device.profile events)
    (built : Desktop.buildEvents device.profile events = .ok request) :
    Rebuilds server userId abandoned ⟨device.profile, .pushing events request⟩ := by
  have none : device.worker.exchange = [] := by rw [waiting]; rfl
  have drafts : ∀ pair ∈ events.zip request, ∀ row,
      device.profile.syncOutbox.get pair.1.coalesceKey = some row →
      row.eventId = pair.1.eventId → pair.2 = draft device.profile row := by
    intro pair member row stored same
    have inside := List.of_mem_zip (show (pair.1, pair.2) ∈ events.zip request from member)
    exact pushEvent_draft shape rebuilds.versions (batch.held _ inside.1) stored same
      (Forall₂.mem_zip (buildEvents_ok events request built) pair member)
  refine ⟨?_, ?_, ?_, ?_, rebuilds.versions, rebuilds.own, ?_⟩
  · intro coalesceKey row stored sent known named
    rcases known with mine | others
    · obtain ⟨pair, member, rfl⟩ := List.mem_map.mp mine
      have inside := List.of_mem_zip (show (pair.1, pair.2) ∈ events.zip request from member)
      have faithful := faithful_of_built shape (batch.held _ inside.1)
        (Forall₂.mem_zip (buildEvents_ok events request built) pair member)
      have same : row.eventId = pair.1.eventId :=
        Uuid.text_injective (named.symm.trans faithful.eventId)
      have keyed := ((batch.held _ inside.1).owner coalesceKey row stored same).1
      rw [keyed] at stored
      rw [drafts pair member row stored same]
    · exact rebuilds.alike coalesceKey row stored sent (Or.inr others) named
  · intro coalesceKey row stored _ sent ack answered named
    refine rebuilds.settled coalesceKey row stored ?_ sent ack answered named
    simp [none]
  · intro pair member row stored same sent ack answered named
    rw [drafts pair member row stored same, stamp_draft]
    refine rebuilds.settled _ row stored ?_ sent ack answered named
    simp [none]
  · intro event member row stored apart
    refine rebuilds.newer event ?_ row stored apart
    rw [waiting]
    exact member
  · intro events request conflict impossible
    cases impossible

/-- The answer of the server is taken up. -/
theorem Rebuilds.answered (rebuilds : Rebuilds server userId abandoned device)
    {events : List OutboxEvent} {request : List PushEvent} {reply : ApiResult PushResponse}
    (waiting : device.worker = .pushing events request)
    (current : ∀ conflict, reply = .error (.conflict conflict) → ∀ record,
      conflict.current = some record → record.keyVersion = contentKeyVersion) :
    Rebuilds server userId abandoned ⟨device.profile, .answered events request reply⟩ := by
  obtain ⟨alike, settled, exchanged, newer, versions, own, -⟩ := rebuilds
  rw [waiting] at alike settled exchanged newer
  refine ⟨alike, settled, exchanged, newer, versions, own, ?_⟩
  intro _ _ conflict same
  cases same
  exact current conflict rfl

/-- One write of the user. Only a query moves a stamp, and only that of the pending
Favorite intent of its content. -/
theorem Rebuilds.localMove (rebuilds : Rebuilds server userId abandoned device)
    {more : List Uuid} {input : Input} {next : ProfileDb} (shape : Shape more device.profile)
    (known : ∀ sent, (sent ∈ device.worker.exchange.map Prod.snd ∨
      (∃ pair ∈ abandoned, sent ∈ pair.2) ∨ ∃ ack, Stored server userId sent ack) →
      ∃ uuid ∈ issued, sent.eventId = uuid.text)
    (seen : ∀ id, Seen server userId id → ∃ uuid ∈ issued, id = uuid.text)
    (new : ∀ id, input.fresh id → id ∉ issued) (move : LocalMove input device.profile next)
    (asked : ∀ entry, input.queried entry → ∀ row,
      device.profile.syncOutbox.get (.favorite entry.content.contentKey) = some row →
      Seen server userId row.eventId.text →
      ∃ pair ∈ device.worker.exchange, pair.1.eventId = row.eventId)
    (versions : Versions next) :
    Rebuilds server userId abandoned ⟨next, device.worker⟩ := by
  have old : ∀ (row : OutboxRow) (sent : PushEvent),
      (sent ∈ device.worker.exchange.map Prod.snd ∨
        (∃ pair ∈ abandoned, sent ∈ pair.2) ∨ ∃ ack, Stored server userId sent ack) →
      sent.eventId = row.eventId.text → ¬ input.fresh row.eventId := by
    intro row sent listed named brought
    obtain ⟨uuid, member, same⟩ := known sent listed
    rw [named] at same
    exact new _ brought (Uuid.text_injective same ▸ member)
  refine ⟨?_, ?_, ?_, ?_, versions, rebuilds.own.localMove move, rebuilds.refusals⟩
  · intro coalesceKey row stored sent listed named
    obtain ⟨here, same⟩ := move.intent shape stored (old row sent listed named)
    rw [same]
    exact rebuilds.alike coalesceKey row here sent listed named
  · intro coalesceKey row stored apart sent ack answered named
    have aged := old row sent (Or.inr (Or.inr ⟨ack, answered⟩)) named
    obtain ⟨here, -⟩ := move.intent shape stored aged
    have counts := move.sentStats shape rebuilds.own stored here aged (by
      rintro entry queried rfl
      obtain ⟨pair, member, same⟩ := asked entry queried row here (named ▸ answered.seen)
      exact apart pair member same)
    rw [rebuilds.settled coalesceKey row here apart sent ack answered named]
    unfold rowStamp
    rw [counts]
  · intro pair member row stored same sent ack answered named
    have aged := old row sent (Or.inr (Or.inr ⟨ack, answered⟩)) named
    obtain ⟨here, -⟩ := move.intent shape stored aged
    exact rebuilds.exchanged pair member row here same sent ack answered named
  · intro event member row stored apart
    rcases move.row stored with here | ⟨brought, -⟩
    · exact rebuilds.newer event member row here apart
    · refine ⟨fun there => ?_, fun pair listed sent asked named => ?_⟩
      · obtain ⟨uuid, inside, same⟩ := seen _ there
        exact new _ brought (Uuid.text_injective same ▸ inside)
      · exact old row sent (Or.inr (Or.inl ⟨pair, listed, asked⟩)) named brought

/-- The server processes a request, whoever sent it. -/
theorem Rebuilds.served (rebuilds : Rebuilds server userId abandoned device)
    {request : List PushEvent} {rest : List (String × List PushEvent)}
    (origin : ∀ sent ack, Stored later userId sent ack → Stored server userId sent ack ∨
      (sent ∈ request ∧ ¬ Seen server userId sent.eventId))
    (seen : ∀ id, Seen later userId id → Seen server userId id ∨
      id ∈ request.map PushEvent.eventId)
    (fewer : ∀ pair ∈ rest, pair ∈ abandoned)
    (alike : ∀ coalesceKey row, device.profile.syncOutbox.get coalesceKey = some row →
      ∀ sent ∈ request, sent.eventId = row.eventId.text →
      bare sent = bare (draft device.profile row))
    (settled : ∀ coalesceKey row, device.profile.syncOutbox.get coalesceKey = some row →
      (∀ pair ∈ device.worker.exchange, pair.1.eventId ≠ row.eventId) → ∀ sent ∈ request,
      ¬ Seen server userId sent.eventId → sent.eventId = row.eventId.text →
      stamp sent = rowStamp device.profile row)
    (exchanged : ∀ pair ∈ device.worker.exchange, ∀ row,
      device.profile.syncOutbox.get pair.1.coalesceKey = some row →
      row.eventId = pair.1.eventId → ∀ sent ∈ request, ¬ Seen server userId sent.eventId →
      sent.eventId = row.eventId.text → stamp sent = stamp pair.2)
    (newer : ∀ event ∈ device.worker.events, ∀ row,
      device.profile.syncOutbox.get event.coalesceKey = some row →
      row.eventId ≠ event.eventId → ∀ sent ∈ request, sent.eventId ≠ row.eventId.text) :
    Rebuilds later userId rest device := by
  refine ⟨?_, ?_, ?_, ?_, rebuilds.versions, rebuilds.own, rebuilds.refusals⟩
  · intro coalesceKey row stored sent known named
    rcases known with mine | ⟨pair, member, asked⟩ | ⟨ack, answered⟩
    · exact rebuilds.alike coalesceKey row stored sent (Or.inl mine) named
    · exact rebuilds.alike coalesceKey row stored sent
        (Or.inr (Or.inl ⟨pair, fewer pair member, asked⟩)) named
    · rcases origin sent ack answered with before | ⟨asked, -⟩
      · exact rebuilds.alike coalesceKey row stored sent (Or.inr (Or.inr ⟨ack, before⟩)) named
      · exact alike coalesceKey row stored sent asked named
  · intro coalesceKey row stored apart sent ack answered named
    rcases origin sent ack answered with before | ⟨asked, unseen⟩
    · exact rebuilds.settled coalesceKey row stored apart sent ack before named
    · exact settled coalesceKey row stored apart sent asked unseen named
  · intro pair member row stored same sent ack answered named
    rcases origin sent ack answered with before | ⟨asked, unseen⟩
    · exact rebuilds.exchanged pair member row stored same sent ack before named
    · exact exchanged pair member row stored same sent asked unseen named
  · intro event member row stored apart
    obtain ⟨unseen, unsent⟩ := rebuilds.newer event member row stored apart
    refine ⟨fun there => ?_, fun pair listed => unsent pair (fewer pair listed)⟩
    rcases seen _ there with before | asked
    · exact unseen before
    · obtain ⟨sent, inside, named⟩ := List.mem_map.mp asked
      exact newer event member row stored apart sent inside named

/-- The worker lets go of its exchange and the profile stays as it is. -/
theorem Rebuilds.release (rebuilds : Rebuilds server userId abandoned device)
    (linked : WorkerInv server userId issued device.profile device.worker)
    (left : List (String × List PushEvent))
    (behind : ∀ pair ∈ left, ∀ sent ∈ pair.2, sent ∈ device.worker.exchange.map Prod.snd)
    (alike : leavesAlike server userId device device.profile = true) :
    Rebuilds server userId (left ++ abandoned) ⟨device.profile, .idle⟩ := by
  refine rebuilds.idle linked left (.refl _) behind alike ?_ rebuilds.versions rfl
  intro coalesceKey row old stored here _ _ _
  rw [stored] at here
  cases here
  rfl

section Settle

variable {events : List OutboxEvent} {request : List PushEvent} {now : Int}

/-- An acknowledged batch: the newer intents it rebases were never sent. -/
theorem Rebuilds.acknowledge (rebuilds : Rebuilds server userId abandoned device)
    {response : PushResponse} {items : List AcknowledgedEvent}
    (shape : Shape issued device.profile)
    (waiting : device.worker = .answered events request (.ok response))
    (linked : WorkerInv server userId issued device.profile device.worker)
    (matched : Desktop.matchAcknowledgements events request response.acknowledgements = .ok items)
    (alike : leavesAlike server userId device
      (acknowledgeEvents device.profile items now).1 = true) :
    Rebuilds server userId abandoned ⟨(acknowledgeEvents device.profile items now).1, .idle⟩ := by
  unfold acknowledgeEvents at alike ⊢
  cases body : acknowledgeBody items now device.profile with
  | error reason =>
      rw [Transaction.atomically_of_error body] at alike ⊢
      exact rebuilds.release linked [] (by simp) alike
  | ok pair =>
      obtain ⟨after, done⟩ := pair
      rw [Transaction.atomically_of_ok body] at alike ⊢
      obtain ⟨last, looped, rfl⟩ := acknowledgeBody_ok body
      obtain ⟨kept, bases⟩ := acknowledgeLoop_intents shape looped
      obtain ⟨versions, profileMeta⟩ := rebuilds.versions.acknowledgeLoop looped
      have deviceId : last.profileMeta.deviceId = device.profile.profileMeta.deviceId := by
        rw [profileMeta]
      have answers := linked
      rw [waiting] at answers
      obtain ⟨ready, -⟩ := answers.1.acknowledgeable shape (answers.2.1 response rfl) matched
      refine rebuilds.idle linked [] kept (by simp) alike ?_
        ⟨versions.favorites, versions.history⟩ deviceId
      intro coalesceKey row old stored here sameId seen _
      rcases bases coalesceKey row old stored here with same | ⟨item, member, named, keyed, apart⟩
      · exact same
      · obtain ⟨pair, listed, event, -⟩ :=
          Transaction.related_of_mem_right (matchAcknowledgements_ok matched) item member
        have favorite : isFavoriteOperation item.event.operation = true := by
          cases kind : isFavoriteOperation item.event.operation with
          | true => rfl
          | false =>
              rw [((ready item member).stats kind).1] at named
              cases named
        have owner := ((ready item member).favorite favorite).1
        have among : item.event ∈ device.worker.events := by
          rw [waiting, event]
          exact (List.of_mem_zip (show (pair.1, pair.2) ∈ _ from listed)).1
        rw [keyed, ← owner] at here
        rw [sameId] at seen
        exact absurd seen (rebuilds.newer item.event among old here apart).1

/-- A refused batch: the row of the refused event is in the exchange, or replaced it
and was never sent. -/
theorem Rebuilds.resolve (rebuilds : Rebuilds server userId abandoned device)
    {conflict : Server.SyncConflict} {event : OutboxEvent}
    (shape : Shape issued device.profile)
    (waiting : device.worker = .answered events request (.error (.conflict conflict)))
    (linked : WorkerInv server userId issued device.profile device.worker)
    (chosen : Desktop.conflictedEvent events conflict = some event)
    (alike : leavesAlike server userId device
      (resolveConflict device.profile event conflict.current now).1 = true) :
    Rebuilds server userId abandoned
      ⟨(resolveConflict device.profile event conflict.current now).1, .idle⟩ := by
  unfold resolveConflict at alike ⊢
  cases body : resolveConflictBody event conflict.current now device.profile with
  | error reason =>
      rw [Transaction.atomically_of_error body] at alike ⊢
      exact rebuilds.release linked [] (by simp) alike
  | ok pair =>
      obtain ⟨after, resolution⟩ := pair
      rw [Transaction.atomically_of_ok body] at alike ⊢
      have resolved := (resolveConflictBody_ok body).2
      have answers := linked
      rw [waiting] at answers
      obtain ⟨sent, -, refused⟩ := answers
      obtain ⟨listed, facts⟩ := sent.conflicted (refused conflict rfl) chosen
      have owner := sent.conflictedKey (refused conflict rfl) chosen
      have keyed := fun record found => (facts record found).1
      refine rebuilds.idle linked [] (resolved.intents shape keyed) (by simp) alike ?_
        (rebuilds.versions.resolved resolved keyed
          (rebuilds.refusals events request conflict waiting)) resolved.cursor.2
      intro coalesceKey row old stored here sameId seen apart
      by_cases target : coalesceKey = .favorite event.contentKey
      · by_cases same : old.eventId = event.eventId
        · have zipped : event ∈ (events.zip request).map Prod.fst := by
            rw [List.map_fst_zip (by rw [sent.pairs.length_eq])]
            exact listed
          obtain ⟨pair, member, equal⟩ := List.mem_map.mp zipped
          have carried : pair ∈ device.worker.exchange := by rw [waiting]; exact member
          exact absurd (by rw [equal, sameId, same]) (apart pair carried)
        · rw [target, ← owner] at here
          rw [sameId] at seen
          have among : event ∈ device.worker.events := by rw [waiting]; exact listed
          exact absurd seen (rebuilds.newer event among old here same).1
      · rw [resolved.outbox_apart target, here] at stored
        cases stored
        rfl

theorem settleReply_rows (db : ProfileDb) (events : List OutboxEvent) (request : List PushEvent)
    (reply : ApiResult PushResponse) (now : Int) :
    OutboxKept db (System.settleReply db events request reply now) := by
  unfold System.settleReply
  split
  · split
    · exact acknowledgeEvents_rows _ _ _
    · exact .refl db
  · split
    · exact resolveConflict_rows _ _ _ _
    · exact .refl db
  · exact .refl db

theorem Rebuilds.settleReply (rebuilds : Rebuilds server userId abandoned device)
    {reply : ApiResult PushResponse} (shape : Shape issued device.profile)
    (waiting : device.worker = .answered events request reply)
    (linked : WorkerInv server userId issued device.profile device.worker)
    (alike : leavesAlike server userId device
      (settleReply device.profile events request reply now) = true) :
    Rebuilds server userId abandoned
      ⟨settleReply device.profile events request reply now, .idle⟩ := by
  unfold System.settleReply at alike ⊢
  split at alike
  · split at alike
    · rename_i items matched
      exact rebuilds.acknowledge shape waiting linked matched alike
    · exact rebuilds.release linked [] (by simp) alike
  · split at alike
    · rename_i event chosen
      exact rebuilds.resolve shape waiting linked chosen alike
    · exact rebuilds.release linked [] (by simp) alike
  · exact rebuilds.release linked [] (by simp) alike

/-- A lost exchange is retried later. -/
theorem Rebuilds.lose (rebuilds : Rebuilds server userId abandoned device)
    (linked : WorkerInv server userId issued device.profile device.worker)
    (left : List (String × List PushEvent))
    (behind : ∀ pair ∈ left, ∀ sent ∈ pair.2, sent ∈ device.worker.exchange.map Prod.snd)
    (alike : leavesAlike server userId device device.profile = true) (events : List OutboxEvent)
    (now : Int) :
    Rebuilds server userId (left ++ abandoned)
      ⟨(Desktop.retryLater device.profile events now).1, .idle⟩ := by
  refine @Desktop.retryLater_keeps
    (fun db => Rebuilds server userId (left ++ abandoned) ⟨db, .idle⟩) device.profile events now
    (rebuilds.release linked left behind alike) (fun retryAt _ => ?_)
  obtain ⟨favorites, stats, history, -, deviceId⟩ :=
    markRetry_favorites device.profile events retryAt Desktop.serverUnavailable now
  have based : ∀ coalesceKey row old,
      (markRetry device.profile events retryAt Desktop.serverUnavailable now).syncOutbox.get coalesceKey = some row →
      device.profile.syncOutbox.get coalesceKey = some old →
      row.baseEntityRevision = old.baseEntityRevision := by
    intro coalesceKey row old stored here
    obtain ⟨before, there, like⟩ := markRetry_like device.profile events retryAt Desktop.serverUnavailable now stored
    rw [here] at there
    cases there
    exact like.base
  refine rebuilds.idle linked left (markRetry_intents _ _ _ _ _) behind ?_
    (fun coalesceKey row old stored here _ _ _ => based coalesceKey row old stored here)
    (rebuilds.versions.carried (fun key row stored => Or.inr ⟨row, favorites ▸ stored, rfl⟩) history)
    deviceId
  unfold leavesAlike
  rw [List.all_eq_true]
  intro pair member
  rw [Bool.or_eq_true, Option.all_eq_true]
  by_cases seen : Seen server userId pair.1.eventId.text
  · refine Or.inr (fun row stored => ?_)
    obtain ⟨old, here, like⟩ := markRetry_like device.profile events retryAt Desktop.serverUnavailable now stored
    by_cases same : row.eventId = pair.1.eventId
    · have sent := leavesAlike_stamp alike member seen here (by rw [← same, like.eventId])
      have stamps : rowStamp (markRetry device.profile events retryAt Desktop.serverUnavailable now) row =
          rowStamp device.profile old := by
        unfold rowStamp
        rw [like.base, like.contentKey, stats]
      simp [sent, stamps]
    · simp [same]
  · exact Or.inl (by simpa [isProcessed, Seen] using seen)

/-- A page that leaves the processed events their bases. -/
theorem Rebuilds.page [ContentTables] (rebuilds : Rebuilds server userId abandoned device)
    {page : ChangesResponse} (shape : Shape issued device.profile)
    (waiting : device.worker = .pulled page)
    (linked : WorkerInv server userId issued device.profile device.worker)
    (alike : rebasesNone server userId device.profile
      (applyRemotePage device.profile page.changes page.nextRevision now).1 = true) :
    Rebuilds server userId abandoned
      ⟨(applyRemotePage device.profile page.changes page.nextRevision now).1, .idle⟩ := by
  have none : device.worker.exchange = [] := by rw [waiting]; rfl
  have passed : Versions (applyRemotePage device.profile page.changes page.nextRevision now).1 ∧
      (applyRemotePage device.profile page.changes page.nextRevision now).1.profileMeta.deviceId =
        device.profile.profileMeta.deviceId := by
    unfold applyRemotePage
    cases body : applyRemotePageBody page.changes page.nextRevision now device.profile with
    | error reason =>
        rw [Transaction.atomically_of_error body]
        exact ⟨rebuilds.versions, rfl⟩
    | ok pair =>
        obtain ⟨last, done⟩ := pair
        rw [Transaction.atomically_of_ok body]
        exact rebuilds.versions.page body
  refine rebuilds.idle linked [] (applyRemotePage_intents _ _ _ shape) (by simp) ?_ ?_ passed.1
    passed.2
  · simp [leavesAlike, none]
  · intro coalesceKey row old stored here sameId seen _
    have rows := List.all_eq_true.mp alike (coalesceKey, row)
      ((Relational.Table.mem_rows_iff _ _ _).mpr stored)
    dsimp only at rows
    rw [here, show isProcessed server userId row.eventId = true from seen] at rows
    simpa using rows

end Settle

/-- Requests that are no business of this Device. -/
theorem Rebuilds.unrelated (rebuilds : Rebuilds server userId abandoned device)
    {left : List (String × List PushEvent)}
    (foreign : ∀ pair ∈ left, ∀ sent ∈ pair.2, ∀ coalesceKey row,
      device.profile.syncOutbox.get coalesceKey = some row → sent.eventId ≠ row.eventId.text) :
    Rebuilds server userId (left ++ abandoned) device := by
  obtain ⟨alike, settled, exchanged, newer, versions, own, refusals⟩ := rebuilds
  refine ⟨?_, settled, exchanged, ?_, versions, own, refusals⟩
  · intro coalesceKey row stored sent known named
    refine alike coalesceKey row stored sent ?_ named
    rcases known with mine | ⟨pair, member, asked⟩ | answered
    · exact Or.inl mine
    · rcases List.mem_append.mp member with new | before
      · exact absurd named (foreign pair new sent asked coalesceKey row stored)
      · exact Or.inr (Or.inl ⟨pair, before, asked⟩)
    · exact Or.inr (Or.inr answered)
  · intro event member row stored apart
    obtain ⟨unseen, unsent⟩ := newer event member row stored apart
    refine ⟨unseen, fun pair listed sent asked => ?_⟩
    rcases List.mem_append.mp listed with new | before
    · exact foreign pair new sent asked _ row stored
    · exact unsent pair before sent asked

end Device

/-- A Device has a row or an event of the id. -/
def Device.Carries (device : Device) (id : Uuid) : Prop :=
  (∃ coalesceKey row, device.profile.syncOutbox.get coalesceKey = some row ∧ row.eventId = id) ∨
    ∃ event ∈ device.worker.events, event.eventId = id

/-- The invariant of a run whose retries are recognised: no id is with two Devices or
with the server before it was handed out. -/
structure RetryInv [EventFingerprint φ] [ContentTables] [UuidParser] (account : Account)
    (world : World φ ι) : Prop where
  linked : WorldInv account.userId world
  remote : Versioned world.server
  valid : ∀ sent ack, Stored world.server account.userId sent ack →
    Server.validateEvent sent = .ok ()
  seen : ∀ id, Seen world.server account.userId id → ∃ uuid ∈ world.issued, id = uuid.text
  left : ∀ pair ∈ world.abandoned, ∀ sent ∈ pair.2,
    ∃ uuid ∈ world.issued, sent.eventId = uuid.text
  apart : ∀ first second, first ≠ second → ∀ id, (world.devices first).Carries id →
    ¬ (world.devices second).Carries id
  device : ∀ device, Rebuilds world.server account.userId world.abandoned (world.devices device)

section Ids

variable {server : ServerDb φ} {userId : String} {issued : List Uuid} {device : Device}

theorem held_of_events {db : ProfileDb} {worker : Worker}
    (linked : WorkerInv server userId issued db worker) :
    ∀ event ∈ worker.events, Held issued db event := by
  cases worker with
  | idle => simp [Worker.events]
  | batched events => exact Batch.held linked
  | pushing events request => exact linked.batch.held
  | answered events request reply => exact linked.1.batch.held
  | pulled page => simp [Worker.events]

theorem carries_issued {id : Uuid} (carries : device.Carries id)
    (shape : Shape issued device.profile)
    (linked : WorkerInv server userId issued device.profile device.worker) : id ∈ issued := by
  rcases carries with ⟨coalesceKey, row, stored, rfl⟩ | ⟨event, member, rfl⟩
  · exact shape.issued coalesceKey row stored
  · exact (held_of_events linked event member).issued

/-- What a worker has sent is named after an event it carries. -/
theorem exchange_carried
    (linked : WorkerInv server userId issued device.profile device.worker) {sent : PushEvent}
    (member : sent ∈ device.worker.exchange.map Prod.snd) :
    ∃ id, device.Carries id ∧ sent.eventId = id.text := by
  obtain ⟨pair, listed, rfl⟩ := List.mem_map.mp member
  obtain ⟨event, -, faithful⟩ := exchange_faithful linked listed
  exact ⟨pair.1.eventId, Or.inr ⟨pair.1, event, rfl⟩, faithful.eventId⟩

theorem exchange_ids {db : ProfileDb} {worker : Worker}
    (linked : WorkerInv server userId issued db worker) :
    (worker.exchange.map (fun pair => pair.2.eventId)).Nodup := by
  have zipped : ∀ {events : List OutboxEvent} {request : List PushEvent},
      Sent issued db events request →
      ((events.zip request).map (fun pair => pair.2.eventId)).Nodup := by
    intro events request sent
    have seconds : (events.zip request).map Prod.snd = request :=
      List.map_snd_zip (by rw [sent.pairs.length_eq])
    have texts : (events.zip request).map (fun pair => pair.2.eventId) =
        request.map PushEvent.eventId := by
      rw [← seconds, List.map_map, seconds]
      rfl
    rw [texts]
    exact sent.ids
  cases worker with
  | idle => exact List.nodup_nil
  | batched events => exact List.nodup_nil
  | pushing events request => exact zipped linked
  | answered events request reply => exact zipped linked.1
  | pulled page => exact List.nodup_nil

/-- What `lose` and `abandon` leave behind is what the worker has sent. -/
theorem leftBehind_exchange {db : ProfileDb} {worker : Worker} (deviceId : String)
    (linked : WorkerInv server userId issued db worker) :
    ∀ pair ∈ worker.leftBehind deviceId, ∀ sent ∈ pair.2,
      sent ∈ worker.exchange.map Prod.snd := by
  cases worker with
  | pushing events request =>
      intro pair member sent asked
      obtain rfl := List.mem_singleton.mp member
      show sent ∈ (events.zip request).map Prod.snd
      rw [List.map_snd_zip (by rw [linked.pairs.length_eq])]
      exact asked
  | idle => simp [Worker.leftBehind]
  | batched events => simp [Worker.leftBehind]
  | answered events request reply => simp [Worker.leftBehind]
  | pulled page => simp [Worker.leftBehind]

end Ids

section World

variable [DecidableEq φ] [EventFingerprint φ] [ContentTables] [UuidParser] [DecidableEq ι]
  {account : Account} {world : World φ ι}

omit [DecidableEq φ] in
/-- One Device moves, and may leave a request behind. -/
theorem RetryInv.setDevice (inv : RetryInv account world) (device : ι) (value : Device)
    (left : List (String × List PushEvent))
    (linked : WorldInv account.userId
      { world.setDevice device value with abandoned := left ++ world.abandoned })
    (rebuilds : Rebuilds world.server account.userId (left ++ world.abandoned) value)
    (carried : ∀ id, value.Carries id → (world.devices device).Carries id)
    (behind : ∀ pair ∈ left, ∀ sent ∈ pair.2,
      sent ∈ (world.devices device).worker.exchange.map Prod.snd) :
    RetryInv account
      { world.setDevice device value with abandoned := left ++ world.abandoned } := by
  have shape := (inv.linked.device device).shape
  have named : ∀ pair ∈ left, ∀ sent ∈ pair.2,
      ∃ id, (world.devices device).Carries id ∧ sent.eventId = id.text :=
    fun pair member sent asked =>
      exchange_carried (inv.linked.worker device) (behind pair member sent asked)
  have older : ∀ other id, ((world.setDevice device value).devices other).Carries id →
      (world.devices other).Carries id := by
    intro other id carries
    unfold World.setDevice at carries
    dsimp only at carries
    by_cases same : other = device
    · subst same
      rw [Function.update_self] at carries
      exact carried id carries
    · rw [Function.update_of_ne same] at carries
      exact carries
  refine ⟨linked, inv.remote, inv.valid, inv.seen, ?_, ?_, ?_⟩
  · intro pair member sent asked
    rcases List.mem_append.mp member with new | before
    · obtain ⟨id, carries, same⟩ := named pair new sent asked
      exact ⟨id, carries_issued carries shape (inv.linked.worker device), same⟩
    · exact inv.left pair before sent asked
  · intro first second differ id here there
    exact inv.apart first second differ id (older first id here) (older second id there)
  · intro other
    show Rebuilds _ _ _ (Function.update world.devices device value other)
    by_cases same : other = device
    · subst same
      rw [Function.update_self]
      exact rebuilds
    · rw [Function.update_of_ne same]
      refine (inv.device other).unrelated ?_
      intro pair member sent asked coalesceKey row stored equal
      obtain ⟨id, carries, text⟩ := named pair member sent asked
      refine inv.apart device other (Ne.symm same) id carries (Or.inl ⟨coalesceKey, row, stored, ?_⟩)
      exact Uuid.text_injective (equal.symm.trans text)

omit [ContentTables] [UuidParser] in
/-- What a push leaves in the server was there, or is a new event of the request. -/
theorem push_origin [ContentTables] [UuidParser] (maxEvents : Nat) (server : ServerDb φ)
    (userId deviceId : String) (request : List PushEvent) (now : Int) :
    (∀ sent ack, Stored (Server.push maxEvents server userId deviceId request now).1 userId sent
        ack → Stored server userId sent ack ∨ (sent ∈ request ∧ ¬ Seen server userId sent.eventId ∧
          Server.validateEvents request = .ok ())) ∧
      ∀ id, Seen (Server.push maxEvents server userId deviceId request now).1 userId id →
        Seen server userId id ∨ id ∈ request.map PushEvent.eventId := by
  cases outcome : Server.push maxEvents server userId deviceId request now with
  | mk next reply =>
      cases reply with
      | error reason =>
          rw [Server.push_error outcome]
          exact ⟨fun _ _ stored => Or.inl stored, fun _ seen => Or.inl seen⟩
      | ok response =>
          obtain ⟨valid, changed, looped⟩ := Server.push_ok outcome
          refine ⟨fun sent ack stored => ?_, fun id seen => ?_⟩
          · rcases Server.pushLoop_origin request server next _ changed looped stored with
              old | ⟨-, member, unseen⟩
            · exact Or.inl old
            · exact Or.inr ⟨member, unseen, valid⟩
          · rcases (Server.pushLoop_seen userId id request server next _ changed looped).mp seen with
              old | ⟨-, member⟩
            · exact Or.inl old
            · exact Or.inr member

omit [DecidableEq φ] [DecidableEq ι] in
/-- The server runs a request of events that were handed out. -/
theorem RetryInv.served (inv : RetryInv account world) {later : ServerDb φ}
    {request : List PushEvent} (rest : List (String × List PushEvent))
    (linked : WorldInv account.userId { world with server := later, abandoned := rest })
    (remote : Versioned later)
    (origin : ∀ sent ack, Stored later account.userId sent ack →
      Stored world.server account.userId sent ack ∨ (sent ∈ request ∧
        ¬ Seen world.server account.userId sent.eventId ∧ Server.validateEvents request = .ok ()))
    (seen : ∀ id, Seen later account.userId id →
      Seen world.server account.userId id ∨ id ∈ request.map PushEvent.eventId)
    (fewer : ∀ pair ∈ rest, pair ∈ world.abandoned)
    (issued : ∀ sent ∈ request, ∃ uuid ∈ world.issued, sent.eventId = uuid.text)
    (device : ∀ device, Rebuilds later account.userId rest (world.devices device)) :
    RetryInv account { world with server := later, abandoned := rest } := by
  refine ⟨linked, remote, ?_, ?_, fun pair member => inv.left pair (fewer pair member), inv.apart,
    device⟩
  · intro sent ack stored
    rcases origin sent ack stored with old | ⟨member, -, valid⟩
    · exact inv.valid sent ack old
    · exact Server.validateEvents_mem request valid sent member
  · intro id known
    rcases seen id known with old | member
    · exact inv.seen id old
    · obtain ⟨sent, listed, rfl⟩ := List.mem_map.mp member
      exact issued sent listed

omit [ContentTables] [UuidParser] [DecidableEq ι] in
/-- The record of a conflict answer has the version of the server's rows. -/
theorem refused_version {deviceId : String} {now : Int} {server : ServerDb φ} {userId : String}
    {request : List PushEvent} {conflict : Server.SyncConflict} {issued : List Uuid}
    {db : ProfileDb} {events : List OutboxEvent} (remote : Versioned server)
    (sent : Sent issued db events request)
    (failed : Server.pushLoop userId deviceId now request server = .error (.conflict conflict)) :
    ∀ record, conflict.current = some record → record.keyVersion = contentKeyVersion := by
  obtain ⟨early, event, late, middle, acks, changed, whole, looped, -, favorite, -, found, -⟩ :=
    Server.pushLoop_conflict request server failed
  intro record same
  obtain ⟨-, row, aggregate, stored, equation⟩ :=
    refused_current sent whole favorite looped (same ▸ found)
  rw [equation]
  exact remote _ row stored

/-- The push of the request a worker waits for. -/
theorem RetryInv.serverPush (inv : RetryInv account world) (device : ι)
    {events : List OutboxEvent} {request : List PushEvent} {now : Int}
    (waiting : (world.devices device).worker = .pushing events request)
    {later : ServerDb φ} {reply : ApiResult PushResponse}
    (pushed : Server.push account.maxSyncEventsPerBatch world.server account.userId
      (world.devices device).profile.profileMeta.deviceId request now = (later, reply)) :
    RetryInv account { world.setDevice device
      ⟨(world.devices device).profile, .answered events request reply⟩ with server := later } := by
  have shape := (inv.linked.device device).shape
  have sent : Sent world.issued (world.devices device).profile events request := by
    have worker := inv.linked.worker device
    rw [waiting] at worker
    exact worker
  have zipped : ∀ asked ∈ request, asked ∈ (world.devices device).worker.exchange.map Prod.snd := by
    intro asked member
    rw [waiting]
    show asked ∈ (events.zip request).map Prod.snd
    rw [List.map_snd_zip (by rw [sent.pairs.length_eq])]
    exact member
  have named : ∀ asked ∈ request, ∃ id, (world.devices device).Carries id ∧
      asked.eventId = id.text :=
    fun asked member => exchange_carried (inv.linked.worker device) (zipped asked member)
  obtain ⟨laterInv, evolves⟩ := Server.push_evolves account.maxSyncEventsPerBatch account.userId
    (world.devices device).profile.profileMeta.deviceId request now account.userId inv.linked.server
  have remote := Server.push_versioned account.maxSyncEventsPerBatch account.userId
    (world.devices device).profile.profileMeta.deviceId request now inv.remote
  obtain ⟨origin, seen⟩ := push_origin account.maxSyncEventsPerBatch world.server account.userId
    (world.devices device).profile.profileMeta.deviceId request now
  rw [pushed] at laterInv evolves remote origin seen
  have rebuilds : ∀ other, Rebuilds later account.userId world.abandoned (world.devices other) := by
    intro other
    have started : ∀ asked ack, Stored later account.userId asked ack →
        Stored world.server account.userId asked ack ∨
          (asked ∈ request ∧ ¬ Seen world.server account.userId asked.eventId) :=
      fun asked ack stored => (origin asked ack stored).imp id (fun facts => ⟨facts.1, facts.2.1⟩)
    by_cases same : other = device
    · subst same
      refine (inv.device other).served started seen (fun _ member => member) ?_ ?_ ?_ ?_
      · intro coalesceKey row stored asked member equal
        exact (inv.device other).alike coalesceKey row stored asked (Or.inl (zipped asked member))
          equal
      · intro coalesceKey row stored apart asked member _ equal
        obtain ⟨pair, listed, rfl⟩ := List.mem_map.mp (zipped asked member)
        have faithful := (exchange_faithful (inv.linked.worker other) listed).2.2
        exact absurd (Uuid.text_injective (faithful.eventId.symm.trans equal)) (apart pair listed)
      · intro pair listed row _ same asked member _ equal
        have faithful := (exchange_faithful (inv.linked.worker other) listed).2.2
        have inside : pair.2 ∈ request := by
          rw [waiting] at listed
          exact (List.of_mem_zip (show (pair.1, pair.2) ∈ events.zip request from listed)).2
        have one : asked = pair.2 := by
          refine List.inj_on_of_nodup_map sent.ids member inside ?_
          rw [equal, faithful.eventId, same]
        rw [one]
      · intro event member row stored apart asked listed equal
        obtain ⟨pair, exchanged, rfl⟩ := List.mem_map.mp (zipped asked listed)
        obtain ⟨read, held, faithful⟩ := exchange_faithful (inv.linked.worker other) exchanged
        have rowId : row.eventId = pair.1.eventId :=
          Uuid.text_injective (equal.symm.trans faithful.eventId)
        have keyed := (held.owner _ row stored rowId).1
        rw [waiting] at member read
        have one := List.inj_on_of_nodup_map sent.batch.keys member read keyed
        exact apart (by rw [rowId, one])
    · have foreign : ∀ asked ∈ request, ∀ coalesceKey row,
          (world.devices other).profile.syncOutbox.get coalesceKey = some row →
          asked.eventId ≠ row.eventId.text := by
        intro asked member coalesceKey row stored equal
        obtain ⟨id, carries, text⟩ := named asked member
        refine inv.apart device other (Ne.symm same) id carries
          (Or.inl ⟨coalesceKey, row, stored, ?_⟩)
        exact Uuid.text_injective (equal.symm.trans text)
      refine (inv.device other).served started seen (fun _ member => member) ?_ ?_ ?_ ?_
      · intro coalesceKey row stored asked member equal
        exact absurd equal (foreign asked member coalesceKey row stored)
      · intro coalesceKey row stored _ asked member _ equal
        exact absurd equal (foreign asked member coalesceKey row stored)
      · intro pair _ row stored _ asked member _ equal
        exact absurd equal (foreign asked member _ row stored)
      · intro event _ row stored _ asked member
        exact foreign asked member _ row stored
  have moved := inv.served world.abandoned (inv.linked.evolves laterInv evolves) remote
    origin seen (fun _ member => member) (by
      intro asked member
      obtain ⟨id, carries, text⟩ := named asked member
      exact ⟨id, carries_issued carries shape (inv.linked.worker device), text⟩) rebuilds
  refine moved.setDevice device _ [] (inv.linked.serverPush device waiting pushed) ?_ ?_ (by simp)
  · refine (moved.device device).answered waiting ?_
    rintro conflict rfl
    exact refused_version inv.remote sent (Server.push_conflict pushed)
  · intro id carries
    rcases carries with row | event
    · exact Or.inl row
    · refine Or.inr ?_
      show ∃ event ∈ (world.devices device).worker.events, event.eventId = id
      rw [waiting]
      exact event

omit [DecidableEq φ] [DecidableEq ι] [UuidParser] in
/-- The versions of what a call brings. -/
theorem Call.versions {call : Call} {issued : List Uuid} (allowed : call.allowed issued = true) :
    (∀ entry, call.input.queried entry ∨ call.input.imported entry →
      entry.content.keyVersion = contentKeyVersion) ∧
    ∀ favorite, call.input.archived favorite → favorite.content.keyVersion = contentKeyVersion := by
  refine ⟨?_, fun favorite archived => ?_⟩
  · rintro entry (queried | imported)
    · obtain ⟨eventId, rfl⟩ := Call.input_queried queried
      have prepared : isPrepared entry.content = true := by
        unfold Call.allowed at allowed
        exact (Bool.and_eq_true_iff.mp allowed).2
      obtain ⟨content, holds⟩ := prepared_of_isPrepared prepared
      exact holds.version
    · obtain ⟨content, holds⟩ := (Call.imported_good imported).content
      exact holds.version
  · obtain ⟨content, holds⟩ := (Call.archived_good archived).content
    exact holds.version

omit [DecidableEq φ] [UuidParser] [DecidableEq ι] [ContentTables] in
/-- Every id the run knows of was handed out. -/
theorem RetryInv.known [ContentTables] [UuidParser] (inv : RetryInv account world) (device : ι) :
    ∀ sent, (sent ∈ (world.devices device).worker.exchange.map Prod.snd ∨
      (∃ pair ∈ world.abandoned, sent ∈ pair.2) ∨
        ∃ ack, Stored world.server account.userId sent ack) →
      ∃ uuid ∈ world.issued, sent.eventId = uuid.text := by
  rintro sent (mine | ⟨pair, member, asked⟩ | ⟨ack, stored⟩)
  · obtain ⟨id, carries, text⟩ := exchange_carried (inv.linked.worker device) mine
    exact ⟨id, carries_issued carries (inv.linked.device device).shape
      (inv.linked.worker device), text⟩
  · exact inv.left pair member sent asked
  · exact inv.seen _ stored.seen

omit [DecidableEq φ] in
/-- A call of the user. -/
theorem RetryInv.call (inv : RetryInv account world) (device : ι) {call : Call}
    (allowed : call.allowed world.issued = true)
    (safe : keepsEvents account world (.call device call))
    (calls : List (ι × ContentKey × Bool))
    (linked : WorldInv account.userId { world.setDevice device
      { world.devices device with profile := call.perform (world.devices device).profile } with
        issued := call.ids ++ world.issued, calls := calls }) :
    RetryInv account { world.setDevice device
      { world.devices device with profile := call.perform (world.devices device).profile } with
        issued := call.ids ++ world.issued, calls := calls } := by
  have new := Call.fresh_of_allowed allowed
  have versions := Call.versions allowed
  have known := inv.known device
  have shape := (inv.linked.device device).shape.weaken
    (fun id member => List.mem_append_right call.ids member)
  -- What every write of the call keeps.
  have turn : ∀ before next, (Rebuilds world.server account.userId world.abandoned
        ⟨before, (world.devices device).worker⟩ ∧ Shape (call.ids ++ world.issued) before ∧
        ∀ id, Device.Carries ⟨before, (world.devices device).worker⟩ id →
          id ∈ call.ids ∨ (world.devices device).Carries id) →
      LocalMove call.input before next →
      (∀ entry, call.input.queried entry → ∀ row,
        before.syncOutbox.get (.favorite entry.content.contentKey) = some row →
        Seen world.server account.userId row.eventId.text →
        ∃ pair ∈ (world.devices device).worker.exchange, pair.1.eventId = row.eventId) →
      Rebuilds world.server account.userId world.abandoned
        ⟨next, (world.devices device).worker⟩ ∧ Shape (call.ids ++ world.issued) next ∧
        ∀ id, Device.Carries ⟨next, (world.devices device).worker⟩ id →
          id ∈ call.ids ∨ (world.devices device).Carries id := by
    rintro before next ⟨rebuilds, shaped, carried⟩ move asked
    refine ⟨rebuilds.localMove shaped known inv.seen new move asked
        (rebuilds.versions.localMove move versions.1 versions.2),
      shaped.localMove move (fun id member => List.mem_append_left _ member), ?_⟩
    rintro id (⟨coalesceKey, row, stored, rfl⟩ | event)
    · rcases move.row stored with here | ⟨brought, -⟩
      · exact carried row.eventId (Or.inl ⟨coalesceKey, row, here, rfl⟩)
      · exact Or.inl brought
    · exact Or.inr (Or.inr event)
  obtain ⟨rebuilds, -, carried⟩ := @Call.perform_keeps _ (fun db =>
      Rebuilds world.server account.userId world.abandoned
        ⟨db, (world.devices device).worker⟩ ∧ Shape (call.ids ++ world.issued) db ∧
        ∀ id, Device.Carries ⟨db, (world.devices device).worker⟩ id →
          id ∈ call.ids ∨ (world.devices device).Carries id) call
    (world.devices device).profile ⟨inv.device device, shape, fun _ carries => Or.inr carries⟩
    (by
      rintro entry eventId next rfl move
      refine turn _ next ⟨inv.device device, shape, fun _ carries => Or.inr carries⟩ move ?_
      rintro other rfl row stored seen
      replace safe : queriesSettled world.server account.userId (world.devices device)
        other.content.contentKey = true := safe
      unfold queriesSettled at safe
      rw [stored, Option.all_some,
        show isProcessed world.server account.userId row.eventId = true from seen] at safe
      simpa using safe)
    (fun quiet before next holds move =>
      turn before next holds move (fun entry queried => absurd queried (quiet entry)))
  have grows : ∀ {id : String}, (∃ uuid ∈ world.issued, id = uuid.text) →
      ∃ uuid ∈ call.ids ++ world.issued, id = uuid.text := by
    rintro id ⟨uuid, member, same⟩
    exact ⟨uuid, List.mem_append_right _ member, same⟩
  have origin : ∀ other id, ((world.setDevice device { world.devices device with
        profile := call.perform (world.devices device).profile }).devices other).Carries id →
      (other = device ∧ id ∈ call.ids) ∨ (world.devices other).Carries id := by
    intro other id carries
    unfold World.setDevice at carries
    dsimp only at carries
    by_cases same : other = device
    · subst same
      rw [Function.update_self] at carries
      exact (carried id carries).imp_left (fun member => ⟨rfl, member⟩)
    · rw [Function.update_of_ne same] at carries
      exact Or.inr carries
  have issued : ∀ other id, (world.devices other).Carries id → id ∈ world.issued :=
    fun other id carries => carries_issued carries (inv.linked.device other).shape
      (inv.linked.worker other)
  refine ⟨linked, inv.remote, inv.valid, fun id seen => grows (inv.seen id seen),
    fun pair member sent asked => grows (inv.left pair member sent asked), ?_, ?_⟩
  · intro first second differ id here there
    rcases origin first id here with ⟨rfl, fresh⟩ | older
    · rcases origin second id there with ⟨rfl, -⟩ | old
      · exact differ rfl
      · exact new id fresh (issued second id old)
    · rcases origin second id there with ⟨rfl, fresh⟩ | old
      · exact new id fresh (issued first id older)
      · exact inv.apart first second differ id older old
  · exact @World.setDevice_all _ _ _ _ _ _
      (fun device => Rebuilds world.server account.userId world.abandoned device)
      rebuilds inv.device

omit [DecidableEq ι] in
/-- A request whose sender gave up reaches the server. -/
theorem RetryInv.latePush (inv : RetryInv account world) {deviceId : String}
    {request : List PushEvent} {now : Int} (member : (deviceId, request) ∈ world.abandoned)
    (safe : ∀ device, arrivesAlike world.server account.userId (world.devices device) request = true)
    (linked : WorldInv account.userId { world with
      server := (Server.push account.maxSyncEventsPerBatch world.server account.userId deviceId
        request now).1
      abandoned := world.abandoned.erase (deviceId, request) }) :
    RetryInv account { world with
      server := (Server.push account.maxSyncEventsPerBatch world.server account.userId deviceId
        request now).1
      abandoned := world.abandoned.erase (deviceId, request) } := by
  obtain ⟨origin, seen⟩ := push_origin account.maxSyncEventsPerBatch world.server account.userId
    deviceId request now
  refine inv.served _ linked (Server.push_versioned _ _ _ _ _ inv.remote) origin seen
    (fun pair inside => List.mem_of_mem_erase inside) (inv.left _ member) (fun device => ?_)
  -- An event that is new to the server has the stamp the condition asks for.
  have arrives : ∀ coalesceKey row,
      (world.devices device).profile.syncOutbox.get coalesceKey = some row → ∀ sent ∈ request,
      ¬ Seen world.server account.userId sent.eventId → sent.eventId = row.eventId.text →
      (match (world.devices device).worker.exchange.find?
          (fun pair => pair.1.eventId = row.eventId) with
        | some pair => stamp sent = stamp pair.2
        | none => stamp sent = rowStamp (world.devices device).profile row) := by
    intro coalesceKey row stored sent asked unseen named
    have arrival := List.all_eq_true.mp (safe device) sent asked
    rw [Bool.or_eq_true] at arrival
    have rows := List.all_eq_true.mp (arrival.resolve_left unseen) (coalesceKey, row)
      ((Relational.Table.mem_rows_iff _ _ _).mpr stored)
    simp only [named, ne_eq, not_true_eq_false, decide_false, Bool.false_or] at rows
    split at rows
    · rename_i pair found
      rw [found]
      simpa using rows
    · rename_i missing
      rw [missing]
      simpa using rows
  refine (inv.device device).served
    (fun sent ack stored => (origin sent ack stored).imp id (fun facts => ⟨facts.1, facts.2.1⟩))
    seen (fun pair inside => List.mem_of_mem_erase inside) ?_ ?_ ?_ ?_
  · intro coalesceKey row stored sent asked named
    exact (inv.device device).alike coalesceKey row stored sent
      (Or.inr (Or.inl ⟨_, member, asked⟩)) named
  · intro coalesceKey row stored apart sent asked unseen named
    have here := arrives coalesceKey row stored sent asked unseen named
    have missing : (world.devices device).worker.exchange.find?
        (fun pair => pair.1.eventId = row.eventId) = none := by
      rw [List.find?_eq_none]
      intro pair inside same
      exact apart pair inside (by simpa using same)
    rw [missing] at here
    exact here
  · intro pair inside row stored same sent asked unseen named
    have here := arrives _ row stored sent asked unseen named
    cases found : (world.devices device).worker.exchange.find?
        (fun pair => pair.1.eventId = row.eventId) with
    | none =>
        have differs := List.find?_eq_none.mp found pair inside
        simp [same] at differs
    | some other =>
        rw [found] at here
        have sameId : other.1.eventId = row.eventId := by simpa using List.find?_some found
        obtain ⟨-, -, faithful⟩ := exchange_faithful (inv.linked.worker device) inside
        obtain ⟨-, -, alike⟩ := exchange_faithful (inv.linked.worker device)
          (List.mem_of_find?_eq_some found)
        have one : other.2 = pair.2 := by
          have ids : ((world.devices device).worker.exchange.map
              (fun pair => pair.2.eventId)).Nodup := exchange_ids (inv.linked.worker device)
          rw [List.inj_on_of_nodup_map ids (List.mem_of_find?_eq_some found) inside
            (by rw [alike.eventId, faithful.eventId, sameId, same])]
        rw [← one]
        exact here
  · intro event inside row stored apart sent asked
    exact ((inv.device device).newer event inside row stored apart).2 _ member sent asked

theorem RetryInv.work {next : World φ ι} {device : ι} {job : Job} (inv : RetryInv account world)
    (safe : keepsEvents account world (.work device job))
    (taken : work account world device job = some next) : RetryInv account next := by
  have linked := inv.linked.work taken
  have rebuilds := inv.device device
  have worker := inv.linked.worker device
  have shape := (inv.linked.device device).shape
  unfold System.work at taken
  dsimp only at taken
  split at taken
  · -- readBatch
    rename_i now limit waiting
    split at taken
    · cases taken
      exact inv
    · rename_i events read
      cases taken
      obtain ⟨-, stored, -⟩ := readyOutboxEvents_ok read
      refine inv.setDevice device _ [] linked (rebuilds.batched (by rw [waiting]; rfl) rfl ?_ ?_)
        ?_ (by simp)
      · intro event member row here apart
        rw [(stored event member).1] at here
        cases here
        exact absurd rfl apart
      · intro events request reply impossible
        cases impossible
      · rintro id (row | ⟨event, member, rfl⟩)
        · exact Or.inl row
        · exact Or.inl ⟨_, _, (stored event member).1, rfl⟩
    · cases taken
      exact inv
  · -- buildBatch
    rename_i events waiting
    split at taken
    · rename_i request built
      cases taken
      have batch := worker
      rw [waiting] at batch
      refine inv.setDevice device _ [] linked (rebuilds.pushing shape waiting batch built) ?_
        (by simp)
      rintro id (row | event)
      · exact Or.inl row
      · refine Or.inr ?_
        rw [waiting]
        exact event
    · cases taken
      refine inv.setDevice device _ [] linked (rebuilds.batched (by rw [waiting]; rfl) rfl
        (by simp [Worker.events]) (by simp)) ?_ (by simp)
      rintro id (row | ⟨event, impossible, -⟩)
      · exact Or.inl row
      · cases impossible
  · -- serverPush
    rename_i now events request waiting
    cases taken
    exact inv.serverPush device waiting rfl
  · -- receive
    rename_i now events request reply waiting
    cases taken
    unfold keepsEvents at safe
    dsimp only at safe
    rw [waiting] at safe
    refine inv.setDevice device _ [] linked (rebuilds.settleReply shape waiting worker safe) ?_
      (by simp)
    rintro id (⟨coalesceKey, row, stored, same⟩ | ⟨event, impossible, -⟩)
    · obtain ⟨old, here, eventId, -⟩ := settleReply_rows _ _ _ _ _ coalesceKey row stored
      exact Or.inl ⟨coalesceKey, old, here, by rw [← eventId, same]⟩
    · cases impossible
  · -- lose, before the server ran the request
    rename_i now events request waiting
    cases taken
    have behind := leftBehind_exchange (world.devices device).profile.profileMeta.deviceId worker
    rw [show (world.devices device).worker.leftBehind _ = [(_, request)] by rw [waiting]; rfl]
      at behind
    refine inv.setDevice device _ [(_, request)] linked
      (rebuilds.lose worker _ behind safe _ _) ?_ behind
    rintro id (⟨coalesceKey, row, stored, same⟩ | ⟨event, impossible, -⟩)
    · obtain ⟨old, here, eventId, -⟩ := retryLater_rows _ _ _ coalesceKey row stored
      exact Or.inl ⟨coalesceKey, old, here, by rw [← eventId, same]⟩
    · cases impossible
  · -- lose, after it answered
    cases taken
    refine inv.setDevice device _ [] linked (rebuilds.lose worker [] (by simp) safe _ _) ?_
      (by simp)
    rintro id (⟨coalesceKey, row, stored, same⟩ | ⟨event, impossible, -⟩)
    · obtain ⟨old, here, eventId, -⟩ := retryLater_rows _ _ _ coalesceKey row stored
      exact Or.inl ⟨coalesceKey, old, here, by rw [← eventId, same]⟩
    · cases impossible
  · -- abandon
    cases taken
    refine inv.setDevice device _ _ linked (rebuilds.release worker _ (leftBehind_exchange _ worker)
      safe) ?_ (leftBehind_exchange _ worker)
    rintro id (row | ⟨event, impossible, -⟩)
    · exact Or.inl row
    · cases impossible
  · -- requestChanges
    rename_i limit waiting
    split at taken
    · cases taken
      refine inv.setDevice device _ [] linked (rebuilds.batched (by rw [waiting]; rfl) rfl
        (by simp [Worker.events]) (by simp)) ?_ (by simp)
      rintro id (row | ⟨event, impossible, -⟩)
      · exact Or.inl row
      · cases impossible
    · cases taken
      exact inv
  · -- applyPage
    rename_i now page waiting
    cases taken
    unfold keepsEvents at safe
    dsimp only at safe
    rw [waiting] at safe
    refine inv.setDevice device _ [] linked (rebuilds.page shape waiting worker safe) ?_ (by simp)
    rintro id (⟨coalesceKey, row, stored, same⟩ | ⟨event, impossible, -⟩)
    · obtain ⟨old, here, eventId, -⟩ := applyRemotePage_rows _ _ _ _ coalesceKey row stored
      exact Or.inl ⟨coalesceKey, old, here, by rw [← eventId, same]⟩
    · cases impossible
  · cases taken

theorem RetryInv.step {next : World φ ι} {action : Action ι} (inv : RetryInv account world)
    (safe : keepsEvents account world action) (taken : step account world action = some next) :
    RetryInv account next := by
  have linked := inv.linked.step taken
  cases action with
  | call device call =>
      unfold System.step at taken
      dsimp only at taken
      split at taken
      · rename_i allowed
        cases taken
        exact inv.call device allowed safe _ linked
      · cases taken
  | work device job => exact inv.work safe taken
  | latePush deviceId request now =>
      unfold System.step at taken
      dsimp only at taken
      split at taken
      · rename_i member
        cases taken
        exact inv.latePush member safe linked
      · cases taken
  | patch contentKey active baseEntityRevision now =>
      unfold System.step at taken
      dsimp only at taken
      split at taken
      · cases taken
        have processed := Server.patch_processed world.server account.userId contentKey active
          baseEntityRevision now
        have stored : ∀ sent ack, Stored (Server.setFavoriteState world.server account.userId
            contentKey active baseEntityRevision now).1 account.userId sent ack →
            Stored world.server account.userId sent ack := by
          rintro sent ack ⟨named, time, found⟩
          exact ⟨named, time, processed ▸ found⟩
        have seen : ∀ id, Seen (Server.setFavoriteState world.server account.userId contentKey
            active baseEntityRevision now).1 account.userId id →
            Seen world.server account.userId id := by
          intro id known
          unfold Seen at known ⊢
          rw [← processed]
          exact known
        refine @RetryInv.served _ _ _ _ _ _ _ inv _ [] world.abandoned linked
          (Server.patch_versioned _ _ _ _ _ inv.remote)
          (fun sent ack known => Or.inl (stored sent ack known))
          (fun id known => Or.inl (seen id known)) (fun _ member => member) (by simp)
          (fun device => ?_)
        refine @Rebuilds.served _ _ _ _ _ _ _ (inv.device device) [] world.abandoned
          (fun sent ack known => Or.inl (stored sent ack known))
          (fun id known => Or.inl (seen id known)) (fun _ member => member)
          (by simp) (by simp) (by simp) (by simp)
      · cases taken
        exact inv

omit [DecidableEq φ] [DecidableEq ι] in
theorem RetryInv.initial (account : Account) (devices : List (String × String))
    (profileId : ι → Uuid) (deviceId : ι → String) (now : Int) :
    RetryInv account (World.initial account devices profileId deviceId now : World φ ι) := by
  have none : ∀ device id, ¬ ((World.initial account devices profileId deviceId now :
      World φ ι).devices device).Carries id := by
    rintro device id (⟨coalesceKey, row, impossible, -⟩ | ⟨event, impossible, -⟩)
    · cases impossible
    · cases impossible
  refine ⟨WorldInv.initial account devices profileId deviceId now, ?_, ?_, ?_, ?_, ?_, ?_⟩
  · intro key row impossible
    cases impossible
  · rintro sent ack ⟨-, time, impossible⟩
    cases impossible
  · intro id impossible
    cases impossible
  · intro pair impossible
    cases impossible
  · intro first second _ id carries
    exact absurd carries (none first id)
  · intro device
    refine ⟨?_, ?_, ?_, ?_, ⟨?_, ?_⟩, ?_, ?_⟩
    · intro coalesceKey row impossible
      cases impossible
    · intro coalesceKey row impossible
      cases impossible
    · intro pair impossible
      cases impossible
    · intro event impossible
      cases impossible
    · intro key row impossible
      cases impossible
    · intro key entry impossible
      cases impossible
    · intro owner key row impossible
      cases impossible
    · intro events request conflict impossible
      cases impossible

omit [DecidableEq ι] in
/-- In a state of such a run, retries are recognised. -/
theorem RetryInv.recognised (inv : RetryInv account world) (device : ι) :
    RetriesRecognised account world device := by
  have rebuilds := inv.device device
  have worker := inv.linked.worker device
  have shape := (inv.linked.device device).shape
  constructor
  · intro events request waiting early sent late whole coalesceKey row stored named seen
    rw [waiting] at worker
    have member : sent ∈ request := by rw [whole]; simp
    have zipped : sent ∈ (world.devices device).worker.exchange.map Prod.snd := by
      rw [waiting]
      show sent ∈ (events.zip request).map Prod.snd
      rw [List.map_snd_zip (by rw [worker.pairs.length_eq])]
      exact member
    -- The server stored an answer for an event of the id, and it is this event.
    obtain ⟨processed, found⟩ := Option.isSome_iff_exists.mp seen
    obtain ⟨event, ack, time, eventId, acked, rfl⟩ := inv.linked.server.processed _ _ _ found
    have answered : Stored world.server account.userId event ack :=
      ⟨by rw [acked, eventId], time, by rw [eventId]; exact found⟩
    have same : event = sent := by
      obtain ⟨pair, listed, rfl⟩ := List.mem_map.mp zipped
      obtain ⟨-, held, faithful⟩ := exchange_faithful (inv.linked.worker device) listed
      have rowId : row.eventId = pair.1.eventId :=
        Uuid.text_injective (named.symm.trans faithful.eventId)
      have keyed := (held.owner coalesceKey row stored rowId).1
      refine eq_of_bare ?_ ?_
      · rw [rebuilds.alike coalesceKey row stored event (Or.inr (Or.inr ⟨ack, answered⟩))
          (eventId.trans named), rebuilds.alike coalesceKey row stored pair.2 (Or.inl zipped) named]
      · rw [keyed] at stored
        exact rebuilds.exchanged pair listed row stored rowId event ack answered
          (eventId.trans named)
    subst same
    refine ⟨ack, answered, inv.valid event ack answered, ?_⟩
    intro deviceId now middle acks changed looped
    obtain ⟨-, -, kept⟩ := Server.pushLoop_stored early world.server middle acks changed
      inv.linked.server.processed looped
    have still := kept account.userId event ack answered
    unfold Server.pushEvent
    dsimp only
    rw [still.answer]
    rfl
  · intro coalesceKey row stored apart sent ack answered named again built
    have drafted := pushEvent_draft shape rebuilds.versions
      (held_of_stored shape (show (world.devices device).profile.syncOutbox.get
        (OutboxEvent.mk row coalesceKey).coalesceKey = some row from stored)) stored rfl built
    rw [drafted]
    refine eq_of_bare ?_ ?_
    · exact (rebuilds.alike coalesceKey row stored sent (Or.inr (Or.inr ⟨ack, answered⟩))
        named).symm
    · rw [stamp_draft]
      exact (rebuilds.settled coalesceKey row stored apart sent ack answered named).symm

/-- In every run whose steps all leave the processed events as they were sent, the
retries of every Device are recognised in every state reached. -/
theorem retries_recognised (account : Account) (devices : List (String × String))
    (profileId : ι → Uuid) (deviceId : ι → String) (now : Int) (actions : List (Action ι))
    (last : World φ ι)
    (meets : Transition.Meets (System.step account)
      (fun (world : World φ ι) action => keepsEvents account world action)
      (World.initial account devices profileId deviceId now) actions)
    (reached : Transition.run (System.step account)
      (World.initial account devices profileId deviceId now) actions = some last) (device : ι) :
    RetriesRecognised account last device := by
  have keeps : ∀ (world : World φ ι) (action : Action ι) (next : World φ ι),
      RetryInv account world → keepsEvents account world action →
      System.step account world action = some next → RetryInv account next :=
    fun _ _ _ here condition taken => here.step condition taken
  have inv := Transition.run_keeps_of_meets keeps actions _ _
    (RetryInv.initial account devices profileId deviceId now) meets reached
  exact inv.recognised device

end World

section Runs

attribute [local instance] Sample.tables Sample.parser

/-- The word is favorited and its event committed, but the answer is lost. -/
def lostAnswer (between : List (Action Unit)) : List (Action Unit) :=
  [Action.call () (.query (Sample.gift 100) (Sample.eventId 1)),
    .call () (.favorite Sample.giftKey 101 (Sample.eventId 2)),
    .work () (.readBatch 102 100), .work () .buildBatch, .work () (.serverPush 103),
    .work () (.lose 104)] ++ between ++ [Action.work () (.readBatch 200000 100), .work () .buildBatch]

/-- What is evaluated of the retry, with and without a query before it. -/
theorem lostAnswer_runs :
    (Transition.run (System.step Sample.account) Sample.desk
      (lostAnswer [.call () (.query (Sample.gift 105) (Sample.eventId 3))])).any (fun last =>
        (last.devices ()).worker.request.head?.any (fun sent =>
          (Server.push Sample.account.maxSyncEventsPerBatch last.server Sample.account.userId
            "desk" (last.devices ()).worker.request 200001).2 =
            .error (.invalid "synchronization event is invalid") &&
          (last.server.processedSyncEvents.get ("user", sent.eventId)).any
            (fun row => row.eventFingerprint ≠ sent) &&
          ((last.devices ()).profile.syncOutbox.get (.favorite Sample.giftKey)).any
            (fun row => sent.eventId = row.eventId.text))) = true ∧
    (Transition.run (System.step Sample.account) Sample.desk (lostAnswer [])).any (fun last =>
        (last.devices ()).worker.request.map PushEvent.eventId = [(Sample.eventId 2).text] &&
          (last.server.processedSyncEvents.get ("user", (Sample.eventId 2).text)).isSome) =
      true ∧
    Transition.Meets (System.step Sample.account)
      (fun world action => keepsEvents Sample.account world action) Sample.desk
      (lostAnswer []) := by
  decide +kernel

/-- The word is favorited and its event committed, but the answer is lost; a query of
the word before the retry changes the counts the event is built with, and the server
takes the retry for another event. -/
theorem query_after_loss_is_refused :
    ∃ (actions : List (Action Unit)) (last : World PushEvent Unit) (events : List OutboxEvent)
      (request : List PushEvent),
      Transition.run (System.step Sample.account) Sample.desk actions = some last ∧
      (last.devices ()).worker = .pushing events request ∧
      (Server.push Sample.account.maxSyncEventsPerBatch last.server Sample.account.userId "desk"
        request 200001).2 = .error (.invalid "synchronization event is invalid") ∧
      ¬ RetriesRecognised Sample.account last () := by
  obtain ⟨last, reached, holds⟩ := (Option.any_eq_true _ _).mp lostAnswer_runs.1
  obtain ⟨sent, first, holds⟩ := (Option.any_eq_true _ _).mp holds
  obtain ⟨late, request⟩ := List.head?_eq_some_iff.mp first
  have sends : (last.devices ()).worker.request ≠ [] := by
    rw [request]
    exact List.cons_ne_nil sent late
  obtain ⟨events, waiting⟩ := Worker.pushing_of_request sends
  simp only [Bool.and_eq_true, decide_eq_true_eq, Option.any_eq_true] at holds
  obtain ⟨⟨reply, processed, found, differs⟩, row, stored, named⟩ := holds
  refine ⟨_, last, events, _, reached, waiting, reply, fun recognised => ?_⟩
  have seen : Server.Seen last.server Sample.account.userId sent.eventId := by
    show (last.server.processedSyncEvents.get ("user", sent.eventId)).isSome
    rw [found]
    rfl
  obtain ⟨ack, ⟨-, time, there⟩, -⟩ := recognised.answered events _ waiting [] sent late request _
    row stored named seen
  replace there : last.server.processedSyncEvents.get ("user", sent.eventId) = _ := there
  rw [found] at there
  rw [Option.some.inj there] at differs
  exact differs rfl

/-- The same run without the second query. -/
theorem retries_recognised_gift :
    ∃ (last : World PushEvent Unit) (events : List OutboxEvent) (request : List PushEvent),
      Transition.run (System.step Sample.account) Sample.desk
        [.call () (.query (Sample.gift 100) (Sample.eventId 1)),
          .call () (.favorite Sample.giftKey 101 (Sample.eventId 2)),
          .work () (.readBatch 102 100), .work () .buildBatch, .work () (.serverPush 103),
          .work () (.lose 104), .work () (.readBatch 200000 100),
          .work () .buildBatch] = some last ∧
      (last.devices ()).worker = .pushing events request ∧
      request.map PushEvent.eventId = [(Sample.eventId 2).text] ∧
      Server.Seen last.server Sample.account.userId (Sample.eventId 2).text ∧
      RetriesRecognised Sample.account last () := by
  obtain ⟨-, facts, meets⟩ := lostAnswer_runs
  obtain ⟨last, reached, holds⟩ := (Option.any_eq_true _ _).mp facts
  simp only [Bool.and_eq_true, decide_eq_true_eq] at holds
  have sends : (last.devices ()).worker.request ≠ [] := by
    intro empty
    simp [empty] at holds
  obtain ⟨events, waiting⟩ := Worker.pushing_of_request sends
  exact ⟨last, events, _, reached, waiting, holds.1, holds.2,
    retries_recognised _ _ _ _ _ _ last meets reached ()⟩

end Runs

end Lvos.System
