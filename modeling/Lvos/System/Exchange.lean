import Lvos.Server.Delivery
import Lvos.Storage.Aggregates
import Lvos.System.Link

set_option autoImplicit false

namespace Lvos.System

open Lvos.Core Lvos.Sync Lvos.Storage
open Lvos.Server (ServerDb ServerInv LogInv Behind Evolves Reply Satisfies Current PageFacts
  EventFingerprint SyncConflict UuidParser ApiResult Stored)
open Transaction (bind_ok_iff)

/-- The events of one exchange: all held, no two of one row. -/
structure Batch (issued : List Uuid) (db : ProfileDb) (events : List OutboxEvent) : Prop where
  held : ∀ event ∈ events, Held issued db event
  keys : (events.map OutboxEvent.coalesceKey).Nodup
  ids : (events.map (fun event => event.eventId)).Nodup

/-- A batch and the request built from it. -/
structure Sent (issued : List Uuid) (db : ProfileDb) (events : List OutboxEvent)
    (request : List PushEvent) : Prop where
  batch : Batch issued db events
  pairs : List.Forall₂ (Faithful db) events request

theorem Batch.of_read {issued : List Uuid} {db : ProfileDb} {now : Int} {limit : Nat}
    {events : List OutboxEvent} (shape : Shape issued db)
    (success : readyOutboxEvents db now limit = .ok events) : Batch issued db events := by
  obtain ⟨-, stored, keys⟩ := readyOutboxEvents_ok success
  exact ⟨fun event member => held_of_stored shape (stored event member).1, keys,
    ids_nodup shape (fun event member => (stored event member).1) keys⟩

theorem Forall₂.imp_mem {α β : Type} {first second : α → β → Prop} {lefts : List α}
    {rights : List β} (all : List.Forall₂ first lefts rights)
    (step : ∀ left ∈ lefts, ∀ right, first left right → second left right) :
    List.Forall₂ second lefts rights := by
  induction all with
  | nil => exact .nil
  | cons head tail ih =>
      exact .cons (step _ List.mem_cons_self _ head)
        (ih (fun left member => step left (List.mem_cons_of_mem _ member)))

theorem Forall₂.mem_zip {α β : Type} {related : α → β → Prop} {lefts : List α}
    {rights : List β} (all : List.Forall₂ related lefts rights) :
    ∀ pair ∈ lefts.zip rights, related pair.1 pair.2 := by
  induction all with
  | nil => simp
  | cons head tail ih =>
      intro pair member
      rw [List.zip_cons_cons] at member
      rcases List.mem_cons.mp member with rfl | later
      · exact head
      · exact ih pair later

theorem Sent.of_built {issued : List Uuid} {db : ProfileDb} {events : List OutboxEvent}
    {request : List PushEvent} (batch : Batch issued db events) (shape : Shape issued db)
    (success : Desktop.buildEvents db events = .ok request) : Sent issued db events request :=
  ⟨batch, Forall₂.imp_mem (buildEvents_ok events request success)
    (fun event member _ built => faithful_of_built shape (batch.held event member) built)⟩

section Local

variable {input : Input} {issued more : List Uuid}
  {db next : ProfileDb} {events : List OutboxEvent} {request : List PushEvent}

theorem Batch.localMove (batch : Batch issued db events) (shape : Shape more db)
    (move : LocalMove input db next) (new : ∀ id, input.fresh id → id ∉ issued) :
    Batch issued next events :=
  ⟨fun event member => (batch.held event member).localMove shape move new, batch.keys, batch.ids⟩

theorem Sent.localMove (sent : Sent issued db events request) (shape : Shape more db)
    (move : LocalMove input db next) (new : ∀ id, input.fresh id → id ∉ issued) :
    Sent issued next events request :=
  ⟨sent.batch.localMove shape move new, Forall₂.imp_mem sent.pairs
    (fun event member _ faithful =>
      faithful.localMove (sent.batch.held event member) shape move new)⟩

theorem Batch.weaken (batch : Batch issued db events) (grows : ∀ id ∈ issued, id ∈ more) :
    Batch more db events :=
  ⟨fun event member => (batch.held event member).weaken grows, batch.keys, batch.ids⟩

/-- Two events of a request with one id are one event. -/
theorem Sent.ids (sent : Sent issued db events request) :
    (request.map PushEvent.eventId).Nodup := by
  have texts : request.map PushEvent.eventId = events.map (fun event => event.eventId.text) := by
    have pairs := sent.pairs
    clear sent
    induction pairs with
    | nil => rfl
    | cons head tail ih => rw [List.map_cons, List.map_cons, head.eventId, ih]
  have injective : (events.map (fun event => event.eventId.text)) =
      (events.map (fun event => event.eventId)).map Uuid.text := by
    rw [List.map_map]
    rfl
  rw [texts, injective]
  exact sent.batch.ids.map (fun _ _ same => Uuid.text_injective same)

theorem Faithful.isFavorite {event : OutboxEvent} {sent : PushEvent}
    (faithful : Faithful db event sent) :
    sent.operation ≠ .queryStatsUpsert ↔ isFavoriteOperation event.operation = true := by
  rw [faithful.operation]
  cases event.operation <;> simp [protocolOperation, isFavoriteOperation]

/-- The Favorite events of a request are about different contents. -/
theorem Sent.distinct (sent : Sent issued db events request) : Server.Distinct request := by
  refine ⟨?_, sent.ids⟩
  obtain ⟨⟨held, keys, -⟩, pairs⟩ := sent
  induction pairs with
  | nil => exact .nil
  | @cons event asked rest others head tail ih =>
      rw [List.map_cons, List.nodup_cons] at keys
      refine .cons ?_ (ih (fun other member => held other (List.mem_cons_of_mem _ member)) keys.2)
      intro other member sameKey
      by_contra apart
      obtain ⟨mine, theirs⟩ := not_or.mp apart
      obtain ⟨paired, listed, faithful⟩ := Transaction.related_of_mem_right tail other member
      have first := (held event List.mem_cons_self).favorite (head.isFavorite.mp mine)
      have second := (held paired (List.mem_cons_of_mem _ listed)).favorite
        (faithful.isFavorite.mp theirs)
      have equal : event.contentKey = paired.contentKey := by
        apply ContentKey.toHex_injective
        rw [← head.contentKey, ← faithful.contentKey]
        exact sameKey
      apply keys.1
      rw [first.1, equal, ← second.1]
      exact List.mem_map_of_mem listed

end Local

variable {φ : Type}

/-- An answer on its way, for one event of the request. -/
structure Answer (server : ServerDb φ) (userId : String) (cursor : Nat) (sent : PushEvent)
    (ack : PushAck) : Prop where
  eventId : ack.eventId = sent.eventId
  named : sent.operation ≠ .queryStatsUpsert → ack.entityRevision.isSome
  reply : sent.operation ≠ .queryStatsUpsert → Behind server userId cursor sent.contentKey ∨
    Reply (server.favorites.get (userId, sent.contentKey)) sent ack
  silent : sent.operation = .queryStatsUpsert → ack.entityRevision = none

/-- A conflict answer on its way: which event it is about, and the record the
server compared it with. -/
def Refused (server : ServerDb φ) (userId : String) (cursor : Nat) (request : List PushEvent)
    (conflict : SyncConflict) : Prop :=
  ∃ sent ∈ request, sent.operation ≠ .queryStatsUpsert ∧
    conflict.eventId = some sent.eventId ∧
    ∀ record, conflict.current = some record → record.contentKey = sent.contentKey ∧
      (Behind server userId cursor record.contentKey ∨ Current server userId record)

section Server

variable {server later : ServerDb φ} {userId : String} {cursor latest : Nat}

theorem Answer.evolves {sent : PushEvent} {ack : PushAck}
    (answer : Answer server userId cursor sent ack) (evolves : Evolves userId server later)
    (known : server.users.get userId = some latest) (low : cursor ≤ latest) :
    Answer later userId cursor sent ack := by
  refine ⟨answer.eventId, answer.named, ?_, answer.silent⟩
  intro favorite
  rcases answer.reply favorite with behind | reply
  · exact Or.inl (behind.evolves evolves)
  · rcases evolves.favorites sent.contentKey with same | news
    · exact Or.inr (same ▸ reply)
    · exact Or.inl (news cursor latest known low)

theorem Refused.evolves {request : List PushEvent} {conflict : SyncConflict}
    (refused : Refused server userId cursor request conflict)
    (evolves : Evolves userId server later) (known : server.users.get userId = some latest)
    (low : cursor ≤ latest) : Refused later userId cursor request conflict := by
  obtain ⟨sent, member, favorite, named, current⟩ := refused
  refine ⟨sent, member, favorite, named, fun record found => ?_⟩
  obtain ⟨keyed, answer⟩ := current record found
  exact ⟨keyed, Current.evolves answer evolves known low⟩

end Server

section Push

variable [DecidableEq φ] [EventFingerprint φ]

theorem answers_of_push {deviceId : String} {now : Int} {server next : ServerDb φ}
    {userId : String} {request : List PushEvent} {acks : List PushAck} {changed : Option Nat}
    (cursor : Nat) (inv : ServerInv server)
    (success : Server.pushLoop userId deviceId now request server = .ok (next, acks, changed)) :
    List.Forall₂ (Answer next userId cursor) request acks := by
  obtain ⟨-, stored, -⟩ := Server.pushLoop_stored request server next acks changed inv.processed
    success
  have nextInv := (Server.pushLoop_evolves userId inv success).1
  have length := Server.pushLoop_length request server next acks changed success
  rw [List.forall₂_iff_zip]
  refine ⟨length.symm, ?_⟩
  intro sent ack member
  have here := stored (sent, ack) member
  exact ⟨here.1, nextInv.named userId sent ack here,
    fun favorite => Or.inr (nextInv.replies userId sent ack here favorite),
    nextInv.silent userId sent ack here⟩

/-- The answer with the id of an event of the request is the one stored for it. -/
theorem Sent.answered {deviceId : String} {now : Int} {server next : ServerDb φ}
    {userId : String} {request : List PushEvent} {issued : List Uuid} {db : ProfileDb}
    {events : List OutboxEvent} {acks : List PushAck} {changed : Option Nat}
    (sent : Sent issued db events request) (inv : Server.ProcessedInv server)
    (success : Server.pushLoop userId deviceId now request server = .ok (next, acks, changed)) :
    ∀ event ∈ request, ∀ ack ∈ acks, ack.eventId = event.eventId →
      Stored next userId event ack := by
  intro event member ack listed named
  obtain ⟨-, stored, -⟩ := Server.pushLoop_stored request server next acks changed inv success
  have lengths := Server.pushLoop_length request server next acks changed success
  obtain ⟨other, zipped⟩ : ∃ other, (other, ack) ∈ request.zip acks := by
    have seconds : (request.zip acks).map Prod.snd = acks := List.map_snd_zip (by omega)
    rw [← seconds] at listed
    obtain ⟨entry, inside, rfl⟩ := List.mem_map.mp listed
    exact ⟨entry.1, inside⟩
  have kept := stored _ zipped
  have same : other = event := List.inj_on_of_nodup_map sent.ids (List.of_mem_zip zipped).1 member
    (kept.1.symm.trans named)
  rw [same] at kept
  exact kept

/-- The events before a Favorite event of the request have not moved its content. -/
theorem Sent.untouched {deviceId : String} {now : Int} {server middle : ServerDb φ}
    {userId : String} {request early late : List PushEvent} {event : PushEvent}
    {issued : List Uuid} {db : ProfileDb} {events : List OutboxEvent} {acks : List PushAck}
    {changed : Option Nat} (sent : Sent issued db events request)
    (whole : request = early ++ event :: late)
    (favorite : event.operation ≠ .queryStatsUpsert)
    (looped : Server.pushLoop userId deviceId now early server = .ok (middle, acks, changed)) :
    middle.favorites.get (userId, event.contentKey) =
      server.favorites.get (userId, event.contentKey) := by
  have alone : ∀ other ∈ early, other.contentKey = event.contentKey →
      other.operation = .queryStatsUpsert := by
    intro other member same
    have contents := sent.distinct.contents
    rw [whole] at contents
    exact ((List.pairwise_append.mp contents).2.2 other member event List.mem_cons_self
      same).resolve_right favorite
  exact Server.pushLoop_untouched event.contentKey early server middle acks changed alone looped

/-- The record a conflict answer carries is the server's row. -/
theorem refused_current {deviceId : String} {now : Int} {server middle : ServerDb φ}
    {userId : String} {request early late : List PushEvent} {event : PushEvent}
    {issued : List Uuid} {db : ProfileDb} {events : List OutboxEvent} {acks : List PushAck}
    {changed : Option Nat} {record : FavoriteRecord} (sent : Sent issued db events request)
    (whole : request = early ++ event :: late)
    (favorite : event.operation ≠ .queryStatsUpsert)
    (looped : Server.pushLoop userId deviceId now early server = .ok (middle, acks, changed))
    (found : Server.favoriteRecord middle userId event.contentKey = .ok (some record)) :
    record.contentKey = event.contentKey ∧ Current server userId record := by
  obtain ⟨keyed, row, aggregate, stored, equation⟩ := Server.current_of_found found
  refine ⟨keyed, row, aggregate, ?_, equation⟩
  rw [keyed] at stored ⊢
  rw [← sent.untouched whole favorite looped]
  exact stored

theorem refused_of_push {deviceId : String} {now : Int} {server : ServerDb φ}
    {userId : String} {request : List PushEvent} {conflict : SyncConflict} {issued : List Uuid}
    {db : ProfileDb} {events : List OutboxEvent} (cursor : Nat)
    (sent : Sent issued db events request)
    (failed : Server.pushLoop userId deviceId now request server = .error (.conflict conflict)) :
    Refused server userId cursor request conflict := by
  obtain ⟨early, event, late, middle, acks, changed, whole, looped, -, favorite, named, found, -⟩ :=
    Server.pushLoop_conflict request server failed
  refine ⟨event, by rw [whole]; simp, favorite, named, ?_⟩
  intro record same
  obtain ⟨keyed, current⟩ := refused_current sent whole favorite looped (same ▸ found)
  exact ⟨keyed, Or.inr current⟩

end Push

section Settle

variable {issued : List Uuid} {db : ProfileDb} {events : List OutboxEvent}
  {request : List PushEvent}

theorem findAcknowledgement_some {acks : List PushAck} {eventId : String} {ack : PushAck}
    (found : Desktop.findAcknowledgement acks eventId = some ack) :
    ack ∈ acks ∧ ack.eventId = eventId := by
  unfold Desktop.findAcknowledgement at found
  refine ⟨List.mem_reverse.mp (List.mem_of_find?_eq_some found), ?_⟩
  simpa using List.find?_some found

theorem pairAcknowledgements_ok {acks : List PushAck} :
    ∀ (pairs : List (OutboxEvent × PushEvent)) (items : List AcknowledgedEvent),
      Desktop.pairAcknowledgements acks pairs = .ok items →
      List.Forall₂ (fun pair item => item.event = pair.1 ∧ item.acknowledgement ∈ acks ∧
        item.acknowledgement.eventId = pair.1.eventId.text ∧
        item.sentQueryCount = pair.2.queryStats.map QueryStatsSnapshot.queryCount) pairs items := by
  intro pairs
  induction pairs with
  | nil =>
      intro items success
      cases success
      exact .nil
  | cons pair rest ih =>
      obtain ⟨event, sent⟩ := pair
      intro items success
      unfold Desktop.pairAcknowledgements at success
      split at success
      · cases success
      · rename_i ack found
        obtain ⟨others, tail, same⟩ := bind_ok_iff.mp success
        cases same
        obtain ⟨member, named⟩ := findAcknowledgement_some found
        exact .cons ⟨rfl, member, named, rfl⟩ (ih others tail)

theorem matchAcknowledgements_ok {acks : List PushAck} {items : List AcknowledgedEvent}
    (success : Desktop.matchAcknowledgements events request acks = .ok items) :
    List.Forall₂ (fun pair item => item.event = pair.1 ∧ item.acknowledgement ∈ acks ∧
      item.acknowledgement.eventId = pair.1.eventId.text ∧
      item.sentQueryCount = pair.2.queryStats.map QueryStatsSnapshot.queryCount)
      (events.zip request) items := by
  unfold Desktop.matchAcknowledgements at success
  split at success
  · cases success
  · split at success
    · cases success
    · exact pairAcknowledgements_ok _ _ success

theorem matchAcknowledgements_covers {acks : List PushAck} {items : List AcknowledgedEvent}
    (success : Desktop.matchAcknowledgements events request acks = .ok items) :
    ∀ event ∈ events, ∃ item ∈ items, item.event = event := by
  unfold Desktop.matchAcknowledgements at success
  split at success
  · cases success
  · rename_i lengths
    split at success
    · cases success
    · intro event member
      have fronts : (events.zip request).map Prod.fst = events :=
        List.map_fst_zip (by omega)
      rw [← fronts] at member
      obtain ⟨pair, listed, rfl⟩ := List.mem_map.mp member
      obtain ⟨item, found, same, -⟩ := Transaction.related_of_mem_left (pairAcknowledgements_ok _ items
        success) pair listed
      exact ⟨item, found, same⟩

theorem conflictedEvent_mem {conflict : Server.SyncConflict} {event : OutboxEvent}
    (chosen : Desktop.conflictedEvent events conflict = some event) :
    event ∈ events := by
  unfold Desktop.conflictedEvent at chosen
  split at chosen
  · rename_i found searched
    cases chosen
    obtain ⟨id, -, picked⟩ := Option.bind_eq_some_iff.mp searched
    exact List.mem_of_find?_eq_some picked
  · split at chosen
    · cases chosen
      simp
    · cases chosen

/-- The state a settled request event left on the server is the local one, as long
as the row still has the event's id. -/
theorem Faithful.agree {event : OutboxEvent} {sent : PushEvent} {row : OutboxRow}
    {remote : Option Server.FavoriteRow} (faithful : Faithful db event sent)
    (shape : Shape issued db) (held : Held issued db event)
    (favorite : isFavoriteOperation event.operation = true)
    (stored : db.syncOutbox.get (.favorite event.contentKey) = some row)
    (same : row.eventId = event.eventId) (satisfied : Satisfies sent remote) :
    Agree ((db.favorites.get event.contentKey).map (revised (Server.revisionOf remote)))
      remote := by
  have pending := shape.favorites event.contentKey row stored
  have operation := (held.owner _ row stored same).2
  unfold Satisfies at satisfied
  rw [faithful.operation] at satisfied
  cases named : event.operation with
  | queryStatsUpsert =>
      rw [named] at favorite
      cases favorite
  | favoriteUpsert =>
      rw [named] at satisfied
      obtain ⟨value, rfl, active, snapshot⟩ := satisfied
      obtain ⟨mine, here, alive, asked⟩ := faithful.still row stored same named
      rw [here]
      refine ⟨rfl, by simp [isActive, isActiveRemote, revised, alive, active], ?_⟩
      rintro after other ⟨⟩ ⟨⟩ -
      rw [asked] at snapshot
      exact Option.some.inj snapshot
  | favoriteDelete =>
      rw [named] at satisfied
      obtain ⟨value, rfl, gone⟩ := satisfied
      obtain ⟨time, marked⟩ := Option.isSome_iff_exists.mp gone
      rcases pending.state with ⟨upsert, -⟩ | ⟨-, mine, here, dead⟩
      · rw [operation, named] at upsert
        cases upsert
      · obtain ⟨moment, buried⟩ := Option.isSome_iff_exists.mp dead
        rw [here]
        refine ⟨rfl, by simp [isActive, isActiveRemote, revised, buried, marked], ?_⟩
        rintro after other ⟨⟩ ⟨⟩ alive
        rw [revised, buried] at alive
        cases alive

theorem acknowledgeable_of_answer {server : ServerDb φ} {userId : String} {cursor : Nat}
    {event : OutboxEvent} {sent : PushEvent} {ack : PushAck} (shape : Shape issued db)
    (held : Held issued db event) (faithful : Faithful db event sent)
    (answer : Answer server userId cursor sent ack) :
    Acknowledgeable server userId cursor db event ack.entityRevision := by
  refine ⟨fun coalesceKey row stored same => (held.owner coalesceKey row stored same).1, ?_, ?_, ?_⟩
  · intro favorite
    exact ⟨(held.favorite favorite).1, answer.named (faithful.isFavorite.mpr favorite)⟩
  · intro stats
    refine ⟨answer.silent ?_, held.stats stats⟩
    by_contra favorite
    rw [faithful.isFavorite.mp favorite] at stats
    cases stats
  · intro revision named
    have favorite : sent.operation ≠ .queryStatsUpsert := by
      intro stats
      rw [answer.silent stats] at named
      cases named
    have operation := faithful.isFavorite.mp favorite
    rw [← faithful.contentKey]
    rcases answer.reply favorite with behind | reply
    · exact Or.inl behind
    · refine Or.inr (fun equal => ?_)
      have base : sent.baseEntityRevision =
          Storage.revisionOf (db.favorites.get event.contentKey) := by
        rw [faithful.base, (held.favorite operation).2]
        rfl
      -- The row has not moved past the event, so the answer still describes it.
      rcases reply with passed | ⟨-, satisfied, answered⟩
      · omega
      · rw [named] at answered
        obtain rfl := Option.some.inj answered
        refine ⟨rfl, fun row stored same => ?_⟩
        exact faithful.agree shape held operation stored same satisfied

/-- The answers `match_acknowledgements` pairs up may be relied on. -/
theorem Sent.acknowledgeable {server : ServerDb φ} {userId : String} {cursor : Nat}
    {acks : List PushAck} {items : List AcknowledgedEvent} (shape : Shape issued db)
    (sent : Sent issued db events request)
    (answers : List.Forall₂ (Answer server userId cursor) request acks)
    (success : Desktop.matchAcknowledgements events request acks = .ok items) :
    (∀ item ∈ items, Acknowledgeable server userId cursor db item.event
      item.acknowledgement.entityRevision) ∧
      (items.map (fun item => item.event.coalesceKey)).Nodup := by
  have matched := matchAcknowledgements_ok success
  constructor
  · intro item member
    obtain ⟨pair, listed, same, found, named, -⟩ :=
      Transaction.related_of_mem_right matched item member
    have faithful := Forall₂.mem_zip sent.pairs pair listed
    have inside := List.of_mem_zip (show (pair.1, pair.2) ∈ _ from listed)
    -- The answer found by id is the one for this event of the request.
    obtain ⟨other, requested, answer⟩ :=
      Transaction.related_of_mem_right answers item.acknowledgement found
    have equal : other = pair.2 := by
      refine List.inj_on_of_nodup_map sent.ids requested inside.2 ?_
      rw [← answer.eventId, named, faithful.eventId]
    subst equal
    rw [same]
    exact acknowledgeable_of_answer shape (sent.batch.held pair.1 inside.1) faithful answer
  · have names : ∀ {pairs : List (OutboxEvent × PushEvent)} {others : List AcknowledgedEvent},
        List.Forall₂ (fun pair item => item.event = pair.1 ∧ item.acknowledgement ∈ acks ∧
          item.acknowledgement.eventId = pair.1.eventId.text ∧
          item.sentQueryCount = pair.2.queryStats.map QueryStatsSnapshot.queryCount)
          pairs others →
        others.map (fun item => item.event) = pairs.map Prod.fst := by
      intro pairs others all
      induction all with
      | nil => rfl
      | cons head tail ih => rw [List.map_cons, List.map_cons, ih, head.1]
    have listed : items.map (fun item => item.event) = events := by
      rw [names matched, List.map_fst_zip (by rw [sent.pairs.length_eq])]
    have keys := sent.batch.keys
    rw [← listed, List.map_map] at keys
    exact keys

/-- The event a conflict is resolved for is the one the server refused. -/
theorem Sent.chosen {conflict : SyncConflict} {event : OutboxEvent} {asked : PushEvent}
    (sent : Sent issued db events request) (requested : asked ∈ request)
    (named : conflict.eventId = some asked.eventId)
    (chosen : Desktop.conflictedEvent events conflict = some event) :
    event ∈ events ∧ Faithful db event asked := by
  obtain ⟨origin, listed, faithful⟩ := Transaction.related_of_mem_right sent.pairs asked requested
  have found : events.find? (fun other => other.eventId.text = asked.eventId) = some origin := by
    cases outcome : events.find? (fun other => other.eventId.text = asked.eventId) with
    | none =>
        have differs := List.find?_eq_none.mp outcome origin listed
        simp [faithful.eventId] at differs
    | some other =>
        have same : other.eventId.text = asked.eventId := by
          simpa using List.find?_some outcome
        rw [faithful.eventId] at same
        rw [List.inj_on_of_nodup_map sent.batch.ids (List.mem_of_find?_eq_some outcome) listed
          (Uuid.text_injective same)]
  unfold Desktop.conflictedEvent at chosen
  rw [named, Option.bind_some, found] at chosen
  obtain rfl := Option.some.inj chosen
  exact ⟨listed, faithful⟩

theorem Sent.conflicted {server : ServerDb φ} {userId : String} {cursor : Nat}
    {conflict : SyncConflict} {event : OutboxEvent} (sent : Sent issued db events request)
    (refused : Refused server userId cursor request conflict)
    (chosen : Desktop.conflictedEvent events conflict = some event) :
    event ∈ events ∧ ∀ record, conflict.current = some record →
      record.contentKey = event.contentKey.toHex ∧
        (Behind server userId cursor event.contentKey.toHex ∨ Current server userId record) := by
  obtain ⟨asked, requested, -, named, current⟩ := refused
  obtain ⟨listed, faithful⟩ := sent.chosen requested named chosen
  refine ⟨listed, fun record here => ?_⟩
  obtain ⟨keyed, answer⟩ := current record here
  rw [← faithful.contentKey]
  exact ⟨keyed, by rw [← keyed]; exact answer⟩

/-- A refused event is a Favorite event, so its row is that of its content. -/
theorem Sent.conflictedKey {server : ServerDb φ} {userId : String} {cursor : Nat}
    {conflict : SyncConflict} {event : OutboxEvent} (sent : Sent issued db events request)
    (refused : Refused server userId cursor request conflict)
    (chosen : Desktop.conflictedEvent events conflict = some event) :
    event.coalesceKey = .favorite event.contentKey := by
  obtain ⟨asked, requested, favorite, named, -⟩ := refused
  obtain ⟨listed, faithful⟩ := sent.chosen requested named chosen
  exact ((sent.batch.held event listed).favorite (faithful.isFavorite.mp favorite)).1

/-- Handling an answer keeps the link with the server. -/
theorem DeviceInv.settleReply {server : ServerDb φ} {userId : String}
    {reply : ApiResult PushResponse} {now : Int} (device : DeviceInv server userId issued db)
    (sent : Sent issued db events request)
    (answered : ∀ response, reply = .ok response →
      List.Forall₂ (Answer server userId db.profileMeta.lastServerRevision) request
        response.acknowledgements)
    (refused : ∀ conflict, reply = .error (.conflict conflict) →
      Refused server userId db.profileMeta.lastServerRevision request conflict) :
    DeviceInv server userId issued (settleReply db events request reply now) := by
  unfold System.settleReply
  split
  · rename_i response
    split
    · rename_i items matched
      unfold acknowledgeEvents
      cases body : acknowledgeBody items now db with
      | error reason =>
          rw [Transaction.atomically_of_error body]
          exact device
      | ok pair =>
          obtain ⟨next, done⟩ := pair
          rw [Transaction.atomically_of_ok body]
          obtain ⟨last, looped, rfl⟩ := acknowledgeBody_ok body
          obtain ⟨ready, distinct⟩ := sent.acknowledgeable device.shape
            (answered response rfl) matched
          exact (device.acknowledgeLoop (fun _ => True) ready distinct
            (fun _ _ _ _ _ _ _ _ => trivial) trivial looped).1.congr rfl rfl rfl
    · exact device
  · rename_i conflict
    split
    · rename_i event chosen
      unfold resolveConflict
      cases body : resolveConflictBody event conflict.current now db with
      | error reason =>
          rw [Transaction.atomically_of_error body]
          exact device
      | ok pair =>
          obtain ⟨next, resolution⟩ := pair
          rw [Transaction.atomically_of_ok body]
          have facts := (sent.conflicted (refused conflict rfl) chosen).2
          exact device.resolved (resolveConflictBody_ok body).2
            (fun record found => (facts record found).1)
            (fun record found => (facts record found).2)
    · exact device
  · exact device

/-- A lost exchange leaves everything but the sync state and the delays of its rows. -/
theorem retryLater_favorites (db : ProfileDb) (events : List OutboxEvent) (now : Int) :
    (Desktop.retryLater db events now).1.favorites = db.favorites ∧
      (Desktop.retryLater db events now).1.queryStats = db.queryStats ∧
      (Desktop.retryLater db events now).1.historyEntries = db.historyEntries ∧
      (Desktop.retryLater db events now).1.profileMeta.lastServerRevision =
        db.profileMeta.lastServerRevision ∧
      (Desktop.retryLater db events now).1.profileMeta.deviceId = db.profileMeta.deviceId :=
  @Desktop.retryLater_keeps (fun after => after.favorites = db.favorites ∧
      after.queryStats = db.queryStats ∧ after.historyEntries = db.historyEntries ∧
      after.profileMeta.lastServerRevision = db.profileMeta.lastServerRevision ∧
      after.profileMeta.deviceId = db.profileMeta.deviceId) db events now
    ⟨rfl, rfl, rfl, rfl, rfl⟩
    (fun retryAt _ => markRetry_favorites db events retryAt Desktop.serverUnavailable now)

theorem retryLater_rows (db : ProfileDb) (events : List OutboxEvent) (now : Int) :
    OutboxKept db (Desktop.retryLater db events now).1 :=
  Desktop.retryLater_keeps (.refl db)
    (fun retryAt _ => markRetry_rows db events retryAt Desktop.serverUnavailable now)

theorem DeviceInv.markRetry {server : ServerDb φ} {userId : String}
    (device : DeviceInv server userId issued db) (events : List OutboxEvent) (nextRetryAt : Int)
    (error : String) (now : Int) :
    DeviceInv server userId issued (markRetry db events nextRetryAt error now) := by
  obtain ⟨favorites, -, -, cursor, -⟩ := markRetry_favorites db events nextRetryAt error now
  refine ⟨device.shape.markRetry events nextRetryAt error now, ?_, ?_⟩
  · rw [cursor]
    exact device.cursor
  · intro key
    rw [cursor]
    refine (device.linked key).congr (by rw [favorites]) ?_
    intro idle
    rcases markRetry_get db events nextRetryAt error now (.favorite key) with
      ⟨absent, -⟩ | ⟨row, other, -, reached, -⟩
    · exact absent
    · rw [reached] at idle
      cases idle

theorem DeviceInv.retryLater {server : ServerDb φ} {userId : String}
    (device : DeviceInv server userId issued db) (events : List OutboxEvent) (now : Int) :
    DeviceInv server userId issued (Desktop.retryLater db events now).1 :=
  Desktop.retryLater_keeps device
    (fun retryAt _ => device.markRetry events retryAt Desktop.serverUnavailable now)

/-- A push answer moves the statistics by the aggregates it carries. -/
theorem settleReply_taken {allowed : ContentKey → AggregateQueryStats → Nat → Prop}
    {reply : ApiResult PushResponse} (now : Int) (sent : Sent issued db events request)
    (acknowledged : ∀ response, reply = .ok response → ∀ pair ∈ events.zip request,
      ∀ ack ∈ response.acknowledgements, ack.eventId = pair.2.eventId → ∀ aggregate,
      ack.aggregateQueryStats = some aggregate → allowed pair.1.contentKey aggregate
        ((pair.2.queryStats.map QueryStatsSnapshot.queryCount).getD 0))
    (refused : ∀ conflict, reply = .error (.conflict conflict) → ∀ record key aggregate,
      conflict.current = some record → record.contentKey = key.toHex →
      record.aggregateQueryStats = some aggregate → allowed key aggregate 0) :
    Taken allowed db (settleReply db events request reply now) := by
  unfold settleReply
  split
  · rename_i response
    split
    · rename_i items matched
      refine acknowledgeEvents_taken now db ?_
      intro item member aggregate brought
      obtain ⟨pair, listed, event, inside, named, count⟩ :=
        Transaction.related_of_mem_right (matchAcknowledgements_ok matched) item member
      have faithful := Forall₂.mem_zip sent.pairs pair listed
      rw [event, count]
      exact acknowledged response rfl pair listed item.acknowledgement inside
        (named.trans faithful.eventId.symm) aggregate brought
    · exact .refl allowed db
  · rename_i conflict
    split
    · exact resolveConflict_taken _ _ _ db (fun record key value current keyed brought =>
        refused conflict rfl record key value current keyed brought)
    · exact .refl allowed db
  · exact .refl allowed db

theorem settleReply_cursor (db : ProfileDb) (events : List OutboxEvent) (request : List PushEvent)
    (reply : ApiResult PushResponse) (now : Int) :
    (settleReply db events request reply now).profileMeta.lastServerRevision =
      db.profileMeta.lastServerRevision := by
  unfold settleReply
  split
  · split
    · exact acknowledgeEvents_cursor _ now db
    · rfl
  · split
    · exact (resolveConflict_profileMeta _ _ now db).2
    · rfl
  · rfl

end Settle

/-! The jobs of a worker on its own, whatever the network answers. -/

theorem fromDatabase_fst {τ ρ : Type} (finish : τ → ρ)
    (outcome : ProfileDb × StorageResult τ) : (Desktop.fromDatabase finish outcome).1 = outcome.1 := by
  unfold Desktop.fromDatabase
  split
  · rfl
  · rfl

theorem settlePush_kept (db : ProfileDb) (events : List OutboxEvent) (request : List PushEvent)
    (reply : Except Desktop.SessionError PushResponse) (now : Int) :
    OutboxKept db (Desktop.settlePush db events request reply now).1 := by
  unfold Desktop.settlePush
  split
  · split
    · exact .refl db
    · rw [fromDatabase_fst]
      exact acknowledgeEvents_rows _ _ _
  · split
    · exact .refl db
    · rw [fromDatabase_fst]
      exact resolveConflict_rows _ _ _ _
  · split
    · exact retryLater_rows _ _ _
    · split
      · exact .refl db
      · exact .refl db

theorem pullPage_kept [ContentTables] (db : ProfileDb)
    (reply : Except Desktop.SessionError ChangesResponse) (now : Int) :
    OutboxKept db (Desktop.pullPage db reply now).1 := by
  unfold Desktop.pullPage
  split
  · split
    · exact .refl db
    · exact .refl db
  · rename_i response
    have kept := applyRemotePage_rows db response.changes response.nextRevision now
    split
    · rename_i after reason applied
      rw [applied] at kept
      exact kept
    · rename_i after done applied
      rw [applied] at kept
      split
      · exact kept
      · split
        · exact kept
        · exact kept

end Lvos.System
