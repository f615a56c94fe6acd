import Lvos.Server.ChangeLog

set_option autoImplicit false

namespace Lvos.Server

open Lvos.Sync
open Relational (Table)
open Transaction (bind_ok_iff)

variable {φ : Type} [DecidableEq φ] [EventFingerprint φ]

/-- The event is in `processed_sync_events`, with this content. -/
def isCommitted (db : ServerDb φ) (userId : String) (event : PushEvent) : Bool :=
  (db.processedSyncEvents.get (userId, event.eventId)).any
    (fun row => row.eventFingerprint = eventFingerprint event)

/-- The batch without the events committed before it and without repetitions. -/
def newEvents (db : ServerDb φ) (userId : String) :
    List PushEvent → List PushEvent → List PushEvent
  | _, [] => []
  | earlier, event :: rest =>
      if isCommitted db userId event || event ∈ earlier then newEvents db userId earlier rest
      else event :: newEvents db userId (event :: earlier) rest

def withoutDuplicates (db : ServerDb φ) : Action → Action
  | .push userId deviceId events now =>
      .push userId deviceId (newEvents db userId [] events) now
  | .setState userId contentKey active baseEntityRevision now =>
      .setState userId contentKey active baseEntityRevision now

def withoutDuplicatesAll : ServerDb φ → List Action → List Action
  | _, [] => []
  | db, action :: rest => withoutDuplicates db action :: withoutDuplicatesAll (serve db action) rest

/-- The acknowledgements a request returns, each with its user and event. -/
def answers (db : ServerDb φ) : Action → List (String × PushEvent × PushAck)
  | .push userId deviceId events now =>
      match (pushEvents db userId deviceId events now).2 with
      | .error _ => []
      | .ok result => (events.zip result.value.acknowledgements).map (fun pair => (userId, pair))
  | .setState _ _ _ _ _ => []

def answersAll : ServerDb φ → List Action → List (String × PushEvent × PushAck)
  | _, [] => []
  | db, action :: rest => answers db action ++ answersAll (serve db action) rest

/-- The table holds this acknowledgement for this event. -/
def Stored (db : ServerDb φ) (userId : String) (event : PushEvent) (ack : PushAck) : Prop :=
  ack.eventId = event.eventId ∧ ∃ now,
    db.processedSyncEvents.get (userId, event.eventId) =
      some (ackRow event (eventFingerprint event) ack now)

/-- Every processed row was written by `store_ack` for an event of that id. -/
def ProcessedInv (db : ServerDb φ) : Prop :=
  ∀ userId eventId row, db.processedSyncEvents.get (userId, eventId) = some row →
    ∃ event ack now, event.eventId = eventId ∧ ack.eventId = eventId ∧
      row = ackRow event (eventFingerprint event) ack now

omit [DecidableEq φ] in
theorem ProcessedInv.stored {db : ServerDb φ} (inv : ProcessedInv db) {userId : String}
    {event : PushEvent} {row : ProcessedRow φ}
    (found : db.processedSyncEvents.get (userId, event.eventId) = some row)
    (fingerprint : row.eventFingerprint = eventFingerprint event) :
    ∃ ack, Stored db userId event ack := by
  obtain ⟨original, ack, now, named, acked, rfl⟩ := inv userId event.eventId row found
  obtain rfl : original = event := EventFingerprint.collisionFree fingerprint
  exact ⟨ack, acked, now, found⟩

theorem Stored.answer {db : ServerDb φ} {userId : String} {event : PushEvent} {ack : PushAck}
    (stored : Stored db userId event ack) :
    processedAck db userId event (eventFingerprint event) = .ok (some ack) := by
  obtain ⟨named, now, found⟩ := stored
  exact processedAck_ackRow found named

theorem Stored.unique {db : ServerDb φ} {userId : String} {event other : PushEvent}
    {ack another : PushAck} (first : Stored db userId event ack)
    (second : Stored db userId other another) (same : event.eventId = other.eventId) :
    event = other ∧ ack = another := by
  have left := first.answer
  have right := second.answer
  obtain ⟨-, now, found⟩ := first
  obtain ⟨-, later, foundOther⟩ := second
  have rows := found.symm.trans (same ▸ foundOther)
  have fingerprints : eventFingerprint event = (eventFingerprint other : φ) :=
    congrArg ProcessedRow.eventFingerprint (Option.some.inj rows)
  obtain rfl : event = other := EventFingerprint.collisionFree fingerprints
  rw [left] at right
  exact ⟨rfl, Option.some.inj (Except.ok.inj right)⟩

/-- A turn of the loop keeps every stored answer, and stores the one it returns. -/
theorem Pushed.stored {db next : ServerDb φ} {userId : String} {event : PushEvent} {now : Int}
    {outcome : EventOutcome} (pushed : Pushed db next userId event now outcome)
    (inv : ProcessedInv db) :
    ProcessedInv next ∧ Stored next userId event outcome.ack ∧
      ∀ owner old ack, Stored db owner old ack → Stored next owner old ack := by
  cases pushed with
  | duplicate row unchanged found fingerprint answer silent =>
      subst unchanged
      obtain ⟨ack, stored⟩ := inv.stored found fingerprint
      rw [stored.answer] at answer
      obtain rfl := Option.some.inj (Except.ok.inj answer)
      exact ⟨inv, stored, fun _ _ _ old => old⟩
  | applied middle unseen spec written =>
      subst written
      refine ⟨?_, ⟨spec.eventId, now, Table.get_put_self _ _ _⟩, ?_⟩
      · intro owner eventId row found
        rw [Table.get_put] at found
        split at found
        · rename_i hit
          obtain ⟨-, rfl⟩ := Prod.mk.inj hit
          exact ⟨event, outcome.ack, now, rfl, spec.eventId, (Option.some.inj found).symm⟩
        · exact inv owner eventId row found
      · rintro owner old ack ⟨named, time, found⟩
        refine ⟨named, time, ?_⟩
        rw [Table.get_put_of_ne _ _ ?_]
        · exact found
        · intro hit
          rw [hit, unseen] at found
          cases found

theorem Pushed.isCommitted {db next : ServerDb φ} {userId : String} {event : PushEvent}
    {now : Int} {outcome : EventOutcome} (pushed : Pushed db next userId event now outcome)
    (other : PushEvent) :
    isCommitted next userId other = (isCommitted db userId other || other = event) := by
  cases pushed with
  | duplicate row unchanged found fingerprint answer silent =>
      subst unchanged
      by_cases same : other = event
      · subst same
        simp [Server.isCommitted, found, fingerprint]
      · simp [same]
  | applied middle unseen spec written =>
      subst written
      by_cases same : other = event
      · subst same
        simp [Server.isCommitted, ackRow]
      · by_cases named : other.eventId = event.eventId
        · have differs : eventFingerprint event ≠ (eventFingerprint other : φ) :=
            fun equal => same (EventFingerprint.collisionFree equal).symm
          simp [Server.isCommitted, named, unseen, same, ackRow, differs]
        · have apart : (userId, other.eventId) ≠ (userId, event.eventId) := by simpa using named
          simp [Server.isCommitted, Table.get_put_of_ne _ _ apart, same]

theorem pushEvent_duplicate {db : ServerDb φ} (inv : ProcessedInv db) (userId deviceId : String)
    {event : PushEvent} (now : Int) (committed : isCommitted db userId event = true) :
    ∃ ack, pushEvent db userId deviceId event now = .ok (db, ⟨ack, none⟩) := by
  unfold isCommitted at committed
  cases found : db.processedSyncEvents.get (userId, event.eventId) with
  | none => simp [found] at committed
  | some row =>
      have fingerprint : row.eventFingerprint = eventFingerprint event := by
        simpa [found] using committed
      obtain ⟨ack, stored⟩ := inv.stored found fingerprint
      refine ⟨ack, ?_⟩
      simp [pushEvent, stored.answer, bind, Except.bind]

/-- The loop on a batch and the loop on its new events end in the same tables
with the same changed revision, or in the same error. The two runs are in step:
`earlier` holds the events of the batch already applied on top of `base`. -/
theorem pushLoop_newEvents (base : ServerDb φ) (userId deviceId : String) (now : Int) :
    ∀ (events earlier : List PushEvent) (db : ServerDb φ), ProcessedInv db →
      (∀ event, isCommitted db userId event =
        (isCommitted base userId event || event ∈ earlier)) →
      (∀ next acks changed, pushLoop userId deviceId now events db = .ok (next, acks, changed) →
        ∃ fewer, pushLoop userId deviceId now (newEvents base userId earlier events) db =
          .ok (next, fewer, changed)) ∧
      ∀ reason, pushLoop userId deviceId now events db = .error reason →
        pushLoop userId deviceId now (newEvents base userId earlier events) db =
          .error reason := by
  intro events
  induction events with
  | nil =>
      intro earlier db _ _
      exact ⟨fun next acks changed success => ⟨acks, success⟩, fun reason failed => failed⟩
  | cons event rest ih =>
      intro earlier db inv tracks
      by_cases old : (isCommitted base userId event || event ∈ earlier) = true
      · obtain ⟨ack, recognised⟩ :=
          pushEvent_duplicate inv userId deviceId now ((tracks event).trans old)
        obtain ⟨kept, failed⟩ := ih earlier db inv tracks
        simp only [newEvents, old, ↓reduceIte]
        cases tail : pushLoop userId deviceId now rest db with
        | error reason =>
            refine ⟨?_, ?_⟩
            · intro next acks changed success
              simp [pushLoop, recognised, tail, bind, Except.bind] at success
            · intro other stopped
              have same : reason = other := by
                simpa [pushLoop, recognised, tail, bind, Except.bind] using stopped
              exact same ▸ failed reason tail
        | ok triple =>
            obtain ⟨last, acks, changed⟩ := triple
            refine ⟨?_, ?_⟩
            · intro next all latest success
              have same : last = next ∧ ack :: acks = all ∧ changed = latest := by
                simpa [pushLoop, recognised, tail, bind, Except.bind, maxRevision] using success
              obtain ⟨rfl, -, rfl⟩ := same
              exact kept last acks changed tail
            · intro reason stopped
              simp [pushLoop, recognised, tail, bind, Except.bind] at stopped
      · simp only [newEvents, old, Bool.false_eq_true, ↓reduceIte]
        cases head : pushEvent db userId deviceId event now with
        | error reason =>
            refine ⟨?_, ?_⟩
            · intro next acks changed success
              simp [pushLoop, head, bind, Except.bind] at success
            · intro other stopped
              simpa [pushLoop, head, bind, Except.bind] using stopped
        | ok pair =>
            obtain ⟨middle, outcome⟩ := pair
            have pushed := pushEvent_ok head
            have tracksNext : ∀ other, isCommitted middle userId other =
                (isCommitted base userId other || other ∈ event :: earlier) := by
              intro other
              rw [pushed.isCommitted, tracks]
              by_cases here : other = event <;> simp [here]
            obtain ⟨kept, failed⟩ := ih (event :: earlier) middle (pushed.stored inv).1 tracksNext
            cases tail : pushLoop userId deviceId now rest middle with
            | error reason =>
                refine ⟨?_, ?_⟩
                · intro next acks changed success
                  simp [pushLoop, head, tail, bind, Except.bind] at success
                · intro other stopped
                  have same : reason = other := by
                    simpa [pushLoop, head, tail, bind, Except.bind] using stopped
                  simp [pushLoop, head, failed reason tail, bind, Except.bind, same]
            | ok triple =>
                obtain ⟨last, acks, changed⟩ := triple
                obtain ⟨fewer, shorter⟩ := kept last acks changed tail
                refine ⟨?_, ?_⟩
                · intro next all latest success
                  have same : last = next ∧ outcome.ack :: acks = all ∧
                      maxRevision outcome.changedRevision changed = latest := by
                    simpa [pushLoop, head, tail, bind, Except.bind] using success
                  obtain ⟨rfl, -, rfl⟩ := same
                  exact ⟨outcome.ack :: fewer, by
                    simp [pushLoop, head, shorter, bind, Except.bind]⟩
                · intro reason stopped
                  simp [pushLoop, head, tail, bind, Except.bind] at stopped

theorem serve_withoutDuplicates {db : ServerDb φ} (inv : ProcessedInv db) (action : Action) :
    serve db (withoutDuplicates db action) = serve db action := by
  cases action with
  | setState userId contentKey active baseEntityRevision now => rfl
  | push userId deviceId events now =>
      obtain ⟨kept, failed⟩ := pushLoop_newEvents db userId deviceId now events [] db inv
        (fun event => by simp)
      simp only [withoutDuplicates, serve, pushEvents, Transaction.atomically, pushBody]
      cases looped : pushLoop userId deviceId now events db with
      | error reason => simp [failed reason looped, bind, Except.bind]
      | ok triple =>
          obtain ⟨next, acks, changed⟩ := triple
          obtain ⟨fewer, shorter⟩ := kept next acks changed looped
          cases latest : userRevision next userId with
          | error reason => simp [shorter, latest, bind, Except.bind]
          | ok revision => simp [shorter, latest, bind, Except.bind]

theorem pushLoop_stored {userId deviceId : String} {now : Int} :
    ∀ (events : List PushEvent) (db next : ServerDb φ) (acks : List PushAck)
      (changed : Option Nat), ProcessedInv db →
      pushLoop userId deviceId now events db = .ok (next, acks, changed) →
      ProcessedInv next ∧ (∀ pair ∈ events.zip acks, Stored next userId pair.1 pair.2) ∧
        ∀ owner old ack, Stored db owner old ack → Stored next owner old ack := by
  intro events
  induction events with
  | nil =>
      intro db next acks changed inv success
      obtain ⟨rfl, rfl⟩ := pushLoop_nil success
      exact ⟨inv, by simp, fun _ _ _ old => old⟩
  | cons event rest ih =>
      intro db next acks changed inv success
      obtain ⟨middle, outcome, later, tailChanged, head, tail, rfl⟩ := pushLoop_cons success
      obtain ⟨middleInv, storedHead, keptHead⟩ := head.stored inv
      obtain ⟨lastInv, storedTail, keptTail⟩ := ih middle next later tailChanged middleInv tail
      refine ⟨lastInv, ?_, fun owner old ack stored =>
        keptTail owner old ack (keptHead owner old ack stored)⟩
      intro pair member
      rw [List.zip_cons_cons] at member
      rcases List.mem_cons.mp member with rfl | member
      · exact keptTail userId event outcome.ack storedHead
      · exact storedTail pair member

theorem serve_stored {db : ServerDb φ} (inv : ProcessedInv db) (action : Action) :
    ProcessedInv (serve db action) ∧
      (∀ answer ∈ answers db action,
        Stored (serve db action) answer.1 answer.2.1 answer.2.2) ∧
      ∀ owner old ack, Stored db owner old ack → Stored (serve db action) owner old ack := by
  cases action with
  | setState userId contentKey active baseEntityRevision now =>
      have processed : (serve db (.setState userId contentKey active baseEntityRevision now)
          ).processedSyncEvents = db.processedSyncEvents := by
        simp only [serve, setFavoriteState]
        cases body : setStateBody userId contentKey active baseEntityRevision now db with
        | error reason => rw [Transaction.atomically_of_error body]
        | ok pair =>
            obtain ⟨next, result⟩ := pair
            rw [Transaction.atomically_of_ok body]
            exact (setStateBody_ok body).processed
      refine ⟨?_, by simp [answers], ?_⟩
      · intro owner eventId row found
        exact inv owner eventId row (processed ▸ found)
      · rintro owner old ack ⟨named, time, found⟩
        exact ⟨named, time, processed ▸ found⟩
  | push userId deviceId events now =>
      simp only [serve, pushEvents, answers]
      cases body : pushBody userId deviceId events now db with
      | error reason =>
          simp only [Transaction.atomically_of_error body]
          exact ⟨inv, by simp, fun _ _ _ old => old⟩
      | ok pair =>
          obtain ⟨next, result⟩ := pair
          simp only [Transaction.atomically_of_ok body]
          obtain ⟨nextInv, stored, kept⟩ := pushLoop_stored events db next _ _ inv (pushBody_ok body)
          refine ⟨nextInv, ?_, kept⟩
          intro answer member
          obtain ⟨pair, zipped, rfl⟩ := List.mem_map.mp member
          exact stored pair zipped

theorem serveAll_stored (actions : List Action) : ∀ db : ServerDb φ, ProcessedInv db →
    ProcessedInv (serveAll db actions) ∧
      (∀ answer ∈ answersAll db actions,
        Stored (serveAll db actions) answer.1 answer.2.1 answer.2.2) ∧
      ∀ owner old ack, Stored db owner old ack → Stored (serveAll db actions) owner old ack := by
  induction actions with
  | nil => intro db inv; exact ⟨inv, by simp [answersAll], fun _ _ _ old => old⟩
  | cons action rest ih =>
      intro db inv
      obtain ⟨here, stored, kept⟩ := serve_stored inv action
      obtain ⟨last, storedRest, keptRest⟩ := ih (serve db action) here
      refine ⟨last, ?_, fun owner old ack known =>
        keptRest owner old ack (kept owner old ack known)⟩
      intro answer member
      rcases List.mem_append.mp member with early | late
      · exact keptRest _ _ _ (stored answer early)
      · exact storedRest answer late

theorem serveAll_withoutDuplicates (actions : List Action) : ∀ db : ServerDb φ,
    ProcessedInv db → serveAll db (withoutDuplicatesAll db actions) = serveAll db actions := by
  induction actions with
  | nil => intro db _; rfl
  | cons action rest ih =>
      intro db inv
      have same := serve_withoutDuplicates inv action
      have tail := ih (serve db action) (serve_stored inv action).1
      simp only [serveAll, withoutDuplicatesAll, List.foldl_cons] at tail ⊢
      rw [same]
      exact tail

/-- The event carries the id of a committed event but another content. -/
def reusesId (db : ServerDb φ) (userId : String) (event : PushEvent) : Bool :=
  (db.processedSyncEvents.get (userId, event.eventId)).any
    (fun row => row.eventFingerprint ≠ eventFingerprint event)

theorem Pushed.reusesId {db next : ServerDb φ} {userId : String} {event other : PushEvent}
    {now : Int} {outcome : EventOutcome} (pushed : Pushed db next userId event now outcome)
    (reused : reusesId db userId other = true) : reusesId next userId other = true := by
  cases pushed with
  | duplicate row unchanged found fingerprint answer silent => exact unchanged ▸ reused
  | applied middle unseen spec written =>
      subst written
      have apart : (userId, other.eventId) ≠ (userId, event.eventId) := by
        intro hit
        simp [Server.reusesId, (Prod.mk.inj hit).2, unseen] at reused
      simpa [Server.reusesId, Table.get_put_of_ne _ _ apart] using reused

theorem pushLoop_reused {userId deviceId : String} {now : Int} {event : PushEvent} :
    ∀ (events : List PushEvent) (db : ServerDb φ), event ∈ events →
      reusesId db userId event = true →
      ∀ result, pushLoop userId deviceId now events db ≠ .ok result := by
  intro events
  induction events with
  | nil => intro db member; cases member
  | cons first rest ih =>
      rintro db member reused ⟨next, acks, changed⟩ success
      unfold pushLoop at success
      obtain ⟨⟨middle, outcome⟩, head, tailStep⟩ := bind_ok_iff.mp success
      obtain ⟨triple, tail, -⟩ := bind_ok_iff.mp tailStep
      have pushed := pushEvent_ok head
      rcases List.mem_cons.mp member with rfl | later
      · cases pushed with
        | duplicate row unchanged found fingerprint answer silent =>
            simp [reusesId, found, fingerprint] at reused
        | applied middle unseen spec written => simp [reusesId, unseen] at reused
      · exact ih middle later (pushed.reusesId reused) triple tail

/-- Exactly-once push: deleting from every batch the events that are already
committed changes no table, all acknowledgements ever returned for an event id
of a user are one and the same, and a batch that reuses a committed id for
another content is rolled back. -/
theorem push_exactlyOnce (userIds : List String) (devices : List (String × String))
    (actions : List Action) :
    let first : ServerDb φ := ServerDb.initial userIds devices
    let last := serveAll first actions
    serveAll first (withoutDuplicatesAll first actions) = last ∧
    (∀ userId event ack other another,
      (userId, event, ack) ∈ answersAll first actions →
      (userId, other, another) ∈ answersAll first actions →
      event.eventId = other.eventId → event = other ∧ ack = another) ∧
    (∀ userId deviceId events now, ∀ event ∈ events, reusesId last userId event = true →
      serve last (.push userId deviceId events now) = last) := by
  intro first last
  have empty : ProcessedInv first := by
    intro userId eventId row found
    cases found
  obtain ⟨-, stored, -⟩ := serveAll_stored actions first empty
  refine ⟨serveAll_withoutDuplicates actions first empty, ?_, ?_⟩
  · intro userId event ack other another answered again same
    exact (stored _ answered).unique (stored _ again) same
  · intro userId deviceId events now event member reused
    rcases Transaction.atomically_cases (pushBody userId deviceId events now) last with
      same | ⟨next, result, success, -⟩
    · exact same
    · exact absurd (pushBody_ok success) (pushLoop_reused events last member reused _)

/-- The reduction read literally: every event whose id is committed is deleted,
whatever its content. -/
def newIds (db : ServerDb φ) (userId : String) : List String → List PushEvent → List PushEvent
  | _, [] => []
  | earlier, event :: rest =>
      if (db.processedSyncEvents.get (userId, event.eventId)).isSome || event.eventId ∈ earlier then
        newIds db userId earlier rest
      else event :: newIds db userId (event.eventId :: earlier) rest

def withoutCommittedIdsAll : ServerDb φ → List Action → List Action
  | _, [] => []
  | db, .push userId deviceId events now :: rest =>
      .push userId deviceId (newIds db userId [] events) now ::
        withoutCommittedIdsAll (serve db (.push userId deviceId events now)) rest
  | db, action :: rest => action :: withoutCommittedIdsAll (serve db action) rest

/-- A second batch reuses the id of a committed event for another translation,
next to a new event. The batch is refused, so the new event is lost; with the
reused id deleted it would have been committed. -/
theorem reused_id_is_not_a_duplicate :
    let committed : PushEvent := {
      eventId := "0190b5a0-0000-7000-8000-000000000001"
      operation := .favoriteUpsert
      contentKey := "7df36909cc79f4ffaf2a7af514aa99728ece1c0bbd835c131d829fd5ac74c346"
      keyVersion := 1
      baseEntityRevision := 0
      favorite := some ⟨"word", "en", "zh-CN", "gift", "gift", "礼物", "tokenhub", 10, 10⟩
      queryStats := none }
    let reused : PushEvent := { committed with
      favorite := some ⟨"word", "en", "zh-CN", "gift", "gift", "天赋", "tokenhub", 10, 10⟩ }
    let fresh : PushEvent := { committed with
      eventId := "0190b5a0-0000-7000-8000-000000000002"
      contentKey := "83650dce90403ba72e2ed512fc2943896982f6193b174a67aa5aba9b5f6f9df7"
      favorite := some ⟨"word", "en", "zh-CN", "word", "word", "词", "tokenhub", 11, 11⟩ }
    let first : ServerDb PushEvent := ServerDb.initial ["u"] [("u", "d")]
    let actions : List Action := [.push "u" "d" [committed] 20, .push "u" "d" [reused, fresh] 21]
    serveAll first (withoutCommittedIdsAll first actions) ≠ serveAll first actions := by
  decide +kernel

end Lvos.Server
