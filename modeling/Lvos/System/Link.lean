import Lvos.Server.Pages
import Lvos.System.Batch

set_option autoImplicit false

namespace Lvos.System

open Lvos.Core Lvos.Sync Lvos.Storage
open Lvos.Server (ServerDb ServerInv LogInv Behind Evolves Reply Satisfies Current PageFacts)

/-- A content is active on the server. -/
def isActiveRemote (row : Option Server.FavoriteRow) : Bool :=
  row.any (fun value => value.deletedAt.isNone)

/-- A Device and the server hold the same of one content: a missing row counts as
not active with revision 0. -/
structure Agree (favorite : Option Storage.FavoriteRow) (remote : Option Server.FavoriteRow) :
    Prop where
  revision : Storage.revisionOf favorite = Server.revisionOf remote
  active : isActive favorite = isActiveRemote remote
  snapshot : ∀ value row, favorite = some value → remote = some row → value.deletedAt = none →
    value.snapshot = row.favorite

theorem Agree.of_current {remote : Server.FavoriteRow} {record : FavoriteRecord}
    {contentKey : String} {aggregate : Option AggregateQueryStats}
    (same : record = Server.recordOf contentKey remote aggregate) :
    Agree (some (remoteRow record)) (some remote) := by
  subst same
  refine ⟨rfl, rfl, ?_⟩
  rintro value row ⟨⟩ ⟨⟩ -
  rfl

theorem isActive_revised (favorite : Option Storage.FavoriteRow) (revision : Nat) :
    isActive (favorite.map (revised revision)) = isActive favorite := by
  cases favorite <;> rfl

theorem Agree.revised {favorite : Option Storage.FavoriteRow} {remote : Option Server.FavoriteRow}
    (agree : Agree favorite remote) :
    Agree (favorite.map (revised (Server.revisionOf remote))) remote := by
  refine ⟨?_, by rw [isActive_revised]; exact agree.active, ?_⟩
  · cases favorite with
    | none => exact agree.revision
    | some value => rfl
  · intro value row here there active
    obtain ⟨old, same, rfl⟩ := Option.map_eq_some_iff.mp here
    exact agree.snapshot old row same there active

variable {φ : Type}

/-- The link between a profile and the server on one content: the log has news for
the profile's cursor, or the revisions are the same and a content without a
pending intent is settled. -/
def Linked (server : ServerDb φ) (userId : String) (cursor : Nat) (db : ProfileDb)
    (key : ContentKey) : Prop :=
  Behind server userId cursor key.toHex ∨
    (Storage.revisionOf (db.favorites.get key) =
        Server.revisionOf (server.favorites.get (userId, key.toHex)) ∧
      (db.syncOutbox.get (.favorite key) = none →
        Agree (db.favorites.get key) (server.favorites.get (userId, key.toHex))))

/-- What each Device keeps with the server. -/
structure DeviceInv (server : ServerDb φ) (userId : String) (issued : List Uuid)
    (db : ProfileDb) : Prop where
  shape : Shape issued db
  cursor : ∃ latest, server.users.get userId = some latest ∧
    db.profileMeta.lastServerRevision ≤ latest
  linked : ∀ key, Linked server userId db.profileMeta.lastServerRevision db key

theorem Linked.congr {server : ServerDb φ} {userId : String} {cursor : Nat}
    {db next : ProfileDb} {key : ContentKey} (linked : Linked server userId cursor db key)
    (favorites : next.favorites.get key = db.favorites.get key)
    (outbox : next.syncOutbox.get (.favorite key) = none →
      db.syncOutbox.get (.favorite key) = none) : Linked server userId cursor next key := by
  rcases linked with behind | ⟨revision, settled⟩
  · exact Or.inl behind
  · refine Or.inr ?_
    rw [favorites]
    exact ⟨revision, fun idle => settled (outbox idle)⟩

theorem Linked.evolves {server later : ServerDb φ} {userId : String} {cursor latest : Nat}
    {db : ProfileDb} {key : ContentKey} (linked : Linked server userId cursor db key)
    (evolves : Evolves userId server later) (known : server.users.get userId = some latest)
    (low : cursor ≤ latest) : Linked later userId cursor db key := by
  rcases evolves.favorites key.toHex with same | news
  · rcases linked with behind | rest
    · exact Or.inl (behind.evolves evolves)
    · refine Or.inr ?_
      rw [same]
      exact rest
  · exact Or.inl (news cursor latest known low)

theorem DeviceInv.evolves {server later : ServerDb φ} {userId : String} {issued : List Uuid}
    {db : ProfileDb} (inv : DeviceInv server userId issued db)
    (evolves : Evolves userId server later) : DeviceInv later userId issued db := by
  obtain ⟨latest, known, low⟩ := inv.cursor
  obtain ⟨top, there, below⟩ := evolves.users latest known
  exact ⟨inv.shape, ⟨top, there, Nat.le_trans low below⟩,
    fun key => (inv.linked key).evolves evolves known low⟩

/-- A server row at revision 0 is missing. -/
theorem absent_of_zero [Server.EventFingerprint φ] {server : ServerDb φ}
    (inv : ServerInv server) {key : String × String}
    (zero : Server.revisionOf (server.favorites.get key) = 0) :
    server.favorites.get key = none := by
  cases stored : server.favorites.get key with
  | none => rfl
  | some row =>
      have positive := inv.positive key row stored
      rw [stored, Server.revisionOf_some] at zero
      omega

section Local

variable [Server.EventFingerprint φ] {input : Input}
  {issued : List Uuid} {db next : ProfileDb} {server : ServerDb φ} {userId : String}

/-- A user's write keeps the link: it leaves an intent, or it was about a content
the server has never seen. -/
theorem Linked.keyMove {cursor : Nat} {key : ContentKey}
    (linked : Linked server userId cursor db key) (inv : ServerInv server)
    (move : KeyMove input.fresh key (db.favorites.get key) (next.favorites.get key)
      (db.syncOutbox.get (.favorite key)) (next.syncOutbox.get (.favorite key))) :
    Linked server userId cursor next key := by
  rcases linked with behind | ⟨revision, settled⟩
  · exact Or.inl behind
  · refine Or.inr ⟨move.revision.trans revision, ?_⟩
    -- A tombstone at revision 0 against a server without a row.
    have unsynced : ∀ value : Storage.FavoriteRow,
        Storage.revisionOf (db.favorites.get key) = 0 → value.deletedAt.isSome →
        value.entityRevision = 0 →
        Agree (some value) (server.favorites.get (userId, key.toHex)) := by
      intro value zero deleted reset
      have absent := absent_of_zero inv (revision.symm.trans zero)
      rw [absent]
      obtain ⟨time, marked⟩ := Option.isSome_iff_exists.mp deleted
      refine ⟨reset, by simp [isActive, isActiveRemote, marked], ?_⟩
      rintro other row ⟨⟩ impossible
      cases impossible
    intro idle
    cases move with
    | same favorites outbox =>
        rw [favorites]
        exact settled (outbox ▸ idle)
    | favorited value row inactive stored active canonical advanced queued =>
        rw [queued] at idle
        cases idle
    | archived value absent stored deleted reset outbox =>
        rw [stored]
        exact unsynced value (by rw [absent]; rfl) deleted reset
    | folded old value present active zero stored deleted reset dropped =>
        rw [stored]
        exact unsynced value (by rw [present]; exact zero) deleted reset
    | withdrawn old value row present active synced stored deleted kept queued =>
        rw [queued] at idle
        cases idle

theorem DeviceInv.localMove (device : DeviceInv server userId issued db)
    (inv : ServerInv server) (move : LocalMove input db next)
    (recorded : ∀ id, input.fresh id → id ∈ issued) : DeviceInv server userId issued next := by
  refine ⟨device.shape.localMove move recorded, ?_, ?_⟩
  · rw [move.profileMeta]
    exact device.cursor
  · intro key
    rw [move.profileMeta]
    exact (device.linked key).keyMove inv (move.keyMove device.shape.indexed key)

end Local

section Answers

variable {issued : List Uuid} {db next : ProfileDb} {server : ServerDb φ} {userId : String}

/-- What an answer may rely on when it is applied: the rows with the event's id,
and, unless the log has news, that a content whose revision is the server's
agrees with the server once the answer is applied. -/
structure Acknowledgeable (server : ServerDb φ) (userId : String) (cursor : Nat) (db : ProfileDb)
    (event : OutboxEvent) (answered : Option Nat) : Prop where
  owner : ∀ coalesceKey row, db.syncOutbox.get coalesceKey = some row →
    row.eventId = event.eventId → coalesceKey = event.coalesceKey
  favorite : isFavoriteOperation event.operation = true →
    event.coalesceKey = .favorite event.contentKey ∧ answered.isSome
  stats : isFavoriteOperation event.operation = false →
    answered = none ∧ ∃ deviceId, event.coalesceKey = .queryStats deviceId event.contentKey
  reply : ∀ revision, answered = some revision →
    Behind server userId cursor event.contentKey.toHex ∨
      (Storage.revisionOf (db.favorites.get event.contentKey) =
          Server.revisionOf (server.favorites.get (userId, event.contentKey.toHex)) →
        revision = Server.revisionOf (server.favorites.get (userId, event.contentKey.toHex)) ∧
        ∀ row, db.syncOutbox.get (.favorite event.contentKey) = some row →
          row.eventId = event.eventId →
          Agree ((db.favorites.get event.contentKey).map (revised revision))
            (server.favorites.get (userId, event.contentKey.toHex)))

theorem Acknowledgeable.key {cursor : Nat} {event : OutboxEvent} {answered : Option Nat}
    (ready : Acknowledgeable server userId cursor db event answered) (shape : Shape issued db)
    (table : Relational.Table ContentKey QueryStats) (key : ContentKey) :
    KeyAcknowledged event answered key (db.favorites.get key)
      ((acknowledged db event answered table).favorites.get key)
      (db.syncOutbox.get (.favorite key))
      ((acknowledged db event answered table).syncOutbox.get (.favorite key)) := by
  refine acknowledged_key db event answered table key ?_ ?_
  · intro row stored same
    have keyed := ready.owner _ row stored same
    cases operation : isFavoriteOperation event.operation with
    | true =>
        obtain ⟨named, present⟩ := ready.favorite operation
        rw [named] at keyed
        exact ⟨present, (CoalesceKey.favorite.inj keyed).symm⟩
    | false =>
        obtain ⟨-, deviceId, named⟩ := ready.stats operation
        rw [named] at keyed
        cases keyed
  · intro row stored
    have pending := shape.favorites key row stored
    exact ⟨pending.contentKey, pending.operation⟩

theorem Linked.acknowledged {cursor : Nat} {event : OutboxEvent} {answered : Option Nat}
    (ready : Acknowledgeable server userId cursor db event answered) (shape : Shape issued db)
    (table : Relational.Table ContentKey QueryStats) {key : ContentKey}
    (linked : Linked server userId cursor db key) :
    Linked server userId cursor (acknowledged db event answered table) key := by
  have view := ready.key shape table key
  cases view with
  | apart favorites outbox => exact linked.congr favorites (fun idle => outbox ▸ idle)
  | settled revision row keyed answer favorites queued same outbox =>
      subst keyed
      rcases ready.reply revision answer with behind | reply
      · exact Or.inl behind
      · rcases linked with behind | ⟨equal, -⟩
        · exact Or.inl behind
        · have agree := (reply equal).2 row queued same
          refine Or.inr ⟨?_, fun _ => ?_⟩
          · rw [favorites]
            exact agree.revision
          · rw [favorites]
            exact agree
  | newer revision keyed answer favorites others outbox =>
      subst keyed
      rcases ready.reply revision answer with behind | reply
      · exact Or.inl behind
      · rcases linked with behind | ⟨equal, settled⟩
        · exact Or.inl behind
        · have named := (reply equal).1
          subst named
          refine Or.inr ⟨?_, fun idle => ?_⟩
          · rw [favorites]
            cases stored : db.favorites.get event.contentKey with
            | none =>
                rw [stored] at equal
                exact equal
            | some value => rfl
          · rw [outbox, Option.map_eq_none_iff] at idle
            rw [favorites]
            exact (settled idle).revised

/-- Another event's answer is not disturbed: it is about another content, or
moves no favorites row. -/
theorem Acknowledgeable.acknowledged {cursor : Nat} {event other : OutboxEvent}
    {answered reply : Option Nat}
    (ready : Acknowledgeable server userId cursor db event answered)
    (later : Acknowledgeable server userId cursor db other reply) (shape : Shape issued db)
    (apart : other.coalesceKey ≠ event.coalesceKey)
    (table : Relational.Table ContentKey QueryStats) :
    Acknowledgeable server userId cursor (acknowledged db event answered table) other reply where
  owner := by
    intro coalesceKey row stored same
    obtain ⟨old, here, -, change⟩ := acknowledged_carried db event answered table stored
    have kept : row.eventId = old.eventId := by
      rcases change with rfl | ⟨revision, -, -, -, rfl⟩ <;> rfl
    exact later.owner coalesceKey old here (kept.symm.trans same)
  favorite := later.favorite
  stats := later.stats
  reply := by
    intro revision named
    have otherFavorite : isFavoriteOperation other.operation = true := by
      cases operation : isFavoriteOperation other.operation with
      | true => rfl
      | false =>
          rw [(later.stats operation).1] at named
          cases named
    have keyed := (later.favorite otherFavorite).1
    -- A second Favorite event of the same content would share its coalesce key.
    have distinct : ∀ value, answered = some value → other.contentKey ≠ event.contentKey := by
      intro value answer same
      cases operation : isFavoriteOperation event.operation with
      | true =>
          apply apart
          rw [keyed, (ready.favorite operation).1, same]
      | false =>
          rw [(ready.stats operation).1] at answer
          cases answer
    have view := ready.key shape table other.contentKey
    cases view with
    | apart favorites outbox =>
        rw [favorites, outbox]
        exact later.reply revision named
    | settled value row same answer => exact absurd same (distinct value answer)
    | newer value same answer => exact absurd same (distinct value answer)

theorem DeviceInv.congr (device : DeviceInv server userId issued db)
    (favorites : next.favorites = db.favorites) (outbox : next.syncOutbox = db.syncOutbox)
    (cursor : next.profileMeta.lastServerRevision = db.profileMeta.lastServerRevision) :
    DeviceInv server userId issued next := by
  refine ⟨device.shape.congr favorites outbox, ?_, ?_⟩
  · rw [cursor]
    exact device.cursor
  · intro key
    rw [cursor]
    exact (device.linked key).congr (by rw [favorites]) (by rw [outbox]; exact id)

/-- The loop of `acknowledge_events` over answers that may be relied on, with
whatever else every turn keeps. -/
theorem DeviceInv.acknowledgeLoop {now : Int} {items : List AcknowledgedEvent}
    (extra : ProfileDb → Prop) (device : DeviceInv server userId issued db)
    (ready : ∀ item ∈ items, Acknowledgeable server userId db.profileMeta.lastServerRevision db
      item.event item.acknowledgement.entityRevision)
    (distinct : (items.map (fun item => item.event.coalesceKey)).Nodup)
    (turn : ∀ item ∈ items, ∀ db table, DeviceInv server userId issued db →
      Acknowledgeable server userId db.profileMeta.lastServerRevision db item.event
        item.acknowledgement.entityRevision → StatsKept db.queryStats table → extra db →
      extra (acknowledged db item.event item.acknowledgement.entityRevision table))
    (holds : extra db) (success : acknowledgeLoop now db items = .ok next) :
    DeviceInv server userId issued next ∧ extra next := by
  have chain := acknowledgeLoop_induct
    (fun rest db next => (∀ item ∈ rest, item ∈ items) → DeviceInv server userId issued db →
      (∀ item ∈ rest, Acknowledgeable server userId db.profileMeta.lastServerRevision db
        item.event item.acknowledgement.entityRevision) →
      (rest.map (fun item => item.event.coalesceKey)).Nodup → extra db →
      DeviceInv server userId issued next ∧ extra next)
    (fun _ _ here _ _ holds => ⟨here, holds⟩)
    (fun item rest db middle last turned tail inside here ready distinct holds => by
      obtain ⟨-, table, kept, equation⟩ := acknowledgeEvent_ok turned
      replace equation : middle = acknowledged db item.event
          item.acknowledgement.entityRevision table := equation
      subst equation
      have head := ready item List.mem_cons_self
      have profile := acknowledged_profileMeta db item.event
        item.acknowledgement.entityRevision table
      rw [List.map_cons, List.nodup_cons] at distinct
      refine tail (fun other member => inside other (List.mem_cons_of_mem _ member))
        ⟨here.shape.acknowledged _ _ _, ?_, ?_⟩ ?_ distinct.2
        (turn item (inside item List.mem_cons_self) db table here head kept holds)
      · rw [profile]
        exact here.cursor
      · intro key
        rw [profile]
        exact (here.linked key).acknowledged head here.shape table
      · intro other member
        rw [profile]
        refine head.acknowledged (ready other (List.mem_cons_of_mem _ member)) here.shape ?_ table
        intro same
        exact distinct.1 (List.mem_map.mpr ⟨other, member, same⟩))
    items db next success
  exact chain (fun _ member => member) device ready distinct holds

/-- A content that took over a record, or its revision. -/
theorem Linked.received {cursor : Nat} {record : FavoriteRecord} {key : ContentKey}
    (received : KeyReceived record (db.favorites.get key) (next.favorites.get key)
      (db.syncOutbox.get (.favorite key)) (next.syncOutbox.get (.favorite key)))
    (shape : Shape issued db) (keyed : record.contentKey = key.toHex)
    (current : Behind server userId cursor key.toHex ∨ Current server userId record) :
    Linked server userId cursor next key := by
  rcases current with behind | ⟨row, aggregate, stored, same⟩
  · exact Or.inl behind
  · rw [keyed] at stored
    refine Or.inr ?_
    rw [stored]
    cases received with
    | written favorites outbox =>
        have agree := Agree.of_current same
        rw [favorites]
        exact ⟨agree.revision, fun _ => agree⟩
    | adopted old other queued outbox favorites =>
        obtain ⟨value, present⟩ := (shape.favorites key old queued).present
        refine ⟨?_, fun idle => ?_⟩
        · rw [favorites, revisionOf_revised _ (by rw [present]; rfl), same]
          rfl
        · rw [outbox] at idle
          cases idle

theorem DeviceInv.resolved {event : OutboxEvent} {current : Option FavoriteRecord} {now : Int}
    {resolution : ConflictResolution} (device : DeviceInv server userId issued db)
    (resolved : Resolved db next event current now resolution)
    (keyed : ∀ record, current = some record → record.contentKey = event.contentKey.toHex)
    (answer : ∀ record, current = some record →
      Behind server userId db.profileMeta.lastServerRevision event.contentKey.toHex ∨
        Current server userId record) :
    DeviceInv server userId issued next := by
  refine ⟨device.shape.resolved resolved keyed, ?_, ?_⟩
  · rw [resolved.cursor.1]
    exact device.cursor
  · intro key
    rw [resolved.cursor.1]
    by_cases same : key = event.contentKey
    · subst same
      rcases resolved.key keyed with ⟨record, found, received⟩ | ⟨favorites, outbox⟩
      · exact Linked.received received device.shape (keyed record found) (answer record found)
      · refine (device.linked _).congr favorites ?_
        rw [outbox]
        exact Option.map_eq_none_iff.mp
    · refine (device.linked key).congr (resolved.favorites_apart keyed same) ?_
      rw [resolved.outbox_apart (by simpa using same)]
      exact id

end Answers

section Pages

variable {server later : ServerDb φ} {userId : String}

/-- A page on its way, against the server as it is now. -/
structure PageInv (server : ServerDb φ) (userId : String) (cursor : Nat)
    (page : ChangesResponse) : Prop where
  ahead : cursor ≤ page.nextRevision
  bounded : ∃ latest, server.users.get userId = some latest ∧ page.nextRevision ≤ latest
  covered : ∀ revision row, cursor < revision → revision ≤ page.nextRevision →
    server.changeLog.get (userId, revision) = some row →
    ∃ change ∈ page.changes, change.favorite.contentKey = row.contentKey
  current : ∀ change ∈ page.changes,
    Behind server userId page.nextRevision change.favorite.contentKey ∨
      Current server userId change.favorite

theorem PageInv.of_facts {cursor : Nat} {page : ChangesResponse}
    (facts : PageFacts server userId cursor page) : PageInv server userId cursor page :=
  ⟨facts.ahead, facts.bounded, facts.covered, fun change member =>
    Or.inr (facts.current change member)⟩

theorem Current.evolves {record : FavoriteRecord} {cursor latest : Nat}
    (current : Behind server userId cursor record.contentKey ∨ Current server userId record)
    (evolves : Evolves userId server later) (known : server.users.get userId = some latest)
    (low : cursor ≤ latest) :
    Behind later userId cursor record.contentKey ∨ Current later userId record := by
  rcases current with behind | ⟨row, aggregate, stored, same⟩
  · exact Or.inl (behind.evolves evolves)
  · rcases evolves.favorites record.contentKey with unmoved | news
    · exact Or.inr ⟨row, aggregate, unmoved.trans stored, same⟩
    · exact Or.inl (news cursor latest known low)

theorem PageInv.evolves {cursor : Nat} {page : ChangesResponse}
    (inv : PageInv server userId cursor page) (log : LogInv server)
    (evolves : Evolves userId server later) : PageInv later userId cursor page := by
  obtain ⟨latest, known, bound⟩ := inv.bounded
  obtain ⟨top, there, below⟩ := evolves.users latest known
  refine ⟨inv.ahead, ⟨top, there, Nat.le_trans bound below⟩, ?_, ?_⟩
  · intro revision row above inside found
    -- The log below the old revision was complete, so the entry is an old one.
    obtain ⟨old, stored⟩ := Option.isSome_iff_exists.mp
      (log.complete userId latest revision known (by omega) (Nat.le_trans inside bound))
    have kept := evolves.log revision old stored
    rw [found] at kept
    cases kept
    exact inv.covered revision row above inside stored
  · intro change member
    exact Current.evolves (inv.current change member) evolves known bound

variable [ContentTables] {issued : List Uuid} {db next : ProfileDb}

/-- Applying a page links every content to the server at the page's cursor. -/
theorem DeviceInv.page {page : ChangesResponse} {now : Int}
    (device : DeviceInv server userId issued db)
    (inv : PageInv server userId db.profileMeta.lastServerRevision page)
    (success : applyRemotePageBody page.changes page.nextRevision now db = .ok (next, ())) :
    DeviceInv server userId issued next := by
  obtain ⟨last, looped, rfl⟩ := applyRemotePage_ok success
  -- Every content is linked at the new cursor, or a change of it is still to come.
  have chain := applyRemoteLoop_induct
    (fun changes db last => Shape issued db →
      (∀ change ∈ changes, Behind server userId page.nextRevision change.favorite.contentKey ∨
        Current server userId change.favorite) →
      (∀ key : ContentKey, (∃ change ∈ changes, change.favorite.contentKey = key.toHex) ∨
        Linked server userId page.nextRevision db key) →
      Shape issued last ∧ ∀ key, Linked server userId page.nextRevision last key)
    (fun _ shape _ linked => ⟨shape, fun key => (linked key).resolve_left (by simp)⟩)
    (fun change rest db middle last key keyed _ pulled tail shape current linked => by
      have mine : Linked server userId page.nextRevision middle key := by
        refine Linked.received pulled.key shape keyed ?_
        rw [← keyed]
        exact current change List.mem_cons_self
      refine tail (shape.pulled pulled)
        (fun other member => current other (List.mem_cons_of_mem _ member)) ?_
      intro other
      by_cases same : other = key
      · subst same
        exact Or.inr mine
      · rcases linked other with ⟨found, member, named⟩ | before
        · rcases List.mem_cons.mp member with rfl | later
          · exact absurd (ContentKey.toHex_injective (named.symm.trans keyed)) same
          · exact Or.inl ⟨found, later, named⟩
        · refine Or.inr (before.congr (pulled.favorites_apart same) ?_)
          rw [pulled.outbox_apart (by simpa using same)]
          exact id)
    page.changes db last _ _ looped
  obtain ⟨shape, linked⟩ := chain device.shape inv.current (by
    intro key
    rcases device.linked key with ⟨revision, row, above, found, keyed⟩ | rest
    · by_cases inside : revision ≤ page.nextRevision
      · obtain ⟨change, member, named⟩ := inv.covered revision row above inside found
        exact Or.inl ⟨change, member, named.trans keyed⟩
      · exact Or.inr (Or.inl ⟨revision, row, Nat.lt_of_not_le inside, found, keyed⟩)
    · exact Or.inr (Or.inr rest))
  exact ⟨shape.congr rfl rfl, inv.bounded, linked⟩

end Pages

end Lvos.System
