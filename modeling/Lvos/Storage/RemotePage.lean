import Lvos.Storage.Coverage

set_option autoImplicit false

namespace Lvos.Storage

open Lvos.Core Lvos.Sync

/-! What a pulled page leaves alone, whatever it holds. -/

/-- A row keeps what only the Device itself counts and reports. -/
def KeepsOwnCounts (before after : Option QueryStats) : Prop :=
  ∀ stats, before = some stats → ∃ later, after = some later ∧
    later.deviceQueryCount = stats.deviceQueryCount ∧
    later.lastSyncedDeviceQueryCount = stats.lastSyncedDeviceQueryCount

theorem KeepsOwnCounts.refl (row : Option QueryStats) : KeepsOwnCounts row row :=
  fun stats stored => ⟨stats, stored, rfl, rfl⟩

theorem KeepsOwnCounts.trans {first second third : Option QueryStats}
    (before : KeepsOwnCounts first second) (after : KeepsOwnCounts second third) :
    KeepsOwnCounts first third := by
  intro stats stored
  obtain ⟨middle, here, count, synced⟩ := before stats stored
  obtain ⟨later, there, more, further⟩ := after middle here
  exact ⟨later, there, more.trans count, further.trans synced⟩

/-- An answer to no report leaves the watermark where it is. -/
theorem Refreshed.keepsOwnCounts {aggregate : Option AggregateQueryStats} {now : Int}
    {before after : Option QueryStats} (refreshed : Refreshed aggregate 0 now before after) :
    KeepsOwnCounts before after := by
  cases refreshed with
  | kept silent same =>
      rw [same]
      exact .refl before
  | started silent absent first stored =>
      intro stats present
      rw [absent] at present
      cases present
  | taken value brought stored =>
      intro stats present
      subst present stored
      exact ⟨_, rfl, rfl, Nat.max_zero _⟩

/-- The frame of a list of changes, from the tables before to those after. -/
structure ChangesFrame (changes : List SyncChange) (db next : ProfileDb) : Prop where
  outbox : OutboxKept db next
  historyEntries : next.historyEntries = db.historyEntries
  counts : ∀ key, KeepsOwnCounts (db.queryStats.get key) (next.queryStats.get key)
  favorites : ∀ key : ContentKey,
    (∀ change ∈ changes, change.favorite.contentKey ≠ key.toHex) →
    next.favorites.get key = db.favorites.get key

section Frame

variable [ContentTables] {db next : ProfileDb} {now : Int}

omit [ContentTables] in
theorem ChangesFrame.nil (db : ProfileDb) : ChangesFrame [] db db :=
  ⟨.refl db, rfl, fun _ => .refl _, fun _ _ => rfl⟩

theorem applyRemoteChange_frame {change : SyncChange}
    (success : applyRemoteChange db change now = .ok next) : ChangesFrame [change] db next := by
  obtain ⟨key, keyed, -, pulled⟩ := applyRemoteChange_ok success
  have moved := applyRemoteChange_moved keyed success
  refine ⟨pulled.rows, pulled.historyEntries, ?_, ?_⟩
  · intro other
    by_cases own : other = key
    · rw [own]
      exact moved.mine.keepsOwnCounts
    · rw [moved.apart other own]
      exact .refl _
  · intro other unnamed
    apply pulled.favorites_apart
    rintro rfl
    exact unnamed change (List.mem_singleton_self change) keyed

omit [ContentTables] in
theorem ChangesFrame.cons {change : SyncChange} {rest : List SyncChange} {middle : ProfileDb}
    (head : ChangesFrame [change] db middle) (tail : ChangesFrame rest middle next) :
    ChangesFrame (change :: rest) db next where
  outbox := head.outbox.trans tail.outbox
  historyEntries := tail.historyEntries.trans head.historyEntries
  counts key := (head.counts key).trans (tail.counts key)
  favorites := by
    intro key unnamed
    rw [List.forall_mem_cons] at unnamed
    rw [tail.favorites key unnamed.2]
    exact head.favorites key (by simpa using unnamed.1)

theorem applyRemoteLoop_frame {changes : List SyncChange} {nextRevision expected reached : Nat}
    (looped : applyRemoteLoop nextRevision now db expected changes = .ok (next, reached)) :
    ChangesFrame changes db next :=
  applyRemoteLoop_turns (fun changes db next => ChangesFrame changes db next) ChangesFrame.nil
    (fun _ _ _ _ _ head tail => (applyRemoteChange_frame head).cons tail)
    changes db next expected reached looped

/-- What a page that was applied does to the cursor, and what it leaves alone. -/
structure PageApplied (changes : List SyncChange) (nextRevision : Nat) (db next : ProfileDb) :
    Prop where
  cursor : next.profileMeta.lastServerRevision = nextRevision
  forward : db.profileMeta.lastServerRevision ≤ nextRevision
  frame : ChangesFrame changes db next

/-- A page is applied as a whole or leaves every table and the cursor as they were. -/
theorem applyRemotePage_frame (db : ProfileDb) (changes : List SyncChange) (nextRevision : Nat)
    (now : Int) :
    (∃ reason, applyRemotePage db changes nextRevision now = (db, .error reason)) ∨
      ∃ next, applyRemotePage db changes nextRevision now = (next, .ok ()) ∧
        PageApplied changes nextRevision db next := by
  unfold applyRemotePage
  cases body : applyRemotePageBody changes nextRevision now db with
  | error reason => exact Or.inl ⟨reason, Transaction.atomically_of_error body⟩
  | ok pair =>
      obtain ⟨next, ⟨⟩⟩ := pair
      refine Or.inr ⟨next, Transaction.atomically_of_ok body, ?_⟩
      have forward : db.profileMeta.lastServerRevision ≤ nextRevision := by
        by_contra backwards
        unfold applyRemotePageBody at body
        dsimp only at body
        rw [if_pos (Nat.lt_of_not_le backwards)] at body
        cases body
      obtain ⟨last, looped, rfl⟩ := applyRemotePage_ok body
      have framed := applyRemoteLoop_frame looped
      exact ⟨rfl, forward, framed.outbox, framed.historyEntries, framed.counts, framed.favorites⟩

end Frame

end Lvos.Storage
