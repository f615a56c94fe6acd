import Lvos.System.ContentIdentity

set_option autoImplicit false

namespace Lvos.System

open Lvos.Core Lvos.Sync Lvos.Storage
open Desktop (SessionError EngineResult)
open Transaction (bind_ok_iff)

abbrev PageReply := Except SessionError ChangesResponse

def cursorOf (db : ProfileDb) : Nat := db.profileMeta.lastServerRevision

/-- An empty page at the cursor that announces more: it is accepted, and the same
request is made again. -/
def stalls (db : ProfileDb) : PageReply → Bool
  | .ok page => page.changes = [] && page.nextRevision = cursorOf db && page.hasMore &&
      page.nextRevision < page.latestRevision
  | .error _ => false

section Pull

variable [ContentTables]

/-- The loop of `pull_all` on the answers to its requests; `none` while it waits for
another one. -/
def pullAll (now : Int) : ProfileDb → List PageReply → Option (ProfileDb × EngineResult Unit)
  | _, [] => none
  | db, reply :: rest =>
      match Desktop.pullPage db reply now with
      | (db, .error reason) => some (db, .error reason)
      | (db, .ok false) => some (db, .ok ())
      | (db, .ok true) => pullAll now db rest

/-- A turn that goes on to another request. -/
def pullTurn (now : Int) (db : ProfileDb) (reply : PageReply) : Option ProfileDb :=
  match Desktop.pullPage db reply now with
  | (db, .ok true) => some db
  | _ => none

theorem pullTurn_some {now : Int} {db next : ProfileDb} {reply : PageReply} :
    pullTurn now db reply = some next ↔ Desktop.pullPage db reply now = (next, .ok true) := by
  unfold pullTurn
  split
  · rename_i after outcome
    rw [outcome]
    simp
  · rename_i others
    constructor
    · intro impossible
      cases impossible
    · intro outcome
      exact absurd outcome (others next)

/-- The changes of an accepted page number the revisions from the cursor on. -/
theorem applyRemoteLoop_count {nextRevision : Nat} {now : Int} :
    ∀ (changes : List SyncChange) (db next : ProfileDb) (expected reached : Nat),
      applyRemoteLoop nextRevision now db expected changes = .ok (next, reached) →
      reached = expected + changes.length := by
  intro changes
  induction changes with
  | nil =>
      intro db next expected reached success
      cases success
      simp
  | cons change rest ih =>
      intro db next expected reached success
      unfold applyRemoteLoop at success
      split at success
      · cases success
      · split at success
        · cases success
        · rename_i numbered
          obtain ⟨middle, -, tail⟩ := bind_ok_iff.mp success
          have later := ih middle next change.revision reached tail
          have first : change.revision = expected + 1 := by
            by_contra differs
            exact numbered (Or.inl differs)
          rw [later, first, List.length_cons]
          omega

/-- What an accepted page says of the cursor. -/
theorem applyRemotePage_cursor {db next : ProfileDb} {changes : List SyncChange}
    {nextRevision : Nat} {now : Int}
    (accepted : applyRemotePage db changes nextRevision now = (next, .ok ())) :
    cursorOf next = nextRevision ∧ nextRevision = cursorOf db + changes.length ∧
      nextRevision < i64Limit := by
  unfold applyRemotePage at accepted
  cases body : applyRemotePageBody changes nextRevision now db with
  | error reason =>
      rw [Transaction.atomically_of_error body] at accepted
      cases accepted
  | ok pair =>
      obtain ⟨after, done⟩ := pair
      rw [Transaction.atomically_of_ok body] at accepted
      cases accepted
      obtain ⟨last, looped, rfl⟩ := applyRemotePage_ok body
      refine ⟨rfl, applyRemoteLoop_count changes db last _ _ looped, ?_⟩
      by_contra large
      unfold applyRemotePageBody at body
      dsimp only at body
      split at body
      · cases body
      · rw [looped] at body
        simp [sqliteI64, large, bind, Except.bind] at body

/-- A turn that goes on took a page that announces more. -/
theorem pullPage_continues {now : Int} {db next : ProfileDb} {reply : PageReply}
    (goes : Desktop.pullPage db reply now = (next, .ok true)) :
    ∃ page, reply = .ok page ∧
      applyRemotePage db page.changes page.nextRevision now = (next, .ok ()) ∧
      page.hasMore = true ∧ page.nextRevision < page.latestRevision := by
  unfold Desktop.pullPage at goes
  split at goes
  · split at goes
    · cases goes
    · cases goes
  · rename_i page
    split at goes
    · cases goes
    · rename_i after outcome
      split at goes
      · cases goes
      · rename_i more
        split at goes
        · cases goes
        · rename_i below
          cases goes
          exact ⟨page, rfl, outcome, by simpa using more, by omega⟩

/-- The cursor after a turn that goes on. -/
theorem pullPage_cursor {now : Int} {db next : ProfileDb} {reply : PageReply}
    (goes : Desktop.pullPage db reply now = (next, .ok true)) :
    cursorOf db ≤ cursorOf next ∧ cursorOf next < i64Limit ∧
      (cursorOf next = cursorOf db → stalls db reply = true) := by
  obtain ⟨page, rfl, accepted, more, below⟩ := pullPage_continues goes
  obtain ⟨reached, counted, small⟩ := applyRemotePage_cursor accepted
  refine ⟨by omega, by omega, ?_⟩
  intro same
  have none : page.changes = [] := List.length_eq_zero_iff.mp (by omega)
  have stands : page.nextRevision = cursorOf db := by omega
  simp [stalls, none, ← stands, more, below]

/-- A stalling page is accepted and asked for again. -/
theorem pullPage_stalls {now : Int} {db : ProfileDb} {reply : PageReply}
    (small : cursorOf db < i64Limit) (stalled : stalls db reply = true) :
    ∃ next, Desktop.pullPage db reply now = (next, .ok true) ∧ cursorOf next = cursorOf db := by
  unfold stalls at stalled
  split at stalled
  · rename_i page
    simp only [Bool.and_eq_true, decide_eq_true_eq] at stalled
    obtain ⟨⟨⟨none, stands⟩, more⟩, below⟩ := stalled
    have body : applyRemotePageBody page.changes page.nextRevision now db =
        .ok (synchronizedAt (advanceCursor db page.nextRevision) now, ()) := by
      have limit : db.profileMeta.lastServerRevision < i64Limit := small
      replace stands : page.nextRevision = db.profileMeta.lastServerRevision := stands
      unfold applyRemotePageBody
      simp [none, stands, applyRemoteLoop, sqliteI64, limit, bind, Except.bind]
    refine ⟨synchronizedAt (advanceCursor db page.nextRevision) now, ?_, stands⟩
    have above : ¬ page.latestRevision ≤ page.nextRevision := by omega
    simp only [Desktop.pullPage, applyRemotePage, Transaction.atomically_of_ok body, more, above]
    simp
  · cases stalled

/-- The turns of a loop that goes on, none of which stalls. -/
theorem pullTurns_advance {now : Int} :
    ∀ (replies : List PageReply) (db last : ProfileDb),
      Transition.Meets (pullTurn now) (fun db reply => stalls db reply = false) db replies →
      Transition.run (pullTurn now) db replies = some last →
      cursorOf db + replies.length ≤ cursorOf last ∧
        (replies ≠ [] → cursorOf last < i64Limit) := by
  intro replies
  induction replies with
  | nil =>
      intro db last _ reached
      cases reached
      simp
  | cons reply rest ih =>
      intro db last meets reached
      unfold Transition.run at reached
      unfold Transition.Meets at meets
      cases taken : pullTurn now db reply with
      | none => simp [taken] at reached
      | some next =>
          simp only [taken] at reached meets
          obtain ⟨grows, small, stalled⟩ := pullPage_cursor (pullTurn_some.mp taken)
          obtain ⟨later, bounded⟩ := ih next last meets.2 reached
          have strict : cursorOf next ≠ cursorOf db := by
            intro same
            rw [stalled same] at meets
            cases meets.1
          refine ⟨by rw [List.length_cons]; omega, fun _ => ?_⟩
          cases rest with
          | nil =>
              cases reached
              exact small
          | cons other others => exact bounded (by simp)

/-- A loop that has not returned went on after every answer. -/
theorem pullAll_none {now : Int} : ∀ (replies : List PageReply) (db : ProfileDb),
    pullAll now db replies = none → ∃ last, Transition.run (pullTurn now) db replies = some last := by
  intro replies
  induction replies with
  | nil => exact fun db _ => ⟨db, rfl⟩
  | cons reply rest ih =>
      intro db waits
      unfold pullAll at waits
      split at waits
      · cases waits
      · cases waits
      · rename_i next outcome
        obtain ⟨last, reached⟩ := ih next waits
        refine ⟨last, ?_⟩
        unfold Transition.run
        rw [pullTurn_some.mpr outcome]
        exact reached

/-- `pull_all` on any answers: a turn that goes on has advanced the cursor exactly when
its page did not stall, and a loop none of whose pages stalls returns. -/
theorem pull_advances (now : Int) (db : ProfileDb) (small : cursorOf db < i64Limit) :
    (∀ reply, (∀ next, Desktop.pullPage db reply now = (next, .ok true) →
        cursorOf db < cursorOf next) ↔
      stalls db reply = false) ∧
    ∀ replies,
      Transition.Meets (pullTurn now) (fun db reply => stalls db reply = false) db replies →
      (∀ last, Transition.run (pullTurn now) db replies = some last →
        cursorOf db + replies.length ≤ cursorOf last ∧
          replies.length ≤ i64Limit - 1 - cursorOf db) ∧
      (u64Limit - 1 - cursorOf db ≤ replies.length →
        ∃ outcome, pullAll now db replies = some outcome) := by
  refine ⟨fun reply => ⟨fun advances => ?_, fun moves next goes => ?_⟩, fun replies meets => ?_⟩
  · by_contra stalled
    have holds : stalls db reply = true := by simpa using stalled
    obtain ⟨next, goes, same⟩ := @pullPage_stalls _ now _ _ small holds
    have strict := advances next goes
    omega
  · obtain ⟨grows, -, stalled⟩ := pullPage_cursor goes
    by_contra same
    rw [stalled (by omega)] at moves
    cases moves
  · have bounded : ∀ last, Transition.run (pullTurn now) db replies = some last →
        cursorOf db + replies.length ≤ cursorOf last ∧
          replies.length ≤ i64Limit - 1 - cursorOf db := by
      intro last reached
      obtain ⟨grows, limited⟩ := pullTurns_advance replies db last meets reached
      refine ⟨grows, ?_⟩
      cases replies with
      | nil => simp
      | cons reply rest =>
          have limit := limited (by simp)
          omega
    refine ⟨bounded, fun many => ?_⟩
    cases outcome : pullAll now db replies with
    | some result => exact ⟨result, rfl⟩
    | none =>
        obtain ⟨last, reached⟩ := pullAll_none replies db outcome
        have few := (bounded last reached).2
        have wide : i64Limit < u64Limit - 1 := by decide
        omega

/-- A server that repeats a stalling page is asked for ever. -/
theorem stalled_for_ever {now : Int} {reply : PageReply} :
    ∀ (count : Nat) (db : ProfileDb), cursorOf db < i64Limit → stalls db reply = true →
      pullAll now db (List.replicate count reply) = none := by
  intro count
  induction count with
  | zero => exact fun _ _ _ => rfl
  | succ count ih =>
      intro db small stalled
      obtain ⟨next, goes, same⟩ := @pullPage_stalls _ now _ _ small stalled
      have again : stalls next reply = true := by
        unfold stalls at stalled ⊢
        rw [same]
        exact stalled
      simp only [List.replicate_succ, pullAll, goes]
      exact ih next (same ▸ small) again

end Pull

section Runs

attribute [local instance] Sample.tables

/-- A page that announces a change and brings none. -/
def emptyPage : ChangesResponse := ⟨[], 0, 1, true⟩

/-- The empty page is accepted, the cursor stays, and however often it is sent the
loop asks again. -/
theorem empty_page_repeats :
    (∃ next, Desktop.pullPage deskProfile (.ok emptyPage) 100 = (next, .ok true) ∧
      cursorOf next = cursorOf deskProfile) ∧
    ∀ count, pullAll 100 deskProfile (List.replicate count (.ok emptyPage)) = none := by
  have small : cursorOf deskProfile < i64Limit := by decide
  have stalled : stalls deskProfile (.ok emptyPage) = true := by decide
  exact ⟨pullPage_stalls small stalled, fun count => stalled_for_ever count _ small stalled⟩

/-- A first page with one change of two. -/
def firstPage : ChangesResponse := ⟨[⟨1, .favoriteUpsert, giftRecord⟩], 1, 2, true⟩

theorem pull_advances_gift :
    ∃ next, Desktop.pullPage deskProfile (.ok firstPage) 100 = (next, .ok true) ∧
      cursorOf deskProfile < cursorOf next := by
  have goes : (Desktop.pullPage deskProfile (.ok firstPage) 100).2 = .ok true := by decide +kernel
  have small : cursorOf deskProfile < i64Limit := by decide
  exact ⟨_, Prod.ext rfl goes,
    ((pull_advances 100 deskProfile small).1 (.ok firstPage)).mpr (by decide +kernel) _ (Prod.ext rfl goes)⟩

end Runs

end Lvos.System
