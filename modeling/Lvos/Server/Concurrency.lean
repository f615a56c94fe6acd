import Lvos.Server.ChangeLog

set_option autoImplicit false

namespace Lvos.Server

open Lvos.Sync
open Relational (Table)
open Transaction (bind_ok_iff)

variable {φ : Type}

abbrev FavoriteTable := Table (String × String) FavoriteRow

/-- One operation of a committed request: an event of a batch or a state patch,
the revision its writer named and the favorites around it. -/
structure Committed where
  userId : String
  contentKey : String
  base : Nat
  before : FavoriteTable
  after : FavoriteTable

/-- The operation wrote the row of `key`. -/
def Committed.writes (operation : Committed) (key : String × String) : Bool :=
  operation.after.get key ≠ operation.before.get key

def Committed.revision (operation : Committed) (key : String × String) : Nat :=
  revisionOf (operation.after.get key)

/-- A writer changes its own row only, from the revision it named to the next. -/
def Committed.Guarded (operation : Committed) : Prop :=
  ∀ key, operation.after.get key ≠ operation.before.get key →
    key = (operation.userId, operation.contentKey) ∧
      revisionOf (operation.before.get key) = operation.base ∧
      revisionOf (operation.after.get key) = operation.base + 1

/-- The operations lead from one favorites table to another without a gap. -/
def Chain : FavoriteTable → List Committed → FavoriteTable → Prop
  | first, [], last => first = last
  | first, operation :: rest, last => operation.before = first ∧ Chain operation.after rest last

theorem Chain.append {first middle last : FavoriteTable} {early late : List Committed}
    (left : Chain first early middle) (right : Chain middle late last) :
    Chain first (early ++ late) last := by
  induction early generalizing first with
  | nil => exact left.symm ▸ right
  | cons operation rest ih => exact ⟨left.1, ih left.2⟩

/-- Guarded operations produce the revisions of a key one after the other. -/
theorem Chain.revisions (key : String × String) :
    ∀ (operations : List Committed) (first last : FavoriteTable),
      Chain first operations last → (∀ operation ∈ operations, operation.Guarded) →
      ∃ count, revisionOf (last.get key) = revisionOf (first.get key) + count ∧
        (operations.filter (fun operation => operation.writes key)).map
            (fun operation => operation.revision key) =
          List.range' (revisionOf (first.get key) + 1) count := by
  intro operations
  induction operations with
  | nil =>
      intro first last chain _
      obtain rfl : first = last := chain
      exact ⟨0, rfl, rfl⟩
  | cons operation rest ih =>
      intro first last chain guarded
      obtain ⟨rfl, tail⟩ := chain
      obtain ⟨count, reached, listed⟩ :=
        ih operation.after last tail (fun other member => guarded other (by simp [member]))
      by_cases written : operation.after.get key = operation.before.get key
      · have silent : operation.writes key = false := by simpa [Committed.writes] using written
        rw [written] at reached listed
        refine ⟨count, reached, ?_⟩
        rw [List.filter_cons_of_neg (by simp [silent])]
        exact listed
      · have loud : operation.writes key = true := by simpa [Committed.writes] using written
        obtain ⟨-, before, after⟩ := guarded operation (by simp) key written
        have step : revisionOf (operation.after.get key) =
            revisionOf (operation.before.get key) + 1 := by omega
        refine ⟨count + 1, by omega, ?_⟩
        have kept : (operation :: rest).filter (fun operation => operation.writes key) =
            operation :: rest.filter (fun operation => operation.writes key) := by
          simp [loud]
        rw [kept, List.map_cons, listed, step, List.range'_succ, Committed.revision, step]

theorem Move.changed {db next : ServerDb φ} {userId contentKey : String}
    {operation : SyncOperation} {now : Int} (move : Move db next userId contentKey operation now)
    {key : String × String} (written : next.favorites.get key ≠ db.favorites.get key) :
    key = (userId, contentKey) ∧
      revisionOf (next.favorites.get key) = revisionOf (db.favorites.get key) + 1 := by
  cases move with
  | quiet favorites users changeLog => exact absurd (by rw [favorites]) written
  | stats row present favorites log => exact absurd (by rw [favorites]) written
  | entity fresh advanced favorites log =>
      by_cases same : key = (userId, contentKey)
      · subst same
        rw [favorites, if_pos rfl, revisionOf_some]
        exact ⟨rfl, advanced⟩
      · rw [favorites, if_neg same] at written
        exact absurd rfl written

section Serve

variable [DecidableEq φ] [EventFingerprint φ]

/-- The operations of a batch, in the order of the loop. -/
def pushOperations (userId deviceId : String) (now : Int) :
    List PushEvent → ServerDb φ → List Committed
  | [], _ => []
  | event :: rest, db =>
      match pushEvent db userId deviceId event now with
      | .error _ => []
      | .ok (next, _) =>
          ⟨userId, event.contentKey, event.baseEntityRevision, db.favorites, next.favorites⟩ ::
            pushOperations userId deviceId now rest next

/-- The operations a request commits; none when it is rolled back. -/
def operations (db : ServerDb φ) : Action → List Committed
  | .push userId deviceId events now =>
      match (pushEvents db userId deviceId events now).2 with
      | .error _ => []
      | .ok _ => pushOperations userId deviceId now events db
  | .setState userId contentKey active baseEntityRevision now =>
      match (setFavoriteState db userId contentKey active baseEntityRevision now).2 with
      | .error _ => []
      | .ok _ => [⟨userId, contentKey, baseEntityRevision, db.favorites,
          (setFavoriteState db userId contentKey active baseEntityRevision now).1.favorites⟩]

def operationsAll : ServerDb φ → List Action → List Committed
  | _, [] => []
  | db, action :: rest => operations db action ++ operationsAll (serve db action) rest

/-- The error a request is answered with. -/
def refusal (db : ServerDb φ) : Action → Option SyncRepositoryError
  | .push userId deviceId events now =>
      match (pushEvents db userId deviceId events now).2 with
      | .error reason => some reason
      | .ok _ => none
  | .setState userId contentKey active baseEntityRevision now =>
      match (setFavoriteState db userId contentKey active baseEntityRevision now).2 with
      | .error reason => some reason
      | .ok _ => none

theorem serve_of_refusal {db : ServerDb φ} {action : Action} {reason : SyncRepositoryError}
    (refused : refusal db action = some reason) : serve db action = db := by
  cases action with
  | push userId deviceId events now =>
      simp only [refusal] at refused
      split at refused
      · rename_i failed
        exact Transaction.atomically_rolls_back failed
      · cases refused
  | setState userId contentKey active baseEntityRevision now =>
      simp only [refusal] at refused
      split at refused
      · rename_i failed
        exact Transaction.atomically_rolls_back failed
      · cases refused

theorem Pushed.guarded {db next : ServerDb φ} {userId : String} {event : PushEvent} {now : Int}
    {outcome : EventOutcome} (pushed : Pushed db next userId event now outcome) :
    Committed.Guarded
      ⟨userId, event.contentKey, event.baseEntityRevision, db.favorites, next.favorites⟩ := by
  intro key written
  obtain ⟨rfl, advanced⟩ := pushed.move.changed written
  cases pushed with
  | duplicate row unchanged stored fingerprint answer silent =>
      subst unchanged
      exact absurd rfl written
  | applied middle unseen spec stored =>
      subst stored
      have favorite : event.operation ≠ .queryStatsUpsert := by
        intro stats
        exact written (by rw [(spec.statsOnly stats).1])
      have named := spec.named favorite
      exact ⟨rfl, named, named ▸ advanced⟩

theorem pushOperations_spec {userId deviceId : String} {now : Int} :
    ∀ (events : List PushEvent) (db next : ServerDb φ) (acks : List PushAck)
      (changed : Option Nat),
      pushLoop userId deviceId now events db = .ok (next, acks, changed) →
      Chain db.favorites (pushOperations userId deviceId now events db) next.favorites ∧
        ∀ operation ∈ pushOperations userId deviceId now events db, operation.Guarded := by
  intro events
  induction events with
  | nil =>
      intro db next acks changed success
      have same := Except.ok.inj success
      simp only [Prod.mk.injEq] at same
      obtain ⟨rfl, -⟩ := same
      exact ⟨rfl, by simp [pushOperations]⟩
  | cons event rest ih =>
      intro db next acks changed success
      unfold pushLoop at success
      obtain ⟨⟨middle, outcome⟩, head, tailStep⟩ := bind_ok_iff.mp success
      obtain ⟨⟨last, tailAcks, tailChanged⟩, tail, same⟩ := bind_ok_iff.mp tailStep
      have same := Except.ok.inj same
      simp only [Prod.mk.injEq] at same
      obtain ⟨rfl, -, -⟩ := same
      obtain ⟨chain, guarded⟩ := ih middle last tailAcks tailChanged tail
      simp only [pushOperations, head]
      refine ⟨⟨rfl, chain⟩, ?_⟩
      intro operation member
      rcases List.mem_cons.mp member with rfl | member
      · exact (pushEvent_ok head).guarded
      · exact guarded operation member

theorem operations_spec (db : ServerDb φ) (action : Action) :
    Chain db.favorites (operations db action) (serve db action).favorites ∧
      ∀ operation ∈ operations db action, operation.Guarded := by
  cases action with
  | push userId deviceId events now =>
      unfold operations serve
      cases body : pushBody userId deviceId events now db with
      | error reason =>
          simp only [pushEvents, Transaction.atomically_of_error body]
          exact ⟨rfl, by simp⟩
      | ok pair =>
          obtain ⟨next, result⟩ := pair
          simp only [pushEvents, Transaction.atomically_of_ok body]
          exact pushOperations_spec events db next _ _ (pushBody_ok body)
  | setState userId contentKey active baseEntityRevision now =>
      unfold operations serve
      cases body : setStateBody userId contentKey active baseEntityRevision now db with
      | error reason =>
          simp only [setFavoriteState, Transaction.atomically_of_error body]
          exact ⟨rfl, by simp⟩
      | ok pair =>
          obtain ⟨next, result⟩ := pair
          simp only [setFavoriteState, Transaction.atomically_of_ok body]
          have spec := setStateBody_ok body
          refine ⟨⟨rfl, rfl⟩, ?_⟩
          intro operation member
          obtain rfl := List.mem_singleton.mp member
          intro key written
          obtain ⟨rfl, advanced⟩ := spec.move.changed written
          exact ⟨rfl, spec.named, spec.named ▸ advanced⟩

theorem operationsAll_spec (actions : List Action) : ∀ db : ServerDb φ,
    Chain db.favorites (operationsAll db actions) (serveAll db actions).favorites ∧
      ∀ operation ∈ operationsAll db actions, operation.Guarded := by
  induction actions with
  | nil => intro db; exact ⟨rfl, by simp [operationsAll]⟩
  | cons action rest ih =>
      intro db
      obtain ⟨chain, guarded⟩ := operations_spec db action
      obtain ⟨restChain, restGuarded⟩ := ih (serve db action)
      refine ⟨chain.append restChain, ?_⟩
      intro operation member
      rcases List.mem_append.mp member with here | later
      · exact guarded operation here
      · exact restGuarded operation later

/-- Optimistic concurrency over any pushes and state patches: the committed
operations account for every change of the favorites, each writes its own row
from the revision it named to the next one, the revisions of a key are produced
one after the other from 1 to the current one, and a request answered with a
conflict changes no table. -/
theorem favorites_optimistic (userIds : List String) (devices : List (String × String))
    (actions : List Action) :
    let first : ServerDb φ := ServerDb.initial userIds devices
    let last := serveAll first actions
    Chain first.favorites (operationsAll first actions) last.favorites ∧
    (∀ operation ∈ operationsAll first actions, operation.Guarded) ∧
    (∀ key, ((operationsAll first actions).filter (fun operation => operation.writes key)).map
        (fun operation => operation.revision key) =
      List.range' 1 (revisionOf (last.favorites.get key))) ∧
    (∀ action conflict, refusal last action = some (.conflict conflict) →
      serve last action = last) := by
  intro first last
  obtain ⟨chain, guarded⟩ := operationsAll_spec actions first
  refine ⟨chain, guarded, ?_, fun action conflict refused => serve_of_refusal refused⟩
  intro key
  obtain ⟨count, reached, listed⟩ := Chain.revisions key _ _ _ chain guarded
  have empty : revisionOf (first.favorites.get key) = 0 := rfl
  rw [empty, Nat.zero_add] at reached listed
  rw [listed, ← reached]

end Serve

end Lvos.Server
