import Lvos.Lib.Measure
import Lvos.Lib.Transition
import Lvos.Server.Login

set_option autoImplicit false

namespace Lvos.Server

open Lvos.Core
open Relational (Table)
open Transition (run Meets run_keeps_of_meets)

/-- How far a login has come: its check has passed, its password has been verified. -/
inductive LoginStage
  | checked
  | rejected
  | accepted
deriving DecidableEq, Repr

/-- A login between its check and what it records; `now` was read before the check. -/
structure LoginTask where
  request : LoginRequest
  now : Nat
  stage : LoginStage
deriving DecidableEq, Repr

/-- The limiter, the logins under way and, for each username, the verifications that
have failed since the limiter was last reset. -/
structure LoginWorld where
  clock : Nat
  attempts : LoginRateLimiter
  tasks : Table Nat LoginTask
  failed : String → Nat

inductive LoginStep
  | start (id : Nat) (request : LoginRequest) (now : Nat)
  -- `user` is what `user_by_username` has returned.
  | verify (id : Nat) (user : Option UserCredential)
  | conclude (id : Nat)
deriving DecidableEq, Repr

/-- The window of the bucket is over: the limiter drops it and starts anew. -/
def windowOver (found : Option AttemptBucket) (now windowSeconds : Int) : Bool :=
  match found with
  | none => false
  | some bucket => windowSeconds ≤ now - bucket.windowStartedAt

namespace LoginWorld

def resetIf (world : LoginWorld) (username : String) (ended : Bool) : String → Nat :=
  if ended then Function.update world.failed username 0 else world.failed

def isBlocked (limits : LoginLimits) (world : LoginWorld) (request : LoginRequest) (now : Nat) :
    LoginRateLimiter × Bool :=
  LoginRateLimiter.isBlocked world.attempts request.username now limits.maxFailures
    limits.windowSeconds

/-- The check; a refused login ends with it. -/
def check (limits : LoginLimits) (world : LoginWorld) (id : Nat) (request : LoginRequest)
    (now : Nat) : LoginWorld :=
  { clock := now
    attempts := (world.isBlocked limits request now).1
    tasks :=
      if (world.isBlocked limits request now).2 then world.tasks
      else world.tasks.put id ⟨request, now, .checked⟩
    failed := world.resetIf request.username
      (windowOver (world.attempts.get request.username) now limits.windowSeconds) }

def judge (world : LoginWorld) (id : Nat) (task : LoginTask) (accepted : Bool) : LoginWorld :=
  { world with
    tasks := world.tasks.put id { task with stage := if accepted then .accepted else .rejected }
    failed :=
      if accepted then world.failed
      else Function.update world.failed task.request.username
        (world.failed task.request.username + 1) }

def forget (world : LoginWorld) (id : Nat) : Table Nat LoginTask :=
  world.tasks.delete (fun key _ => decide (key = id))

/-- `record_failure` at the time the login read before its check. -/
def reject (limits : LoginLimits) (world : LoginWorld) (id : Nat) (task : LoginTask) :
    LoginWorld :=
  { world with
    attempts := world.attempts.recordFailure task.request.username task.now limits.windowSeconds
    tasks := world.forget id
    failed := world.resetIf task.request.username
      (windowOver (world.attempts.get task.request.username) task.now limits.windowSeconds) }

def accept (world : LoginWorld) (id : Nat) (task : LoginTask) : LoginWorld :=
  { world with
    attempts := world.attempts.clear task.request.username
    tasks := world.forget id
    failed := Function.update world.failed task.request.username 0 }

section Steps

variable [UuidParser] [PasswordVerifier]

def step (limits : LoginLimits) (dummyPasswordHash : String) (world : LoginWorld) :
    LoginStep → Option LoginWorld
  | .start id request now =>
      if world.tasks.get id ≠ none ∨ now < world.clock then none
      else
        match validateLoginRequest request with
        | .error _ => some { world with clock := now }
        | .ok _ => some (world.check limits id request now)
  | .verify id user =>
      match world.tasks.get id with
      | some task =>
          if task.stage = .checked then
            some (world.judge id task
              (acceptedUser dummyPasswordHash task.request.password user).isSome)
          else none
      | none => none
  | .conclude id =>
      match world.tasks.get id with
      | some task =>
          match task.stage with
          | .checked => none
          | .rejected => some (world.reject limits id task)
          | .accepted => some (world.accept id task)
      | none => none

end Steps

structure Starts (world : LoginWorld) : Prop where
  attempts : world.attempts = Table.empty
  tasks : world.tasks = Table.empty
  failed : ∀ username, world.failed username = 0

/-! The counts of one username. -/

/-- The failures the limiter holds against a username. -/
def failures (attempts : LoginRateLimiter) (username : String) : Nat :=
  ((attempts.get username).map AttemptBucket.failures).getD 0

def belongs (username : String) (task : LoginTask) : Nat :=
  if task.request.username = username then 1 else 0

def unrecorded (username : String) (task : LoginTask) : Nat :=
  if task.request.username = username ∧ task.stage = .rejected then 1 else 0

/-- The logins of a username between their check and what they record. -/
def inFlight (world : LoginWorld) (username : String) : Nat :=
  Table.total (belongs username) world.tasks

end LoginWorld

/-- A check passes only while the failures counted so far and the logins that have yet
to be counted leave room for one more failure. -/
def RoomLeft (limits : LoginLimits) (world : LoginWorld) : LoginStep → Prop
  | .start _ request now =>
      (world.isBlocked limits request now).2 = false →
        LoginWorld.failures (world.isBlocked limits request now).1 request.username +
          world.inFlight request.username < limits.maxFailures
  | _ => True

instance RoomLeft.decidable (limits : LoginLimits) (world : LoginWorld) (action : LoginStep) :
    Decidable (RoomLeft limits world action) := by
  unfold RoomLeft
  split <;> infer_instance

namespace LoginWorld

section Counts

variable {attempts : LoginRateLimiter} {username name : String} {now windowSeconds : Int}

theorem failures_isBlocked (maxFailures : Nat) :
    failures (attempts.isBlocked username now maxFailures windowSeconds).1 name =
      if name = username ∧ windowOver (attempts.get username) now windowSeconds = true then 0
      else failures attempts name := by
  unfold LoginRateLimiter.isBlocked windowOver failures
  cases found : attempts.get username with
  | none => simp
  | some bucket =>
      simp only
      by_cases ended : windowSeconds ≤ now - bucket.windowStartedAt
      · simp only [ended, ↓reduceIte, decide_true, and_true]
        rw [Table.get_delete_key]
        split <;> rfl
      · simp [ended]

/-- A window that is over blocks nobody. -/
theorem windowOver_of_blocked {maxFailures : Nat}
    (blocked : (attempts.isBlocked username now maxFailures windowSeconds).2 = true) :
    windowOver (attempts.get username) now windowSeconds = false := by
  unfold LoginRateLimiter.isBlocked at blocked
  unfold windowOver
  cases found : attempts.get username with
  | none => rfl
  | some bucket =>
      simp only [found] at blocked ⊢
      by_cases ended : windowSeconds ≤ now - bucket.windowStartedAt
      · simp [ended] at blocked
      · simpa using ended

theorem failures_recordFailure :
    failures (attempts.recordFailure username now windowSeconds) name =
      if name = username then
        if windowOver (attempts.get username) now windowSeconds = true then 1
        else min (failures attempts username + 1) (2 ^ 32 - 1)
      else failures attempts name := by
  unfold LoginRateLimiter.recordFailure failures
  rw [Table.get_put]
  split
  · unfold LoginRateLimiter.failedBucket windowOver
    cases attempts.get username with
    | none =>
        simp only [Option.getD_none, sub_self, Option.map_none, Option.map_some,
          Option.getD_some, Bool.false_eq_true, ↓reduceIte]
        split <;> rfl
    | some bucket =>
        simp only [Option.getD_some, Option.map_some, decide_eq_true_eq]
        split <;> rfl
  · rfl

theorem failures_clear :
    failures (attempts.clear username) name =
      if name = username then 0 else failures attempts name := by
  unfold LoginRateLimiter.clear failures
  rw [Table.get_delete_key]
  split <;> rfl

end Counts

theorem unrecorded_le_inFlight (world : LoginWorld) (username : String) :
    Table.total (unrecorded username) world.tasks ≤ world.inFlight username := by
  unfold inFlight Table.total
  apply List.sum_le_sum
  intro entry _
  unfold unrecorded belongs
  split <;> rename_i counted
  · rw [if_pos counted.1]
  · exact Nat.zero_le _

theorem weight_of_other {username : String} {task : LoginTask}
    (other : task.request.username ≠ username) :
    belongs username task = 0 ∧ unrecorded username task = 0 := by
  unfold belongs unrecorded
  rw [if_neg other, if_neg (fun both => other both.1)]
  exact ⟨rfl, rfl⟩

/-- What putting a task in a new place or in the place of another one adds. -/
theorem total_put (weight : LoginTask → Nat) (tasks : Table Nat LoginTask) (id : Nat)
    (task : LoginTask) :
    Table.total weight (tasks.put id task) + Table.weightAt weight tasks id =
      Table.total weight tasks + weight task := by
  have shift := @Table.total_shift Nat LoginTask _ weight tasks (tasks.put id task) id
    (fun other differs => Table.get_put_of_ne tasks task differs)
  rwa [Table.weightAt_some (Table.get_put_self tasks id task)] at shift

theorem total_forget (weight : LoginTask → Nat) {world : LoginWorld} {id : Nat}
    {task : LoginTask} (found : world.tasks.get id = some task) :
    Table.total weight (world.forget id) + weight task = Table.total weight world.tasks := by
  have others : ∀ other, other ≠ id →
      (world.forget id).get other = world.tasks.get other := by
    intro other differs
    unfold forget
    rw [Table.get_delete_key, if_neg differs]
  have gone : (world.forget id).get id = none := by
    unfold forget
    rw [Table.get_delete_key, if_pos rfl]
  have shift := @Table.total_shift Nat LoginTask _ weight world.tasks (world.forget id) id others
  rwa [Table.weightAt_some found, Table.weightAt_none gone, Nat.add_zero] at shift

end LoginWorld

/-- The failures the limiter holds and those it may still be told of fit its limit, and
they cover the verifications that have failed. -/
structure LimiterInv (limits : LoginLimits) (world : LoginWorld) (username : String) : Prop where
  room : LoginWorld.failures world.attempts username + world.inFlight username ≤
    limits.maxFailures
  counted : world.failed username ≤ LoginWorld.failures world.attempts username +
    Table.total (LoginWorld.unrecorded username) world.tasks

section Invariant

variable {limits : LoginLimits} {world : LoginWorld} {username : String}

theorem LimiterInv.starts (starts : world.Starts) : LimiterInv limits world username := by
  have none : LoginWorld.failures world.attempts username = 0 := by
    rw [starts.attempts]
    rfl
  have idle : world.inFlight username = 0 := by
    unfold LoginWorld.inFlight
    rw [starts.tasks]
    rfl
  refine ⟨by omega, ?_⟩
  rw [starts.failed]
  exact Nat.zero_le _

theorem LimiterInv.check (inv : LimiterInv limits world username) {id : Nat}
    {request : LoginRequest} {now : Nat} (absent : world.tasks.get id = none)
    (room : RoomLeft limits world (.start id request now)) :
    LimiterInv limits (world.check limits id request now) username := by
  have added := LoginWorld.total_put (LoginWorld.belongs username) world.tasks id
    ⟨request, now, .checked⟩
  have unmarked := LoginWorld.total_put (LoginWorld.unrecorded username) world.tasks id
    ⟨request, now, .checked⟩
  rw [Table.weightAt_none absent, Nat.add_zero] at added unmarked
  have blank : LoginWorld.unrecorded username ⟨request, now, .checked⟩ = 0 :=
    if_neg (fun both => nomatch both.2)
  have before := inv.room
  have counted := inv.counted
  unfold RoomLeft at room
  unfold LoginWorld.inFlight at before room
  have after := @LoginWorld.failures_isBlocked world.attempts request.username username now
    limits.windowSeconds limits.maxFailures
  unfold LoginWorld.isBlocked at room
  constructor
  · unfold LoginWorld.check LoginWorld.inFlight LoginWorld.isBlocked
    dsimp only
    by_cases own : username = request.username
    · subst own
      split
      · rename_i blocked
        rw [LoginWorld.windowOver_of_blocked blocked] at after
        simp only [Bool.false_eq_true, and_false, ↓reduceIte] at after
        omega
      · rename_i passed
        have free := room (by simpa using passed)
        have one : LoginWorld.belongs request.username ⟨request, now, .checked⟩ = 1 := if_pos rfl
        omega
    · have zero := (@LoginWorld.weight_of_other username ⟨request, now, .checked⟩
        (fun same => own same.symm)).1
      rw [if_neg (fun both => own both.1)] at after
      split
      · omega
      · omega
  · have tasks : Table.total (LoginWorld.unrecorded username)
        (world.check limits id request now).tasks =
        Table.total (LoginWorld.unrecorded username) world.tasks := by
      unfold LoginWorld.check
      dsimp only
      split
      · rfl
      · omega
    rw [tasks]
    unfold LoginWorld.check LoginWorld.isBlocked LoginWorld.resetIf
    dsimp only
    by_cases own : username = request.username
    · subst own
      by_cases ended : windowOver (world.attempts.get request.username) now
          limits.windowSeconds = true
      · rw [if_pos ended, Function.update_self]
        omega
      · rw [if_neg (fun both => ended both.2)] at after
        rw [if_neg ended, after]
        exact counted
    · rw [if_neg (fun both => own both.1)] at after
      rw [after]
      split
      · rw [Function.update_of_ne own]
        exact counted
      · exact counted

theorem LimiterInv.judge (inv : LimiterInv limits world username) {id : Nat} {task : LoginTask}
    (found : world.tasks.get id = some task) (fresh : task.stage = .checked) (accepted : Bool) :
    LimiterInv limits (world.judge id task accepted) username := by
  have before := inv.room
  have counted := inv.counted
  unfold LoginWorld.inFlight at before
  have moved := LoginWorld.total_put (LoginWorld.belongs username) world.tasks id
    { task with stage := if accepted then .accepted else .rejected }
  have marked := LoginWorld.total_put (LoginWorld.unrecorded username) world.tasks id
    { task with stage := if accepted then .accepted else .rejected }
  rw [Table.weightAt_some found] at moved marked
  have same : LoginWorld.belongs username
      { task with stage := if accepted then .accepted else .rejected } =
      LoginWorld.belongs username task := rfl
  have blank : LoginWorld.unrecorded username task = 0 := by
    simp [LoginWorld.unrecorded, fresh]
  constructor
  · unfold LoginWorld.judge LoginWorld.inFlight
    dsimp only
    omega
  · unfold LoginWorld.judge
    dsimp only
    cases accepted with
    | true =>
        simp only [↓reduceIte] at marked ⊢
        omega
    | false =>
        simp only [Bool.false_eq_true, ↓reduceIte] at marked ⊢
        by_cases own : task.request.username = username
        · have one : LoginWorld.unrecorded username { task with stage := .rejected } = 1 :=
            if_pos ⟨own, rfl⟩
          subst own
          rw [Function.update_self]
          omega
        · rw [Function.update_of_ne (fun equal => own equal.symm)]
          omega

theorem LimiterInv.reject (inv : LimiterInv limits world username) {id : Nat} {task : LoginTask}
    (found : world.tasks.get id = some task) (failed : task.stage = .rejected) :
    LimiterInv limits (world.reject limits id task) username := by
  have before := inv.room
  have counted := inv.counted
  unfold LoginWorld.inFlight at before
  have left := LoginWorld.total_forget (LoginWorld.belongs username) found
  have recorded := LoginWorld.total_forget (LoginWorld.unrecorded username) found
  have after := @LoginWorld.failures_recordFailure world.attempts task.request.username username
    task.now limits.windowSeconds
  by_cases own : task.request.username = username
  · have one : LoginWorld.belongs username task = 1 := if_pos own
    have marked : LoginWorld.unrecorded username task = 1 := if_pos ⟨own, failed⟩
    subst own
    rw [if_pos rfl] at after
    by_cases ended : windowOver (world.attempts.get task.request.username) task.now
        limits.windowSeconds = true
    · rw [if_pos ended] at after
      constructor
      · unfold LoginWorld.reject LoginWorld.inFlight
        dsimp only
        omega
      · unfold LoginWorld.reject LoginWorld.resetIf
        dsimp only
        rw [if_pos ended, Function.update_self]
        omega
    · have within : LoginWorld.failures world.attempts task.request.username + 1 ≤
          limits.maxFailures := by omega
      have small := Nat.le_sub_one_of_lt (Nat.lt_of_le_of_lt within limits.failuresU32)
      rw [if_neg ended, Nat.min_eq_left small] at after
      clear small
      constructor
      · unfold LoginWorld.reject LoginWorld.inFlight
        dsimp only
        omega
      · unfold LoginWorld.reject LoginWorld.resetIf
        dsimp only
        rw [if_neg ended]
        omega
  · obtain ⟨none, unmarked⟩ := LoginWorld.weight_of_other own
    rw [if_neg (fun equal => own equal.symm)] at after
    constructor
    · unfold LoginWorld.reject LoginWorld.inFlight
      dsimp only
      omega
    · unfold LoginWorld.reject LoginWorld.resetIf
      dsimp only
      split
      · rw [Function.update_of_ne (fun equal => own equal.symm)]
        omega
      · omega

theorem LimiterInv.accept (inv : LimiterInv limits world username) {id : Nat} {task : LoginTask}
    (found : world.tasks.get id = some task) (succeeded : task.stage = .accepted) :
    LimiterInv limits (world.accept id task) username := by
  have before := inv.room
  have counted := inv.counted
  unfold LoginWorld.inFlight at before
  have left := LoginWorld.total_forget (LoginWorld.belongs username) found
  have recorded := LoginWorld.total_forget (LoginWorld.unrecorded username) found
  have unmarked : LoginWorld.unrecorded username task = 0 := by
    simp [LoginWorld.unrecorded, succeeded]
  have after := @LoginWorld.failures_clear world.attempts task.request.username username
  by_cases own : task.request.username = username
  · subst own
    rw [if_pos rfl] at after
    constructor
    · unfold LoginWorld.accept LoginWorld.inFlight
      dsimp only
      omega
    · unfold LoginWorld.accept
      dsimp only
      rw [Function.update_self]
      omega
  · rw [if_neg (fun equal => own equal.symm)] at after
    constructor
    · unfold LoginWorld.accept LoginWorld.inFlight
      dsimp only
      omega
    · unfold LoginWorld.accept
      dsimp only
      rw [Function.update_of_ne (fun equal => own equal.symm)]
      omega

variable [UuidParser] [PasswordVerifier] {dummyPasswordHash : String}

theorem LimiterInv.step {next : LoginWorld} {action : LoginStep}
    (inv : LimiterInv limits world username) (room : RoomLeft limits world action)
    (taken : world.step limits dummyPasswordHash action = some next) :
    LimiterInv limits next username := by
  cases action with
  | start id request now =>
      simp only [LoginWorld.step] at taken
      split at taken
      · cases taken
      · rename_i enabled
        split at taken
        · cases taken
          exact ⟨inv.room, inv.counted⟩
        · cases taken
          have absent : world.tasks.get id = none := by
            by_contra present
            exact enabled (Or.inl present)
          exact inv.check absent room
  | verify id user =>
      simp only [LoginWorld.step] at taken
      split at taken
      · rename_i task found
        split at taken
        · rename_i fresh
          cases taken
          exact inv.judge found fresh _
        · cases taken
      · cases taken
  | conclude id =>
      simp only [LoginWorld.step] at taken
      split at taken
      · rename_i task found
        split at taken
        · cases taken
        · rename_i failed
          cases taken
          exact inv.reject found failed
        · rename_i succeeded
          cases taken
          exact inv.accept found succeeded
      · cases taken

/-- In every interleaving of logins in which a check passes only while there is room for
one more failure, no more than `login_rate_limit_max_failures` verifications for a
username fail between two resets of the limiter. -/
theorem failed_verifications_bounded (limits : LoginLimits) (dummyPasswordHash : String)
    {first last : LoginWorld} (starts : first.Starts) {actions : List LoginStep}
    (room : Meets (LoginWorld.step limits dummyPasswordHash) (RoomLeft limits) first actions)
    (reached : run (LoginWorld.step limits dummyPasswordHash) first actions = some last)
    (username : String) : last.failed username ≤ limits.maxFailures := by
  have inv : LimiterInv limits last username := run_keeps_of_meets
    (fun _ _ _ holds meets taken => LimiterInv.step holds meets taken)
    actions first last (.starts starts) room reached
  have fits := inv.room
  have counted := inv.counted
  have few := last.unrecorded_le_inFlight username
  omega

end Invariant

namespace Guess

/-! Guesses of a password with the default limits, for evaluating concrete runs. -/

/-- A hash that shows its password. -/
@[reducible] def verifier : PasswordVerifier :=
  ⟨fun password encoded => decide (encoded = "$argon2id$" ++ password)⟩

def limits : LoginLimits := ⟨5, 60, by decide, by decide, by decide⟩

def dummy : String := "$argon2id$lvos-dummy-password"

def request : LoginRequest :=
  ⟨"reader", "a guess", "01020304-0506-4008-800a-0b0c0d0e0f01", "macos", none⟩

def user : UserCredential := ⟨"account", "reader", "$argon2id$a password", false⟩

def world : LoginWorld := ⟨1000, .empty, .empty, fun _ => 0⟩

theorem world_starts : world.Starts := ⟨rfl, rfl, fun _ => rfl⟩

/-- Six logins whose checks all come before the first failure is recorded. -/
def together : List LoginStep :=
  (List.range 6).map (fun id => LoginStep.start id request 1000) ++
    (List.range 6).map (fun id => LoginStep.verify id (some user))

/-- Six logins one after the other; the last one is refused by its check. -/
def inTurn : List LoginStep :=
  (List.range 5).flatMap (fun id =>
    [LoginStep.start id request 1000, .verify id (some user), .conclude id]) ++
    [LoginStep.start 5 request 1000]

end Guess

section Witness

attribute [local instance] hyphenatedParser Guess.verifier

theorem six_failures_at_once : ∃ last : LoginWorld, Guess.world.Starts ∧
    run (LoginWorld.step Guess.limits Guess.dummy) Guess.world Guess.together = some last ∧
    ¬last.failed "reader" ≤ Guess.limits.maxFailures := by
  have facts : (run (LoginWorld.step Guess.limits Guess.dummy) Guess.world Guess.together).any
      (fun last => ¬last.failed "reader" ≤ Guess.limits.maxFailures) = true := by
    decide +kernel
  obtain ⟨last, reached, holds⟩ := (Option.any_eq_true _ _).mp facts
  exact ⟨last, Guess.world_starts, reached, of_decide_eq_true holds⟩

theorem failed_verifications_bounded_in_turn : ∃ last : LoginWorld,
    run (LoginWorld.step Guess.limits Guess.dummy) Guess.world Guess.inTurn = some last ∧
    last.tasks.get 5 = none ∧ last.failed "reader" ≤ Guess.limits.maxFailures := by
  have facts : (run (LoginWorld.step Guess.limits Guess.dummy) Guess.world Guess.inTurn).any
      (fun last => last.tasks.get 5 = none) = true := by
    decide +kernel
  obtain ⟨last, reached, holds⟩ := (Option.any_eq_true _ _).mp facts
  have room : Meets (LoginWorld.step Guess.limits Guess.dummy) (RoomLeft Guess.limits) Guess.world
      Guess.inTurn := by
    decide +kernel
  exact ⟨last, reached, of_decide_eq_true holds,
    failed_verifications_bounded Guess.limits Guess.dummy Guess.world_starts room reached
      "reader"⟩

end Witness

end Lvos.Server
