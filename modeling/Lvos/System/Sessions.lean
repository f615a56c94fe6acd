import Lvos.Desktop.Session
import Lvos.Lib.Transition
import Lvos.Server.SessionViews

set_option autoImplicit false

namespace Lvos.System.Session

open Lvos.Core Lvos.Server
open Lvos.Desktop
open Relational (Table)
open Transition (run Meets run_keeps_of_meets)

/-! What each step of a call can do. -/

section Steps

variable [TokenHash] [UuidParser] {world next : SessionWorld} {id : Nat}

theorem start_cases {call : SessionCall} (taken : sessionStep world (.start id call) = some next) :
    world.tasks.get id = none ∧
      next = { world with tasks := world.tasks.put id ⟨call, .reading .first⟩ } := by
  simp only [sessionStep] at taken
  split at taken
  · rename_i absent
    cases taken
    exact ⟨absent, rfl⟩
  · cases taken

theorem readToken_cases (taken : sessionStep world (.readToken id) = some next) :
    ∃ call attempt, world.tasks.get id = some ⟨call, .reading attempt⟩ ∧
      next = world.moveTo id ⟨call, .reading attempt⟩ (.sending attempt world.access.token) := by
  simp only [sessionStep] at taken
  split at taken
  · rename_i call attempt found
    cases taken
    exact ⟨call, attempt, found, rfl⟩
  · cases taken

theorem authenticate_cases {now : Nat}
    (taken : sessionStep world (.authenticate id now) = some next) :
    ∃ call attempt token stage, world.tasks.get id = some ⟨call, .sending attempt token⟩ ∧
      next = ({ world with db := (Http.requireAccess world.db token now).1 } : SessionWorld).moveTo
        id ⟨call, .sending attempt token⟩ stage ∧
      ((∃ error, (Http.requireAccess world.db token now).2 = .error error ∧
          stage = .replied attempt token (.error ⟨error, none⟩)) ∨
        ∃ principal, (Http.requireAccess world.db token now).2 = .ok principal ∧
          stage = .admitted attempt token principal) := by
  simp only [sessionStep] at taken
  split at taken
  · rename_i call attempt token found
    cases answered : Http.requireAccess world.db token now with
    | mk db answer =>
        cases answer with
        | error error =>
            simp only [answered] at taken
            cases taken
            exact ⟨call, attempt, token, _, found, by rw [answered],
              Or.inl ⟨error, by rw [answered], rfl⟩⟩
        | ok principal =>
            simp only [answered] at taken
            cases taken
            exact ⟨call, attempt, token, _, found, by rw [answered],
              Or.inr ⟨principal, by rw [answered], rfl⟩⟩
  · cases taken

theorem execute_cases {now : Nat} {handled : ApiResult Unit}
    (taken : sessionStep world (.execute id now handled) = some next) :
    ∃ call attempt token principal,
      world.tasks.get id = some ⟨call, .admitted attempt token principal⟩ ∧
      next = ({ world with db := (handle world.db call principal now handled).1 } :
          SessionWorld).moveTo id ⟨call, .admitted attempt token principal⟩
        (.replied attempt token (handle world.db call principal now handled).2) := by
  simp only [sessionStep] at taken
  split at taken
  · rename_i call attempt token principal found
    cases taken
    exact ⟨call, attempt, token, principal, found, rfl⟩
  · cases taken

theorem receive_cases (taken : sessionStep world (.receive id) = some next) :
    ∃ call attempt token reply,
      world.tasks.get id = some ⟨call, .replied attempt token reply⟩ ∧
      next = world.moveTo id ⟨call, .replied attempt token reply⟩
        (settleAnswer call attempt token reply) := by
  simp only [sessionStep] at taken
  split at taken
  · rename_i call attempt token reply found
    cases taken
    exact ⟨call, attempt, token, reply, found, rfl⟩
  · cases taken

theorem acquireGate_cases (taken : sessionStep world (.acquireGate id) = some next) :
    ∃ call rejected, world.tasks.get id = some ⟨call, .awaitingGate rejected⟩ ∧
      world.gate = none ∧
      next = world.moveTo id ⟨call, .awaitingGate rejected⟩ (.comparing rejected) := by
  simp only [sessionStep] at taken
  split at taken
  · rename_i call rejected found
    split at taken
    · rename_i free
      cases taken
      exact ⟨call, rejected, found, free, rfl⟩
    · cases taken
  · cases taken

theorem compare_cases (taken : sessionStep world (.compare id) = some next) :
    ∃ call rejected stage, world.tasks.get id = some ⟨call, .comparing rejected⟩ ∧
      next = world.moveTo id ⟨call, .comparing rejected⟩ stage ∧
      (stage = .reading .retry ∨ stage = .fetching) := by
  simp only [sessionStep] at taken
  split at taken
  · rename_i call rejected found
    cases taken
    refine ⟨call, rejected, _, found, rfl, ?_⟩
    split
    · exact Or.inl rfl
    · exact Or.inr rfl
  · cases taken

theorem readCredential_cases {available : Bool}
    (taken : sessionStep world (.readCredential id available) = some next) :
    ∃ call, world.tasks.get id = some ⟨call, .fetching⟩ ∧
      next = world.moveTo id ⟨call, .fetching⟩
        (settleCredential call available world.credential) := by
  simp only [sessionStep] at taken
  split at taken
  · rename_i call found
    cases taken
    exact ⟨call, found, rfl⟩
  · cases taken

theorem rotate_cases {now : Nat} {seed : TokenSeed}
    (taken : sessionStep world (.rotate id now seed) = some next) :
    ∃ call refreshToken, world.tasks.get id = some ⟨call, .refreshing refreshToken⟩ ∧
      next = ({ world with db := (Http.refresh world.db world.config refreshToken now seed).1 } :
          SessionWorld).moveTo id ⟨call, .refreshing refreshToken⟩
        (.refreshed ((Http.refresh world.db world.config refreshToken now seed).2.mapError
          (fun error => ⟨error, none⟩))) := by
  simp only [sessionStep] at taken
  split at taken
  · rename_i call refreshToken found
    cases taken
    exact ⟨call, refreshToken, found, rfl⟩
  · cases taken

theorem receiveTokens_cases (taken : sessionStep world (.receiveTokens id) = some next) :
    ∃ call reply, world.tasks.get id = some ⟨call, .refreshed reply⟩ ∧
      next = world.moveTo id ⟨call, .refreshed reply⟩ (settleTokens call world.owner reply) := by
  simp only [sessionStep] at taken
  split at taken
  · rename_i call reply found
    cases taken
    exact ⟨call, reply, found, rfl⟩
  · cases taken

theorem storeCredential_cases {accepted : Bool}
    (taken : sessionStep world (.storeCredential id accepted) = some next) :
    ∃ call tokens, world.tasks.get id = some ⟨call, .storing tokens⟩ ∧
      ((accepted = true ∧
          next = ({ world with
            credentials := world.credentials.put world.owner.scope
              tokens.refreshToken.toUTF8 } : SessionWorld).moveTo id ⟨call, .storing tokens⟩
            (.publishing tokens)) ∨
        (accepted = false ∧
          next = world.moveTo id ⟨call, .storing tokens⟩ (call.fail credentialStoreFailed))) := by
  simp only [sessionStep] at taken
  split at taken
  · rename_i call tokens found
    cases accepted with
    | true =>
        cases taken
        exact ⟨call, tokens, found, Or.inl ⟨rfl, rfl⟩⟩
    | false =>
        cases taken
        exact ⟨call, tokens, found, Or.inr ⟨rfl, rfl⟩⟩
  · cases taken

theorem publish_cases (taken : sessionStep world (.publish id) = some next) :
    ∃ call tokens, world.tasks.get id = some ⟨call, .publishing tokens⟩ ∧
      next = ({ world with
          access := ⟨tokens.accessToken, tokens.accessExpiresAt⟩ } : SessionWorld).moveTo id
        ⟨call, .publishing tokens⟩ (.reading .retry) := by
  simp only [sessionStep] at taken
  split at taken
  · rename_i call tokens found
    cases taken
    exact ⟨call, tokens, found, rfl⟩
  · cases taken

theorem deleteCredential_cases {accepted : Bool}
    (taken : sessionStep world (.deleteCredential id accepted) = some next) :
    ∃ call result, world.tasks.get id = some ⟨call, .deleting result⟩ ∧
      ((accepted = true ∧
          next = ({ world with
            credentials := world.credentials.delete
              (fun scope _ => decide (scope = world.owner.scope))
            loggedOut := true } : SessionWorld).moveTo id ⟨call, .deleting result⟩
            (.done result)) ∨
        (accepted = false ∧
          next = world.moveTo id ⟨call, .deleting result⟩
            (.done (.error credentialStoreFailed)))) := by
  simp only [sessionStep] at taken
  split at taken
  · rename_i call result found
    cases accepted with
    | true =>
        cases taken
        exact ⟨call, result, found, Or.inl ⟨rfl, rfl⟩⟩
    | false =>
        cases taken
        exact ⟨call, result, found, Or.inr ⟨rfl, rfl⟩⟩
  · cases taken

theorem interrupt_cases {interruption : Interruption}
    (taken : sessionStep world (.interrupt id interruption) = some next) :
    ∃ task, world.tasks.get id = some task ∧
      next = world.moveTo id task (task.call.fail interruption.error) ∧
      ((∃ attempt token, task.stage = .sending attempt token) ∨
        (∃ attempt token reply, task.stage = .replied attempt token reply) ∨
        (∃ refreshToken, task.stage = .refreshing refreshToken) ∨
        ∃ reply, task.stage = .refreshed reply) := by
  simp only [sessionStep] at taken
  split at taken
  · rename_i call attempt token found
    cases taken
    exact ⟨_, found, rfl, Or.inl ⟨attempt, token, rfl⟩⟩
  · rename_i call attempt token reply found
    cases taken
    exact ⟨_, found, rfl, Or.inr (Or.inl ⟨attempt, token, reply, rfl⟩)⟩
  · rename_i call refreshToken found
    cases taken
    exact ⟨_, found, rfl, Or.inr (Or.inr (Or.inl ⟨refreshToken, rfl⟩))⟩
  · rename_i call reply found
    cases taken
    exact ⟨_, found, rfl, Or.inr (Or.inr (Or.inr ⟨reply, rfl⟩))⟩
  · cases taken

end Steps

/-! The tables of calls. -/

/-- A fresh refresh token that the credential store does not have yet. -/
def carriesRefresh : Stage → Bool
  | .refreshed (.ok _) | .storing _ => true
  | _ => false

theorem gated_of_carriesRefresh {stage : Stage} (carries : carriesRefresh stage = true) :
    stage.gated = true := by
  cases stage <;> simp_all [carriesRefresh, Stage.gated]

theorem finish_done {call : SessionCall} (other : call ≠ .logout)
    (result : Except SessionError Unit) : call.finish result = .done result := by
  cases call <;> first | rfl | exact absurd rfl other

theorem finish_ungated (call : SessionCall) (result : Except SessionError Unit) :
    (call.finish result).gated = false := by
  cases call <;> rfl

section Tasks

variable {tasks : Table Nat SessionTask} {id : Nat} {task : SessionTask}

theorem forall_put {holds : SessionTask → Prop}
    (all : ∀ other entry, tasks.get other = some entry → holds entry) (new : holds task) :
    ∀ other entry, (tasks.put id task).get other = some entry → holds entry := by
  intro other entry found
  rw [Table.get_put] at found
  split at found
  · cases found
    exact new
  · exact all other entry found

/-- A call that is found in the table is still there, if it is not the one that moved. -/
theorem exists_put {holds : SessionTask → Prop} {before : SessionTask}
    (found : tasks.get id = some before) (moved : holds before → holds task)
    (some' : ∃ other entry, tasks.get other = some entry ∧ holds entry) :
    ∃ other entry, (tasks.put id task).get other = some entry ∧ holds entry := by
  obtain ⟨other, entry, stored, known⟩ := some'
  by_cases same : other = id
  · subst same
    rw [found] at stored
    cases stored
    exact ⟨other, task, Table.get_put_self tasks other task, moved known⟩
  · exact ⟨other, entry, by rw [Table.get_put_of_ne tasks task same, stored], known⟩

end Tasks

/-- The gate is taken by the call that is inside `refresh_after`. -/
def GateHeld (world : SessionWorld) : Prop :=
  ∀ id, world.gate = some id ↔
    ∃ task, world.tasks.get id = some task ∧ task.stage.gated = true

theorem GateHeld.ungated {world : SessionWorld} (held : GateHeld world) {id other : Nat}
    {task : SessionTask} (holder : world.gate = some id) (found : world.tasks.get other = some task)
    (differs : other ≠ id) : task.stage.gated = false := by
  by_contra gated
  have taken := (held other).mpr ⟨task, found, by simpa using gated⟩
  rw [holder] at taken
  exact differs (Option.some.inj taken).symm

theorem GateHeld.moveTo {world : SessionWorld} (held : GateHeld world) {id : Nat}
    {task : SessionTask} {stage : Stage} (found : world.tasks.get id = some task)
    (free : stage.gated = true → task.stage.gated = true ∨ world.gate = none) :
    GateHeld (world.moveTo id task stage) := by
  have own : task.stage.gated = true → world.gate = some id :=
    fun gated => (held id).mpr ⟨task, found, gated⟩
  intro other
  unfold SessionWorld.moveTo
  by_cases same : other = id
  · subst same
    simp only [Table.get_put_self, Option.some.injEq, exists_eq_left']
    cases after : stage.gated with
    | true => simp
    | false =>
        cases before : task.stage.gated with
        | true => simp
        | false =>
            have away : world.gate ≠ some other := by
              intro taken
              obtain ⟨entry, stored, gated⟩ := (held other).mp taken
              rw [found] at stored
              cases stored
              rw [before] at gated
              cases gated
            simpa using away
  · simp only [Table.get_put_of_ne _ _ same]
    rw [← held other]
    cases after : stage.gated with
    | true =>
        rcases free after with before | idle
        · rw [own before]
          simp
        · simp [idle, Ne.symm same]
    | false =>
        cases before : task.stage.gated with
        | true =>
            rw [own before]
            simp [Ne.symm same]
        | false => simp

/-- What `refresh_after` makes of the credential. -/
theorem settleCredential_cases (call : SessionCall) (available : Bool)
    (stored : Option ByteArray) :
    (∃ error, settleCredential call available stored = call.fail error ∧
        ∀ reason, error ≠ .transport reason) ∨
      ∃ token bytes, settleCredential call available stored = .refreshing token ∧
        stored = some bytes ∧ String.fromUTF8? bytes = some token := by
  unfold settleCredential
  cases available with
  | false =>
      refine Or.inl ⟨_, rfl, fun reason same => ?_⟩
      cases same
  | true =>
      cases stored with
      | none =>
          refine Or.inl ⟨_, rfl, fun reason same => ?_⟩
          cases same
      | some bytes =>
          cases decoded : String.fromUTF8? bytes with
          | none =>
              refine Or.inl ⟨.invalidCredential, by simp [decoded], fun reason same => ?_⟩
              cases same
          | some token => exact Or.inr ⟨token, bytes, by simp [decoded], rfl, decoded⟩

theorem handle_keeps [UuidParser] (db : AuthDb) (call : SessionCall)
    (principal : SessionIdentity) (now : Nat) (handled : ApiResult Unit) :
    db.Keeps (handle db call principal now handled).1 := by
  cases call with
  | revokeDevice deviceId => exact revokeDevice_endpoint_keeps db principal deviceId now
  | logout => exact logout_keeps db principal now
  | _ => exact .refl db

/-- An answer leads into `refresh_after` or ends the call. -/
theorem settleAnswer_cases (call : SessionCall) (attempt : Attempt) (token : String)
    (reply : Except ErrorResponse Unit) :
    (attempt = .first ∧ settleAnswer call attempt token reply = .awaitingGate token) ∨
      ∃ result, settleAnswer call attempt token reply = call.finish result ∧
        (result = .ok () ∨
          ∃ response, reply = .error response ∧
            result = .error (.transport (responseError response))) := by
  unfold settleAnswer
  cases reply with
  | ok value => exact Or.inr ⟨_, rfl, Or.inl rfl⟩
  | error response =>
      dsimp only
      split
      · exact Or.inl ⟨rfl, rfl⟩
      · exact Or.inr ⟨_, rfl, Or.inr ⟨response, rfl, rfl⟩⟩

theorem validToken_of_allowed {token : String} (allowed : tokenAllowed token = true) :
    validToken token = true := by
  unfold tokenAllowed maxTokenBytes at allowed
  unfold validToken maxSessionTokenBytes
  simp only [ne_eq, Bool.and_eq_true, decide_eq_true_eq] at allowed ⊢
  exact ⟨allowed.1, by omega⟩

/-- `String::from_utf8` of `as_bytes`. -/
theorem fromUTF8_toUTF8 (token : String) : String.fromUTF8? token.toUTF8 = some token := by
  simp [String.fromUTF8?, token.isValidUTF8, String.toUTF8, String.fromUTF8]

def ownIdentity (owner : SessionOwner) (sessionId : String) : SessionIdentity :=
  ⟨sessionId, owner.userId, owner.username, owner.deviceId, owner.platform⟩

section Credential

variable [TokenHash] {world : SessionWorld} {view later : SessionView}

/-- The credential store has the token whose hash the server keeps. -/
def Stored (world : SessionWorld) (view : SessionView) : Prop :=
  ∃ token, world.credential = some token.toUTF8 ∧ tokenAllowed token = true ∧
    tokenHash token = view.refreshTokenHash

theorem Stored.follows (stored : Stored world view) (follows : view.Follows later) :
    Stored world later := by
  obtain ⟨token, kept, allowed, hash⟩ := stored
  exact ⟨token, kept, allowed, hash.trans follows.refresh.symm⟩

/-- The token that the server keeps for the session. -/
theorem Stored.read (stored : Stored world view) (call : SessionCall) {available : Bool}
    {stage : Stage} (settled : settleCredential call available world.credential = stage) :
    stage = call.fail credentialStoreFailed ∨
      ∃ token, stage = .refreshing token ∧ tokenAllowed token = true ∧
        tokenHash token = view.refreshTokenHash := by
  obtain ⟨token, kept, allowed, hash⟩ := stored
  unfold settleCredential at settled
  cases available with
  | false => exact Or.inl settled.symm
  | true =>
      simp only [↓reduceIte, kept, fromUTF8_toUTF8] at settled
      exact Or.inr ⟨token, settled.symm, allowed, hash⟩

end Credential

section Tokens

variable [TokenHash] [UuidParser]

/-- The pair of tokens that the server has last given to the session. -/
structure Issued (owner : SessionOwner) (view : SessionView) (tokens : TokenResponse) : Prop where
  access : tokenHash tokens.accessToken = view.accessTokenHash
  refresh : tokenHash tokens.refreshToken = view.refreshTokenHash
  accessAllowed : tokenAllowed tokens.accessToken = true
  refreshAllowed : tokenAllowed tokens.refreshToken = true
  valid : validateTokens tokens = true
  identity : matchesIdentity tokens owner = true

/-- What a call that is not a logout holds inside `refresh_after`. -/
def Holds (owner : SessionOwner) (view : SessionView) : Stage → Prop
  | .refreshing refreshToken =>
      tokenAllowed refreshToken = true ∧ tokenHash refreshToken = view.refreshTokenHash
  | .refreshed (.ok tokens) | .storing tokens | .publishing tokens => Issued owner view tokens
  | .deleting _ => False
  | _ => True

/-- Client and server agree on the refresh token, or the one call inside
`refresh_after` carries it. -/
structure Coherent (world : SessionWorld) (view : SessionView) : Prop where
  seen : world.db.view world.sessionId = some view
  identity : view.identity = ownIdentity world.owner world.sessionId
  owner : validOwner world.owner.userId world.owner.username world.owner.deviceId
    world.owner.platform = true
  gate : GateHeld world
  holds : ∀ id task, world.tasks.get id = some task →
    task.call ≠ .logout ∧ Holds world.owner view task.stage
  stored : (∃ id task, world.tasks.get id = some task ∧ carriesRefresh task.stage = true) ∨
    Stored world view

theorem Issued.follows {owner : SessionOwner} {view later : SessionView} {tokens : TokenResponse}
    (issued : Issued owner view tokens) (follows : view.Follows later) :
    Issued owner later tokens :=
  ⟨issued.access.trans follows.access.symm, issued.refresh.trans follows.refresh.symm,
    issued.accessAllowed, issued.refreshAllowed, issued.valid, issued.identity⟩

theorem Holds.follows {owner : SessionOwner} {view later : SessionView} {stage : Stage}
    (holds : Holds owner view stage) (follows : view.Follows later) : Holds owner later stage := by
  cases stage with
  | refreshing refreshToken => exact ⟨holds.1, holds.2.trans follows.refresh.symm⟩
  | refreshed reply =>
      cases reply with
      | error response => trivial
      | ok tokens => exact Issued.follows holds follows
  | storing tokens => exact Issued.follows holds follows
  | publishing tokens => exact Issued.follows holds follows
  | deleting result => exact holds
  | _ => trivial

/-- Only a call inside `refresh_after` knows a token of the pair. -/
theorem Holds.of_ungated {owner : SessionOwner} {view later : SessionView} {stage : Stage}
    (holds : Holds owner view stage) (ungated : stage.gated = false) :
    Holds owner later stage := by
  cases stage with
  | deleting result => exact holds
  | refreshing refreshToken => cases ungated
  | refreshed reply => cases ungated
  | storing tokens => cases ungated
  | publishing tokens => cases ungated
  | _ => trivial

/-- A step of one call that leaves the tokens of the session alone. -/
theorem Coherent.moveTo {world : SessionWorld} {view later : SessionView} {db : AuthDb}
    (coherent : Coherent world view) (seen : db.view world.sessionId = some later)
    (follows : view.Follows later) {id : Nat} {task : SessionTask} {stage : Stage}
    (found : world.tasks.get id = some task)
    (free : stage.gated = true → task.stage.gated = true ∨ world.gate = none)
    (holds : Holds world.owner view stage)
    (carries : carriesRefresh task.stage = true → carriesRefresh stage = true) :
    Coherent (({ world with db := db } : SessionWorld).moveTo id task stage) later where
  seen := seen
  identity := follows.identity.trans coherent.identity
  owner := coherent.owner
  gate := @GateHeld.moveTo { world with db := db } coherent.gate id task stage found free
  holds := by
    apply forall_put
    · intro other entry stored
      obtain ⟨call, held⟩ := coherent.holds other entry stored
      exact ⟨call, held.follows follows⟩
    · exact ⟨(coherent.holds id task found).1, holds.follows follows⟩
  stored := by
    rcases coherent.stored with carried | stored
    · exact Or.inl (exists_put found carries carried)
    · exact Or.inr (stored.follows follows)

/-- The same where the server takes no part. -/
theorem Coherent.moveTo_client {world : SessionWorld} {view : SessionView}
    (coherent : Coherent world view) {id : Nat} {task : SessionTask} {stage : Stage}
    (found : world.tasks.get id = some task)
    (free : stage.gated = true → task.stage.gated = true ∨ world.gate = none)
    (holds : Holds world.owner view stage)
    (carries : carriesRefresh task.stage = true → carriesRefresh stage = true) :
    Coherent (world.moveTo id task stage) view :=
  coherent.moveTo coherent.seen (.refl view) found free holds carries

/-- A call that returns. -/
theorem Coherent.finish {world : SessionWorld} {view : SessionView}
    (coherent : Coherent world view) {id : Nat} {task : SessionTask}
    (found : world.tasks.get id = some task) (result : Except SessionError Unit)
    (empty : carriesRefresh task.stage = false) :
    Coherent (world.moveTo id task (task.call.finish result)) view := by
  apply coherent.moveTo_client found
  · intro gated
    rw [finish_ungated] at gated
    cases gated
  · rw [finish_done (coherent.holds id task found).1]
    trivial
  · intro carries
    rw [empty] at carries
    cases carries

/-- What the refresh endpoint sends for the session passes the checks of the client. -/
theorem issued_new {owner : SessionOwner} {sessionId : String} {later : SessionView}
    {tokens : NewTokens} {now : Nat} {config : SessionConfig} {seed : TokenSeed}
    (made : NewTokens.generate now config.accessTokenTtlSeconds seed = .ok tokens)
    (valid : validOwner owner.userId owner.username owner.deviceId owner.platform = true)
    (access : later.accessTokenHash = tokenHash tokens.accessToken)
    (refresh : later.refreshTokenHash = tokenHash tokens.refreshToken) :
    Issued owner later (TokenResponse.new tokens (ownIdentity owner sessionId)) := by
  obtain ⟨accessAllowed, refreshAllowed, -, -, expires⟩ := generate_spec made
  have positive := config.accessPositive
  refine ⟨access.symm, refresh.symm, accessAllowed, refreshAllowed, ?_, ?_⟩
  · unfold validateTokens
    simp only [TokenResponse.new, ownIdentity, valid,
      validToken_of_allowed accessAllowed, validToken_of_allowed refreshAllowed, Bool.and_true,
      Bool.true_and, decide_eq_true_eq, expires]
    omega
  · simp [matchesIdentity, TokenResponse.new, ownIdentity]

/-- The session, its device and its user are neither revoked nor disabled. -/
def standing (world : SessionWorld) : Bool :=
  match world.db.view world.sessionId with
  | some view => view.refusal.isNone
  | none => false

/-- The refresh token has not idled out. -/
def active (world : SessionWorld) (now : Nat) : Bool :=
  match world.db.view world.sessionId with
  | some view => (now : Int) - view.lastSeenAt < world.config.refreshIdleTtlSeconds
  | none => false

/-- A session in good standing with no logout, no lost answer of the refresh endpoint
and a credential store that takes what it is given. -/
def undisturbed (world : SessionWorld) (action : SessionAction) : Bool :=
  standing world &&
    match action with
    | .start _ call => call ≠ .logout
    | .rotate _ now _ => active world now
    | .storeCredential _ accepted => accepted
    | .interrupt id _ =>
        match world.tasks.get id with
        | some ⟨_, .refreshed _⟩ => false
        | _ => true
    | _ => true

theorem Coherent.standing {world : SessionWorld} {view : SessionView}
    (coherent : Coherent world view) {action : SessionAction}
    (calm : undisturbed world action = true) : view.refusal = none := by
  unfold undisturbed at calm
  rw [Bool.and_eq_true] at calm
  have good := calm.1
  unfold Session.standing at good
  rw [coherent.seen] at good
  simpa using good

/-- The refresh token a call sends finds the session. -/
theorem Coherent.found {world : SessionWorld} {view : SessionView}
    (coherent : Coherent world view) {token : String}
    (hash : tokenHash token = view.refreshTokenHash) :
    world.db.refreshIdentity (tokenHash token) = some view := by
  rw [AuthDb.refreshIdentity_eq_some, AuthDb.view_sessionId coherent.seen]
  exact ⟨coherent.seen, hash.symm⟩

theorem Coherent.keeps {world : SessionWorld} {view : SessionView} {db : AuthDb}
    (coherent : Coherent world view) (keeps : world.db.Keeps db) {id : Nat} {task : SessionTask}
    {stage : Stage} (found : world.tasks.get id = some task)
    (free : stage.gated = true → task.stage.gated = true ∨ world.gate = none)
    (holds : Holds world.owner view stage)
    (carries : carriesRefresh task.stage = true → carriesRefresh stage = true) :
    ∃ later, Coherent (({ world with db := db } : SessionWorld).moveTo id task stage) later := by
  obtain ⟨later, seen, follows⟩ := keeps.view coherent.seen
  exact ⟨later, coherent.moveTo seen follows found free holds carries⟩

/-- A rotation: the call that asked for it carries the new pair. -/
theorem Coherent.rotated {world : SessionWorld} {view : SessionView} {db : AuthDb}
    (coherent : Coherent world view) {id : Nat} {call : SessionCall} {refreshToken : String}
    (found : world.tasks.get id = some ⟨call, .refreshing refreshToken⟩)
    {tokens : NewTokens} {now : Nat} {seed : TokenSeed}
    (made : NewTokens.generate now world.config.accessTokenTtlSeconds seed = .ok tokens)
    (rotated : world.db.Rotated db world.sessionId (tokenHash tokens.accessToken)
      (tokenHash tokens.refreshToken)) :
    ∃ later, Coherent (({ world with db := db } : SessionWorld).moveTo id
      ⟨call, .refreshing refreshToken⟩
      (.refreshed (.ok (TokenResponse.new tokens
        (ownIdentity world.owner world.sessionId))))) later := by
  obtain ⟨later, seen, identity, access, refresh, -⟩ := rotated.own view coherent.seen
  have holder : world.gate = some id :=
    (coherent.gate id).mpr ⟨⟨call, .refreshing refreshToken⟩, found, rfl⟩
  refine ⟨later, seen, identity.trans coherent.identity, coherent.owner, ?_, ?_, ?_⟩
  · exact @GateHeld.moveTo { world with db := db } coherent.gate id _ _ found
      (fun _ => Or.inl rfl)
  · intro other task stored
    simp only [SessionWorld.moveTo, Table.get_put] at stored
    split at stored
    · cases stored
      exact ⟨(coherent.holds id _ found).1, issued_new made coherent.owner access refresh⟩
    · rename_i differs
      obtain ⟨notLogout, held⟩ := coherent.holds other task stored
      exact ⟨notLogout, held.of_ungated (coherent.gate.ungated holder stored differs)⟩
  · exact Or.inl ⟨id, _, Table.get_put_self _ _ _, rfl⟩

theorem coherent_step {world next : SessionWorld} {action : SessionAction}
    (agreed : ∃ view, Coherent world view) (calm : undisturbed world action = true)
    (taken : sessionStep world action = some next) : ∃ view, Coherent next view := by
  obtain ⟨view, coherent⟩ := agreed
  cases action with
  | start id call =>
      obtain ⟨absent, rfl⟩ := start_cases taken
      have notLogout : call ≠ .logout := by
        simp only [undisturbed, Bool.and_eq_true, decide_eq_true_eq] at calm
        exact calm.2
      refine ⟨view, coherent.seen, coherent.identity, coherent.owner, ?_, ?_, ?_⟩
      · intro other
        rw [coherent.gate other]
        by_cases same : other = id
        · subst same
          simp [absent, Table.get_put_self, Stage.gated]
        · simp [Table.get_put_of_ne _ _ same]
      · exact forall_put coherent.holds ⟨notLogout, trivial⟩
      · rcases coherent.stored with ⟨other, task, found, carries⟩ | stored
        · refine Or.inl ⟨other, task, ?_, carries⟩
          have differs : other ≠ id := by
            rintro rfl
            rw [absent] at found
            cases found
          rw [Table.get_put_of_ne _ _ differs, found]
        · exact Or.inr stored
  | readToken id =>
      obtain ⟨call, attempt, found, rfl⟩ := readToken_cases taken
      exact ⟨view, coherent.moveTo_client found (by rintro ⟨⟩) trivial (by rintro ⟨⟩)⟩
  | authenticate id now =>
      obtain ⟨call, attempt, token, stage, found, rfl, outcome⟩ := authenticate_cases taken
      have keeps := requireAccess_keeps world.db token now
      rcases outcome with ⟨error, -, rfl⟩ | ⟨principal, -, rfl⟩
      · exact coherent.keeps keeps found (by rintro ⟨⟩) trivial (by rintro ⟨⟩)
      · exact coherent.keeps keeps found (by rintro ⟨⟩) trivial (by rintro ⟨⟩)
  | execute id now handled =>
      obtain ⟨call, attempt, token, principal, found, rfl⟩ := execute_cases taken
      exact coherent.keeps (handle_keeps world.db call principal now handled) found
        (by rintro ⟨⟩) trivial (by rintro ⟨⟩)
  | receive id =>
      obtain ⟨call, attempt, token, reply, found, rfl⟩ := receive_cases taken
      rcases settleAnswer_cases call attempt token reply with ⟨-, stage⟩ | ⟨result, stage, -⟩
      · rw [stage]
        exact ⟨view, coherent.moveTo_client found (by rintro ⟨⟩) trivial (by rintro ⟨⟩)⟩
      · rw [stage]
        exact ⟨view, coherent.finish found result rfl⟩
  | acquireGate id =>
      obtain ⟨call, rejected, found, free, rfl⟩ := acquireGate_cases taken
      exact ⟨view, coherent.moveTo_client found (fun _ => Or.inr free) trivial (by rintro ⟨⟩)⟩
  | compare id =>
      obtain ⟨call, rejected, stage, found, rfl, outcome⟩ := compare_cases taken
      rcases outcome with rfl | rfl
      · exact ⟨view, coherent.moveTo_client found (by rintro ⟨⟩) trivial (by rintro ⟨⟩)⟩
      · exact ⟨view, coherent.moveTo_client found (fun _ => Or.inl rfl) trivial (by rintro ⟨⟩)⟩
  | readCredential id available =>
      obtain ⟨call, found, rfl⟩ := readCredential_cases taken
      have holder : world.gate = some id := (coherent.gate id).mpr ⟨_, found, rfl⟩
      -- The reader holds the gate, so nobody carries a newer token.
      have stored : Stored world view := by
        rcases coherent.stored with ⟨other, task, known, carries⟩ | stored
        · exfalso
          by_cases same : other = id
          · subst same
            rw [found] at known
            cases known
            cases carries
          · have ungated := coherent.gate.ungated holder known same
            rw [gated_of_carriesRefresh carries] at ungated
            cases ungated
        · exact stored
      rcases stored.read call rfl with failed | ⟨token, stage, allowed, hash⟩
      · rw [failed]
        exact ⟨view, coherent.finish found _ rfl⟩
      · rw [stage]
        exact ⟨view, coherent.moveTo_client found (fun _ => Or.inl rfl) ⟨allowed, hash⟩
          (by rintro ⟨⟩)⟩
  | rotate id now seed =>
      obtain ⟨call, refreshToken, found, rfl⟩ := rotate_cases taken
      obtain ⟨-, allowed, hash⟩ := coherent.holds id _ found
      rcases refresh_cases world.db world.config refreshToken now seed with
        ⟨error, db, answer, keeps⟩ | ⟨rotatedView, tokens, db, answer, made, presented, -, rotated⟩
      · rw [answer]
        exact coherent.keeps keeps found (fun _ => Or.inl rfl) trivial (by rintro ⟨⟩)
      · rw [coherent.found hash] at presented
        cases presented
        rw [coherent.identity] at answer rotated
        rw [answer]
        exact coherent.rotated found made rotated
  | receiveTokens id =>
      obtain ⟨call, reply, found, rfl⟩ := receiveTokens_cases taken
      obtain ⟨-, held⟩ := coherent.holds id _ found
      cases reply with
      | error response => exact ⟨view, coherent.finish found _ rfl⟩
      | ok tokens =>
          have stage : settleTokens call world.owner (.ok tokens) = .storing tokens := by
            have issued : Issued world.owner view tokens := held
            simp [settleTokens, issued.valid, issued.identity]
          rw [stage]
          exact ⟨view, coherent.moveTo_client found (fun _ => Or.inl rfl) held (fun _ => rfl)⟩
  | storeCredential id accepted =>
      obtain ⟨call, tokens, found, ⟨-, rfl⟩ | ⟨refused, -⟩⟩ := storeCredential_cases taken
      · obtain ⟨notLogout, held⟩ := coherent.holds id _ found
        have issued : Issued world.owner view tokens := held
        refine ⟨view, coherent.seen, coherent.identity, coherent.owner, ?_, ?_, ?_⟩
        · exact coherent.gate.moveTo found (fun _ => Or.inl rfl)
        · exact forall_put coherent.holds ⟨notLogout, issued⟩
        · refine Or.inr ⟨tokens.refreshToken, ?_, issued.refreshAllowed, issued.refresh⟩
          exact Table.get_put_self _ _ _
      · simp [undisturbed, refused] at calm
  | publish id =>
      obtain ⟨call, tokens, found, rfl⟩ := publish_cases taken
      obtain ⟨notLogout, -⟩ := coherent.holds id _ found
      refine ⟨view, coherent.seen, coherent.identity, coherent.owner, ?_, ?_, ?_⟩
      · exact coherent.gate.moveTo found (by rintro ⟨⟩)
      · exact forall_put coherent.holds ⟨notLogout, trivial⟩
      · rcases coherent.stored with carried | stored
        · exact Or.inl (exists_put found (by rintro ⟨⟩) carried)
        · exact Or.inr stored
  | deleteCredential id accepted =>
      obtain ⟨call, result, found, -⟩ := deleteCredential_cases taken
      exact (coherent.holds id _ found).2.elim
  | interrupt id interruption =>
      obtain ⟨task, found, rfl, stage⟩ := interrupt_cases taken
      refine ⟨view, coherent.finish found _ ?_⟩
      rcases stage with ⟨_, _, stage⟩ | ⟨_, _, _, stage⟩ | ⟨_, stage⟩ | ⟨reply, stage⟩
      · rw [stage]
        rfl
      · rw [stage]
        rfl
      · rw [stage]
        rfl
      · obtain ⟨call, place⟩ := task
        cases stage
        simp [undisturbed, found] at calm

/-- A session as a login or a resumption leaves it on both sides, before its first call. -/
structure Established (world : SessionWorld) (view : SessionView) : Prop where
  seen : world.db.view world.sessionId = some view
  identity : view.identity = ownIdentity world.owner world.sessionId
  owner : validOwner world.owner.userId world.owner.username world.owner.deviceId
    world.owner.platform = true
  stored : Stored world view
  accessAllowed : tokenAllowed world.access.token = true
  access : tokenHash world.access.token = view.accessTokenHash
  gate : world.gate = none
  tasks : world.tasks = .empty
  loggedOut : world.loggedOut = false

theorem Established.coherent {world : SessionWorld} {view : SessionView}
    (start : Established world view) : Coherent world view where
  seen := start.seen
  identity := start.identity
  owner := start.owner
  gate := by
    intro id
    simp [start.gate, start.tasks]
  holds := by
    intro id task found
    rw [start.tasks, Table.get_empty] at found
    cases found
  stored := Or.inr start.stored

/-- The username is the one of the account that logs in. -/
theorem login_established {db : AuthDb} {config : SessionConfig}
    {credentials : Table CredentialScope ByteArray} {owner : SessionOwner}
    {deviceName : Option String} {sessionId : String} {now : Nat} {seed : TokenSeed}
    {world : SessionWorld} {user : UserRow} (account : db.users.get owner.userId = some user)
    (named : user.username = owner.username)
    (entered : SessionWorld.login db config credentials owner deviceName sessionId now seed =
      some world) : ∃ view, Established world view := by
  unfold SessionWorld.login Http.login at entered
  cases made : NewTokens.generate now config.accessTokenTtlSeconds seed with
  | error error => simp [made] at entered
  | ok tokens =>
      simp only [made] at entered
      cases opened : createSession db owner.userId owner.username owner.deviceId owner.platform
          deviceName sessionId tokens.accessHash tokens.refreshHash tokens.accessExpiresAt now with
      | mk after result =>
          cases result with
          | error reason =>
              rw [opened] at entered
              cases reason <;> cases entered
          | ok identity =>
              simp only [opened] at entered
              split at entered
              · rename_i checked
                cases entered
                obtain ⟨rfl, view, seen, own, access, refresh⟩ :=
                  createSession_view account opened
                obtain ⟨accessAllowed, refreshAllowed, accessHash, refreshHash, -⟩ :=
                  generate_spec made
                simp only [TokenResponse.new, validateTokens, Bool.and_eq_true] at checked
                refine ⟨view, seen, ?_, checked.1.1.1.1.1, ?_, accessAllowed, ?_, rfl, rfl, rfl⟩
                · rw [own, named]
                  rfl
                · exact ⟨tokens.refreshToken, Table.get_put_self _ _ _, refreshAllowed,
                    refreshHash.symm.trans refresh.symm⟩
                · exact accessHash.symm.trans access.symm
              · cases entered

omit [TokenHash] [UuidParser] in
theorem identity_of_matches {tokens : NewTokens} {identity : SessionIdentity}
    {owner : SessionOwner} (own : matchesIdentity (TokenResponse.new tokens identity) owner = true) :
    identity = ownIdentity owner identity.sessionId := by
  rw [matchesIdentity, Bool.and_eq_true, Bool.and_eq_true, Bool.and_eq_true] at own
  obtain ⟨⟨⟨user, name⟩, device⟩, platform⟩ := own
  have user : identity.userId = owner.userId := of_decide_eq_true user
  have name : identity.username = owner.username := of_decide_eq_true name
  have device : identity.deviceId = owner.deviceId := of_decide_eq_true device
  have platform : identity.platform = owner.platform := of_decide_eq_true platform
  rw [ownIdentity, ← user, ← name, ← device, ← platform]

/-- A session that is resumed is the server's own session of that token. -/
theorem resume_established {db : AuthDb} {config : SessionConfig}
    {credentials : Table CredentialScope ByteArray} {owner : SessionOwner}
    {available accepted : Bool} {now : Nat} {seed : TokenSeed} {world : SessionWorld}
    (resumed : SessionWorld.resume db config credentials owner available accepted now seed =
      .ok world) : ∃ view, Established world view := by
  unfold SessionWorld.resume at resumed
  split at resumed
  case isTrue => cases resumed
  case isFalse =>
    split at resumed
    case h_1 => cases resumed
    case h_2 bytes kept =>
      split at resumed
      case h_1 => cases resumed
      case h_2 refreshToken read =>
        rcases refresh_cases db config refreshToken now seed with
          ⟨error, after, answer, -⟩ | ⟨view, tokens, after, answer, made, found, -, rotated⟩
        · rw [answer] at resumed
          cases resumed
        · rw [answer] at resumed
          simp only [found, Option.map_some, Option.getD_some] at resumed
          split at resumed
          case isFalse => cases resumed
          case isTrue checked =>
            split at resumed
            case isFalse => cases resumed
            case isTrue =>
              cases resumed
              rw [Bool.and_eq_true] at checked
              obtain ⟨valid, own⟩ := checked
              have same := identity_of_matches own
              have present := (AuthDb.refreshIdentity_eq_some.mp found).1
              obtain ⟨later, seen, identity, access, refresh, -⟩ := rotated.own view present
              obtain ⟨accessAllowed, refreshAllowed, -, -, -⟩ := generate_spec made
              simp only [TokenResponse.new, validateTokens, Bool.and_eq_true] at valid
              refine ⟨later, seen, ?_, ?_, ?_, accessAllowed, access.symm, rfl, rfl, rfl⟩
              · exact identity.trans same
              · have checked := valid.1.1.1
                rw [same] at checked
                exact checked
              · exact ⟨tokens.refreshToken, Table.get_put_self _ _ _, refreshAllowed,
                  refresh.symm⟩

end Tokens

/-! One account and one device, for evaluating concrete runs. -/

namespace Sample

attribute [local instance] plainTokens hyphenatedParser

export Lvos.Core.Sample (randomId)

def tokenSeed (number : UInt8) : TokenSeed :=
  ⟨(randomId number, randomId (number + 1)), (randomId (number + 2), randomId (number + 3))⟩

def deskOwner : SessionOwner :=
  ⟨"https://sync.example", (randomId 1).text, "reader", (randomId 2).text, "macos"⟩

def oneHour : SessionConfig := .hourly

def oneAccount : AuthDb where
  users := Table.empty.put (randomId 1).text ⟨"reader", "$argon2id$", 0, none⟩
  devices := .empty
  sessions := ⟨.empty, List.nodup_nil, List.nodup_nil⟩

/-- The login at time 1000; its access token expires at 4600. -/
def loggedIn : SessionWorld :=
  (SessionWorld.login oneAccount oneHour .empty deskOwner (some "desk") (randomId 3).text 1000
    (tokenSeed 10)).get (by decide +kernel)

theorem loggedIn_established : ∃ view, Established loggedIn view :=
  login_established (Table.get_put_self _ _ _) rfl (Option.some_get _).symm

/-- The application is started again at once, and resumes the session. -/
def resumption : Except SessionError SessionWorld :=
  SessionWorld.resume loggedIn.db oneHour loggedIn.credentials deskOwner true true 1000
    (tokenSeed 14)

def resumedIn : SessionWorld := resumption.toOption.get (by decide +kernel)

theorem resumedIn_established : ∃ view, Established resumedIn view := by
  have resumed : resumption = .ok resumedIn :=
    Transaction.toOption_eq_some_iff.mp (Option.some_get _).symm
  exact resume_established resumed

end Sample

end Lvos.System.Session
