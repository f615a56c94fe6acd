import Lvos.System.Sessions

set_option autoImplicit false

namespace Lvos.System.Session

open Lvos.Core Lvos.Server
open Lvos.Desktop
open Relational (Table)
open Transition (run Meets run_keeps_of_meets)

/-- A fresh access token that the other calls cannot read yet. -/
def carriesAccess : Stage → Bool
  | .refreshed (.ok _) | .storing _ | .publishing _ => true
  | _ => false

/-- A request that `require_access` has not seen yet. -/
def underway : Stage → Bool
  | .sending _ _ => true
  | _ => false

/-- The two orders that the retry does not cover: no request is on its way while the
server replaces the tokens, and no call reads the access token between that moment and
the moment the new one is visible. -/
def handedOver (world : SessionWorld) : SessionAction → Bool
  | .readToken _ => world.tasks.rows.all (fun entry => !carriesAccess entry.2.stage)
  | .rotate _ _ _ => world.tasks.rows.all (fun entry => !underway entry.2.stage)
  | _ => true

theorem readToken_unpublished {world : SessionWorld} {id : Nat}
    (ready : handedOver world (.readToken id) = true) :
    ¬∃ other task, world.tasks.get other = some task ∧ carriesAccess task.stage = true := by
  rintro ⟨other, task, found, carries⟩
  have quiet := List.all_eq_true.mp ready (other, task) ((world.tasks.mem_rows_iff _ _).mpr found)
  rw [carries] at quiet
  cases quiet

theorem rotate_quiet {world : SessionWorld} {id now : Nat} {seed : TokenSeed}
    (ready : handedOver world (.rotate id now seed) = true) {other : Nat} {task : SessionTask}
    (found : world.tasks.get other = some task) : underway task.stage = false := by
  have quiet := List.all_eq_true.mp ready (other, task) ((world.tasks.mem_rows_iff _ _).mpr found)
  simpa using quiet

/-- Nothing an endpoint answers after `require_access` reads as a lost session. -/
theorem intoResponse_valid (error : SyncApiError) :
    responseError error.intoResponse ≠ .sessionInvalid := by
  cases error with
  | basic reason => cases reason <;> decide
  | invalid message => simp [responseError, SyncApiError.intoResponse, ApiError.invalidRequest]
  | conflict found => simp [responseError, SyncApiError.intoResponse]

theorem revokeDevice_valid [UuidParser] {db : AuthDb} {principal : SessionIdentity}
    {deviceId : String} {now : Nat} {error : ApiError}
    (failed : (Http.revokeDevice db principal deviceId now).2 = .error error) :
    responseError ⟨error, none⟩ ≠ .sessionInvalid := by
  unfold Http.revokeDevice validateDeviceId Server.revokeDevice at failed
  cases parsed : parseStr deviceId with
  | none =>
      simp only [parsed] at failed
      cases failed
      decide
  | some uuid =>
      simp only [parsed] at failed
      cases stored : db.devices.get (principal.userId, deviceId) with
      | none =>
          simp only [stored] at failed
          cases failed
          decide
      | some row =>
          simp only [stored] at failed
          cases failed

theorem handle_valid [UuidParser] {db : AuthDb} {call : SessionCall} {principal : SessionIdentity}
    {now : Nat} {handled : ApiResult Unit} {response : ErrorResponse}
    (failed : (handle db call principal now handled).2 = .error response) :
    responseError response ≠ .sessionInvalid := by
  have sync : ∀ {answer : ApiResult Unit},
      answer.mapError SyncApiError.intoResponse = .error response →
        responseError response ≠ .sessionInvalid := by
    intro answer given
    cases answer with
    | ok value => cases given
    | error error =>
        cases given
        exact intoResponse_valid error
  cases call with
  | revokeDevice deviceId =>
      simp only [handle] at failed
      cases outcome : (Http.revokeDevice db principal deviceId now).2 with
      | ok value =>
          rw [outcome] at failed
          cases failed
      | error error =>
          rw [outcome] at failed
          cases failed
          exact revokeDevice_valid outcome
  | logout =>
      simp only [handle, Http.logout, Server.revokeSession] at failed
      cases failed
  | push => exact sync failed
  | changes => exact sync failed
  | devices => exact sync failed
  | revisionStream => exact sync failed

section Tokens

variable [TokenHash]

/-- A request carries the token that the server keeps, and no answer or result is
`SessionInvalid`. -/
def Untainted (view : SessionView) : Stage → Prop
  | .sending _ token => tokenAllowed token = true ∧ tokenHash token = view.accessTokenHash
  | .replied _ _ (.error response) | .refreshed (.error response) =>
      responseError response ≠ .sessionInvalid
  | .deleting result | .done result => result ≠ .error (.transport .sessionInvalid)
  | _ => True

structure Clean (world : SessionWorld) (view : SessionView) : Prop where
  untainted : ∀ id task, world.tasks.get id = some task → Untainted view task.stage
  published : (∃ id task, world.tasks.get id = some task ∧ carriesAccess task.stage = true) ∨
    (tokenAllowed world.access.token = true ∧
      tokenHash world.access.token = view.accessTokenHash)

/-- Only a request on its way depends on the tokens of the session. -/
theorem Untainted.of_quiet {view later : SessionView} {stage : Stage}
    (untainted : Untainted view stage) (quiet : underway stage = false) :
    Untainted later stage := by
  cases stage with
  | sending attempt token => cases quiet
  | replied attempt token reply => cases reply <;> exact untainted
  | refreshed reply => cases reply <;> exact untainted
  | _ => exact untainted

theorem Untainted.follows {view later : SessionView} {stage : Stage}
    (untainted : Untainted view stage) (follows : view.Follows later) :
    Untainted later stage := by
  cases quiet : underway stage with
  | false => exact untainted.of_quiet quiet
  | true =>
      cases stage with
      | sending attempt token => exact ⟨untainted.1, untainted.2.trans follows.access.symm⟩
      | _ => cases quiet

theorem untainted_finish {view : SessionView} (call : SessionCall)
    {result : Except SessionError Unit} (valid : result ≠ .error (.transport .sessionInvalid)) :
    Untainted view (call.finish result) := by
  cases call <;> exact valid

theorem Clean.moveTo {world : SessionWorld} {view later : SessionView} {db : AuthDb}
    (clean : Clean world view) (follows : view.Follows later) {id : Nat} {task : SessionTask}
    {stage : Stage} (found : world.tasks.get id = some task) (untainted : Untainted view stage)
    (carries : carriesAccess task.stage = true → carriesAccess stage = true) :
    Clean (({ world with db := db } : SessionWorld).moveTo id task stage) later where
  untainted := by
    apply forall_put
    · intro other entry stored
      exact (clean.untainted other entry stored).follows follows
    · exact untainted.follows follows
  published := by
    rcases clean.published with carried | ⟨allowed, hash⟩
    · exact Or.inl (exists_put found carries carried)
    · exact Or.inr ⟨allowed, hash.trans follows.access.symm⟩

theorem Clean.moveTo_client {world : SessionWorld} {view : SessionView} (clean : Clean world view)
    {id : Nat} {task : SessionTask} {stage : Stage} (found : world.tasks.get id = some task)
    (untainted : Untainted view stage)
    (carries : carriesAccess task.stage = true → carriesAccess stage = true) :
    Clean (world.moveTo id task stage) view :=
  clean.moveTo (.refl view) found untainted carries

variable [UuidParser]

/-- The check of a request that carries the token of the session. -/
theorem Coherent.admits {world : SessionWorld} {view : SessionView} (coherent : Coherent world view)
    (standing : view.refusal = none) {token : String} (allowed : tokenAllowed token = true)
    (hash : tokenHash token = view.accessTokenHash) (now : Nat) {error : ApiError}
    (failed : (Http.requireAccess world.db token now).2 = .error error) :
    responseError ⟨error, none⟩ ≠ .sessionInvalid := by
  have found : world.db.accessIdentity (tokenHash token) = some view := by
    rw [AuthDb.accessIdentity_eq_some, AuthDb.view_sessionId coherent.seen]
    exact ⟨coherent.seen, hash.symm⟩
  rcases requireAccess_current allowed found standing now with expired | accepted
  · rw [expired] at failed
    cases failed
    decide
  · rw [accepted] at failed
    cases failed

/-- The refresh endpoint never denies the session to the call that holds its token. -/
theorem Coherent.refreshes {world : SessionWorld} {view : SessionView}
    (coherent : Coherent world view) {id now : Nat} {seed : TokenSeed}
    (calm : undisturbed world (.rotate id now seed) = true) {token : String}
    (allowed : tokenAllowed token = true) (hash : tokenHash token = view.refreshTokenHash)
    {error : ApiError}
    (failed : (Http.refresh world.db world.config token now seed).2 = .error error) :
    responseError ⟨error, none⟩ ≠ .sessionInvalid := by
  have busy : (now : Int) - view.lastSeenAt < world.config.refreshIdleTtlSeconds := by
    simp only [undisturbed, active, coherent.seen, Bool.and_eq_true, decide_eq_true_eq] at calm
    exact calm.2
  rw [refresh_current allowed (coherent.found hash) (coherent.standing calm) busy seed failed]
  decide

theorem clean_step {world next : SessionWorld} {view later : SessionView} {action : SessionAction}
    (coherent : Coherent world view) (clean : Clean world view)
    (calm : undisturbed world action = true) (ready : handedOver world action = true)
    (taken : sessionStep world action = some next)
    (seen : next.db.view next.sessionId = some later) : Clean next later := by
  have same : world.db.view world.sessionId = some later → later = view := by
    intro found
    rw [coherent.seen] at found
    exact (Option.some.inj found).symm
  have followed : ∀ {db : AuthDb}, world.db.Keeps db → db.view world.sessionId = some later →
      view.Follows later := by
    intro db keeps found
    obtain ⟨last, known, follows⟩ := keeps.view coherent.seen
    rw [found] at known
    cases known
    exact follows
  cases action with
  | start id call =>
      obtain ⟨absent, rfl⟩ := start_cases taken
      cases same seen
      refine ⟨forall_put clean.untainted trivial, ?_⟩
      rcases clean.published with ⟨other, task, found, carries⟩ | published
      · refine Or.inl ⟨other, task, ?_, carries⟩
        have differs : other ≠ id := by
          rintro rfl
          rw [absent] at found
          cases found
        rw [Table.get_put_of_ne _ _ differs, found]
      · exact Or.inr published
  | readToken id =>
      obtain ⟨call, attempt, found, rfl⟩ := readToken_cases taken
      cases same seen
      rcases clean.published with carried | published
      · exact absurd carried (readToken_unpublished ready)
      · exact clean.moveTo_client found published (by rintro ⟨⟩)
  | authenticate id now =>
      obtain ⟨call, attempt, token, stage, found, rfl, outcome⟩ := authenticate_cases taken
      have follows := followed (requireAccess_keeps world.db token now) seen
      obtain ⟨allowed, hash⟩ := clean.untainted id _ found
      rcases outcome with ⟨error, failed, rfl⟩ | ⟨principal, -, rfl⟩
      · exact clean.moveTo follows found
          (coherent.admits (coherent.standing calm) allowed hash now failed) (by rintro ⟨⟩)
      · exact clean.moveTo follows found trivial (by rintro ⟨⟩)
  | execute id now handled =>
      obtain ⟨call, attempt, token, principal, found, rfl⟩ := execute_cases taken
      have follows := followed (handle_keeps world.db call principal now handled) seen
      refine clean.moveTo follows found ?_ (by rintro ⟨⟩)
      cases reply : (handle world.db call principal now handled).2 with
      | ok value => trivial
      | error response => exact handle_valid reply
  | receive id =>
      obtain ⟨call, attempt, token, reply, found, rfl⟩ := receive_cases taken
      cases same seen
      have untainted := clean.untainted id _ found
      rcases settleAnswer_cases call attempt token reply with ⟨-, stage⟩ | ⟨result, stage, ended⟩
      · rw [stage]
        exact clean.moveTo_client found trivial (by rintro ⟨⟩)
      · rw [stage]
        refine clean.moveTo_client found (untainted_finish call ?_) (by rintro ⟨⟩)
        rcases ended with rfl | ⟨response, rfl, rfl⟩
        · simp
        · simpa [Untainted] using untainted
  | acquireGate id =>
      obtain ⟨call, rejected, found, -, rfl⟩ := acquireGate_cases taken
      cases same seen
      exact clean.moveTo_client found trivial (by rintro ⟨⟩)
  | compare id =>
      obtain ⟨call, rejected, stage, found, rfl, outcome⟩ := compare_cases taken
      cases same seen
      rcases outcome with rfl | rfl
      · exact clean.moveTo_client found trivial (by rintro ⟨⟩)
      · exact clean.moveTo_client found trivial (by rintro ⟨⟩)
  | readCredential id available =>
      obtain ⟨call, found, rfl⟩ := readCredential_cases taken
      cases same seen
      refine clean.moveTo_client found ?_ (by rintro ⟨⟩)
      rcases settleCredential_cases call available world.credential with
        ⟨error, stage, other⟩ | ⟨token, bytes, stage, -, -⟩
      · rw [stage]
        exact untainted_finish call (by simpa using other _)
      · rw [stage]
        trivial
  | rotate id now seed =>
      obtain ⟨call, refreshToken, found, rfl⟩ := rotate_cases taken
      obtain ⟨-, allowed, hash⟩ := coherent.holds id _ found
      rcases refresh_cases world.db world.config refreshToken now seed with
        ⟨error, db, answer, keeps⟩ | ⟨presented, tokens, db, answer, -, -, -, -⟩
      · have denied := coherent.refreshes calm allowed hash
          (show (Http.refresh world.db world.config refreshToken now seed).2 = .error error by
            rw [answer])
        rw [answer] at seen ⊢
        exact clean.moveTo (followed keeps seen) found denied (by rintro ⟨⟩)
      · rw [answer]
        refine ⟨?_, Or.inl ⟨id, _, Table.get_put_self _ _ _, rfl⟩⟩
        apply forall_put
        · intro other task stored
          exact (clean.untainted other task stored).of_quiet (rotate_quiet ready stored)
        · trivial
  | receiveTokens id =>
      obtain ⟨call, reply, found, rfl⟩ := receiveTokens_cases taken
      cases same seen
      have untainted := clean.untainted id _ found
      cases reply with
      | error response =>
          refine clean.moveTo_client found (untainted_finish call ?_) (by rintro ⟨⟩)
          simpa [Untainted] using untainted
      | ok tokens =>
          have issued : Issued world.owner view tokens := (coherent.holds id _ found).2
          have stage : settleTokens call world.owner (.ok tokens) = .storing tokens := by
            simp [settleTokens, issued.valid, issued.identity]
          rw [stage]
          exact clean.moveTo_client found trivial (fun _ => rfl)
  | storeCredential id accepted =>
      obtain ⟨call, tokens, found, ⟨-, rfl⟩ | ⟨refused, -⟩⟩ := storeCredential_cases taken
      · cases same seen
        refine ⟨forall_put clean.untainted trivial, ?_⟩
        exact Or.inl ⟨id, _, Table.get_put_self _ _ _, rfl⟩
      · simp [undisturbed, refused] at calm
  | publish id =>
      obtain ⟨call, tokens, found, rfl⟩ := publish_cases taken
      cases same seen
      have issued : Issued world.owner view tokens := (coherent.holds id _ found).2
      exact ⟨forall_put clean.untainted trivial, Or.inr ⟨issued.accessAllowed, issued.access⟩⟩
  | deleteCredential id accepted =>
      obtain ⟨call, result, found, -⟩ := deleteCredential_cases taken
      exact (coherent.holds id _ found).2.elim
  | interrupt id interruption =>
      obtain ⟨task, found, rfl, stage⟩ := interrupt_cases taken
      cases same seen
      refine clean.moveTo_client found (untainted_finish _ ?_) ?_
      · cases interruption <;> simp [Interruption.error]
      · rcases stage with ⟨_, _, stage⟩ | ⟨_, _, _, stage⟩ | ⟨_, stage⟩ | ⟨reply, stage⟩
        · rw [stage]
          rintro ⟨⟩
        · rw [stage]
          rintro ⟨⟩
        · rw [stage]
          rintro ⟨⟩
        · obtain ⟨call, place⟩ := task
          cases stage
          simp [undisturbed, found] at calm

theorem Established.clean {world : SessionWorld} {view : SessionView}
    (start : Established world view) : Clean world view where
  untainted := by
    intro id task found
    rw [start.tasks, Table.get_empty] at found
    cases found
  published := Or.inr ⟨start.accessAllowed, start.access⟩

/-- In every run of concurrent calls on a session in good standing, the credential store
has the refresh token that finds the session whenever the gate is free; and if every
rotation is handed over undisturbed, no call ends with `SessionInvalid`. -/
theorem calls_survive_rotation {first last : SessionWorld} {view : SessionView}
    {actions : List SessionAction} (start : Established first view)
    (calm : Meets sessionStep (fun world action => undisturbed world action = true) first actions)
    (reached : run sessionStep first actions = some last) :
    (last.gate = none → ∃ token current, last.credential = some token.toUTF8 ∧
        last.db.refreshIdentity (tokenHash token) = some current ∧
        current.identity.sessionId = last.sessionId) ∧
      (Meets sessionStep (fun world action => handedOver world action = true) first actions →
        ∀ id call result, last.tasks.get id = some ⟨call, .done result⟩ →
          result ≠ .error (.transport .sessionInvalid)) := by
  constructor
  · intro free
    obtain ⟨current, coherent⟩ := run_keeps_of_meets
      (fun _ _ _ agreed calm taken => coherent_step agreed calm taken) actions first last
      ⟨view, start.coherent⟩ calm reached
    rcases coherent.stored with ⟨id, task, found, carries⟩ | ⟨token, kept, -, hash⟩
    · have holder := (coherent.gate id).mpr ⟨task, found, gated_of_carriesRefresh carries⟩
      rw [free] at holder
      cases holder
    · exact ⟨token, current, kept, coherent.found hash, AuthDb.view_sessionId coherent.seen⟩
  · intro ready id call result ended
    obtain ⟨current, -, clean⟩ := @run_keeps_of_meets _ _ sessionStep _
      (fun world => ∃ current, Coherent world current ∧ Clean world current)
      (fun world action next agreed meets taken => by
        obtain ⟨current, coherent, clean⟩ := agreed
        obtain ⟨later, after⟩ := coherent_step ⟨current, coherent⟩ meets.1 taken
        exact ⟨later, after, clean_step coherent clean meets.1 meets.2 taken after.seen⟩)
      actions first last ⟨view, start.coherent, start.clean⟩ (calm.and ready) reached
    exact clean.untainted id _ ended

end Tokens

section Witness

attribute [local instance] plainTokens hyphenatedParser

def pushAndPull : List SessionAction :=
  [.start 0 .push, .start 1 .changes, .readToken 0]

/-- The access token of the push has expired when the server checks it, and the push
obtains a new pair. -/
def pushRotates : List SessionAction :=
  [.authenticate 0 4700, .receive 0, .acquireGate 0, .compare 0, .readCredential 0 true,
    .rotate 0 4700 (Sample.tokenSeed 20), .receiveTokens 0, .storeCredential 0 true, .publish 0]

/-- The pull has read the access token before the rotation and its request arrives after
it. -/
def overtakenPull : List SessionAction :=
  pushAndPull ++ [SessionAction.readToken 1] ++ pushRotates ++
    [SessionAction.authenticate 1 4701, .receive 1]

/-- The pull reads the access token after the push has published it. -/
def pullAfterwards : List SessionAction :=
  pushAndPull ++ pushRotates ++
    [SessionAction.readToken 1, .authenticate 1 4701, .execute 1 4701 (.ok ()), .receive 1]

/-- What is evaluated of both pulls. -/
theorem pushAndPull_runs :
    (Meets sessionStep (fun world action => undisturbed world action = true) Sample.loggedIn
        overtakenPull ∧
      (run sessionStep Sample.loggedIn overtakenPull).any (fun last =>
        last.tasks.get 1 = some ⟨.changes, .done (.error (.transport .sessionInvalid))⟩) = true) ∧
    (run sessionStep Sample.loggedIn pullAfterwards).any (fun last =>
      last.gate = none && last.tasks.get 1 = some ⟨.changes, .done (.ok ())⟩) = true ∧
    Meets sessionStep (fun world action => undisturbed world action = true) Sample.loggedIn
      pullAfterwards ∧
    Meets sessionStep (fun world action => handedOver world action = true) Sample.loggedIn
      pullAfterwards := by
  decide +kernel

/-- The server no longer knows the token of the overtaken pull, which ends with
`SessionInvalid`. -/
theorem overtaken_pull_loses_session :
    (∃ view, Established Sample.loggedIn view) ∧
      Meets sessionStep (fun world action => undisturbed world action = true) Sample.loggedIn
        overtakenPull ∧
      ∃ last, run sessionStep Sample.loggedIn overtakenPull = some last ∧
        last.tasks.get 1 = some ⟨.changes, .done (.error (.transport .sessionInvalid))⟩ := by
  obtain ⟨⟨calm, facts⟩, -⟩ := pushAndPull_runs
  refine ⟨Sample.loggedIn_established, calm, ?_⟩
  obtain ⟨last, ran, holds⟩ := (Option.any_eq_true _ _).mp facts
  exact ⟨last, ran, by simpa using holds⟩

theorem calls_survive_rotation_push :
    ∃ last, run sessionStep Sample.loggedIn pullAfterwards = some last ∧
      last.gate = none ∧ last.tasks.get 1 = some ⟨.changes, .done (.ok ())⟩ ∧
      (∃ token current, last.credential = some token.toUTF8 ∧
        last.db.refreshIdentity (tokenHash token) = some current ∧
        current.identity.sessionId = last.sessionId) ∧
      ∀ id call result, last.tasks.get id = some ⟨call, .done result⟩ →
        result ≠ .error (.transport .sessionInvalid) := by
  obtain ⟨-, facts, calm, ready⟩ := pushAndPull_runs
  obtain ⟨last, ran, holds⟩ := (Option.any_eq_true _ _).mp facts
  simp only [Bool.and_eq_true, decide_eq_true_eq] at holds
  obtain ⟨view, start⟩ := Sample.loggedIn_established
  obtain ⟨accepted, survived⟩ := calls_survive_rotation start calm ran
  exact ⟨last, ran, holds.1, holds.2, accepted holds.1, survived ready⟩

end Witness

end Lvos.System.Session
