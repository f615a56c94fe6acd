import Lvos.System.Sessions

set_option autoImplicit false

namespace Lvos.System.Session

open Lvos.Core Lvos.Server
open Lvos.Desktop
open Relational (Table)
open Transition (run Meets run_keeps_of_meets)

/-- A refresh request that the server has not seen yet. -/
def asksRefresh : Stage → Bool
  | .refreshing _ => true
  | _ => false

/-- The deletion is the last word: no call carries a refresh token to the credential
store, and none can obtain one, because it asks for none or the session is closed on the
server. -/
def unclaimed (world : SessionWorld) : SessionAction → Bool
  | .deleteCredential _ true => world.tasks.rows.all (fun entry =>
      !carriesRefresh entry.2.stage && !(standing world && asksRefresh entry.2.stage))
  | _ => true

/-- A closed session stays closed. -/
theorem standing_back {world : SessionWorld} {db : AuthDb} {view later : SessionView}
    (seen : world.db.view world.sessionId = some view)
    (after : db.view world.sessionId = some later)
    (refused : view.refusal ≠ none → later.refusal ≠ none)
    (good : standing { world with db := db } = true) : standing world = true := by
  unfold standing at good ⊢
  simp only [after, Option.isNone_iff_eq_none] at good
  simp only [seen, Option.isNone_iff_eq_none]
  by_contra closed
  exact refused closed good

theorem finish_claims (call : SessionCall) (result : Except SessionError Unit) :
    carriesRefresh (call.finish result) = false ∧ asksRefresh (call.finish result) = false := by
  cases call <;> exact ⟨rfl, rfl⟩

section Tokens

variable [TokenHash]

/-- No other session answers to the token. -/
def Owned (world : SessionWorld) (token : String) : Prop :=
  ∀ other view, world.db.view other = some view →
    view.refreshTokenHash = tokenHash token → other = world.sessionId

/-- The refresh tokens the client holds are tokens of its session. -/
def HoldsOwn (world : SessionWorld) : Stage → Prop
  | .refreshing token => Owned world token
  | .refreshed (.ok tokens) | .storing tokens => Owned world tokens.refreshToken
  | _ => True

/-- After a logout has deleted the credential nothing puts one back. -/
structure Final (world : SessionWorld) : Prop where
  seen : ∃ view, world.db.view world.sessionId = some view
  kept : ∀ bytes token, world.credential = some bytes → String.fromUTF8? bytes = some token →
    Owned world token
  holds : ∀ id task, world.tasks.get id = some task → HoldsOwn world task.stage
  deleted : world.loggedOut = true → world.credential = none
  claims : world.loggedOut = true → ∀ id task, world.tasks.get id = some task →
    carriesRefresh task.stage = false ∧
      (standing world = true → asksRefresh task.stage = false)

/-- What the client's tokens rely on when the server has made a step. -/
structure Succeeds (world : SessionWorld) (db : AuthDb) : Prop where
  seen : ∃ view, db.view world.sessionId = some view
  owned : ∀ token, Owned world token → Owned { world with db := db } token
  standing : standing { world with db := db } = true → standing world = true

theorem owned_of_others {world : SessionWorld} {db : AuthDb}
    (others : ∀ other, other ≠ world.sessionId →
      Option.Rel SessionView.Follows (world.db.view other) (db.view other)) {token : String}
    (owned : Owned world token) : Owned { world with db := db } token := by
  intro other view seen hash
  change db.view other = some view at seen
  by_contra differs
  have related := others other differs
  rw [seen] at related
  cases before : world.db.view other with
  | none => simp [before] at related
  | some earlier =>
      rw [before, Option.rel_some_some] at related
      exact differs (owned other earlier before (related.refresh.symm.trans hash))

theorem Final.keeps {world : SessionWorld} (final : Final world) {db : AuthDb}
    (keeps : world.db.Keeps db) : Succeeds world db := by
  obtain ⟨view, seen⟩ := final.seen
  obtain ⟨later, after, follows⟩ := keeps.view seen
  exact ⟨⟨later, after⟩, fun token => owned_of_others (fun other _ => keeps other),
    standing_back seen after follows.refused⟩

theorem Final.rotated {world : SessionWorld} (final : Final world) {db : AuthDb}
    {accessHash refreshHash : String}
    (rotated : world.db.Rotated db world.sessionId accessHash refreshHash) :
    Succeeds world db := by
  obtain ⟨view, seen⟩ := final.seen
  obtain ⟨later, after, -, -, -, refused⟩ := rotated.own view seen
  exact ⟨⟨later, after⟩, fun token => owned_of_others rotated.others,
    standing_back seen after refused⟩

/-- The `UNIQUE` column gives a new refresh token to one session only. -/
theorem Final.owns_new {world : SessionWorld} (final : Final world) {db : AuthDb}
    {accessHash token : String}
    (rotated : world.db.Rotated db world.sessionId accessHash (tokenHash token)) :
    Owned { world with db := db } token := by
  obtain ⟨view, seen⟩ := final.seen
  obtain ⟨later, after, -, -, refresh, -⟩ := rotated.own view seen
  intro other found known hash
  change db.view other = some found at known
  have own : db.refreshIdentity (tokenHash token) = some later := by
    rw [AuthDb.refreshIdentity_eq_some, AuthDb.view_sessionId after]
    exact ⟨after, refresh⟩
  have foreign : db.refreshIdentity (tokenHash token) = some found := by
    rw [AuthDb.refreshIdentity_eq_some, AuthDb.view_sessionId known]
    exact ⟨known, hash⟩
  rw [own] at foreign
  cases foreign
  exact (AuthDb.view_sessionId known).symm.trans (AuthDb.view_sessionId after)

/-- The server rotates only the session that the token belongs to. -/
theorem Owned.session {world : SessionWorld} {token : String} (owned : Owned world token)
    {view : SessionView} (found : world.db.refreshIdentity (tokenHash token) = some view) :
    view.identity.sessionId = world.sessionId ∧ world.db.view world.sessionId = some view := by
  obtain ⟨seen, hash⟩ := AuthDb.refreshIdentity_eq_some.mp found
  have own := owned _ view seen hash
  exact ⟨own, own ▸ seen⟩

theorem HoldsOwn.succeeds {world : SessionWorld} {db : AuthDb} (succeeds : Succeeds world db)
    {stage : Stage} (holds : HoldsOwn world stage) :
    HoldsOwn { world with db := db } stage := by
  cases stage with
  | refreshing token => exact succeeds.owned token holds
  | refreshed reply =>
      cases reply with
      | error response => trivial
      | ok tokens => exact succeeds.owned tokens.refreshToken holds
  | storing tokens => exact succeeds.owned tokens.refreshToken holds
  | _ => trivial

theorem holdsOwn_finish (world : SessionWorld) (call : SessionCall)
    (result : Except SessionError Unit) : HoldsOwn world (call.finish result) := by
  cases call <;> trivial

theorem Final.moveTo {world : SessionWorld} (final : Final world) {db : AuthDb}
    (succeeds : Succeeds world db) (id : Nat) (task : SessionTask) {stage : Stage}
    (holds : HoldsOwn { world with db := db } stage)
    (claims : world.loggedOut = true →
      carriesRefresh stage = false ∧ (standing world = true → asksRefresh stage = false)) :
    Final (({ world with db := db } : SessionWorld).moveTo id task stage) where
  seen := succeeds.seen
  kept := by
    intro bytes token stored decoded
    exact succeeds.owned token (final.kept bytes token stored decoded)
  holds := by
    refine forall_put ?_ holds
    intro other entry found
    exact (final.holds other entry found).succeeds succeeds
  deleted := final.deleted
  claims := by
    intro ended
    refine forall_put ?_ ?_
    · intro other entry found
      obtain ⟨carries, asks⟩ := final.claims ended other entry found
      exact ⟨carries, fun good => asks (succeeds.standing good)⟩
    · obtain ⟨carries, asks⟩ := claims ended
      exact ⟨carries, fun good => asks (succeeds.standing good)⟩

/-- A step without the server to a stage that holds no refresh token. -/
theorem Final.moveTo_client {world : SessionWorld} (final : Final world) (id : Nat)
    (task : SessionTask) {stage : Stage} (holds : HoldsOwn world stage)
    (claims : carriesRefresh stage = false ∧ asksRefresh stage = false) :
    Final (world.moveTo id task stage) :=
  final.moveTo (final.keeps (.refl world.db)) id task holds
    (fun _ => ⟨claims.1, fun _ => claims.2⟩)

theorem Final.finish {world : SessionWorld} (final : Final world) (id : Nat)
    (task : SessionTask) (call : SessionCall) (result : Except SessionError Unit) :
    Final (world.moveTo id task (call.finish result)) :=
  final.moveTo_client id task (holdsOwn_finish world call result) (finish_claims call result)

variable [UuidParser]

theorem Final.step {world next : SessionWorld} {action : SessionAction} (final : Final world)
    (last : unclaimed world action = true) (taken : sessionStep world action = some next) :
    Final next := by
  cases action with
  | start id call =>
      obtain ⟨-, rfl⟩ := start_cases taken
      exact ⟨final.seen, final.kept, forall_put final.holds trivial, final.deleted,
        fun ended => forall_put (final.claims ended) ⟨rfl, fun _ => rfl⟩⟩
  | readToken id =>
      obtain ⟨call, attempt, -, rfl⟩ := readToken_cases taken
      exact final.moveTo_client id _ trivial ⟨rfl, rfl⟩
  | authenticate id now =>
      obtain ⟨call, attempt, token, stage, -, rfl, outcome⟩ := authenticate_cases taken
      have succeeds := final.keeps (requireAccess_keeps world.db token now)
      rcases outcome with ⟨error, -, rfl⟩ | ⟨principal, -, rfl⟩
      · exact final.moveTo succeeds id _ trivial (fun _ => ⟨rfl, fun _ => rfl⟩)
      · exact final.moveTo succeeds id _ trivial (fun _ => ⟨rfl, fun _ => rfl⟩)
  | execute id now handled =>
      obtain ⟨call, attempt, token, principal, -, rfl⟩ := execute_cases taken
      have succeeds := final.keeps (handle_keeps world.db call principal now handled)
      exact final.moveTo succeeds id _ trivial (fun _ => ⟨rfl, fun _ => rfl⟩)
  | receive id =>
      obtain ⟨call, attempt, token, reply, -, rfl⟩ := receive_cases taken
      rcases settleAnswer_cases call attempt token reply with ⟨-, stage⟩ | ⟨result, stage, -⟩
      · rw [stage]
        exact final.moveTo_client id _ trivial ⟨rfl, rfl⟩
      · rw [stage]
        exact final.finish id _ call result
  | acquireGate id =>
      obtain ⟨call, rejected, -, -, rfl⟩ := acquireGate_cases taken
      exact final.moveTo_client id _ trivial ⟨rfl, rfl⟩
  | compare id =>
      obtain ⟨call, rejected, stage, -, rfl, outcome⟩ := compare_cases taken
      rcases outcome with rfl | rfl
      · exact final.moveTo_client id _ trivial ⟨rfl, rfl⟩
      · exact final.moveTo_client id _ trivial ⟨rfl, rfl⟩
  | readCredential id available =>
      obtain ⟨call, -, rfl⟩ := readCredential_cases taken
      rcases settleCredential_cases call available world.credential with
        ⟨error, stage, -⟩ | ⟨token, bytes, stage, stored, decoded⟩
      · rw [stage]
        exact final.finish id _ call _
      · rw [stage]
        refine final.moveTo (final.keeps (.refl world.db)) id _
          (final.kept bytes token stored decoded) ?_
        intro ended
        rw [final.deleted ended] at stored
        cases stored
  | rotate id now seed =>
      obtain ⟨call, refreshToken, found, rfl⟩ := rotate_cases taken
      have owned : Owned world refreshToken := final.holds id _ found
      rcases refresh_cases world.db world.config refreshToken now seed with
        ⟨error, db, answer, keeps⟩ | ⟨view, tokens, db, answer, -, presented, open', rotated⟩
      · rw [answer]
        exact final.moveTo (final.keeps keeps) id _ trivial (fun _ => ⟨rfl, fun _ => rfl⟩)
      · obtain ⟨own, seen⟩ := owned.session presented
        rw [own] at rotated
        rw [answer]
        refine final.moveTo (final.rotated rotated) id _ (final.owns_new rotated) ?_
        intro ended
        -- The session was open, so the deletion would have waited for this answer.
        have good : standing world = true := by
          simp [standing, seen, open']
        have asked := (final.claims ended id _ found).2 good
        cases asked
  | receiveTokens id =>
      obtain ⟨call, reply, found, rfl⟩ := receiveTokens_cases taken
      have holds := final.holds id _ found
      cases reply with
      | error response => exact final.finish id _ call _
      | ok tokens =>
          unfold settleTokens
          dsimp only
          split
          · refine final.moveTo (final.keeps (.refl world.db)) id _ holds ?_
            intro ended
            have carried := (final.claims ended id _ found).1
            cases carried
          · exact final.finish id _ call _
  | storeCredential id accepted =>
      obtain ⟨call, tokens, found, ⟨-, rfl⟩ | ⟨-, rfl⟩⟩ := storeCredential_cases taken
      · have owned : Owned world tokens.refreshToken := final.holds id _ found
        have present : world.loggedOut ≠ true := by
          intro ended
          have carried := (final.claims ended id _ found).1
          cases carried
        refine ⟨final.seen, ?_, forall_put final.holds trivial, fun ended => absurd ended present,
          fun ended => absurd ended present⟩
        intro bytes token stored decoded
        have written : tokens.refreshToken.toUTF8 = bytes := by
          simpa [SessionWorld.credential, SessionWorld.moveTo] using stored
        rw [← written, fromUTF8_toUTF8] at decoded
        cases decoded
        exact owned
      · exact final.finish id _ call _
  | publish id =>
      obtain ⟨call, tokens, -, rfl⟩ := publish_cases taken
      exact ⟨final.seen, final.kept, forall_put final.holds trivial, final.deleted,
        fun ended => forall_put (final.claims ended) ⟨rfl, fun _ => rfl⟩⟩
  | deleteCredential id accepted =>
      obtain ⟨call, result, found, ⟨rfl, rfl⟩ | ⟨-, rfl⟩⟩ := deleteCredential_cases taken
      · have gone : (world.credentials.delete
            (fun scope _ => decide (scope = world.owner.scope))).get world.owner.scope = none := by
          rw [Table.get_delete_key, if_pos rfl]
        refine ⟨final.seen, ?_, forall_put final.holds trivial, fun _ => gone, ?_⟩
        · intro bytes token stored _
          have impossible := gone.symm.trans stored
          cases impossible
        · intro _
          refine forall_put ?_ ⟨rfl, fun _ => rfl⟩
          intro other task stored
          have clear := List.all_eq_true.mp last (other, task)
            ((world.tasks.mem_rows_iff _ _).mpr stored)
          simp only [Bool.and_eq_true, Bool.not_eq_true', Bool.and_eq_false_iff] at clear
          refine ⟨clear.1, ?_⟩
          intro good
          rcases clear.2 with closed | quiet
          · have still : standing world = true := good
            rw [closed] at still
            cases still
          · exact quiet
      · exact final.moveTo_client id _ trivial ⟨rfl, rfl⟩
  | interrupt id interruption =>
      obtain ⟨task, -, rfl, -⟩ := interrupt_cases taken
      exact final.finish id task task.call _

omit [UuidParser] in
theorem Stored.owned {world : SessionWorld} {view : SessionView} (stored : Stored world view)
    (seen : world.db.view world.sessionId = some view) {bytes : ByteArray} {token : String}
    (kept : world.credential = some bytes) (decoded : String.fromUTF8? bytes = some token) :
    Owned world token := by
  obtain ⟨known, found, -, hash⟩ := stored
  rw [found] at kept
  cases kept
  rw [fromUTF8_toUTF8] at decoded
  cases decoded
  have own : world.db.refreshIdentity (tokenHash token) = some view := by
    rw [AuthDb.refreshIdentity_eq_some, AuthDb.view_sessionId seen]
    exact ⟨seen, hash.symm⟩
  intro other foreign present same
  have again : world.db.refreshIdentity (tokenHash token) = some foreign := by
    rw [AuthDb.refreshIdentity_eq_some, AuthDb.view_sessionId present]
    exact ⟨present, same⟩
  rw [own] at again
  cases again
  exact (AuthDb.view_sessionId present).symm.trans (AuthDb.view_sessionId seen)

theorem Established.final {world : SessionWorld} {view : SessionView}
    (start : Established world view) : Final world where
  seen := ⟨view, start.seen⟩
  kept := by
    intro bytes token kept decoded
    exact start.stored.owned start.seen kept decoded
  holds := by
    intro id task found
    rw [start.tasks, Table.get_empty] at found
    cases found
  deleted := by
    intro ended
    rw [start.loggedOut] at ended
    cases ended
  claims := by
    intro ended
    rw [start.loggedOut] at ended
    cases ended

/-- In every run of concurrent calls and logouts in which each deletion of the credential
finds no refresh token on its way to the store, the store never again holds one after a
logout has deleted it. -/
theorem logout_is_final {first last : SessionWorld} {view : SessionView}
    {actions : List SessionAction} (start : Established first view)
    (clear : Meets sessionStep (fun world action => unclaimed world action = true) first actions)
    (reached : run sessionStep first actions = some last) (ended : last.loggedOut = true) :
    last.credential = none :=
  (run_keeps_of_meets (fun _ _ _ final clear taken => final.step clear taken) actions first last
    start.final clear reached).deleted ended

end Tokens

section Witness

attribute [local instance] plainTokens hyphenatedParser

/-- The list of devices is asked for with an expired access token; the server has rotated
the tokens and its answer is on its way. -/
def devicesRotated : List SessionAction :=
  [.start 0 .devices, .readToken 0, .authenticate 0 4700, .receive 0, .acquireGate 0, .compare 0,
    .readCredential 0 true, .rotate 0 4700 (Sample.tokenSeed 20)]

/-- A logout meanwhile: the server does not know its access token any more, the credential
is deleted all the same, and then the answer arrives. -/
def overtakenLogout : List SessionAction :=
  devicesRotated ++ [SessionAction.start 1 .logout, .readToken 1, .authenticate 1 4701, .receive 1,
    .deleteCredential 1 true, .receiveTokens 0, .storeCredential 0 true]

/-- The credential is back after the logout has returned, and the session it opens is in
good standing. -/
theorem late_answer_restores_credential :
    (∃ view, Established Sample.loggedIn view) ∧
      ∃ last, run sessionStep Sample.loggedIn overtakenLogout = some last ∧
        last.tasks.get 1 = some ⟨.logout, .done (.error (.transport .sessionInvalid))⟩ ∧
        last.loggedOut = true ∧ last.credential ≠ none ∧ standing last = true := by
  refine ⟨Sample.loggedIn_established, ?_⟩
  have facts : (run sessionStep Sample.loggedIn overtakenLogout).any (fun last =>
      last.tasks.get 1 = some ⟨.logout, .done (.error (.transport .sessionInvalid))⟩ &&
        last.loggedOut && last.credential ≠ none && standing last) = true := by
    decide +kernel
  obtain ⟨last, ran, holds⟩ := (Option.any_eq_true _ _).mp facts
  simp only [Bool.and_eq_true, decide_eq_true_eq] at holds
  exact ⟨last, ran, holds.1.1.1, holds.1.1.2, holds.1.2, holds.2⟩

/-- The logout is admitted before the access token expires and closes the session while
the list of devices waits for its refresh. -/
def logoutFirst : List SessionAction :=
  [.start 0 .devices, .start 1 .logout, .readToken 0, .readToken 1, .authenticate 1 4500,
    .authenticate 0 4700, .receive 0, .acquireGate 0, .compare 0, .readCredential 0 true,
    .execute 1 4700 (.ok ()), .receive 1, .deleteCredential 1 true,
    .rotate 0 4701 (Sample.tokenSeed 20), .receiveTokens 0]

theorem logout_is_final_devices :
    ∃ last, run sessionStep Sample.resumedIn logoutFirst = some last ∧
      last.tasks.get 1 = some ⟨.logout, .done (.ok ())⟩ ∧ last.credential = none := by
  have evaluated : (run sessionStep Sample.resumedIn logoutFirst).any (fun last =>
        last.tasks.get 1 = some ⟨.logout, .done (.ok ())⟩ && last.loggedOut) = true ∧
      Meets sessionStep (fun world action => unclaimed world action = true) Sample.resumedIn
        logoutFirst := by
    decide +kernel
  obtain ⟨facts, clear⟩ := evaluated
  obtain ⟨last, ran, holds⟩ := (Option.any_eq_true _ _).mp facts
  simp only [Bool.and_eq_true, decide_eq_true_eq] at holds
  obtain ⟨view, start⟩ := Sample.resumedIn_established
  exact ⟨last, ran, holds.1, logout_is_final start clear ran holds.2⟩

end Witness

end Lvos.System.Session
