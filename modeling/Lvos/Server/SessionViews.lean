import Lvos.Server.Auth

set_option autoImplicit false

namespace Lvos.Server

open Lvos.Core
open Relational (Table)

/-- The same session with the same tokens, at most more of it revoked. -/
structure SessionView.Follows (before after : SessionView) : Prop where
  identity : after.identity = before.identity
  access : after.accessTokenHash = before.accessTokenHash
  refresh : after.refreshTokenHash = before.refreshTokenHash
  refused : before.refusal ≠ none → after.refusal ≠ none

theorem SessionView.Follows.refl (view : SessionView) : view.Follows view :=
  ⟨rfl, rfl, rfl, id⟩

theorem SessionView.Follows.trans {first second third : SessionView}
    (left : first.Follows second) (right : second.Follows third) : first.Follows third :=
  ⟨right.identity.trans left.identity, right.access.trans left.access,
    right.refresh.trans left.refresh, fun refused => right.refused (left.refused refused)⟩

theorem SessionView.rel_trans {first second third : Option SessionView}
    (left : Option.Rel SessionView.Follows first second)
    (right : Option.Rel SessionView.Follows second third) :
    Option.Rel SessionView.Follows first third := by
  cases left with
  | none => exact right
  | some early =>
      cases right with
      | some late => exact .some (early.trans late)

theorem SessionView.refusal_eq_none {view : SessionView} : view.refusal = none ↔
    view.userDisabledAt = none ∧ view.deviceRevokedAt = none ∧ view.sessionRevokedAt = none := by
  unfold SessionView.refusal
  cases view.userDisabledAt <;> cases view.deviceRevokedAt <;> cases view.sessionRevokedAt <;>
    simp

namespace AuthDb

theorem view_of_join {db : AuthDb} {sessionId : String} {row : SessionRow} {view : SessionView}
    (joined : db.join sessionId row = some view) :
    view.identity.sessionId = sessionId ∧ view.accessTokenHash = row.accessTokenHash ∧
      view.refreshTokenHash = row.refreshTokenHash := by
  unfold join at joined
  split at joined
  · cases joined
    exact ⟨rfl, rfl, rfl⟩
  · cases joined

theorem view_sessionId {db : AuthDb} {sessionId : String} {view : SessionView}
    (seen : db.view sessionId = some view) : view.identity.sessionId = sessionId := by
  unfold AuthDb.view at seen
  split at seen
  · cases seen
  · exact (view_of_join seen).1

/-- The lookup by a hash finds the joined row that holds it. -/
theorem accessIdentity_eq_some {db : AuthDb} {accessHash : String} {view : SessionView} :
    db.accessIdentity accessHash = some view ↔
      db.view view.identity.sessionId = some view ∧ view.accessTokenHash = accessHash := by
  constructor
  · intro found
    unfold accessIdentity at found
    split at found
    · cases found
    · rename_i sessionId row chosen
      obtain ⟨stored, hash⟩ := Sessions.byAccess_eq_some.mp chosen
      obtain ⟨same, access, -⟩ := view_of_join found
      rw [same, access]
      unfold AuthDb.view
      rw [stored]
      exact ⟨found, hash⟩
  · rintro ⟨seen, hash⟩
    unfold AuthDb.view at seen
    split at seen
    · cases seen
    · rename_i row stored
      obtain ⟨-, access, -⟩ := view_of_join seen
      unfold accessIdentity
      rw [Sessions.byAccess_eq_some.mpr ⟨stored, access.symm.trans hash⟩]
      exact seen

theorem refreshIdentity_eq_some {db : AuthDb} {refreshHash : String} {view : SessionView} :
    db.refreshIdentity refreshHash = some view ↔
      db.view view.identity.sessionId = some view ∧ view.refreshTokenHash = refreshHash := by
  constructor
  · intro found
    unfold refreshIdentity at found
    split at found
    · cases found
    · rename_i sessionId row chosen
      obtain ⟨stored, hash⟩ := Sessions.byRefresh_eq_some.mp chosen
      obtain ⟨same, -, refresh⟩ := view_of_join found
      rw [same, refresh]
      unfold AuthDb.view
      rw [stored]
      exact ⟨found, hash⟩
  · rintro ⟨seen, hash⟩
    unfold AuthDb.view at seen
    split at seen
    · cases seen
    · rename_i row stored
      obtain ⟨-, -, refresh⟩ := view_of_join seen
      unfold refreshIdentity
      rw [Sessions.byRefresh_eq_some.mpr ⟨stored, refresh.symm.trans hash⟩]
      exact seen

/-- Every session is followed, and none appears. -/
def Keeps (before after : AuthDb) : Prop :=
  ∀ sessionId, Option.Rel SessionView.Follows (before.view sessionId) (after.view sessionId)

theorem Keeps.refl (db : AuthDb) : db.Keeps db := by
  intro sessionId
  cases db.view sessionId with
  | none => exact .none
  | some view => exact .some (.refl view)

theorem Keeps.trans {first second third : AuthDb} (left : first.Keeps second)
    (right : second.Keeps third) : first.Keeps third := by
  intro sessionId
  exact SessionView.rel_trans (left sessionId) (right sessionId)

theorem Keeps.view {before after : AuthDb} (keeps : before.Keeps after) {sessionId : String}
    {view : SessionView} (seen : before.view sessionId = some view) :
    ∃ later, after.view sessionId = some later ∧ view.Follows later := by
  have related := keeps sessionId
  rw [seen] at related
  cases finish : after.view sessionId with
  | none => simp [finish] at related
  | some later =>
      rw [finish] at related
      exact ⟨later, rfl, by simpa using related⟩

end AuthDb

/-- What the other columns of a device may become. -/
structure DeviceRow.Follows (before after : DeviceRow) : Prop where
  platform : after.platform = before.platform
  revoked : before.revokedAt ≠ none → after.revokedAt ≠ none

structure SessionRow.Follows (before after : SessionRow) : Prop where
  user : after.userId = before.userId
  device : after.deviceId = before.deviceId
  access : after.accessTokenHash = before.accessTokenHash
  refresh : after.refreshTokenHash = before.refreshTokenHash
  revoked : before.revokedAt ≠ none → after.revokedAt ≠ none

theorem DeviceRow.Follows.refl (row : DeviceRow) : row.Follows row := ⟨rfl, id⟩

theorem SessionRow.Follows.refl (row : SessionRow) : row.Follows row :=
  ⟨rfl, rfl, rfl, rfl, id⟩

namespace AuthDb

theorem join_follows {before after : AuthDb} (users : after.users = before.users)
    (devices : ∀ key,
      Option.Rel DeviceRow.Follows (before.devices.get key) (after.devices.get key))
    (sessionId : String) {row later : SessionRow} (rows : row.Follows later) :
    Option.Rel SessionView.Follows (before.join sessionId row) (after.join sessionId later) := by
  unfold join
  rw [users, rows.user, rows.device]
  have related := devices (row.userId, row.deviceId)
  revert related
  generalize before.devices.get (row.userId, row.deviceId) = old
  generalize after.devices.get (row.userId, row.deviceId) = new
  intro related
  cases before.users.get row.userId with
  | none => exact .none
  | some user =>
      cases related with
      | none => exact .none
      | some device =>
          refine .some ⟨by rw [device.platform], rows.access, rows.refresh, ?_⟩
          intro refused
          contrapose! refused
          rw [SessionView.refusal_eq_none] at refused ⊢
          obtain ⟨enabled, registered, open'⟩ := refused
          refine ⟨enabled, ?_, ?_⟩
          · by_contra revoked
            exact device.revoked revoked registered
          · by_contra revoked
            exact rows.revoked revoked open'

theorem keeps_of_tables {before after : AuthDb} (users : after.users = before.users)
    (devices : ∀ key,
      Option.Rel DeviceRow.Follows (before.devices.get key) (after.devices.get key))
    (sessions : ∀ sessionId, Option.Rel SessionRow.Follows
      (before.sessions.table.get sessionId) (after.sessions.table.get sessionId)) :
    before.Keeps after := by
  intro sessionId
  have related := sessions sessionId
  unfold AuthDb.view
  revert related
  generalize before.sessions.table.get sessionId = old
  generalize after.sessions.table.get sessionId = new
  intro related
  cases related with
  | none => exact .none
  | some rows => exact join_follows users devices sessionId rows

theorem devices_refl (db : AuthDb) (key : String × String) :
    Option.Rel DeviceRow.Follows (db.devices.get key) (db.devices.get key) := by
  cases db.devices.get key with
  | none => exact .none
  | some row => exact .some (.refl row)

theorem sessions_refl (db : AuthDb) (sessionId : String) :
    Option.Rel SessionRow.Follows (db.sessions.table.get sessionId)
      (db.sessions.table.get sessionId) := by
  cases db.sessions.table.get sessionId with
  | none => exact .none
  | some row => exact .some (.refl row)

theorem deviceSeen_keeps (db : AuthDb) (identity : SessionIdentity) (now : Int) :
    db.Keeps (db.deviceSeen identity now) := by
  refine keeps_of_tables rfl ?_ (sessions_refl db)
  apply Table.update_rel DeviceRow.Follows.refl
  intro row
  exact ⟨rfl, id⟩

theorem sessionSeen_keeps (db : AuthDb) (sessionId : String) (now : Int) :
    db.Keeps (db.sessionSeen sessionId now) := by
  refine keeps_of_tables rfl (devices_refl db) ?_
  apply Table.update_rel SessionRow.Follows.refl
  intro row
  exact ⟨rfl, rfl, rfl, rfl, id⟩

theorem revokeSessions_keeps (db : AuthDb) (selects : String → SessionRow → Bool) (now : Int) :
    db.Keeps (db.revokeSessions selects now) := by
  refine keeps_of_tables rfl (devices_refl db) ?_
  apply Table.update_rel SessionRow.Follows.refl
  intro row
  refine ⟨rfl, rfl, rfl, rfl, ?_⟩
  intro revoked
  cases found : row.revokedAt <;> simp [found] at revoked ⊢

theorem revokeDevices_keeps (db : AuthDb) (userId deviceId : String) (now : Int) :
    db.Keeps (db.revokeDevices userId deviceId now) := by
  refine keeps_of_tables rfl ?_ (sessions_refl db)
  apply Table.update_rel DeviceRow.Follows.refl
  intro row
  refine ⟨rfl, ?_⟩
  intro revoked
  cases found : row.revokedAt <;> simp [found] at revoked ⊢

end AuthDb

theorem authenticateAccess_keeps (db : AuthDb) (accessHash : String) (now : Int) :
    db.Keeps (authenticateAccess db accessHash now).1 := by
  unfold authenticateAccess
  split
  · exact .refl db
  · split
    · exact .refl db
    · split
      · exact .refl db
      · exact (AuthDb.sessionSeen_keeps db _ now).trans (AuthDb.deviceSeen_keeps _ _ now)

/-- The answer to the current access token of a session in good standing. -/
theorem authenticateAccess_current {db : AuthDb} {accessHash : String} {view : SessionView}
    (found : db.accessIdentity accessHash = some view) (standing : view.refusal = none)
    (now : Int) :
    (authenticateAccess db accessHash now).2 = .error .accessExpired ∨
      (authenticateAccess db accessHash now).2 = .ok view.identity := by
  unfold authenticateAccess
  rw [found]
  simp only [standing]
  by_cases expired : view.accessExpiresAt ≤ now
  · rw [if_pos expired]
    exact Or.inl rfl
  · rw [if_neg expired]
    exact Or.inr rfl

/-- One session has new hashes; every other one is followed. -/
structure AuthDb.Rotated (before after : AuthDb) (sessionId accessHash refreshHash : String) :
    Prop where
  others : ∀ other, other ≠ sessionId →
    Option.Rel SessionView.Follows (before.view other) (after.view other)
  own : ∀ view, before.view sessionId = some view →
    ∃ later, after.view sessionId = some later ∧ later.identity = view.identity ∧
      later.accessTokenHash = accessHash ∧ later.refreshTokenHash = refreshHash ∧
      (view.refusal ≠ none → later.refusal ≠ none)

theorem replaceTokens_rotated {db : AuthDb} {sessions : Sessions}
    {sessionId newAccessHash newRefreshHash : String} {accessExpiresAt now : Int}
    (made : replaceTokens db.sessions sessionId newAccessHash newRefreshHash accessExpiresAt now =
      some sessions) :
    db.Rotated { db with sessions := sessions } sessionId newAccessHash newRefreshHash := by
  have table := Sessions.table_of_ofTable made
  constructor
  · intro other differs
    have same : ({ db with sessions := sessions } : AuthDb).view other = db.view other := by
      unfold AuthDb.view
      simp only [table, Table.get_update_key, if_neg differs]
      rfl
    rw [same]
    exact AuthDb.Keeps.refl db other
  · intro view seen
    unfold AuthDb.view at seen ⊢
    simp only [table, Table.get_update_key, ↓reduceIte]
    cases stored : db.sessions.table.get sessionId with
    | none => simp [stored] at seen
    | some row =>
        simp only [stored] at seen
        simp only [Option.map_some]
        unfold AuthDb.join at seen ⊢
        split at seen
        · rename_i user device account registered
          cases seen
          simp only [account, registered]
          exact ⟨_, rfl, rfl, rfl, rfl, id⟩
        · cases seen

theorem AuthDb.Rotated.then_keeps {first second third : AuthDb}
    {sessionId accessHash refreshHash : String}
    (rotated : first.Rotated second sessionId accessHash refreshHash)
    (keeps : second.Keeps third) : first.Rotated third sessionId accessHash refreshHash := by
  constructor
  · intro other differs
    have before := rotated.others other differs
    have after := keeps other
    exact SessionView.rel_trans before after
  · intro view seen
    obtain ⟨middle, found, identity, access, refresh, refused⟩ := rotated.own view seen
    obtain ⟨later, last, follows⟩ := keeps.view found
    exact ⟨later, last, follows.identity.trans identity, follows.access.trans access,
      follows.refresh.trans refresh, fun closed => follows.refused (refused closed)⟩

/-- Either nothing but a revocation, or the rotation of the session in good
standing that holds the presented hash. -/
theorem rotateRefresh_cases (db : AuthDb) (refreshHash newAccessHash newRefreshHash : String)
    (accessExpiresAt refreshIdleTtlSeconds now : Int) :
    (∃ reason after, rotateRefresh db refreshHash newAccessHash newRefreshHash accessExpiresAt
        refreshIdleTtlSeconds now = (after, .error reason) ∧ db.Keeps after) ∨
      ∃ view after, rotateRefresh db refreshHash newAccessHash newRefreshHash accessExpiresAt
          refreshIdleTtlSeconds now = (after, .ok view.identity) ∧
        db.refreshIdentity refreshHash = some view ∧ view.refusal = none ∧
        db.Rotated after view.identity.sessionId newAccessHash newRefreshHash := by
  unfold rotateRefresh
  cases found : db.refreshIdentity refreshHash with
  | none => exact Or.inl ⟨_, _, rfl, .refl db⟩
  | some view =>
      cases standing : view.refusal with
      | some reason => exact Or.inl ⟨reason, db, by simp [standing], .refl db⟩
      | none =>
          simp only [standing]
          by_cases idle : refreshIdleTtlSeconds ≤ now - view.lastSeenAt
          · rw [if_pos idle]
            exact Or.inl ⟨_, _, rfl, AuthDb.revokeSessions_keeps db _ now⟩
          · rw [if_neg idle]
            cases made : replaceTokens db.sessions view.identity.sessionId newAccessHash
                newRefreshHash accessExpiresAt now with
            | none => exact Or.inl ⟨_, _, rfl, .refl db⟩
            | some sessions =>
                refine Or.inr ⟨view, _, rfl, rfl, standing, ?_⟩
                exact (replaceTokens_rotated made).then_keeps (AuthDb.deviceSeen_keeps _ _ now)

/-- The answer to the current refresh token of a session in good standing that
has not idled out: only a broken `UNIQUE` column refuses it. -/
theorem rotateRefresh_current {db : AuthDb} {refreshHash : String} {view : SessionView}
    (found : db.refreshIdentity refreshHash = some view) (standing : view.refusal = none)
    {refreshIdleTtlSeconds now : Int} (active : now - view.lastSeenAt < refreshIdleTtlSeconds)
    (newAccessHash newRefreshHash : String) (accessExpiresAt : Int) :
    (rotateRefresh db refreshHash newAccessHash newRefreshHash accessExpiresAt
        refreshIdleTtlSeconds now).2 = .error .database ∨
      (rotateRefresh db refreshHash newAccessHash newRefreshHash accessExpiresAt
        refreshIdleTtlSeconds now).2 = .ok view.identity := by
  have busy : ¬refreshIdleTtlSeconds ≤ now - view.lastSeenAt := by omega
  unfold rotateRefresh
  rw [found]
  simp only [standing, if_neg busy]
  cases replaceTokens db.sessions view.identity.sessionId newAccessHash newRefreshHash
      accessExpiresAt now with
  | none => exact Or.inl rfl
  | some sessions => exact Or.inr rfl

theorem revokeSession_keeps (db : AuthDb) (sessionId : String) (now : Int) :
    db.Keeps (revokeSession db sessionId now).1 :=
  AuthDb.revokeSessions_keeps db _ now

theorem revokeDevice_keeps (db : AuthDb) (userId deviceId : String) (now : Int) :
    db.Keeps (revokeDevice db userId deviceId now).1 := by
  unfold revokeDevice
  split
  · exact .refl db
  · exact (AuthDb.revokeDevices_keeps db userId deviceId now).trans
      (AuthDb.revokeSessions_keeps _ _ now)

theorem registerDevice_get (devices : Table (String × String) DeviceRow)
    (userId deviceId platform : String) (deviceName : Option String) (now : Int) :
    ∃ row, (registerDevice devices userId deviceId platform deviceName now).get
      (userId, deviceId) = some row ∧ row.platform = platform := by
  unfold registerDevice
  split
  · exact ⟨_, Table.get_put_self _ _ _, rfl⟩
  · exact ⟨_, Table.get_put_self _ _ _, rfl⟩

/-- The session that a login opens. -/
theorem createSession_view {db after : AuthDb} {userId username deviceId platform : String}
    {deviceName : Option String} {sessionId accessHash refreshHash : String}
    {accessExpiresAt now : Int} {identity : SessionIdentity} {user : UserRow}
    (account : db.users.get userId = some user)
    (opened : createSession db userId username deviceId platform deviceName sessionId accessHash
      refreshHash accessExpiresAt now = (after, .ok identity)) :
    identity = ⟨sessionId, userId, username, deviceId, platform⟩ ∧
      ∃ view, after.view sessionId = some view ∧
        view.identity = ⟨sessionId, userId, user.username, deviceId, platform⟩ ∧
        view.accessTokenHash = accessHash ∧ view.refreshTokenHash = refreshHash := by
  unfold createSession at opened
  split at opened
  · cases opened
  · split at opened
    · cases opened
    · split at opened
      · cases opened
      · rename_i sessions made
        cases opened
        obtain ⟨row, registered, named⟩ :=
          registerDevice_get db.devices userId deviceId platform deviceName now
        refine ⟨rfl, ?_⟩
        unfold AuthDb.view AuthDb.join
        simp only [Sessions.table_of_ofTable made, Table.get_put_self, account, registered]
        exact ⟨_, rfl, by rw [named], rfl, rfl⟩

theorem utf8ByteSize_ofList (text : List Char) :
    (String.ofList text).utf8ByteSize = (Hex.utf8 text).length := by
  have bytes : (String.ofList text).toByteArray = (Hex.utf8 text).toByteArray := rfl
  rw [String.utf8ByteSize, bytes]
  simp

theorem utf8ByteSize_simple (id : Uuid) : (simple id).utf8ByteSize = 32 := by
  rw [simple, utf8ByteSize_ofList, length_utf8_encode, id.size]

/-- A generated token is one the server takes back. -/
theorem tokenAllowed_randomToken {label : String} (short : label.utf8ByteSize ≤ 400)
    (ids : Uuid × Uuid) : tokenAllowed (randomToken label ids) = true := by
  have size : (randomToken label ids).utf8ByteSize = label.utf8ByteSize + 66 := by
    have mark : "_".utf8ByteSize = 1 := by decide
    unfold randomToken
    simp only [String.utf8ByteSize_append, utf8ByteSize_simple, mark]
  have filled : randomToken label ids ≠ "" := by
    intro empty
    rw [empty] at size
    have none : "".utf8ByteSize = 0 := by decide
    omega
  unfold tokenAllowed maxTokenBytes
  simp only [ne_eq, filled, not_false_eq_true, decide_true, Bool.true_and, decide_eq_true_eq]
  omega

section Endpoints

variable [TokenHash]

theorem generate_spec {now ttlSeconds : Int} {seed : TokenSeed} {tokens : NewTokens}
    (made : NewTokens.generate now ttlSeconds seed = .ok tokens) :
    tokenAllowed tokens.accessToken = true ∧ tokenAllowed tokens.refreshToken = true ∧
      tokens.accessHash = tokenHash tokens.accessToken ∧
      tokens.refreshHash = tokenHash tokens.refreshToken ∧
      tokens.accessExpiresAt = now + ttlSeconds := by
  unfold NewTokens.generate at made
  split at made
  · cases made
  · cases made
    exact ⟨tokenAllowed_randomToken (by decide) seed.access,
      tokenAllowed_randomToken (by decide) seed.refresh, rfl, rfl, rfl⟩

theorem generate_error {now ttlSeconds : Int} {seed : TokenSeed} {error : ApiError}
    (failed : NewTokens.generate now ttlSeconds seed = .error error) : error = .internal := by
  unfold NewTokens.generate at failed
  split at failed
  · cases failed
    rfl
  · cases failed

theorem requireAccess_keeps (db : AuthDb) (token : String) (now : Nat) :
    db.Keeps (Http.requireAccess db token now).1 := by
  have keeps := authenticateAccess_keeps db (tokenHash token) now
  unfold Http.requireAccess
  split
  · revert keeps
    generalize authenticateAccess db (tokenHash token) now = outcome
    intro keeps
    split
    · exact keeps
    · exact keeps
  · exact .refl db

theorem requireAccess_current {db : AuthDb} {token : String} {view : SessionView}
    (allowed : tokenAllowed token = true)
    (found : db.accessIdentity (tokenHash token) = some view) (standing : view.refusal = none)
    (now : Nat) :
    (Http.requireAccess db token now).2 = .error (.fromRepository .accessExpired) ∨
      (Http.requireAccess db token now).2 = .ok view.identity := by
  have answer := authenticateAccess_current found standing now
  unfold Http.requireAccess
  rw [if_pos allowed]
  revert answer
  generalize authenticateAccess db (tokenHash token) now = outcome
  intro answer
  obtain ⟨after, result⟩ := outcome
  rcases answer with expired | accepted
  · dsimp only at expired
    subst expired
    exact Or.inl rfl
  · dsimp only at accepted
    subst accepted
    exact Or.inr rfl

theorem refresh_cases (db : AuthDb) (config : SessionConfig) (refreshToken : String) (now : Nat)
    (seed : TokenSeed) :
    (∃ error after, Http.refresh db config refreshToken now seed = (after, .error error) ∧
        db.Keeps after) ∨
      ∃ view tokens after, Http.refresh db config refreshToken now seed =
          (after, .ok (TokenResponse.new tokens view.identity)) ∧
        NewTokens.generate now config.accessTokenTtlSeconds seed = .ok tokens ∧
        db.refreshIdentity (tokenHash refreshToken) = some view ∧ view.refusal = none ∧
        db.Rotated after view.identity.sessionId (tokenHash tokens.accessToken)
          (tokenHash tokens.refreshToken) := by
  unfold Http.refresh
  split
  · cases made : NewTokens.generate now config.accessTokenTtlSeconds seed with
    | error error => exact Or.inl ⟨error, db, rfl, .refl db⟩
    | ok tokens =>
        obtain ⟨-, -, access, refresh, -⟩ := generate_spec made
        rcases rotateRefresh_cases db (tokenHash refreshToken) tokens.accessHash
            tokens.refreshHash tokens.accessExpiresAt config.refreshIdleTtlSeconds now with
          ⟨reason, after, result, keeps⟩ | ⟨view, after, result, found, standing, rotated⟩
        · exact Or.inl ⟨.fromRepository reason, after, by simp only [result], keeps⟩
        · refine Or.inr ⟨view, tokens, after, by simp only [result], rfl, found, standing, ?_⟩
          rw [← access, ← refresh]
          exact rotated
  · exact Or.inl ⟨_, _, rfl, .refl db⟩

theorem refresh_current {db : AuthDb} {config : SessionConfig} {refreshToken : String}
    {view : SessionView} (allowed : tokenAllowed refreshToken = true)
    (found : db.refreshIdentity (tokenHash refreshToken) = some view)
    (standing : view.refusal = none) {now : Nat}
    (active : (now : Int) - view.lastSeenAt < config.refreshIdleTtlSeconds) (seed : TokenSeed)
    {error : ApiError} (failed : (Http.refresh db config refreshToken now seed).2 = .error error) :
    error = .internal := by
  unfold Http.refresh at failed
  rw [if_pos allowed] at failed
  cases made : NewTokens.generate now config.accessTokenTtlSeconds seed with
  | error reason =>
      simp only [made] at failed
      cases failed
      exact generate_error made
  | ok tokens =>
      have answer := rotateRefresh_current found standing active tokens.accessHash
        tokens.refreshHash tokens.accessExpiresAt
      simp only [made] at failed
      revert answer failed
      generalize rotateRefresh db (tokenHash refreshToken) tokens.accessHash tokens.refreshHash
        tokens.accessExpiresAt config.refreshIdleTtlSeconds now = outcome
      intro answer failed
      obtain ⟨after, result⟩ := outcome
      rcases answer with broken | accepted
      · dsimp only at broken
        subst broken
        cases failed
        rfl
      · dsimp only at accepted
        subst accepted
        cases failed

end Endpoints

theorem logout_keeps (db : AuthDb) (principal : SessionIdentity) (now : Nat) :
    db.Keeps (Http.logout db principal now).1 :=
  revokeSession_keeps db principal.sessionId now

theorem revokeDevice_endpoint_keeps [UuidParser] (db : AuthDb) (principal : SessionIdentity)
    (deviceId : String) (now : Nat) :
    db.Keeps (Http.revokeDevice db principal deviceId now).1 := by
  have keeps := revokeDevice_keeps db principal.userId deviceId now
  unfold Http.revokeDevice
  split
  · exact .refl db
  · revert keeps
    generalize Server.revokeDevice db principal.userId deviceId now = outcome
    intro keeps
    split
    · exact keeps
    · exact keeps

end Lvos.Server
