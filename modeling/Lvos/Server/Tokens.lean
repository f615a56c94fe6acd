import Lvos.Server.Requests

set_option autoImplicit false

namespace Lvos.Server

open Relational (Table)
open Transition (run run_keeps)

/-- `UPDATE users SET disabled_at`. -/
def disableUser (db : AuthDb) (username : String) (now : Int) : AuthDb :=
  { db with
    users := db.users.update (fun _ row => decide (row.username = username))
      (fun row => { row with disabledAt := some now }) }

/-- A pair of tokens as it was given to a session. -/
structure Grant where
  sessionId : String
  accessHash : String
  refreshHash : String
  accessExpiresAt : Int
deriving DecidableEq, Repr

/-- The database with what has happened to it: the hashes generated so far, the pairs
given out, the refresh tokens taken back and what has been closed, the latest first. -/
structure Ledger where
  db : AuthDb
  hashes : List String
  grants : List Grant
  taken : List String
  closed : List String
  revoked : List (String × String)
  disabled : List String

inductive TokenStep
  | createSession (userId username deviceId platform : String) (deviceName : Option String)
      (sessionId accessHash refreshHash : String) (accessExpiresAt now : Int)
  | authenticateAccess (accessHash : String) (now : Int)
  | rotateRefresh (refreshHash newAccessHash newRefreshHash : String)
      (accessExpiresAt refreshIdleTtlSeconds now : Int)
  | revokeSession (sessionId : String) (now : Int)
  | revokeDevice (userId deviceId : String) (now : Int)
  | disableUser (username : String) (now : Int)
deriving DecidableEq, Repr

namespace Ledger

/-- The pair most recently given to a session. -/
def latest (ledger : Ledger) (sessionId : String) : Option Grant :=
  ledger.grants.find? (fun grant => decide (grant.sessionId = sessionId))

/-- The sessions of the table that a condition selects. -/
def sessionsWhere (db : AuthDb) (selects : String → SessionRow → Bool) : List String :=
  (db.sessions.table.rows.filter (fun entry => selects entry.1 entry.2)).map Prod.fst

/-- Freshly generated hashes differ from each other and from all earlier ones. -/
def fresh (ledger : Ledger) (accessHash refreshHash : String) : Bool :=
  accessHash ∉ ledger.hashes && refreshHash ∉ ledger.hashes && accessHash ≠ refreshHash

def created (ledger : Ledger) (db : AuthDb) (result : AuthResult SessionIdentity) (grant : Grant) :
    Ledger :=
  match result with
  | .error _ =>
      { ledger with
        db := db
        hashes := grant.accessHash :: grant.refreshHash :: ledger.hashes }
  | .ok _ =>
      { ledger with
        db := db
        hashes := grant.accessHash :: grant.refreshHash :: ledger.hashes
        grants := grant :: ledger.grants }

def rotated (ledger : Ledger) (db : AuthDb) (result : AuthResult SessionIdentity)
    (refreshHash newAccessHash newRefreshHash : String) (accessExpiresAt : Int) : Ledger :=
  match result with
  | .error .refreshExpired =>
      { ledger with
        db := db
        hashes := newAccessHash :: newRefreshHash :: ledger.hashes
        closed :=
          sessionsWhere ledger.db (fun _ row => decide (row.refreshTokenHash = refreshHash)) ++
            ledger.closed }
  | .error _ =>
      { ledger with
        db := db
        hashes := newAccessHash :: newRefreshHash :: ledger.hashes }
  | .ok identity =>
      { ledger with
        db := db
        hashes := newAccessHash :: newRefreshHash :: ledger.hashes
        grants := ⟨identity.sessionId, newAccessHash, newRefreshHash, accessExpiresAt⟩ ::
          ledger.grants
        taken := refreshHash :: ledger.taken }

def deviceRevoked (ledger : Ledger) (db : AuthDb) (result : AuthResult Unit)
    (userId deviceId : String) : Ledger :=
  match result with
  | .error _ => { ledger with db := db }
  | .ok _ =>
      { ledger with
        db := db
        closed :=
          sessionsWhere ledger.db (fun _ row =>
            decide (row.userId = userId) && decide (row.deviceId = deviceId)) ++ ledger.closed
        revoked := (userId, deviceId) :: ledger.revoked }

def step (ledger : Ledger) : TokenStep → Option Ledger
  | .createSession userId username deviceId platform deviceName sessionId accessHash refreshHash
      accessExpiresAt now =>
      if ledger.fresh accessHash refreshHash then
        let outcome := Server.createSession ledger.db userId username deviceId platform deviceName
          sessionId accessHash refreshHash accessExpiresAt now
        some (ledger.created outcome.1 outcome.2
          ⟨sessionId, accessHash, refreshHash, accessExpiresAt⟩)
      else none
  | .authenticateAccess accessHash now =>
      some { ledger with db := (Server.authenticateAccess ledger.db accessHash now).1 }
  | .rotateRefresh refreshHash newAccessHash newRefreshHash accessExpiresAt refreshIdleTtlSeconds
      now =>
      if ledger.fresh newAccessHash newRefreshHash then
        let outcome := Server.rotateRefresh ledger.db refreshHash newAccessHash newRefreshHash
          accessExpiresAt refreshIdleTtlSeconds now
        some (ledger.rotated outcome.1 outcome.2 refreshHash newAccessHash newRefreshHash
          accessExpiresAt)
      else none
  | .revokeSession sessionId now =>
      some { ledger with
        db := (Server.revokeSession ledger.db sessionId now).1
        closed := sessionsWhere ledger.db (fun key _ => decide (key = sessionId)) ++
          ledger.closed }
  | .revokeDevice userId deviceId now =>
      let outcome := Server.revokeDevice ledger.db userId deviceId now
      some (ledger.deviceRevoked outcome.1 outcome.2 userId deviceId)
  | .disableUser username now =>
      some { ledger with
        db := Server.disableUser ledger.db username now
        disabled := (ledger.db.users.rows.filter
          (fun entry => decide (entry.2.username = username))).map Prod.fst ++ ledger.disabled }

structure Starts (ledger : Ledger) : Prop where
  sessions : ledger.db.sessions.table = .empty
  grants : ledger.grants = []
  hashes : ledger.hashes = []
  taken : ledger.taken = []
  closed : ledger.closed = []
  revoked : ledger.revoked = []
  disabled : ledger.disabled = []

end Ledger

/-! What the operations do to the rows. -/

/-- The same tokens with the same expiry, at most revoked. -/
structure SessionRow.Stays (before after : SessionRow) : Prop where
  user : after.userId = before.userId
  device : after.deviceId = before.deviceId
  access : after.accessTokenHash = before.accessTokenHash
  refresh : after.refreshTokenHash = before.refreshTokenHash
  expires : after.accessExpiresAt = before.accessExpiresAt
  revoked : before.revokedAt ≠ none → after.revokedAt ≠ none

theorem SessionRow.Stays.refl (row : SessionRow) : row.Stays row :=
  ⟨rfl, rfl, rfl, rfl, rfl, id⟩

/-- Every session stays and none appears. -/
def Sessions.Stay (before after : Sessions) : Prop :=
  ∀ sessionId,
    Option.Rel SessionRow.Stays (before.table.get sessionId) (after.table.get sessionId)

namespace Sessions.Stay

theorem refl (sessions : Sessions) : sessions.Stay sessions := by
  intro sessionId
  cases sessions.table.get sessionId with
  | none => exact .none
  | some row => exact .some (.refl row)

variable {before after : Sessions} {sessionId : String}

theorem back (stay : before.Stay after) {row : SessionRow}
    (found : after.table.get sessionId = some row) :
    ∃ old, before.table.get sessionId = some old ∧ old.Stays row := by
  have related := stay sessionId
  rw [found] at related
  cases start : before.table.get sessionId with
  | none => simp [start] at related
  | some old =>
      rw [start] at related
      exact ⟨old, rfl, by simpa using related⟩

theorem forth (stay : before.Stay after) {row : SessionRow}
    (found : before.table.get sessionId = some row) :
    ∃ new, after.table.get sessionId = some new ∧ row.Stays new := by
  have related := stay sessionId
  rw [found] at related
  cases finish : after.table.get sessionId with
  | none => simp [finish] at related
  | some new =>
      rw [finish] at related
      exact ⟨new, rfl, by simpa using related⟩

theorem of_update {selects : String → SessionRow → Bool} {change : SessionRow → SessionRow}
    (made : after.table = before.table.update selects change)
    (changed : ∀ row : SessionRow, row.Stays (change row)) : before.Stay after := by
  intro sessionId
  rw [made]
  exact Table.update_rel SessionRow.Stays.refl changed before.table selects sessionId

end Sessions.Stay

theorem stays_revoked (row : SessionRow) (now : Int) :
    row.Stays { row with revokedAt := row.revokedAt.or (some now) } := by
  refine ⟨rfl, rfl, rfl, rfl, rfl, ?_⟩
  intro revoked
  cases found : row.revokedAt <;> simp [found] at revoked ⊢

theorem sessionSeen_stay (db : AuthDb) (sessionId : String) (now : Int) :
    db.sessions.Stay (db.sessionSeen sessionId now).sessions :=
  @Sessions.Stay.of_update db.sessions _ (fun key _ => decide (key = sessionId))
    (fun row => { row with lastSeenAt := now }) rfl (fun _ => ⟨rfl, rfl, rfl, rfl, rfl, id⟩)

theorem revokeSessions_stay (db : AuthDb) (selects : String → SessionRow → Bool) (now : Int) :
    db.sessions.Stay (db.revokeSessions selects now).sessions :=
  .of_update rfl (fun row => stays_revoked row now)

theorem revokeSessions_closed {db : AuthDb} {selects : String → SessionRow → Bool} (now : Int)
    {sessionId : String} {row : SessionRow} (found : db.sessions.table.get sessionId = some row)
    (selected : selects sessionId row = true) :
    ∃ new, (db.revokeSessions selects now).sessions.table.get sessionId = some new ∧
      new.revokedAt ≠ none := by
  have changed : (db.revokeSessions selects now).sessions.table.get sessionId =
      some { row with revokedAt := row.revokedAt.or (some now) } := by
    show (db.sessions.table.update _ _).get sessionId = _
    rw [Table.get_update, found, Option.map_some, if_pos selected]
  refine ⟨_, changed, ?_⟩
  cases row.revokedAt <;> simp

theorem mem_sessionsWhere {db : AuthDb} {selects : String → SessionRow → Bool}
    {sessionId : String} : sessionId ∈ Ledger.sessionsWhere db selects ↔
      ∃ row, db.sessions.table.get sessionId = some row ∧ selects sessionId row = true := by
  unfold Ledger.sessionsWhere
  constructor
  · intro member
    obtain ⟨entry, kept, rfl⟩ := List.mem_map.mp member
    obtain ⟨stored, selected⟩ := List.mem_filter.mp kept
    exact ⟨entry.2, (Table.mem_rows_iff _ _ _).mp stored, selected⟩
  · rintro ⟨row, found, selected⟩
    exact List.mem_map.mpr ⟨(sessionId, row),
      List.mem_filter.mpr ⟨(Table.mem_rows_iff _ _ _).mpr found, selected⟩, rfl⟩

/-- The rows a joined row is made of. -/
theorem rows_of_view {db : AuthDb} {sessionId : String} {view : SessionView}
    (seen : db.view sessionId = some view) :
    ∃ row user, db.sessions.table.get sessionId = some row ∧
      view.accessTokenHash = row.accessTokenHash ∧ view.refreshTokenHash = row.refreshTokenHash ∧
      view.accessExpiresAt = row.accessExpiresAt ∧ view.sessionRevokedAt = row.revokedAt ∧
      db.users.get view.identity.userId = some user ∧ view.userDisabledAt = user.disabledAt := by
  unfold AuthDb.view at seen
  split at seen
  · cases seen
  · rename_i row found
    unfold AuthDb.join at seen
    split at seen
    · rename_i user device account registered
      cases seen
      exact ⟨row, user, found, rfl, rfl, rfl, rfl, account, rfl⟩
    · cases seen

theorem refusal_ne_refreshExpired {view : SessionView} {reason : AuthRepositoryError}
    (refused : view.refusal = some reason) : reason ≠ .refreshExpired := by
  unfold SessionView.refusal at refused
  intro expired
  subst expired
  split at refused
  · cases refused
  · split at refused
    · cases refused
    · split at refused
      · cases refused
      · cases refused

/-- The row of the session that has been rotated. -/
def SessionRow.renewed (row : SessionRow) (accessHash refreshHash : String)
    (accessExpiresAt now : Int) : SessionRow :=
  { row with
    accessTokenHash := accessHash
    refreshTokenHash := refreshHash
    accessExpiresAt := accessExpiresAt
    lastRefreshedAt := now
    lastSeenAt := now }

section Operations

variable {db after : AuthDb}

theorem authenticateAccess_rows {accessHash : String} {now : Int}
    {result : AuthResult SessionIdentity}
    (asked : authenticateAccess db accessHash now = (after, result)) :
    db.sessions.Stay after.sessions ∧ after.users = db.users ∧
      ∀ principal, result = .ok principal → ∃ view, db.view principal.sessionId = some view ∧
        view.identity = principal ∧ view.accessTokenHash = accessHash ∧ view.refusal = none ∧
        now < view.accessExpiresAt := by
  unfold authenticateAccess at asked
  split at asked
  · cases asked
    exact ⟨.refl _, rfl, fun principal accepted => nomatch accepted⟩
  · rename_i view found
    split at asked
    · cases asked
      exact ⟨.refl _, rfl, fun principal accepted => nomatch accepted⟩
    · rename_i free
      split at asked
      · cases asked
        exact ⟨.refl _, rfl, fun principal accepted => nomatch accepted⟩
      · rename_i valid
        cases asked
        refine ⟨sessionSeen_stay db view.identity.sessionId now, rfl, ?_⟩
        intro principal accepted
        cases accepted
        obtain ⟨seen, hash⟩ := AuthDb.accessIdentity_eq_some.mp found
        exact ⟨view, seen, rfl, hash, free, by omega⟩

theorem rotateRefresh_rows {refreshHash newAccessHash newRefreshHash : String}
    {accessExpiresAt refreshIdleTtlSeconds now : Int} {result : AuthResult SessionIdentity}
    (asked : rotateRefresh db refreshHash newAccessHash newRefreshHash accessExpiresAt
      refreshIdleTtlSeconds now = (after, result)) :
    after.users = db.users ∧
      ((∃ reason, result = .error reason ∧ reason ≠ .refreshExpired ∧ after = db) ∨
        result = .error .refreshExpired ∧ db.sessions.Stay after.sessions ∧
          (∀ sessionId row, db.sessions.table.get sessionId = some row →
            row.refreshTokenHash = refreshHash →
            ∃ new, after.sessions.table.get sessionId = some new ∧ new.revokedAt ≠ none) ∨
        ∃ identity row, result = .ok identity ∧
          db.sessions.table.get identity.sessionId = some row ∧
          row.refreshTokenHash = refreshHash ∧ row.revokedAt = none ∧
          ∀ other, after.sessions.table.get other =
            if other = identity.sessionId then
              some (row.renewed newAccessHash newRefreshHash accessExpiresAt now)
            else db.sessions.table.get other) := by
  unfold rotateRefresh at asked
  split at asked
  · cases asked
    exact ⟨rfl, Or.inl ⟨_, rfl, by rintro ⟨⟩, rfl⟩⟩
  · rename_i view found
    obtain ⟨seen, hash⟩ := AuthDb.refreshIdentity_eq_some.mp found
    obtain ⟨row, user, stored, -, refresh, -, closed, -, -⟩ := rows_of_view seen
    split at asked
    · rename_i reason refused
      cases asked
      exact ⟨rfl, Or.inl ⟨reason, rfl, refusal_ne_refreshExpired refused, rfl⟩⟩
    · rename_i free
      split at asked
      · cases asked
        refine ⟨rfl, Or.inr (Or.inl ⟨rfl, revokeSessions_stay _ _ _, ?_⟩)⟩
        intro sessionId other located holds
        have same : sessionId = view.identity.sessionId := by
          have first := Sessions.byRefresh_eq_some.mpr ⟨located, holds⟩
          have second := Sessions.byRefresh_eq_some.mpr ⟨stored, refresh.symm.trans hash⟩
          rw [first] at second
          exact congrArg Prod.fst (Option.some.inj second)
        exact revokeSessions_closed now located (by simpa using same)
      · split at asked
        · cases asked
          exact ⟨rfl, Or.inl ⟨_, rfl, by rintro ⟨⟩, rfl⟩⟩
        · rename_i sessions made
          cases asked
          refine ⟨rfl, Or.inr (Or.inr ⟨view.identity, row, rfl, stored, refresh.symm.trans hash,
            ?_, ?_⟩)⟩
          · rw [← closed]
            exact (SessionView.refusal_eq_none.mp free).2.2
          · intro other
            show sessions.table.get other = _
            rw [Sessions.table_of_ofTable made, Table.get_update_key]
            split
            · rename_i same
              rw [same, stored]
              rfl
            · rfl

theorem createSession_rows {userId username deviceId platform : String}
    {deviceName : Option String} {sessionId accessHash refreshHash : String}
    {accessExpiresAt now : Int} {result : AuthResult SessionIdentity}
    (asked : createSession db userId username deviceId platform deviceName sessionId accessHash
      refreshHash accessExpiresAt now = (after, result)) :
    after.users = db.users ∧
      ((∃ reason, result = .error reason ∧ after = db) ∨
        ∃ identity, result = .ok identity ∧ db.sessions.table.get sessionId = none ∧
          ∀ other, after.sessions.table.get other =
            if other = sessionId then
              some ⟨userId, deviceId, accessHash, refreshHash, accessExpiresAt, now, now, now, none⟩
            else db.sessions.table.get other) := by
  unfold createSession at asked
  split at asked
  · cases asked
    exact ⟨rfl, Or.inl ⟨_, rfl, rfl⟩⟩
  · split at asked
    · cases asked
      exact ⟨rfl, Or.inl ⟨_, rfl, rfl⟩⟩
    · rename_i checked
      split at asked
      · cases asked
        exact ⟨rfl, Or.inl ⟨_, rfl, rfl⟩⟩
      · rename_i sessions made
        cases asked
        have absent : db.sessions.table.get sessionId = none := by
          by_contra present
          exact checked (Or.inr (Or.inr present))
        refine ⟨rfl, Or.inr ⟨_, rfl, absent, ?_⟩⟩
        intro other
        show sessions.table.get other = _
        rw [Sessions.table_of_ofTable made, Table.get_put]

end Operations

theorem disableUser_get (db : AuthDb) (username : String) (now : Int) (userId : String) :
    (disableUser db username now).users.get userId =
      (db.users.get userId).map (fun row =>
        if row.username = username then { row with disabledAt := some now } else row) := by
  show (db.users.update _ _).get userId = _
  rw [Table.get_update]
  simp only [decide_eq_true_eq]

/-- The hashes of pairs given out. -/
def issuedHashes (grants : List Grant) : List String :=
  grants.flatMap (fun grant => [grant.accessHash, grant.refreshHash])

/-- Every session holds the pair last given to it, a refresh token that was taken back is
held by none, and what was closed shows it in its row. -/
structure LedgerInv (ledger : Ledger) : Prop where
  distinct : ledger.hashes.Nodup
  issued : (issuedHashes ledger.grants).Sublist ledger.hashes
  current : ∀ sessionId row, ledger.db.sessions.table.get sessionId = some row →
    ∃ grant, ledger.latest sessionId = some grant ∧ row.accessTokenHash = grant.accessHash ∧
      row.refreshTokenHash = grant.refreshHash ∧ row.accessExpiresAt = grant.accessExpiresAt
  spent : ∀ hash ∈ ledger.taken, hash ∈ ledger.hashes ∧
    ∀ sessionId row, ledger.db.sessions.table.get sessionId = some row →
      row.refreshTokenHash ≠ hash
  once : ledger.taken.Nodup
  closed : ∀ sessionId ∈ ledger.closed, ∃ row,
    ledger.db.sessions.table.get sessionId = some row ∧ row.revokedAt ≠ none
  revoked : ∀ key ∈ ledger.revoked, ∃ time, ledger.db.standing key = some (some time)
  disabled : ∀ userId ∈ ledger.disabled, ∃ row, ledger.db.users.get userId = some row ∧
    row.disabledAt ≠ none

namespace LedgerInv

variable {ledger next : Ledger}

theorem starts (starts : ledger.Starts) : LedgerInv ledger := by
  constructor
  · rw [starts.hashes]
    exact List.nodup_nil
  · rw [starts.grants]
    exact List.nil_sublist _
  · intro sessionId row found
    rw [starts.sessions, Table.get_empty] at found
    cases found
  · intro hash member
    rw [starts.taken] at member
    cases member
  · rw [starts.taken]
    exact List.nodup_nil
  · intro sessionId member
    rw [starts.closed] at member
    cases member
  · intro key member
    rw [starts.revoked] at member
    cases member
  · intro userId member
    rw [starts.disabled] at member
    cases member

/-- A step that gives out nothing and takes nothing back. -/
theorem stay (inv : LedgerInv ledger) (distinct : next.hashes.Nodup)
    (hashes : ledger.hashes.Sublist next.hashes) (grants : next.grants = ledger.grants)
    (taken : next.taken = ledger.taken) (rows : ledger.db.sessions.Stay next.db.sessions)
    (closed : ∀ sessionId ∈ next.closed, sessionId ∈ ledger.closed ∨
      ∃ row, next.db.sessions.table.get sessionId = some row ∧ row.revokedAt ≠ none)
    (revoked : ∀ key ∈ next.revoked, ∃ time, next.db.standing key = some (some time))
    (disabled : ∀ userId ∈ next.disabled, ∃ row, next.db.users.get userId = some row ∧
      row.disabledAt ≠ none) : LedgerInv next := by
  refine ⟨distinct, ?_, ?_, ?_, ?_, ?_, revoked, disabled⟩
  · rw [grants]
    exact inv.issued.trans hashes
  · intro sessionId row found
    obtain ⟨old, before, stays⟩ := rows.back found
    obtain ⟨grant, latest, access, refresh, expires⟩ := inv.current sessionId old before
    refine ⟨grant, ?_, stays.access.trans access, stays.refresh.trans refresh,
      stays.expires.trans expires⟩
    unfold Ledger.latest at latest ⊢
    rw [grants]
    exact latest
  · intro hash member
    rw [taken] at member
    obtain ⟨known, absent⟩ := inv.spent hash member
    refine ⟨hashes.subset known, ?_⟩
    intro sessionId row found
    obtain ⟨old, before, stays⟩ := rows.back found
    rw [stays.refresh]
    exact absent sessionId old before
  · rw [taken]
    exact inv.once
  · intro sessionId member
    rcases closed sessionId member with earlier | shown
    · obtain ⟨row, found, ended⟩ := inv.closed sessionId earlier
      obtain ⟨new, after, stays⟩ := rows.forth found
      exact ⟨new, after, stays.revoked ended⟩
    · exact shown

/-- A new pair of a session that is not closed: the session holds it, the other rows
stay. -/
theorem give (inv : LedgerInv ledger) {grant : Grant} {row : SessionRow}
    (fresh : ledger.fresh grant.accessHash grant.refreshHash = true)
    (hashes : next.hashes = grant.accessHash :: grant.refreshHash :: ledger.hashes)
    (grants : next.grants = grant :: ledger.grants)
    (rows : ∀ other, next.db.sessions.table.get other =
      if other = grant.sessionId then some row else ledger.db.sessions.table.get other)
    (access : row.accessTokenHash = grant.accessHash)
    (refresh : row.refreshTokenHash = grant.refreshHash)
    (expires : row.accessExpiresAt = grant.accessExpiresAt)
    (spent : ∀ hash ∈ next.taken, hash ∈ ledger.hashes ∧
      ∀ sessionId row, sessionId ≠ grant.sessionId →
        ledger.db.sessions.table.get sessionId = some row → row.refreshTokenHash ≠ hash)
    (once : next.taken.Nodup) (closed : next.closed = ledger.closed)
    (open' : grant.sessionId ∉ ledger.closed)
    (revoked : ∀ key ∈ next.revoked, ∃ time, next.db.standing key = some (some time))
    (disabled : ∀ userId ∈ next.disabled, ∃ row, next.db.users.get userId = some row ∧
      row.disabledAt ≠ none) : LedgerInv next := by
  simp only [Ledger.fresh, Bool.and_eq_true, decide_eq_true_eq] at fresh
  obtain ⟨⟨newAccess, newRefresh⟩, differ⟩ := fresh
  refine ⟨?_, ?_, ?_, ?_, once, ?_, revoked, disabled⟩
  · rw [hashes]
    simp only [List.nodup_cons, List.mem_cons, not_or]
    exact ⟨⟨differ, newAccess⟩, newRefresh, inv.distinct⟩
  · rw [hashes, grants]
    exact (inv.issued.cons_cons _).cons_cons _
  · intro sessionId stored found
    rw [rows] at found
    unfold Ledger.latest
    rw [grants]
    by_cases own : sessionId = grant.sessionId
    · rw [if_pos own] at found
      cases found
      rw [List.find?_cons_of_pos (by simpa using own.symm)]
      exact ⟨grant, rfl, access, refresh, expires⟩
    · rw [if_neg own] at found
      rw [List.find?_cons_of_neg (by simpa using fun same => own same.symm)]
      exact inv.current sessionId stored found
  · intro hash member
    obtain ⟨known, absent⟩ := spent hash member
    refine ⟨?_, ?_⟩
    · rw [hashes]
      simp [known]
    · intro sessionId stored found
      rw [rows] at found
      by_cases own : sessionId = grant.sessionId
      · rw [if_pos own] at found
        cases found
        rw [refresh]
        intro same
        exact newRefresh (same ▸ known)
      · rw [if_neg own] at found
        exact absent sessionId stored own found
  · intro sessionId member
    rw [closed] at member
    have other : sessionId ≠ grant.sessionId := by
      intro same
      exact open' (same ▸ member)
    rw [rows, if_neg other]
    exact inv.closed sessionId member

theorem fresh_nodup (inv : LedgerInv ledger) {accessHash refreshHash : String}
    (fresh : ledger.fresh accessHash refreshHash = true) :
    (accessHash :: refreshHash :: ledger.hashes).Nodup := by
  simp only [Ledger.fresh, Bool.and_eq_true, decide_eq_true_eq] at fresh
  simp only [List.nodup_cons, List.mem_cons, not_or]
  exact ⟨⟨fresh.2, fresh.1.1⟩, fresh.1.2, inv.distinct⟩

/-- The hash a session holds is one that was given out to it. -/
theorem held (inv : LedgerInv ledger) {sessionId : String} {row : SessionRow}
    (found : ledger.db.sessions.table.get sessionId = some row) :
    ∃ grant ∈ ledger.grants, grant.sessionId = sessionId ∧
      row.accessTokenHash = grant.accessHash ∧ row.refreshTokenHash = grant.refreshHash := by
  obtain ⟨grant, latest, access, refresh, -⟩ := inv.current sessionId row found
  have named := List.find?_some latest
  exact ⟨grant, List.mem_of_find?_eq_some latest, by simpa using named, access, refresh⟩

theorem mem_issued {grant : Grant} {grants : List Grant} (member : grant ∈ grants) :
    grant.accessHash ∈ issuedHashes grants ∧ grant.refreshHash ∈ issuedHashes grants :=
  ⟨List.mem_flatMap.mpr ⟨grant, member, by simp⟩, List.mem_flatMap.mpr ⟨grant, member, by simp⟩⟩

theorem unrevoked (inv : LedgerInv ledger) {db : AuthDb}
    (standing : ∀ key, db.standing key = ledger.db.standing key) :
    ∀ key ∈ ledger.revoked, ∃ time, db.standing key = some (some time) := by
  intro key member
  rw [standing]
  exact inv.revoked key member

theorem undisabled (inv : LedgerInv ledger) {db : AuthDb} (users : db.users = ledger.db.users) :
    ∀ userId ∈ ledger.disabled, ∃ row, db.users.get userId = some row ∧
      row.disabledAt ≠ none := by
  intro userId member
  rw [users]
  exact inv.disabled userId member

theorem created (inv : LedgerInv ledger) {userId username deviceId platform : String}
    {deviceName : Option String} {sessionId accessHash refreshHash : String}
    {accessExpiresAt now : Int} (fresh : ledger.fresh accessHash refreshHash = true) {db : AuthDb}
    {result : AuthResult SessionIdentity}
    (asked : createSession ledger.db userId username deviceId platform deviceName sessionId
      accessHash refreshHash accessExpiresAt now = (db, result)) :
    LedgerInv (ledger.created db result ⟨sessionId, accessHash, refreshHash, accessExpiresAt⟩) := by
  obtain ⟨users, ⟨reason, rfl, rfl⟩ | ⟨identity, rfl, absent, rows⟩⟩ := createSession_rows asked
  · exact inv.stay (inv.fresh_nodup fresh) ((List.sublist_cons_self _ _).trans
      (List.sublist_cons_self _ _)) rfl rfl (.refl _) (fun _ member => Or.inl member)
      inv.revoked inv.disabled
  · have open' : sessionId ∉ ledger.closed := by
      intro member
      obtain ⟨row, found, -⟩ := inv.closed sessionId member
      rw [absent] at found
      cases found
    rcases createSession_standing asked with ⟨reason, wrong, -⟩ | ⟨-, free, standing⟩
    · cases wrong
    · refine inv.give fresh rfl rfl rows rfl rfl rfl ?_ inv.once rfl open' ?_
        (inv.undisabled users)
      · intro hash member
        obtain ⟨known, absent⟩ := inv.spent hash member
        exact ⟨known, fun other row _ => absent other row⟩
      · intro key member
        obtain ⟨time, revoked⟩ := inv.revoked key member
        refine ⟨time, (standing key).trans ?_⟩
        rw [if_neg]
        · exact revoked
        · intro own
          rw [own] at revoked
          exact free time revoked

theorem rotated (inv : LedgerInv ledger) {refreshHash newAccessHash newRefreshHash : String}
    {accessExpiresAt refreshIdleTtlSeconds now : Int}
    (fresh : ledger.fresh newAccessHash newRefreshHash = true) {db : AuthDb}
    {result : AuthResult SessionIdentity}
    (asked : rotateRefresh ledger.db refreshHash newAccessHash newRefreshHash accessExpiresAt
      refreshIdleTtlSeconds now = (db, result)) :
    LedgerInv (ledger.rotated db result refreshHash newAccessHash newRefreshHash
      accessExpiresAt) := by
  have standing := (rotateRefresh_standing asked).1
  have longer : ledger.hashes.Sublist (newAccessHash :: newRefreshHash :: ledger.hashes) :=
    (List.sublist_cons_self _ _).trans (List.sublist_cons_self _ _)
  obtain ⟨users, ⟨reason, rfl, unexpired, rfl⟩ | ⟨rfl, rows, ended⟩ |
    ⟨identity, row, rfl, found, holds, active, rows⟩⟩ := rotateRefresh_rows asked
  · have shape : ledger.rotated ledger.db (.error reason) refreshHash newAccessHash
        newRefreshHash accessExpiresAt =
        { ledger with hashes := newAccessHash :: newRefreshHash :: ledger.hashes } := by
      unfold Ledger.rotated
      cases reason <;> first | rfl | exact absurd rfl unexpired
    rw [shape]
    exact inv.stay (inv.fresh_nodup fresh) longer rfl rfl (.refl _)
      (fun _ member => Or.inl member) inv.revoked inv.disabled
  · refine inv.stay (inv.fresh_nodup fresh) longer rfl rfl rows ?_ (inv.unrevoked standing)
      (inv.undisabled users)
    intro sessionId member
    rcases List.mem_append.mp member with idle | earlier
    · obtain ⟨row, found, holds⟩ := mem_sessionsWhere.mp idle
      exact Or.inr (ended sessionId row found (by simpa using holds))
    · exact Or.inl earlier
  · have open' : identity.sessionId ∉ ledger.closed := by
      intro member
      obtain ⟨other, stored, closed⟩ := inv.closed identity.sessionId member
      rw [found] at stored
      cases stored
      exact closed active
    have unspent : refreshHash ∉ ledger.taken := by
      intro member
      exact (inv.spent refreshHash member).2 identity.sessionId row found holds
    have known : refreshHash ∈ ledger.hashes := by
      obtain ⟨grant, member, -, -, refresh⟩ := inv.held found
      rw [← holds, refresh]
      exact inv.issued.subset (mem_issued member).2
    refine inv.give fresh rfl rfl rows rfl rfl rfl ?_ (List.nodup_cons.mpr ⟨unspent, inv.once⟩)
      rfl open' (inv.unrevoked standing) (inv.undisabled users)
    intro hash member
    rcases List.mem_cons.mp member with rfl | earlier
    · refine ⟨known, ?_⟩
      intro sessionId other differs stored same
      -- The column is unique: the other session would be this one.
      have first := Sessions.byRefresh_eq_some.mpr ⟨found, holds⟩
      have second := Sessions.byRefresh_eq_some.mpr ⟨stored, same⟩
      rw [first] at second
      exact differs (congrArg Prod.fst (Option.some.inj second)).symm
    · obtain ⟨known, absent⟩ := inv.spent hash earlier
      exact ⟨known, fun other row _ => absent other row⟩

theorem deviceRevoked (inv : LedgerInv ledger) {userId deviceId : String} {now : Int}
    {db : AuthDb} {result : AuthResult Unit}
    (asked : revokeDevice ledger.db userId deviceId now = (db, result)) :
    LedgerInv (ledger.deviceRevoked db result userId deviceId) := by
  have standing := revokeDevice_standing asked
  unfold revokeDevice at asked
  split at asked
  · cases asked
    exact inv.stay inv.distinct (List.Sublist.refl _) rfl rfl (.refl _)
      (fun _ member => Or.inl member) inv.revoked inv.disabled
  · cases asked
    obtain ⟨reason, wrong, -⟩ | ⟨-, shut, others⟩ := standing
    · cases wrong
    refine inv.stay inv.distinct (List.Sublist.refl _) rfl rfl
      (revokeSessions_stay (ledger.db.revokeDevices userId deviceId now) _ now) ?_ ?_ inv.disabled
    · intro sessionId member
      rcases List.mem_append.mp member with ours | earlier
      · obtain ⟨row, found, selected⟩ := mem_sessionsWhere.mp ours
        have before : (ledger.db.revokeDevices userId deviceId now).sessions.table.get sessionId =
            some row := found
        exact Or.inr (revokeSessions_closed now before selected)
      · exact Or.inl earlier
    · intro key member
      by_cases here : key = (userId, deviceId)
      · rw [here]
        exact shut
      · rcases List.mem_cons.mp member with same | earlier
        · exact absurd same here
        · obtain ⟨time, revoked⟩ := inv.revoked key earlier
          exact ⟨time, (others key here).trans revoked⟩

theorem userDisabled (inv : LedgerInv ledger) (username : String) (now : Int) :
    LedgerInv { ledger with
      db := disableUser ledger.db username now
      disabled := (ledger.db.users.rows.filter
        (fun entry => decide (entry.2.username = username))).map Prod.fst ++ ledger.disabled } := by
  refine inv.stay inv.distinct (List.Sublist.refl _) rfl rfl (.refl _)
    (fun _ member => Or.inl member) inv.revoked ?_
  intro userId member
  dsimp only at member ⊢
  rw [disableUser_get]
  rcases List.mem_append.mp member with ours | earlier
  · obtain ⟨entry, kept, rfl⟩ := List.mem_map.mp ours
    obtain ⟨stored, named⟩ := List.mem_filter.mp kept
    rw [(Table.mem_rows_iff _ _ _).mp stored, Option.map_some, if_pos (by simpa using named)]
    exact ⟨_, rfl, by simp⟩
  · obtain ⟨row, found, off⟩ := inv.disabled userId earlier
    rw [found, Option.map_some]
    refine ⟨_, rfl, ?_⟩
    split
    · simp
    · exact off

theorem step (inv : LedgerInv ledger) {action : TokenStep}
    (done : ledger.step action = some next) : LedgerInv next := by
  cases action with
  | createSession userId username deviceId platform deviceName sessionId accessHash refreshHash
      accessExpiresAt now =>
      simp only [Ledger.step] at done
      split at done
      · rename_i fresh
        cases done
        exact inv.created fresh rfl
      · cases done
  | authenticateAccess accessHash now =>
      simp only [Ledger.step, Option.some.injEq] at done
      subst done
      obtain ⟨rows, users, -⟩ :=
        @authenticateAccess_rows ledger.db _ accessHash now _ rfl
      obtain ⟨standing, -⟩ := @authenticateAccess_standing ledger.db _ accessHash now _ rfl
      exact inv.stay inv.distinct (List.Sublist.refl _) rfl rfl rows
        (fun _ member => Or.inl member) (inv.unrevoked standing) (inv.undisabled users)
  | rotateRefresh refreshHash newAccessHash newRefreshHash accessExpiresAt refreshIdleTtlSeconds
      now =>
      simp only [Ledger.step] at done
      split at done
      · rename_i fresh
        cases done
        exact inv.rotated fresh rfl
      · cases done
  | revokeSession sessionId now =>
      simp only [Ledger.step, Option.some.injEq] at done
      subst done
      refine inv.stay inv.distinct (List.Sublist.refl _) rfl rfl
        (revokeSessions_stay ledger.db _ now) ?_ inv.revoked inv.disabled
      intro other member
      rcases List.mem_append.mp member with ours | earlier
      · obtain ⟨row, found, selected⟩ := mem_sessionsWhere.mp ours
        exact Or.inr (revokeSessions_closed now found selected)
      · exact Or.inl earlier
  | revokeDevice userId deviceId now =>
      simp only [Ledger.step, Option.some.injEq] at done
      subst done
      exact inv.deviceRevoked rfl
  | disableUser username now =>
      simp only [Ledger.step, Option.some.injEq] at done
      subst done
      exact inv.userDisabled username now

/-- Two pairs that share a hash are one pair. -/
theorem grant_unique {grants : List Grant} (distinct : (issuedHashes grants).Nodup)
    {first second : Grant} (left : first ∈ grants) (right : second ∈ grants) {hash : String}
    (mine : hash ∈ [first.accessHash, first.refreshHash])
    (theirs : hash ∈ [second.accessHash, second.refreshHash]) : first = second := by
  induction grants with
  | nil => cases left
  | cons grant rest ih =>
      unfold issuedHashes at distinct
      rw [List.flatMap_cons, List.nodup_append'] at distinct
      obtain ⟨-, tail, apart⟩ := distinct
      rcases List.mem_cons.mp left with rfl | early
      · rcases List.mem_cons.mp right with rfl | late
        · rfl
        · exact absurd (List.mem_flatMap.mpr ⟨second, late, theirs⟩) (apart mine)
      · rcases List.mem_cons.mp right with rfl | late
        · exact absurd (List.mem_flatMap.mpr ⟨first, early, mine⟩) (apart theirs)
        · exact ih tail early late

/-- A session that still holds a hash of a closed session is that session. -/
theorem holder_closed (inv : LedgerInv ledger) {grant : Grant} (member : grant ∈ ledger.grants)
    (closed : grant.sessionId ∈ ledger.closed) {sessionId : String} {row : SessionRow}
    (found : ledger.db.sessions.table.get sessionId = some row) {hash : String}
    (token : hash ∈ [grant.accessHash, grant.refreshHash])
    (holds : row.accessTokenHash = hash ∨ row.refreshTokenHash = hash) :
    row.revokedAt ≠ none := by
  obtain ⟨own, listed, named, access, refresh⟩ := inv.held found
  have mine : hash ∈ [own.accessHash, own.refreshHash] := by
    rcases holds with rfl | rfl
    · simp [access]
    · simp [refresh]
  have same := grant_unique (inv.distinct.sublist inv.issued) listed member mine token
  obtain ⟨stored, located, ended⟩ := inv.closed grant.sessionId closed
  rw [← same, named, found] at located
  cases located
  exact ended

end LedgerInv

/-- In every run of the operations on sessions: an access token is accepted only while it
is the last one of its session, before its expiry and with nothing of it closed; a refresh
token is accepted at most once; and no token of a closed session is accepted. -/
theorem token_life_cycle {first last : Ledger} (starts : first.Starts)
    {actions : List TokenStep} (reached : run Ledger.step first actions = some last) :
    (∀ accessHash now principal after,
      authenticateAccess last.db accessHash now = (after, .ok principal) →
        (∃ grant, last.latest principal.sessionId = some grant ∧
          grant.accessHash = accessHash ∧ now < grant.accessExpiresAt) ∧
        principal.sessionId ∉ last.closed ∧
        (principal.userId, principal.deviceId) ∉ last.revoked ∧
        principal.userId ∉ last.disabled) ∧
      last.taken.Nodup ∧
      ∀ grant ∈ last.grants, grant.sessionId ∈ last.closed →
        ∀ hash ∈ [grant.accessHash, grant.refreshHash],
          (∀ now principal after,
            authenticateAccess last.db hash now ≠ (after, .ok principal)) ∧
          ∀ newAccessHash newRefreshHash accessExpiresAt refreshIdleTtlSeconds now principal
            after, rotateRefresh last.db hash newAccessHash newRefreshHash accessExpiresAt
              refreshIdleTtlSeconds now ≠ (after, .ok principal) := by
  have inv : LedgerInv last :=
    run_keeps (fun _ _ _ holds done => LedgerInv.step holds done) (.starts starts) reached
  refine ⟨?_, inv.once, ?_⟩
  · intro accessHash now principal after accepted
    obtain ⟨view, seen, named, hash, free, valid⟩ :=
      (authenticateAccess_rows accepted).2.2 principal rfl
    obtain ⟨row, user, found, access, -, expires, active, account, enabled⟩ := rows_of_view seen
    obtain ⟨noneDisabled, -, noneRevoked⟩ := SessionView.refusal_eq_none.mp free
    refine ⟨?_, ?_, ?_, ?_⟩
    · obtain ⟨grant, latest, holds, -, until'⟩ := inv.current principal.sessionId row found
      refine ⟨grant, latest, ?_, ?_⟩
      · rw [← holds, ← access, hash]
      · rw [← until', ← expires]
        exact valid
    · intro member
      obtain ⟨stored, located, ended⟩ := inv.closed principal.sessionId member
      rw [found] at located
      cases located
      exact ended (active.symm.trans noneRevoked)
    · intro member
      obtain ⟨time, revoked⟩ := inv.revoked _ member
      rw [(authenticateAccess_standing accepted).2 principal rfl] at revoked
      cases revoked
    · intro member
      obtain ⟨stored, located, off⟩ := inv.disabled _ member
      rw [← named, account] at located
      cases located
      exact off (enabled.symm.trans noneDisabled)
  · intro grant member closed hash token
    constructor
    · intro now principal after accepted
      obtain ⟨view, seen, -, own, free, -⟩ :=
        (authenticateAccess_rows accepted).2.2 principal rfl
      obtain ⟨row, user, found, access, -, -, active, -, -⟩ := rows_of_view seen
      have ended := inv.holder_closed member closed found token
        (Or.inl (access.symm.trans own))
      exact ended (active.symm.trans (SessionView.refusal_eq_none.mp free).2.2)
    · intro newAccessHash newRefreshHash accessExpiresAt refreshIdleTtlSeconds now principal after
        accepted
      rcases (rotateRefresh_rows accepted).2 with
        ⟨reason, wrong, -, -⟩ | ⟨wrong, -, -⟩ | ⟨identity, row, -, found, holds, active, -⟩
      · cases wrong
      · cases wrong
      · exact inv.holder_closed member closed found token (Or.inr holds) active

section Witness

/-- One account without a session. -/
def oneUser : Ledger where
  db :=
    { users := Table.empty.put "account" ⟨"reader", "$argon2id$", 0, none⟩
      devices := .empty
      sessions := ⟨.empty, List.nodup_nil, List.nodup_nil⟩ }
  hashes := []
  grants := []
  taken := []
  closed := []
  revoked := []
  disabled := []

/-- A login, a request, a rotation and a logout. -/
def oneSession : List TokenStep :=
  [.createSession "account" "reader" "desk" "macos" none "session" "access 1" "refresh 1" 4600
      1000,
    .authenticateAccess "access 1" 1001,
    .rotateRefresh "refresh 1" "access 2" "refresh 2" 5600 7776000 2000,
    .revokeSession "session" 2001]

theorem token_life_cycle_logout : ∃ last, oneUser.Starts ∧
    run Ledger.step oneUser oneSession = some last ∧ last.taken = ["refresh 1"] ∧
    ∀ now principal after,
      authenticateAccess last.db "access 2" now ≠ (after, .ok principal) := by
  have facts : (run Ledger.step oneUser oneSession).any (fun last =>
      last.taken = ["refresh 1"] && last.closed = ["session"] &&
        decide ((⟨"session", "access 2", "refresh 2", 5600⟩ : Grant) ∈ last.grants)) = true := by
    decide
  obtain ⟨last, reached, holds⟩ := (Option.any_eq_true _ _).mp facts
  simp only [Bool.and_eq_true, decide_eq_true_eq] at holds
  obtain ⟨⟨taken, closed⟩, granted⟩ := holds
  have starts : oneUser.Starts := ⟨rfl, rfl, rfl, rfl, rfl, rfl, rfl⟩
  have refused := (token_life_cycle starts reached).2.2 _ granted (by simp [closed]) "access 2"
    (by simp)
  exact ⟨last, starts, reached, taken, refused.1⟩

end Witness

end Lvos.Server
