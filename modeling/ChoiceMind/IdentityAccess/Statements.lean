import ChoiceMind.Foundation.Script
import ChoiceMind.IdentityAccess.Accounts

/-!
# The statements of the identity module

Each statement of the source with what it reads, changes and locks. A statement that changes
the rows of a condition names them when it runs. Foreign keys to accounts always hold, since
accounts are never deleted.
-/

namespace ChoiceMind.IdentityAccess

set_option autoImplicit false

open Contracts

/-! ### The dialect -/

/-- What a statement can lock: rows, the values of unique columns and advisory locks. -/
inductive IdentityRow
  | account (accountId : Uuid)
  | usernameKey (usernameKey : String)
  | recoveryCode (accountId : Uuid)
  | session (sessionId : Uuid)
  | tokenHash (tokenHash : String)
  | invitation (invitationId : Uuid)
  | invitationCode (codeHash : String)
  | throttle (usernameKey : String)
  | audit (auditId : Uuid)
  | event (eventId : Uuid)
  | advisory (name : String)
  deriving DecidableEq

/-- Calls of a lifecycle handler to the other components. -/
inductive HandlerCall
  /-- the handler as a whole -/
  | handle (event : LifecycleEvent)
  | cancelActiveTasksForOwner (ownerUserId correlationId : String)
  | purgeSourceResearch (ownerUserId : String)
  | purgeSourceAccess (ownerUserId : String)
  | purgeTasks (ownerUserId : String)
  | purgeConversations (ownerUserId : String)
  deriving DecidableEq

/-- Where a statement is sent from: the audit record of `withAudit`, or anywhere else. -/
inductive Site
  | work
  | closingAudit
  deriving DecidableEq, Repr

inductive IdentityError
  | uniqueViolation
  | invalidUuid
  | message (text : String)
  deriving DecidableEq

abbrev IdentityStatement (β : Type) := Statement IdentityStore IdentityRow IdentityError β

abbrev IdentityM := Script IdentityStore IdentityRow HandlerCall Site IdentityError

def query {β : Type} (statement : IdentityStatement β) : IdentityM β :=
  .query .work statement .done

def beginTransaction : IdentityM Unit := .start .work (.done ())

def commitTransaction : IdentityM Unit := .commit .work (.done ())

def rollbackTransaction : IdentityM Unit := .rollback .work (.done ())

/-- A read without locks. -/
def reading {β : Type} (read : IdentityStore → β) : IdentityStatement β :=
  fun _ db => .ok ⟨read db, id, []⟩

/-- A change of the rows that a key names. -/
def writing (change : IdentityStore → IdentityStore) (rows : List IdentityRow) :
    IdentityStatement Unit :=
  fun _ _ => .ok ⟨(), change, rows.map (·, .exclusive)⟩

/-- An insertion that a unique constraint may refuse. -/
def inserting (insert : IdentityStore → Option IdentityStore)
    (locks : List (IdentityRow × LockMode)) : IdentityStatement Unit :=
  fun _ db =>
    match insert db with
    | none => .error .uniqueViolation
    | some _ => .ok ⟨(), fun db => (insert db).getD db, locks⟩

@[simp] theorem reading_eval {β : Type} (read : IdentityStore → β) (db : IdentityStore) :
    Statement.eval (reading read) db = .ok (read db, db) := rfl

@[simp] theorem writing_eval (change : IdentityStore → IdentityStore) (rows : List IdentityRow)
    (db : IdentityStore) : Statement.eval (writing change rows) db = .ok ((), change db) := rfl

@[simp] theorem inserting_eval (insert : IdentityStore → Option IdentityStore)
    (locks : List (IdentityRow × LockMode)) (db : IdentityStore) :
    Statement.eval (inserting insert locks) db =
      match insert db with
      | none => .error .uniqueViolation
      | some db' => .ok ((), db') := by
  unfold Statement.eval inserting
  cases hinsert : insert db with
  | none => rfl
  | some db' => simp only [hinsert, Option.getD_some]

/-- `pg_advisory_xact_lock` -/
def advisoryLock (name : String) : IdentityStatement Unit := writing id [.advisory name]

/-- The reading of a uuid parameter. -/
def uuidParameter (env : IdentityEnvironment) (text : String) : IdentityM Uuid :=
  match env.parseUuid text with
  | some id => .done id
  | none => query fun _ _ => .error .invalidUuid

/-! ### Accounts -/

namespace IdentityStore

def updateAccount (accountId : Uuid) (f : Account → Account)
    (hf : ∀ account, (f account).accountId = account.accountId := by
      as_aux_lemma => intro _; rfl) (db : IdentityStore) : IdentityStore :=
  { db with accounts := db.accounts.update accountId f hf }

/-- Refused for a known id or username key. -/
def insertAccount? (account : Account) (db : IdentityStore) : Option IdentityStore :=
  if db.accounts.rows.any fun old => old.usernameKey = account.usernameKey then none
  else (db.accounts.insert? account).map fun accounts => { db with accounts }

end IdentityStore

def countAccounts : IdentityStatement Nat := reading fun db => db.accounts.rows.length

/-- The other `SUPERADMIN` accounts that are `ACTIVE`, and `PERMANENT` where that is asked. -/
def countOtherSuperadmins (accountId : Uuid) (permanent : Bool) : IdentityStatement Nat :=
  reading fun db => (db.accounts.select fun account =>
    account.role = .superadmin && account.status = .active &&
      (!permanent || account.passwordKind = .permanent) &&
      account.accountId ≠ accountId).length

def selectAccountByUsernameKey (usernameKey : String) : IdentityStatement (Option Account) :=
  reading fun db => db.accounts.rows.find? fun account => account.usernameKey = usernameKey

/-- `SELECT … FOR UPDATE` of one account under a condition. -/
def selectAccountForUpdate (accountId : Uuid) (condition : Account → Bool) :
    IdentityStatement (Option Account) :=
  fun _ db =>
    let found := (db.accounts.find? accountId).filter condition
    .ok ⟨found, id, found.toList.map fun _ => (.account accountId, .exclusive)⟩

@[simp] theorem selectAccountForUpdate_eval (accountId : Uuid) (condition : Account → Bool)
    (db : IdentityStore) :
    Statement.eval (selectAccountForUpdate accountId condition) db =
      .ok ((db.accounts.find? accountId).filter condition, db) := rfl

def updateAccount (accountId : Uuid) (f : Account → Account)
    (hf : ∀ account, (f account).accountId = account.accountId := by
      as_aux_lemma => intro _; rfl) : IdentityStatement Unit :=
  writing (IdentityStore.updateAccount accountId f hf) [.account accountId]

def accountLocks (account : Account) : List (IdentityRow × LockMode) :=
  [(.account account.accountId, .exclusive), (.usernameKey account.usernameKey, .exclusive)]

def insertAccount (account : Account) : IdentityStatement Unit :=
  inserting (IdentityStore.insertAccount? account) (accountLocks account)

/-- The same insertion where the source catches the unique violation. -/
def insertNewAccount (account : Account) : IdentityStatement Bool :=
  fun _ db =>
    match db.insertAccount? account with
    | none => .ok ⟨false, id, []⟩
    | some _ => .ok ⟨true, fun db => (db.insertAccount? account).getD db, accountLocks account⟩

@[simp] theorem insertNewAccount_eval (account : Account) (db : IdentityStore) :
    Statement.eval (insertNewAccount account) db =
      match db.insertAccount? account with
      | none => .ok (false, db)
      | some db' => .ok (true, db') := by
  unfold Statement.eval insertNewAccount
  cases hinsert : db.insertAccount? account with
  | none => rfl
  | some db' => simp only [hinsert, Option.getD_some]

/-! ### Sessions -/

namespace IdentityStore

/-- The session of a token that has neither expired nor been revoked. -/
def liveSession (env : IdentityEnvironment) (token : String) (now : Instant)
    (db : IdentityStore) : Option LoginSession :=
  db.sessions.rows.find? fun session =>
    session.tokenHash = env.hashOpaqueSecret token && session.revokedAt.isNone &&
      now < session.expiresAt

/-- The account of a live session, under a condition on the account. -/
def sessionAccount (env : IdentityEnvironment) (token : String) (now : Instant)
    (condition : Account → Bool) (db : IdentityStore) : Option Account :=
  match db.liveSession env token now with
  | none => none
  | some session => (db.accounts.find? session.accountId).filter condition

/-- `SET revoked_at` of the sessions of a condition that are not revoked yet. -/
def revokeSessionsWhere (condition : LoginSession → Bool) (now : Instant) (db : IdentityStore) :
    IdentityStore :=
  db.setRevoked (fun session => condition session && session.revokedAt.isNone) now

def revokeSessions (accountId : Uuid) (now : Instant) (db : IdentityStore) : IdentityStore :=
  db.revokeSessionsWhere (fun session => session.accountId = accountId) now

/-- Refused for a known id or token hash. -/
def insertSession? (session : LoginSession) (db : IdentityStore) : Option IdentityStore :=
  if hnew : session.tokenHash ∉ db.sessions.rows.map LoginSession.tokenHash then
    match hinsert : db.sessions.insert? session with
    | none => none
    | some sessions => some
      { db with
        sessions
        tokens_nodup := Table.nodup_map_insert? hinsert db.tokens_nodup hnew }
  else none

theorem insertSession?_eq_some {session : LoginSession} {db db' : IdentityStore}
    (h : db.insertSession? session = some db') :
    ∃ sessions tokens_nodup, db.sessions.insert? session = some sessions ∧
      db' = { db with sessions, tokens_nodup } := by
  unfold insertSession? at h
  split at h
  · split at h
    · cases h
    · rename_i sessions hinsert
      cases h
      exact ⟨sessions, _, hinsert, rfl⟩
  · cases h

end IdentityStore

/-- The account that a full-access session acts for. -/
def Account.hasFullAccess (account : Account) : Bool :=
  account.status = .active && account.passwordKind = .permanent

/-- `resolveAuditActorAccountId` -/
def resolveAuditActorAccountId (env : IdentityEnvironment) (sessionToken : String)
    (now : Instant) : IdentityStatement (Option Uuid) :=
  reading fun db => (db.liveSession env sessionToken now).map LoginSession.accountId

/-- `resolveFullAccessAccount` -/
def resolveFullAccessAccount (env : IdentityEnvironment) (sessionToken : String)
    (now : Instant) : IdentityStatement (Option Account) :=
  reading fun db => db.sessionAccount env sessionToken now Account.hasFullAccess

/-- The join of a session and its account `FOR UPDATE OF account`: the session is the one of the
snapshot, and the account is read when its lock is taken. -/
def selectSessionAccountForUpdate (env : IdentityEnvironment) (sessionToken : String)
    (now : Instant) (condition : Account → Bool) : IdentityM (Option Account) := do
  match ← query (reading fun db => db.liveSession env sessionToken now) with
  | none => return none
  | some session => query (selectAccountForUpdate session.accountId condition)

/-- The statement of the rows that the condition names when it runs. -/
def revokeSessionsWhere (condition : LoginSession → Bool) (now : Instant) :
    IdentityStatement Unit :=
  fun _ db =>
    let ids := db.sessions.keysWhere fun session => condition session && session.revokedAt.isNone
    .ok ⟨(), IdentityStore.setRevoked (fun session => session.sessionId ∈ ids) now,
      ids.map fun sessionId => (.session sessionId, .exclusive)⟩

@[simp] theorem revokeSessionsWhere_eval (condition : LoginSession → Bool) (now : Instant)
    (db : IdentityStore) :
    Statement.eval (revokeSessionsWhere condition now) db =
      .ok ((), db.revokeSessionsWhere condition now) := by
  simp only [Statement.eval, revokeSessionsWhere, IdentityStore.revokeSessionsWhere,
    IdentityStore.setRevoked, Table.updateWhere_keysWhere]

def revokeSessions (accountId : Uuid) (now : Instant) : IdentityStatement Unit :=
  revokeSessionsWhere (fun session => session.accountId = accountId) now

def insertSession (session : LoginSession) : IdentityStatement Unit :=
  inserting (IdentityStore.insertSession? session)
    [(.session session.sessionId, .exclusive), (.tokenHash session.tokenHash, .exclusive),
      (.account session.accountId, .share)]

/-! ### Recovery codes -/

namespace IdentityStore

def insertRecoveryCode? (code : RecoveryCode) (db : IdentityStore) : Option IdentityStore :=
  (db.recoveryCodes.insert? code).map fun recoveryCodes => { db with recoveryCodes }

/-- The account of a recovery code. -/
def recoverableAccount (codeHash : String) (db : IdentityStore) : Option Account :=
  match db.recoveryCodes.rows.find? fun code => code.codeHash = codeHash with
  | none => none
  | some code => db.accounts.find? code.accountId

def updateRecoveryCode (accountId : Uuid) (codeHash : String) (now : Instant)
    (db : IdentityStore) : IdentityStore :=
  { db with
    recoveryCodes := db.recoveryCodes.update accountId fun code =>
      { code with codeHash, createdAt := now } }

end IdentityStore

def insertRecoveryCode (code : RecoveryCode) : IdentityStatement Unit :=
  inserting (IdentityStore.insertRecoveryCode? code)
    [(.recoveryCode code.accountId, .exclusive), (.account code.accountId, .share)]

def selectRecoverableAccountForUpdate (codeHash : String) : IdentityStatement (Option Account) :=
  fun _ db =>
    let found := db.recoverableAccount codeHash
    .ok ⟨found, id, found.toList.flatMap fun account =>
      [(.recoveryCode account.accountId, .exclusive), (.account account.accountId, .exclusive)]⟩

@[simp] theorem selectRecoverableAccountForUpdate_eval (codeHash : String) (db : IdentityStore) :
    Statement.eval (selectRecoverableAccountForUpdate codeHash) db =
      .ok (db.recoverableAccount codeHash, db) := rfl

def updateRecoveryCode (accountId : Uuid) (codeHash : String) (now : Instant) :
    IdentityStatement Unit :=
  writing (IdentityStore.updateRecoveryCode accountId codeHash now) [.recoveryCode accountId]

/-! ### Invitations -/

namespace IdentityStore

/-- Refused for a known id or code. -/
def insertInvitation? (invitation : Invitation) (db : IdentityStore) : Option IdentityStore :=
  if db.invitations.rows.any fun old => old.codeHash = invitation.codeHash then none
  else (db.invitations.insert? invitation).map fun invitations => { db with invitations }

def openInvitation (codeHash : String) (now : Instant) (db : IdentityStore) :
    Option Invitation :=
  db.invitations.rows.find? fun invitation =>
    invitation.codeHash = codeHash && invitation.isOpen now

def useInvitation (invitationId accountId : Uuid) (now : Instant) (db : IdentityStore) :
    IdentityStore :=
  { db with
    invitations := db.invitations.update invitationId fun invitation =>
      { invitation with usedAt := some now, usedByAccountId := some accountId } }

def revokeInvitation (invitationId : Uuid) (now : Instant) (db : IdentityStore) :
    IdentityStore :=
  { db with
    invitations := db.invitations.update invitationId fun invitation =>
      { invitation with revokedAt := some now } }

end IdentityStore

def insertInvitation (invitation : Invitation) : IdentityStatement Unit :=
  inserting (IdentityStore.insertInvitation? invitation)
    [(.invitation invitation.invitationId, .exclusive),
      (.invitationCode invitation.codeHash, .exclusive),
      (.account invitation.createdByAccountId, .share)]

def selectOpenInvitationForUpdate (codeHash : String) (now : Instant) :
    IdentityStatement (Option Invitation) :=
  fun _ db =>
    let found := db.openInvitation codeHash now
    .ok ⟨found, id,
      found.toList.map fun invitation => (.invitation invitation.invitationId, .exclusive)⟩

@[simp] theorem selectOpenInvitationForUpdate_eval (codeHash : String) (now : Instant)
    (db : IdentityStore) :
    Statement.eval (selectOpenInvitationForUpdate codeHash now) db =
      .ok (db.openInvitation codeHash now, db) := rfl

def useInvitation (invitationId accountId : Uuid) (now : Instant) : IdentityStatement Unit :=
  fun _ _ => .ok ⟨(), IdentityStore.useInvitation invitationId accountId now,
    [(.invitation invitationId, .exclusive), (.account accountId, .share)]⟩

@[simp] theorem useInvitation_eval (invitationId accountId : Uuid) (now : Instant)
    (db : IdentityStore) :
    Statement.eval (useInvitation invitationId accountId now) db =
      .ok ((), db.useInvitation invitationId accountId now) := rfl

/-- The `UPDATE` of an open invitation says whether it changed a row. -/
def revokeInvitation (invitationId : Uuid) (now : Instant) : IdentityStatement Bool :=
  fun _ db =>
    if (db.invitations.find? invitationId).any (·.isOpen now) then
      .ok ⟨true, IdentityStore.revokeInvitation invitationId now,
        [(.invitation invitationId, .exclusive)]⟩
    else .ok ⟨false, id, []⟩

@[simp] theorem revokeInvitation_eval (invitationId : Uuid) (now : Instant)
    (db : IdentityStore) :
    Statement.eval (revokeInvitation invitationId now) db =
      if (db.invitations.find? invitationId).any (·.isOpen now) then
        .ok (true, db.revokeInvitation invitationId now)
      else .ok (false, db) := by
  unfold Statement.eval revokeInvitation
  by_cases hopen : (db.invitations.find? invitationId).any (·.isOpen now) = true
  · rw [if_pos hopen, if_pos hopen]
  · rw [if_neg hopen, if_neg hopen]
    rfl

/-! ### Login throttles -/

namespace IdentityStore

def upsertThrottle (throttle : LoginThrottle) (db : IdentityStore) : IdentityStore :=
  { db with throttles := db.throttles.set throttle }

def deleteThrottle (usernameKey : String) (db : IdentityStore) : IdentityStore :=
  { db with throttles := db.throttles.deleteWhere fun throttle =>
      throttle.usernameKey = usernameKey }

end IdentityStore

def selectThrottle (usernameKey : String) : IdentityStatement (Option LoginThrottle) :=
  reading fun db => db.throttles.find? usernameKey

def upsertThrottle (throttle : LoginThrottle) : IdentityStatement Unit :=
  writing (IdentityStore.upsertThrottle throttle) [.throttle throttle.usernameKey]

def deleteThrottle (usernameKey : String) : IdentityStatement Unit :=
  writing (IdentityStore.deleteThrottle usernameKey) [.throttle usernameKey]

/-! ### Audit records -/

def IdentityStore.insertAudit? (record : AuditRecord) (db : IdentityStore) :
    Option IdentityStore :=
  (db.audits.insert? record).map fun audits => { db with audits }

def appendAudit (record : AuditRecord) : IdentityStatement Unit :=
  inserting (IdentityStore.insertAudit? record) [(.audit record.auditId, .exclusive)]

/-! ### Lifecycle events -/

namespace IdentityStore

def insertEvent? (event : LifecycleEvent) (db : IdentityStore) : Option IdentityStore :=
  (db.events.insert? event).map fun events => { db with events }

def cancelEvents (accountId : Uuid) (types : List LifecycleEventType) (now : Instant)
    (db : IdentityStore) : IdentityStore :=
  { db with
    events := db.events.updateWhere
      (fun event => event.accountId = accountId && types.contains event.eventType &&
        event.isPending)
      fun event => { event with cancelledAt := some now } }

end IdentityStore

/-- `enqueueAccountLifecycleEvent` -/
def enqueueAccountLifecycleEvent (event : LifecycleEvent) : IdentityStatement Unit :=
  inserting (IdentityStore.insertEvent? event)
    [(.event event.eventId, .exclusive), (.account event.accountId, .share)]

def cancelEvents (accountId : Uuid) (types : List LifecycleEventType) (now : Instant) :
    IdentityStatement Unit :=
  fun _ db =>
    let ids := db.events.keysWhere fun event =>
      event.accountId = accountId && types.contains event.eventType && event.isPending
    .ok ⟨(), fun db =>
      { db with
        events := db.events.updateWhere (fun event => event.eventId ∈ ids)
          fun event => { event with cancelledAt := some now } },
      ids.map fun eventId => (.event eventId, .exclusive)⟩

@[simp] theorem cancelEvents_eval (accountId : Uuid) (types : List LifecycleEventType)
    (now : Instant) (db : IdentityStore) :
    Statement.eval (cancelEvents accountId types now) db =
      .ok ((), db.cancelEvents accountId types now) := by
  simp only [Statement.eval, cancelEvents, IdentityStore.cancelEvents,
    Table.updateWhere_keysWhere]

end ChoiceMind.IdentityAccess
