import ChoiceMind.IdentityAccess.Statements

/-!
# The lifecycle worker

`runOnce` of `openPostgresIdentityLifecycleWorker`: the cleanup of old audit records, and then
one due event in one transaction around the call of the handler.
-/

namespace ChoiceMind.IdentityAccess

set_option autoImplicit false

open Contracts

def auditCleanupIntervalMs : Instant := 24 * 60 * 60 * 1000

/-! ### Statements -/

namespace IdentityStore

def deleteOldAudits (before : Instant) (db : IdentityStore) : IdentityStore :=
  { db with audits := db.audits.deleteWhere fun record => record.occurredAt < before }

/-- A pending event whose time has come. -/
def isDue (runAt : Instant) (event : LifecycleEvent) : Bool :=
  event.isPending && event.scheduledAt ≤ runAt

/-- The first due event that no other transaction holds. -/
def dueEvent (runAt : Instant) (taken : IdentityRow → Bool) (db : IdentityStore) :
    Option LifecycleEvent :=
  ((db.events.select fun event => isDue runAt event && !taken (.event event.eventId)).insertionSort
    fun a b => a.order ≤ b.order).head?

def updateEvent (eventId : Uuid) (f : LifecycleEvent → LifecycleEvent)
    (hf : ∀ event, (f event).eventId = event.eventId := by as_aux_lemma => intro _; rfl)
    (db : IdentityStore) : IdentityStore :=
  { db with events := db.events.update eventId f hf }

def deleteRecoveryCode (accountId : Uuid) (db : IdentityStore) : IdentityStore :=
  { db with recoveryCodes := db.recoveryCodes.deleteWhere fun code => code.accountId = accountId }

def deleteSessions (accountId : Uuid) (db : IdentityStore) : IdentityStore :=
  db.removeSessions fun session => session.accountId = accountId

def forgetInvitationUser (accountId : Uuid) (db : IdentityStore) : IdentityStore :=
  { db with
    invitations := db.invitations.updateWhere
      (fun invitation => invitation.usedByAccountId = some accountId)
      fun invitation => { invitation with usedByAccountId := none } }

def deleteCreatedInvitations (accountId : Uuid) (db : IdentityStore) : IdentityStore :=
  { db with
    invitations := db.invitations.deleteWhere fun invitation =>
      invitation.createdByAccountId = accountId }

def pseudonymizeActors (accountId pseudonym : String) (db : IdentityStore) : IdentityStore :=
  { db with
    audits := db.audits.updateWhere (fun record => record.actorAccountId = some accountId)
      fun record => { record with actorAccountId := some pseudonym } }

def pseudonymizeObjects (accountId pseudonym : String) (db : IdentityStore) : IdentityStore :=
  { db with
    audits := db.audits.updateWhere
      (fun record => record.objectType = .account && record.objectId = accountId)
      fun record => { record with objectId := pseudonym } }

/-- The last `UPDATE` of an erasure. -/
def erasedAccount (pseudonym : String) (now : Instant) (account : Account) : Account :=
  { account with
    username := pseudonym
    usernameKey := pseudonym
    status := .deleted
    passwordHash := .erased pseudonym
    passwordKind := .permanent
    deletionRequestedAt := none
    deletionDueAt := none
    updatedAt := now }

/-- Another account has the username key. -/
def usernameKeyTaken (accountId : Uuid) (usernameKey : String) (db : IdentityStore) : Bool :=
  db.accounts.rows.any fun account =>
    account.accountId ≠ accountId && account.usernameKey = usernameKey

end IdentityStore

section Keyed
variable (accountId : Uuid)

/-- `DELETE FROM identity_audit_records WHERE occurred_at < $1` -/
def deleteOldAudits (before : Instant) : IdentityStatement Unit :=
  fun _ db =>
    let ids := db.audits.keysWhere fun record => record.occurredAt < before
    .ok ⟨(), fun db =>
      { db with audits := db.audits.deleteWhere fun record => record.auditId ∈ ids },
      ids.map fun auditId => (.audit auditId, .exclusive)⟩

/-- `FOR UPDATE SKIP LOCKED` -/
def selectDueEvent (runAt : Instant) : IdentityStatement (Option LifecycleEvent) :=
  fun taken db =>
    let found := db.dueEvent runAt taken
    .ok ⟨found, id, found.toList.map fun event => (.event event.eventId, .exclusive)⟩

def updateEvent (eventId : Uuid) (f : LifecycleEvent → LifecycleEvent)
    (hf : ∀ event, (f event).eventId = event.eventId := by as_aux_lemma => intro _; rfl) :
    IdentityStatement Unit :=
  writing (IdentityStore.updateEvent eventId f hf) [.event eventId]

def deleteRecoveryCode : IdentityStatement Unit :=
  writing (IdentityStore.deleteRecoveryCode accountId) [.recoveryCode accountId]

def deleteSessions : IdentityStatement Unit :=
  fun _ db =>
    let ids := db.sessions.keysWhere fun session => session.accountId = accountId
    .ok ⟨(), IdentityStore.removeSessions fun session => session.sessionId ∈ ids,
      ids.map fun sessionId => (.session sessionId, .exclusive)⟩

def forgetInvitationUser : IdentityStatement Unit :=
  fun _ db =>
    let ids := db.invitations.keysWhere fun invitation =>
      invitation.usedByAccountId = some accountId
    .ok ⟨(), fun db =>
      { db with
        invitations := db.invitations.updateWhere (fun invitation =>
          invitation.invitationId ∈ ids)
          fun invitation => { invitation with usedByAccountId := none } },
      ids.map fun invitationId => (.invitation invitationId, .exclusive)⟩

def deleteCreatedInvitations : IdentityStatement Unit :=
  fun _ db =>
    let ids := db.invitations.keysWhere fun invitation =>
      invitation.createdByAccountId = accountId
    .ok ⟨(), fun db =>
      { db with
        invitations := db.invitations.deleteWhere fun invitation =>
          invitation.invitationId ∈ ids },
      ids.map fun invitationId => (.invitation invitationId, .exclusive)⟩

def pseudonymizeActors (accountId pseudonym : String) : IdentityStatement Unit :=
  fun _ db =>
    let ids := db.audits.keysWhere fun record => record.actorAccountId = some accountId
    .ok ⟨(), fun db =>
      { db with
        audits := db.audits.updateWhere (fun record => record.auditId ∈ ids)
          fun record => { record with actorAccountId := some pseudonym } },
      ids.map fun auditId => (.audit auditId, .exclusive)⟩

def pseudonymizeObjects (accountId pseudonym : String) : IdentityStatement Unit :=
  fun _ db =>
    let ids := db.audits.keysWhere fun record =>
      record.objectType = .account && record.objectId = accountId
    .ok ⟨(), fun db =>
      { db with
        audits := db.audits.updateWhere (fun record => record.auditId ∈ ids)
          fun record => { record with objectId := pseudonym } },
      ids.map fun auditId => (.audit auditId, .exclusive)⟩

/-- The rename, which the unique username keys may refuse. -/
def eraseAccountRow (pseudonym : String) (now : Instant) : IdentityStatement Unit :=
  fun _ db =>
    if db.usernameKeyTaken accountId pseudonym then .error .uniqueViolation
    else .ok ⟨(), IdentityStore.updateAccount accountId (IdentityStore.erasedAccount pseudonym now),
      [(.account accountId, .exclusive), (.usernameKey pseudonym, .exclusive)]⟩

end Keyed

section Evals
variable (accountId : Uuid) (db : IdentityStore)

@[simp] theorem deleteOldAudits_eval (before : Instant) :
    Statement.eval (deleteOldAudits before) db = .ok ((), db.deleteOldAudits before) := by
  simp only [Statement.eval, deleteOldAudits, IdentityStore.deleteOldAudits,
    Table.deleteWhere_keysWhere]

@[simp] theorem selectDueEvent_eval (runAt : Instant) :
    Statement.eval (selectDueEvent runAt) db = .ok (db.dueEvent runAt fun _ => false, db) := rfl

@[simp] theorem deleteSessions_eval :
    Statement.eval (deleteSessions accountId) db = .ok ((), db.deleteSessions accountId) := by
  simp only [Statement.eval, deleteSessions, IdentityStore.deleteSessions,
    IdentityStore.removeSessions, Table.deleteWhere_keysWhere]

@[simp] theorem forgetInvitationUser_eval :
    Statement.eval (forgetInvitationUser accountId) db =
      .ok ((), db.forgetInvitationUser accountId) := by
  simp only [Statement.eval, forgetInvitationUser, IdentityStore.forgetInvitationUser,
    Table.updateWhere_keysWhere]

@[simp] theorem deleteCreatedInvitations_eval :
    Statement.eval (deleteCreatedInvitations accountId) db =
      .ok ((), db.deleteCreatedInvitations accountId) := by
  simp only [Statement.eval, deleteCreatedInvitations, IdentityStore.deleteCreatedInvitations,
    Table.deleteWhere_keysWhere]

@[simp] theorem pseudonymizeActors_eval (text pseudonym : String) :
    Statement.eval (pseudonymizeActors text pseudonym) db =
      .ok ((), db.pseudonymizeActors text pseudonym) := by
  simp only [Statement.eval, pseudonymizeActors, IdentityStore.pseudonymizeActors,
    Table.updateWhere_keysWhere]

@[simp] theorem pseudonymizeObjects_eval (text pseudonym : String) :
    Statement.eval (pseudonymizeObjects text pseudonym) db =
      .ok ((), db.pseudonymizeObjects text pseudonym) := by
  simp only [Statement.eval, pseudonymizeObjects, IdentityStore.pseudonymizeObjects,
    Table.updateWhere_keysWhere]

@[simp] theorem eraseAccountRow_eval (pseudonym : String) (now : Instant) :
    Statement.eval (eraseAccountRow accountId pseudonym now) db =
      if db.usernameKeyTaken accountId pseudonym then .error .uniqueViolation
      else .ok ((), db.updateAccount accountId (IdentityStore.erasedAccount pseudonym now)) := by
  unfold Statement.eval eraseAccountRow
  by_cases htaken : db.usernameKeyTaken accountId pseudonym = true
  · rw [if_pos htaken, if_pos htaken]
  · rw [if_neg htaken, if_neg htaken]

end Evals

/-! ### The worker -/

/-- The readings of the clock in one `runOnce`. -/
structure WorkerClock where
  runAt : Instant
  erasedAt : Instant
  settledAt : Instant

inductive IdentityLifecycleWorkerResult
  | idle
  | processed (event : LifecycleEvent)
  | retryScheduled
  deriving DecidableEq

/-- The pseudonym of an erased account. -/
def pseudonymOf (env : IdentityEnvironment) (accountId : Uuid) : String :=
  "deleted_" ++ .ofList ((env.sha256 accountId.text).toList.take 16)

def eraseIdentityAccount (env : IdentityEnvironment) (accountId : Uuid) (now : Instant) :
    IdentityM Unit := do
  match ← query (selectAccountForUpdate accountId fun _ => true) with
  | none => return ()
  | some account => do
    if account.status = .deleted then return ()
    else if account.status ≠ .pendingDeletion then
      .fail (.message "只有等待删除的账号可以执行到期擦除")
    else do
      let pseudonym := pseudonymOf env accountId
      query (deleteRecoveryCode accountId)
      query (deleteSessions accountId)
      query (deleteThrottle account.usernameKey)
      query (forgetInvitationUser accountId)
      query (deleteCreatedInvitations accountId)
      query (pseudonymizeActors accountId.text pseudonym)
      query (pseudonymizeObjects accountId.text pseudonym)
      query (eraseAccountRow accountId pseudonym now)

/-- `SET attempt_count, last_attempt_at` -/
def LifecycleEvent.attempted (event : LifecycleEvent) (now : Instant) : LifecycleEvent :=
  { event with attemptCount := event.attemptCount + 1, lastAttemptAt := some now }

/-- `SET processed_at, attempt_count, last_attempt_at` -/
def LifecycleEvent.processed (event : LifecycleEvent) (now : Instant) : LifecycleEvent :=
  { event.attempted now with processedAt := some now }

/-- The worker keeps the keys of the rows that it changes. -/
theorem attempted_key (clock : WorkerClock) : ∀ event : LifecycleEvent,
    (event.attempted clock.settledAt).eventId = event.eventId := fun _ => rfl

theorem processed_key (clock : WorkerClock) : ∀ event : LifecycleEvent,
    (event.processed clock.settledAt).eventId = event.eventId := fun _ => rfl

theorem IdentityStore.erasedAccount_kept (pseudonym : String) (now : Instant) :
    ∀ account : Account, (erasedAccount pseudonym now account).accountId = account.accountId :=
  fun _ => rfl

theorem erasedAccount_key (clock : WorkerClock) (pseudonym : String) : ∀ account : Account,
    (IdentityStore.erasedAccount pseudonym clock.erasedAt account).accountId =
      account.accountId := fun _ => rfl

/-- The rest of the transaction after the handler has succeeded. -/
def settleEvent (env : IdentityEnvironment) (clock : WorkerClock) (event : LifecycleEvent) :
    IdentityM IdentityLifecycleWorkerResult := do
  if event.eventType = .deleteAccount then
    eraseIdentityAccount env event.accountId clock.erasedAt
  query <| updateEvent event.eventId fun event => event.processed clock.settledAt
  commitTransaction
  return .processed event

/-- The rest of the transaction from the selected event on. -/
def processEvent (env : IdentityEnvironment) (handle : LifecycleEvent → IdentityM Bool)
    (clock : WorkerClock) (event : LifecycleEvent) : IdentityM IdentityLifecycleWorkerResult := do
  if ← handle event then settleEvent env clock event
  else do
    query <| updateEvent event.eventId fun event => event.attempted clock.settledAt
    commitTransaction
    return .retryScheduled

/-- The transaction of `runOnce`. -/
def processDueEvent (env : IdentityEnvironment) (handle : LifecycleEvent → IdentityM Bool)
    (clock : WorkerClock) : IdentityM IdentityLifecycleWorkerResult := do
  beginTransaction
  match ← query (selectDueEvent clock.runAt) with
  | none => do
    commitTransaction
    return .idle
  | some event => processEvent env handle clock event

/-- The cleanup of `runOnce`, which gives the time of the next one. -/
def cleanUpAudits (runAt nextAuditCleanupAt : Instant) : IdentityM Instant := do
  if nextAuditCleanupAt ≤ runAt then
    query (deleteOldAudits (runAt - auditRetentionMs))
    return runAt + auditCleanupIntervalMs
  else return nextAuditCleanupAt

/-- A handler as one call. -/
def callHandler (event : LifecycleEvent) : IdentityM Bool := .call (.handle event) .done

end ChoiceMind.IdentityAccess
