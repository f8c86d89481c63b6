import ChoiceMind.IdentityAccess.Statements

/-!
# The identity commands

`execute` of `openPostgresIdentityAccess`, command by command, as scripts of statements. What a
command takes from the clock and the random source comes with its invocation.
-/

namespace ChoiceMind.IdentityAccess

set_option autoImplicit false

open Contracts

/-! ### Commands and results -/

/-- The roles that an account can be created with. -/
inductive CreatableRole
  | user
  | admin
  deriving DecidableEq, Repr

def CreatableRole.role : CreatableRole → AccountRole
  | .user => .user
  | .admin => .admin

/-- The statuses that an administrator can set. -/
inductive SettableStatus
  | active
  | disabled
  deriving DecidableEq, Repr

def SettableStatus.status : SettableStatus → AccountStatus
  | .active => .active
  | .disabled => .disabled

/-- The commands without their correlation ids. -/
inductive IdentityCommand
  | bootstrapSuperadmin (isLocalRequest : Bool) (password username : String)
  | createInvitation (sessionToken : String)
  | registerWithInvitation (invitationCode password username : String)
  | login (password username : String)
  | logoutCurrent (sessionToken : String)
  | logoutAll (sessionToken : String)
  | changePassword (currentPassword newPassword sessionToken : String)
  | createAccount (role : CreatableRole) (sessionToken username : String)
  | completeTemporaryPasswordChange (newPassword sessionToken : String)
  | resetAccountPassword (accountId sessionToken : String)
  | revokeInvitation (invitationId sessionToken : String)
  | setAccountRole (accountId currentPassword : String) (role : AccountRole)
      (sessionToken : String)
  | setAccountStatus (accountId : String) (currentPassword : Option String)
      (sessionToken : String) (status : SettableStatus)
  | requestSelfDeletion (currentPassword sessionToken : String)
  | cancelSelfDeletion (sessionToken : String)
  | recoverSuperadmin (isLocalRequest : Bool) (newPassword recoveryCode : String)
  | requestAccountDeletion (accountId currentPassword sessionToken : String)
  deriving DecidableEq

namespace IdentityCommand

def type : IdentityCommand → CommandType
  | bootstrapSuperadmin .. => .bootstrapSuperadmin
  | createInvitation .. => .createInvitation
  | registerWithInvitation .. => .registerWithInvitation
  | login .. => .login
  | logoutCurrent .. => .logoutCurrent
  | logoutAll .. => .logoutAll
  | changePassword .. => .changePassword
  | createAccount .. => .createAccount
  | completeTemporaryPasswordChange .. => .completeTemporaryPasswordChange
  | resetAccountPassword .. => .resetAccountPassword
  | revokeInvitation .. => .revokeInvitation
  | setAccountRole .. => .setAccountRole
  | setAccountStatus .. => .setAccountStatus
  | requestSelfDeletion .. => .requestSelfDeletion
  | cancelSelfDeletion .. => .cancelSelfDeletion
  | recoverSuperadmin .. => .recoverSuperadmin
  | requestAccountDeletion .. => .requestAccountDeletion

/-- `"sessionToken" in command` -/
def sessionToken : IdentityCommand → Option String
  | createInvitation token | logoutCurrent token | logoutAll token => some token
  | changePassword _ _ token => some token
  | createAccount _ token _ => some token
  | completeTemporaryPasswordChange _ token => some token
  | resetAccountPassword _ token => some token
  | revokeInvitation _ token => some token
  | setAccountRole _ _ _ token => some token
  | setAccountStatus _ _ token _ => some token
  | requestSelfDeletion _ token => some token
  | cancelSelfDeletion token => some token
  | requestAccountDeletion _ _ token => some token
  | bootstrapSuperadmin .. | registerWithInvitation .. | login .. | recoverSuperadmin .. => none

end IdentityCommand

inductive IdentityFailureCode
  | bootstrapAlreadyComplete
  | bootstrapLocalOnly
  | invitationInvalid
  | invalidCredentials
  | invalidPassword
  | invalidUsername
  | loginThrottled
  | lastSuperadmin
  | reauthenticationFailed
  | recoveryInvalid
  | recoveryLocalOnly
  | recoveryNotAllowed
  | unauthorized
  | usernameTaken
  deriving DecidableEq, Repr

inductive Access
  | full
  | passwordChangeRequired
  | deletionPending
  deriving DecidableEq, Repr

/-- The `account` member of a result with a session. -/
structure AccountSummary where
  accountId : Uuid
  role : AccountRole
  status : AccountStatus
  username : String
  deriving DecidableEq

inductive IdentityCommandResult
  | access (access : Access) (account : AccountSummary) (sessionToken : String)
      (recoveryCode : Option String) (deletionDueAt : Option Instant)
  | invitation (expiresAt : Instant) (invitationCode : String) (invitationId : Uuid)
  | created (account : AccountSummary) (temporaryPassword : String)
  | reset (accountId temporaryPassword : String)
  | roleSet (accountId : String) (role : AccountRole)
  | statusSet (accountId : String) (status : SettableStatus)
  | deletionRequested (accountId : String) (deletionDueAt : Instant)
  | done
  | failure (code : IdentityFailureCode) (retryAt : Option Instant)
  deriving DecidableEq

/-- The `ok` member. -/
def IdentityCommandResult.ok : IdentityCommandResult → Bool
  | .failure _ _ => false
  | _ => true

/-- The ids and byte strings that one invocation draws from the random source. -/
structure Draws where
  auditId : Uuid
  uuid : Nat → Uuid
  bytes : Nat → String

/-- One call of `execute`, with the reading of its clock. -/
structure Invocation where
  command : IdentityCommand
  correlationId : String
  now : Instant
  draws : Draws

section Commands
variable (env : IdentityEnvironment) (inv : Invocation)

abbrev CommandM := IdentityM IdentityCommandResult

def refuse (code : IdentityFailureCode) : CommandM := return .failure code none

/-- `ROLLBACK` before a refusal. -/
def rollbackAndRefuse (code : IdentityFailureCode) : CommandM := do
  rollbackTransaction
  refuse code

/-- The audit record of this invocation. -/
def Invocation.audit (actorAccountId : Option String) (objectType : AuditObjectType)
    (objectId : String) (result : AuditResult) : AuditRecord :=
  ⟨inv.draws.auditId, inv.now, actorAccountId, inv.command.type, objectType, objectId, result,
    inv.correlationId⟩

/-- `withAudit` -/
def withAudit (result : IdentityCommandResult) (objectType : AuditObjectType)
    (objectId : String) (actorAccountId : Option String) : CommandM :=
  .query .closingAudit (appendAudit (inv.audit actorAccountId objectType objectId
      (if result.ok then .allowed else .denied))) fun _ => .done result

def Account.summary (account : Account) (status : AccountStatus) : AccountSummary :=
  ⟨account.accountId, account.role, status, account.username⟩

/-- An account as an `INSERT` of the module creates it. -/
def newAccount (accountId : Uuid) (username : String) (role : AccountRole)
    (passwordHash : PasswordHash) (passwordKind : PasswordKind) : Account where
  accountId
  username
  usernameKey := normalizeUsername username
  role
  status := .active
  passwordHash
  passwordKind
  deletionRequestedAt := none
  deletionDueAt := none
  createdAt := inv.now
  updatedAt := inv.now

def newSession (sessionId accountId : Uuid) (sessionToken : String) : LoginSession :=
  ⟨sessionId, accountId, env.hashOpaqueSecret sessionToken, inv.now,
    inv.now + loginSessionLifetimeMs, none⟩

/-- `insertLoginSession`, with the token and the id that it draws. -/
def insertLoginSession (accountId : Uuid) : IdentityM String := do
  let sessionToken := inv.draws.bytes 0
  query (insertSession (newSession env inv (inv.draws.uuid 0) accountId sessionToken))
  return sessionToken

/-- `SET password_hash, password_kind, updated_at` -/
def Account.withPassword (account : Account) (passwordHash : PasswordHash)
    (passwordKind : PasswordKind) (now : Instant) : Account :=
  { account with passwordHash, passwordKind, updatedAt := now }

def updatePassword (accountId : Uuid) (password salt : String) (kind : PasswordKind) :
    IdentityM Unit :=
  query <| updateAccount accountId fun account =>
    account.withPassword (env.hashPassword password salt) kind inv.now

/-! ### Bootstrap and recovery -/

/-- `bootstrapSuperadmin` -/
def bootstrapInTransaction (password username : String) : CommandM := do
  beginTransaction
  query (advisoryLock "choicemind-identity-bootstrap")
  if (← query countAccounts) ≠ 0 then rollbackAndRefuse .bootstrapAlreadyComplete
  else do
    let accountId := inv.draws.uuid 1
    let recoveryCode := formatRecoveryCode (inv.draws.bytes 1)
    let account := newAccount inv accountId username .superadmin
      (env.hashPassword password (inv.draws.bytes 2)) .permanent
    query (insertAccount account)
    query (insertRecoveryCode ⟨accountId, env.hashOpaqueSecret recoveryCode, inv.now⟩)
    let sessionToken ← insertLoginSession env inv accountId
    query (appendAudit (inv.audit (some accountId.text) .account accountId.text .allowed))
    commitTransaction
    return .access .full (account.summary .active) sessionToken (some recoveryCode) none

/-- The checks before a transaction is opened. -/
def bootstrapSuperadmin (isLocalRequest : Bool) (password username : String) : CommandM :=
  if !env.isValidUsername username then refuse .invalidUsername
  else if !isValidPassword password then refuse .invalidPassword
  else if !isLocalRequest then refuse .bootstrapLocalOnly
  else bootstrapInTransaction env inv password username

def recoverSuperadmin (isLocalRequest : Bool) (newPassword recoveryCode : String) : CommandM := do
  if !isLocalRequest then refuse .recoveryLocalOnly
  else if !isValidPassword newPassword then refuse .invalidPassword
  else do
    beginTransaction
    query (advisoryLock "choicemind-superadmin-recovery")
    match ← query (selectRecoverableAccountForUpdate (env.hashOpaqueSecret recoveryCode)) with
    | none => rollbackAndRefuse .recoveryInvalid
    | some target => do
      if target.role ≠ .superadmin ∨ target.status ≠ .active then
        rollbackAndRefuse .recoveryInvalid
      else if (← query (countOtherSuperadmins target.accountId true)) ≠ 0 then
        rollbackAndRefuse .recoveryNotAllowed
      else do
        let nextCode := formatRecoveryCode (inv.draws.bytes 1)
        updatePassword env inv target.accountId newPassword (inv.draws.bytes 2) .permanent
        query (updateRecoveryCode target.accountId (env.hashOpaqueSecret nextCode) inv.now)
        query (revokeSessions target.accountId inv.now)
        let sessionToken ← insertLoginSession env inv target.accountId
        commitTransaction
        return .access .full (target.summary .active) sessionToken (some nextCode) none

/-! ### Invitations -/

/-- `actor === undefined || (actor.role !== "ADMIN" && actor.role !== "SUPERADMIN")` -/
def administrator (actor : Option Account) : Option Account :=
  actor.filter fun actor => actor.role = .admin || actor.role = .superadmin

def createInvitation (sessionToken : String) : CommandM := do
  match administrator (← query (resolveFullAccessAccount env sessionToken inv.now)) with
  | none => refuse .unauthorized
  | some actor => do
    let invitationId := inv.draws.uuid 0
    let invitationCode := formatRecoveryCode (inv.draws.bytes 0)
    let expiresAt := inv.now + loginSessionLifetimeMs
    beginTransaction
    query (insertInvitation ⟨invitationId, env.hashOpaqueSecret invitationCode, actor.accountId,
      inv.now, expiresAt, none, none, none⟩)
    query (appendAudit (inv.audit (some actor.accountId.text) .invitation invitationId.text
      .allowed))
    commitTransaction
    return .invitation expiresAt invitationCode invitationId

/-- `registerWithInvitation` from the found invitation on. -/
def registerFound (password username : String) (invitation : Invitation) : CommandM := do
  let accountId := inv.draws.uuid 1
  let account := newAccount inv accountId username .user
    (env.hashPassword password (inv.draws.bytes 1)) .permanent
  if !(← query (insertNewAccount account)) then rollbackAndRefuse .usernameTaken
  else do
    query (useInvitation invitation.invitationId accountId inv.now)
    let sessionToken ← insertLoginSession env inv accountId
    query (appendAudit (inv.audit (some accountId.text) .account accountId.text .allowed))
    commitTransaction
    return .access .full (account.summary .active) sessionToken none none

def registerWithInvitation (invitationCode password username : String) : CommandM := do
  if !env.isValidUsername username then refuse .invalidUsername
  else if !isValidPassword password then refuse .invalidPassword
  else do
    beginTransaction
    match ← query (selectOpenInvitationForUpdate (env.hashOpaqueSecret invitationCode)
        inv.now) with
    | none => rollbackAndRefuse .invitationInvalid
    | some invitation => registerFound env inv password username invitation

/-- The branch of `REVOKE_INVITATION` before its audit record. -/
def revokeOpenInvitation (invitationId sessionToken : String) : CommandM := do
  match administrator (← query (resolveFullAccessAccount env sessionToken inv.now)) with
  | none => refuse .unauthorized
  | some _ => do
    let id ← uuidParameter env invitationId
    if ← query (revokeInvitation id inv.now) then return .done
    else refuse .invitationInvalid

/-! ### Roles and statuses -/

/-- Whether a change that takes a superadministrator away would leave none; the others are
counted only then. -/
def takesLastSuperadmin (takes : Bool) (accountId : Uuid) (permanent : Bool) :
    IdentityM Bool := do
  if takes then
    let others ← query (countOtherSuperadmins accountId permanent)
    return decide (others = 0)
  else return false

def setAccountRole (accountId currentPassword : String) (role : AccountRole)
    (sessionToken : String) : CommandM := do
  beginTransaction
  match ← selectSessionAccountForUpdate env sessionToken inv.now Account.hasFullAccess with
  | none => rollbackAndRefuse .unauthorized
  | some actor => do
    if actor.role ≠ .superadmin then rollbackAndRefuse .unauthorized
    else if !env.verifyPassword currentPassword actor.passwordHash then
      rollbackAndRefuse .reauthenticationFailed
    else do
      let id ← uuidParameter env accountId
      match ← query (selectAccountForUpdate id fun account => account.status ≠ .deleted) with
      | none => rollbackAndRefuse .unauthorized
      | some target => do
        if ← takesLastSuperadmin (target.role = .superadmin && role ≠ .superadmin) id false then
          rollbackAndRefuse .lastSuperadmin
        else do
          query <| updateAccount id fun account => { account with role, updatedAt := inv.now }
          commitTransaction
          return .roleSet accountId role

/-- A lifecycle event of this invocation. -/
def Invocation.event (eventId accountId : Uuid) (eventType : LifecycleEventType)
    (scheduledAt : Instant) : LifecycleEvent :=
  ⟨eventId, accountId, eventType, inv.correlationId, inv.now, scheduledAt, none, none, 0, none⟩

/-- `setAccountStatus` after its checks. -/
def applyAccountStatus (accountId : String) (target : Account) (status : SettableStatus) :
    CommandM := do
  query <| updateAccount target.accountId fun account =>
    { account with status := status.status, updatedAt := inv.now }
  match status with
  | .active => query (cancelEvents target.accountId [.restrictAccount] inv.now)
  | .disabled => do
    query (revokeSessions target.accountId inv.now)
    if target.status ≠ .disabled then
      query (enqueueAccountLifecycleEvent
        (inv.event (inv.draws.uuid 0) target.accountId .restrictAccount inv.now))
  commitTransaction
  return .statusSet accountId status

def setAccountStatus (accountId : String) (currentPassword : Option String)
    (sessionToken : String) (status : SettableStatus) : CommandM := do
  beginTransaction
  match administrator
      (← selectSessionAccountForUpdate env sessionToken inv.now Account.hasFullAccess) with
  | none => rollbackAndRefuse .unauthorized
  | some actor => do
    let id ← uuidParameter env accountId
    match ← query (selectAccountForUpdate id fun _ => true) with
    | none => rollbackAndRefuse .unauthorized
    | some target => do
      if target.status = .deleted ∨ target.status = .pendingDeletion ∨
          (actor.role = .admin ∧ target.role ≠ .user) then
        rollbackAndRefuse .unauthorized
      else if target.role ≠ .superadmin then applyAccountStatus inv accountId target status
      else if actor.role ≠ .superadmin ∨
          !currentPassword.any (env.verifyPassword · actor.passwordHash) then
        rollbackAndRefuse .reauthenticationFailed
      else do
        if ← takesLastSuperadmin (status = .disabled) id true then
          rollbackAndRefuse .lastSuperadmin
        else applyAccountStatus inv accountId target status

/-! ### Deletion -/

/-- What both deletion requests write. -/
def applyDeletionRequest (accountId : Uuid) (text : String) : CommandM := do
  let deletionDueAt := inv.now + accountDeletionWaitMs
  query <| updateAccount accountId fun account =>
    { account with
      status := .pendingDeletion
      deletionRequestedAt := some inv.now
      deletionDueAt := some deletionDueAt
      updatedAt := inv.now }
  query (revokeSessions accountId inv.now)
  query (enqueueAccountLifecycleEvent
    (inv.event (inv.draws.uuid 0) accountId .restrictAccount inv.now))
  query (enqueueAccountLifecycleEvent
    (inv.event (inv.draws.uuid 1) accountId .deleteAccount deletionDueAt))
  commitTransaction
  return .deletionRequested text deletionDueAt

def requestSelfDeletion (currentPassword sessionToken : String) : CommandM := do
  beginTransaction
  match ← selectSessionAccountForUpdate env sessionToken inv.now Account.hasFullAccess with
  | none => rollbackAndRefuse .unauthorized
  | some account => do
    if account.role ≠ .user then rollbackAndRefuse .unauthorized
    else if !env.verifyPassword currentPassword account.passwordHash then
      rollbackAndRefuse .reauthenticationFailed
    else applyDeletionRequest inv account.accountId account.accountId.text

def requestAccountDeletion (accountId currentPassword sessionToken : String) : CommandM := do
  beginTransaction
  match ← selectSessionAccountForUpdate env sessionToken inv.now Account.hasFullAccess with
  | none => rollbackAndRefuse .unauthorized
  | some actor => do
    if actor.role ≠ .superadmin then rollbackAndRefuse .unauthorized
    else if !env.verifyPassword currentPassword actor.passwordHash then
      rollbackAndRefuse .reauthenticationFailed
    else do
      let id ← uuidParameter env accountId
      match ← query (selectAccountForUpdate id fun _ => true) with
      | none => rollbackAndRefuse .unauthorized
      | some target => do
        if target.role ≠ .user ∨ target.status ≠ .active then rollbackAndRefuse .unauthorized
        else applyDeletionRequest inv id accountId

def cancelSelfDeletion (sessionToken : String) : CommandM := do
  beginTransaction
  match ← selectSessionAccountForUpdate env sessionToken inv.now
      fun account => account.status = .pendingDeletion with
  | none => rollbackAndRefuse .unauthorized
  | some account => do
    query <| updateAccount account.accountId fun account =>
      { account with
        status := .active
        deletionRequestedAt := none
        deletionDueAt := none
        updatedAt := inv.now }
    query (revokeSessions account.accountId inv.now)
    query (cancelEvents account.accountId [.deleteAccount, .restrictAccount] inv.now)
    let sessionToken ← insertLoginSession env inv account.accountId
    commitTransaction
    return .access .full (account.summary .active) sessionToken none none

/-! ### Accounts and passwords -/

def createAccount (role : CreatableRole) (sessionToken username : String) : CommandM := do
  if !env.isValidUsername username then refuse .invalidUsername
  else
    match administrator (← query (resolveFullAccessAccount env sessionToken inv.now)) with
    | none => refuse .unauthorized
    | some actor => do
      if role = .admin ∧ actor.role ≠ .superadmin then refuse .unauthorized
      else do
        let temporaryPassword := inv.draws.bytes 0
        let account := newAccount inv (inv.draws.uuid 0) username role.role
          (env.hashPassword temporaryPassword (inv.draws.bytes 1)) .temporary
        if ← query (insertNewAccount account) then
          return .created (account.summary .active) temporaryPassword
        else refuse .usernameTaken

def resetAccountPassword (accountId sessionToken : String) : CommandM := do
  match administrator (← query (resolveFullAccessAccount env sessionToken inv.now)) with
  | none => refuse .unauthorized
  | some actor => do
    beginTransaction
    let id ← uuidParameter env accountId
    match ← query (selectAccountForUpdate id fun _ => true) with
    | none => rollbackAndRefuse .unauthorized
    | some target => do
      if target.status = .deleted ∨ target.role = .superadmin ∨
          (actor.role = .admin ∧ target.role ≠ .user) then
        rollbackAndRefuse .unauthorized
      else do
        let temporaryPassword := inv.draws.bytes 0
        updatePassword env inv id temporaryPassword (inv.draws.bytes 1) .temporary
        query (revokeSessions id inv.now)
        commitTransaction
        return .reset accountId temporaryPassword

def completeTemporaryPasswordChange (newPassword sessionToken : String) : CommandM := do
  if !isValidPassword newPassword then refuse .invalidPassword
  else do
    beginTransaction
    match ← selectSessionAccountForUpdate env sessionToken inv.now
        fun account => account.status = .active && account.passwordKind = .temporary with
    | none => rollbackAndRefuse .unauthorized
    | some account => do
      updatePassword env inv account.accountId newPassword (inv.draws.bytes 1) .permanent
      query (revokeSessions account.accountId inv.now)
      let sessionToken ← insertLoginSession env inv account.accountId
      commitTransaction
      return .access .full (account.summary .active) sessionToken none none

def changePassword (currentPassword newPassword sessionToken : String) : CommandM := do
  if !isValidPassword newPassword then refuse .invalidPassword
  else do
    beginTransaction
    match ← selectSessionAccountForUpdate env sessionToken inv.now
        fun account => account.status = .active with
    | none => rollbackAndRefuse .unauthorized
    | some account => do
      if !env.verifyPassword currentPassword account.passwordHash then
        rollbackAndRefuse .invalidCredentials
      else do
        updatePassword env inv account.accountId newPassword (inv.draws.bytes 1) .permanent
        query (revokeSessions account.accountId inv.now)
        commitTransaction
        return .done

/-! ### Login and logout -/

/-- The refusal of a login: the throttle counts it, and the record names the account if there
is one. -/
def refuseLogin (usernameKey : String) (throttle : Option LoginThrottle)
    (account : Option Account) : CommandM := do
  let failedCount := (throttle.map LoginThrottle.failedCount).getD 0 + 1
  let lockedUntil := if 5 ≤ failedCount then some (inv.now + loginThrottleLifetimeMs) else none
  query (upsertThrottle ⟨usernameKey, failedCount, lockedUntil, inv.now⟩)
  let accountId := account.map fun account => account.accountId.text
  query (appendAudit (inv.audit accountId .account (accountId.getD usernameKey) .denied))
  commitTransaction
  match lockedUntil with
  | none => refuse .invalidCredentials
  | some lockedUntil => return .failure .loginThrottled (some lockedUntil)

/-- `login` with an account whose password has been verified. -/
def acceptLogin (usernameKey : String) (account : Account) : CommandM := do
  query (deleteThrottle usernameKey)
  let sessionToken ← insertLoginSession env inv account.accountId
  query (appendAudit (inv.audit (some account.accountId.text) .account account.accountId.text
    .allowed))
  commitTransaction
  if account.status = .pendingDeletion then
    match account.deletionDueAt with
    | none => .fail (.message "待删除账号缺少到期时间")
    | some deletionDueAt =>
      return .access .deletionPending (account.summary .pendingDeletion) sessionToken none
        (some deletionDueAt)
  else
    return .access (if account.passwordKind = .temporary then .passwordChangeRequired else .full)
      (account.summary .active) sessionToken none none

/-- The account of a username key accepts the password. -/
def acceptsLogin (password : String) (account : Account) : Bool :=
  account.status ≠ .disabled && account.status ≠ .deleted &&
    env.verifyPassword password account.passwordHash &&
    !(account.status = .pendingDeletion && account.deletionDueAt.isNone)

def login (password username : String) : CommandM := do
  let usernameKey := normalizeUsername username
  beginTransaction
  query (advisoryLock ("choicemind-login-" ++ usernameKey))
  let throttle ← query (selectThrottle usernameKey)
  match (throttle.bind LoginThrottle.lockedUntil).filter fun lockedUntil =>
      inv.now < lockedUntil with
  | some lockedUntil => do
    query (appendAudit (inv.audit none .account usernameKey .denied))
    commitTransaction
    return .failure .loginThrottled (some lockedUntil)
  | none => do
    let account ← query (selectAccountByUsernameKey usernameKey)
    match account.filter (acceptsLogin env password) with
    | none => refuseLogin inv usernameKey throttle account
    | some account => acceptLogin env inv usernameKey account

/-- The branch of `LOGOUT_CURRENT` before its audit record. -/
def logoutCurrent (sessionToken : String) : CommandM := do
  let tokenHash := env.hashOpaqueSecret sessionToken
  query (revokeSessionsWhere (fun session => session.tokenHash = tokenHash) inv.now)
  return .done

/-- The branch of `LOGOUT_ALL` before its audit record, with the object of that record. -/
def logoutAll (sessionToken : String) : IdentityM (IdentityCommandResult × String) := do
  match ← query (resolveFullAccessAccount env sessionToken inv.now) with
  | none => return (.failure .unauthorized none, "unknown")
  | some account => do
    query (revokeSessions account.accountId inv.now)
    return (.done, account.accountId.text)

/-! ### `execute` -/

/-- The account of a result, or another object. -/
def IdentityCommandResult.accountOr (result : IdentityCommandResult) (other : String) : String :=
  match result with
  | .access _ account _ _ _ => account.accountId.text
  | .created account _ => account.accountId.text
  | .roleSet accountId _ => accountId
  | .statusSet accountId _ => accountId
  | _ => other

/-- The account of an accepted recovery, which is also its actor. -/
def IdentityCommandResult.accountId? : IdentityCommandResult → Option String
  | .access _ account _ _ _ => some account.accountId.text
  | _ => none

/-- The actor of the audit record of a command with a session token. -/
def auditActor : IdentityM (Option String) :=
  match inv.command.sessionToken with
  | none => return none
  | some sessionToken => do
    let accountId ← query (resolveAuditActorAccountId env sessionToken inv.now)
    return accountId.map Uuid.text

/-- The `switch` of `execute`. -/
def executeAs (actor : Option String) : CommandM :=
  match inv.command with
  | .bootstrapSuperadmin isLocalRequest password username =>
    bootstrapSuperadmin env inv isLocalRequest password username
  | .createInvitation sessionToken => createInvitation env inv sessionToken
  | .registerWithInvitation invitationCode password username =>
    registerWithInvitation env inv invitationCode password username
  | .login password username => login env inv password username
  | .logoutCurrent sessionToken => do
    let result ← logoutCurrent env inv sessionToken
    withAudit inv result .loginSession (actor.getD "unknown") actor
  | .logoutAll sessionToken => do
    let (result, objectId) ← logoutAll env inv sessionToken
    withAudit inv result .loginSession objectId actor
  | .changePassword currentPassword newPassword sessionToken => do
    let result ← changePassword env inv currentPassword newPassword sessionToken
    withAudit inv result .account (actor.getD "unknown") actor
  | .createAccount role sessionToken username => do
    let result ← createAccount env inv role sessionToken username
    withAudit inv result .account (result.accountOr (normalizeUsername username)) actor
  | .completeTemporaryPasswordChange newPassword sessionToken => do
    let result ← completeTemporaryPasswordChange env inv newPassword sessionToken
    withAudit inv result .account (result.accountOr (actor.getD "unknown")) actor
  | .resetAccountPassword accountId sessionToken => do
    let result ← resetAccountPassword env inv accountId sessionToken
    withAudit inv result .account accountId actor
  | .revokeInvitation invitationId sessionToken => do
    let result ← revokeOpenInvitation env inv invitationId sessionToken
    withAudit inv result .invitation invitationId actor
  | .setAccountRole accountId currentPassword role sessionToken => do
    let result ← setAccountRole env inv accountId currentPassword role sessionToken
    withAudit inv result .account accountId actor
  | .setAccountStatus accountId currentPassword sessionToken status => do
    let result ← setAccountStatus env inv accountId currentPassword sessionToken status
    withAudit inv result .account accountId actor
  | .requestSelfDeletion currentPassword sessionToken => do
    let result ← requestSelfDeletion env inv currentPassword sessionToken
    withAudit inv result .account (actor.getD "unknown") actor
  | .cancelSelfDeletion sessionToken => do
    let result ← cancelSelfDeletion env inv sessionToken
    withAudit inv result .account (result.accountOr (actor.getD "unknown")) actor
  | .recoverSuperadmin isLocalRequest newPassword recoveryCode => do
    let result ← recoverSuperadmin env inv isLocalRequest newPassword recoveryCode
    withAudit inv result .account (result.accountId?.getD "unknown") result.accountId?
  | .requestAccountDeletion accountId currentPassword sessionToken => do
    let result ← requestAccountDeletion env inv accountId currentPassword sessionToken
    withAudit inv result .account accountId actor

def execute : CommandM := do
  let actor ← auditActor env inv
  executeAs env inv actor

end Commands

end ChoiceMind.IdentityAccess
