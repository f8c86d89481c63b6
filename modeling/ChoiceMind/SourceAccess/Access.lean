import ChoiceMind.Security.Vault
import ChoiceMind.TaskPersistence.System

/-!
# Source logins and credentials

`openPostgresSourceAccess` with the vault over the task-persistence store, in the two processes
that open it: the API, and the source worker with its system actor. The statements of a call
run without interference, and what a call that throws has committed stays.
-/

namespace ChoiceMind.SourceAccess

set_option autoImplicit false

open Contracts TaskPersistence Security

/-! ### The tables -/

inductive SourceCredentialStatus
  | active
  | invalid
  | revoked
  deriving DecidableEq, Repr

structure SourceScope where
  ownerUserId : String
  sourceId : String
  sourceAccountId : String
  deriving DecidableEq

structure SourceCredential where
  scope : SourceScope
  credentialId : String
  status : SourceCredentialStatus
  createdAt : Instant
  updatedAt : Instant
  deriving DecidableEq

inductive LoginStatus
  | waitingChallenge
  | completed
  deriving DecidableEq, Repr

structure SourceLogin where
  loginSessionId : String
  scope : SourceScope
  officialLoginUrl : String
  status : LoginStatus
  replacedCredentialId : Option String
  createdAt : Instant
  updatedAt : Instant
  deriving DecidableEq

/-- The database, the number of random byte strings drawn and the reading of the clock. -/
structure Sources where
  db : Store
  logins : Table SourceLogin.loginSessionId
  credentials : Table SourceCredential.scope
  bytesDrawn : Nat
  clock : Instant

def Sources.empty : Sources := ⟨Store.empty, .empty, .empty, 0, 0⟩

/-! ### The vault over the store -/

/-- What the processes take from their environment. -/
structure SourceEnvironment where
  env : Environment
  cipher : Cipher
  masterKey : String
  randomBytes : Nat → String
  workerId : String

inductive Process
  | api
  | sourceWorker
  deriving DecidableEq, Repr

abbrev SourceM := VaultM Sources PersistenceError

/-- `appendAuditRecord` of both processes, a call of the persistence module. -/
def appendAuditRecord (env : Environment) (record : CredentialAuditRecord) :
    ExceptT PersistenceError (StateM Sources) Unit := fun sources =>
  match TaskPersistence.appendAuditRecord env
      { actor := ⟨record.actor.userId, record.actor.role, record.actor.userId⟩
        action := record.action.text
        objectType := "CREDENTIAL"
        objectId := record.credentialId
        result := record.result.text
        correlationId := record.correlationId } sources.clock sources.db with
  | .ok db => (.ok (), { sources with db })
  | .error error => (.error error, sources)

def vaultPorts (senv : SourceEnvironment) : VaultPorts Sources PersistenceError where
  appendAuditRecord := appendAuditRecord senv.env
  save record := fun sources =>
    match saveEncryptedCredential ⟨record.ownerUserId, record.credentialId⟩
        ⟨record.secretType, record.secret, record.wrappedDataKey⟩ sources.clock sources.db with
    | .ok db => (.ok (), { sources with db })
    | .error error => (.error error, sources)
  load credentialId ownerUserId := fun sources =>
    (.ok <| (sources.db.credentials.find? ⟨ownerUserId, credentialId⟩).map fun row =>
      ⟨row.key.credentialId, row.key.ownerUserId, row.envelope.secretType, row.envelope.secret,
        row.envelope.wrappedDataKey⟩, sources)
  delete := some fun credentialId ownerUserId sources =>
    let (deleted, db) := deleteEncryptedCredential ⟨ownerUserId, credentialId⟩ sources.db
    (.ok deleted, { sources with db })
  randomBytes := fun sources =>
    (senv.randomBytes sources.bytesDrawn, { sources with bytesDrawn := sources.bytesDrawn + 1 })
  now := fun sources => (sources.clock, sources)

/-- The system actor of the source worker's main program. -/
def systemActor (senv : SourceEnvironment) : Caller :=
  .systemActor ("source-worker:" ++ senv.workerId)

def vaultOptions (senv : SourceEnvironment) (process : Process) :
    VaultOptions Sources PersistenceError where
  cipher := senv.cipher
  masterKey := senv.masterKey
  ports := vaultPorts senv
  systemAccess :=
    match process with
    | .api => none
    | .sourceWorker => some ⟨.sourceCredential, [.use, .delete]⟩

/-! ### Commands -/

/-- `assertActorOwnsScope`; only the source worker has a system actor. -/
def ownsScope (process : Process) (caller : Caller) (ownerUserId : String) : Bool :=
  match caller with
  | .systemActor _ => process = .sourceWorker
  | .other actor => actor.role ≠ .system && actor.userId = ownerUserId

def assertActorOwnsScope (process : Process) (caller : Caller) (ownerUserId : String) :
    SourceM Unit :=
  if ownsScope process caller ownerUserId then return ()
  else throw (.message "CREDENTIAL_OWNER_MISMATCH")

def randomUUID (senv : SourceEnvironment) : SourceM String := fun sources =>
  (.ok (senv.env.randomUUID sources.db.uuidsDrawn),
    { sources with db := { sources.db with uuidsDrawn := sources.db.uuidsDrawn + 1 } })

/-- `requireRow` -/
def requireRow {α : Type} : Option α → SourceM α
  | some row => return row
  | none => throw (.message "SOURCE_ACCESS_WRITE_FAILED")

def beginLogin (senv : SourceEnvironment) (scope : SourceScope) (officialLoginUrl : String) :
    SourceM SourceLogin := do
  let loginSessionId ← randomUUID senv
  let sources ← get
  let login : SourceLogin := ⟨loginSessionId, scope, officialLoginUrl, .waitingChallenge, none,
    sources.clock, sources.clock⟩
  match sources.logins.insert? login with
  | none => throw (.port .persistenceUnavailable)
  | some logins => do
    set { sources with logins }
    return login

/-- Who calls for whom, from which process. -/
structure SourceCall where
  process : Process
  caller : Caller
  ownerUserId : String
  correlationId : String

def SourceCall.credentialCall (call : SourceCall) (credentialId : String) : CredentialCall :=
  ⟨credentialId, call.ownerUserId, call.caller, call.correlationId⟩

def deleteVaultCredential (senv : SourceEnvironment) (call : SourceCall) (credentialId : String) :
    SourceM Unit := do
  let _ ← delete (vaultOptions senv call.process) (call.credentialCall credentialId)
  return ()

def forgetReplaced (loginSessionId : String) : SourceM Unit :=
  modify fun sources => { sources with
    logins := sources.logins.update loginSessionId fun login =>
      { login with replacedCredentialId := none } }

/-- The rows of a completed login: the new credential and the one that it replaces. -/
def recordLogin (login : SourceLogin) (credentialId : String) : SourceM SourceCredential := do
  let sources ← get
  let row : SourceCredential :=
    match sources.credentials.find? login.scope with
    | some old => { old with credentialId, status := .active, updatedAt := sources.clock }
    | none => ⟨login.scope, credentialId, .active, sources.clock, sources.clock⟩
  set { sources with
    credentials := sources.credentials.set row
    logins := sources.logins.update login.loginSessionId fun old =>
      { old with
        status := .completed
        replacedCredentialId :=
          (sources.credentials.find? login.scope).map SourceCredential.credentialId
        updatedAt := sources.clock } }
  return row

/-- `COMPLETE_LOGIN` of a login that waits. -/
def completeWaitingLogin (senv : SourceEnvironment) (call : SourceCall) (login : SourceLogin)
    (credentialSecret : String) : SourceM SourceCredential := do
  let old := (← get).credentials.find? login.scope
  let credentialId ← randomUUID senv
  match ← attempt <| store (vaultOptions senv call.process) (call.credentialCall credentialId)
      credentialSecret .sourceCredential with
  | .error error => do
    deleteVaultCredential senv call credentialId
    throw error
  | .ok () => do
    let row ← recordLogin login credentialId
    match old with
    | none => return row
    | some old =>
      if old.credentialId = credentialId then return row
      else do
        deleteVaultCredential senv call old.credentialId
        forgetReplaced login.loginSessionId
        return row

/-- `COMPLETE_LOGIN` of a login that is completed already. -/
def repeatCompletedLogin (senv : SourceEnvironment) (call : SourceCall) (login : SourceLogin) :
    SourceM SourceCredential := do
  let existing := (← get).credentials.find? login.scope
  match login.replacedCredentialId with
  | none => requireRow existing
  | some replaced => do
    deleteVaultCredential senv call replaced
    forgetReplaced login.loginSessionId
    requireRow existing

def completeLogin (senv : SourceEnvironment) (call : SourceCall)
    (loginSessionId credentialSecret : String) : SourceM SourceCredential := do
  assertActorOwnsScope call.process call.caller call.ownerUserId
  let found := ((← get).logins.find? loginSessionId).filter fun login =>
    login.scope.ownerUserId = call.ownerUserId
  match found with
  | none => throw (.message "SOURCE_LOGIN_SESSION_NOT_FOUND")
  | some login =>
    if login.status = .completed then repeatCompletedLogin senv call login
    else completeWaitingLogin senv call login credentialSecret

inductive MarkCommand
  | markInvalid
  | revokeCredential
  deriving DecidableEq, Repr

def MarkCommand.status : MarkCommand → SourceCredentialStatus
  | .markInvalid => .invalid
  | .revokeCredential => .revoked

def markCredential (senv : SourceEnvironment) (call : SourceCall) (scope : SourceScope)
    (command : MarkCommand) : SourceM (Option SourceCredential) := do
  assertActorOwnsScope call.process call.caller call.ownerUserId
  let sources ← get
  match sources.credentials.find? scope with
  | none => return none
  | some row => do
    set { sources with
      credentials := sources.credentials.update scope fun row =>
        { row with status := command.status, updatedAt := sources.clock } }
    deleteVaultCredential senv call row.credentialId
    return some { row with status := command.status, updatedAt := sources.clock }

/-- `withCredential`; the operation says whether it returns normally. -/
def withCredential (senv : SourceEnvironment) (call : SourceCall)
    (sourceId sourceAccountId : String) (operation : String → Bool) : SourceM Unit := do
  assertActorOwnsScope call.process call.caller call.ownerUserId
  match (← get).credentials.find? ⟨call.ownerUserId, sourceId, sourceAccountId⟩ with
  | none => throw (.message "SOURCE_LOGIN_REQUIRED")
  | some credential =>
    if credential.status ≠ .active then throw (.message "SOURCE_LOGIN_REQUIRED")
    else do
      use (vaultOptions senv call.process) (call.credentialCall credential.credentialId)
        fun secret => return operation secret

/-- `purgePrivateDataForOwner` of source access -/
def purgePrivateDataForOwner (ownerUserId : String) : SourceM Unit :=
  modify fun sources => { sources with
    logins := sources.logins.deleteWhere fun login => login.scope.ownerUserId = ownerUserId
    credentials := sources.credentials.deleteWhere fun row =>
      row.scope.ownerUserId = ownerUserId }

/-! ### The system -/

inductive SourceEvent
  | beginLogin (scope : SourceScope) (officialLoginUrl : String)
  | completeLogin (call : SourceCall) (loginSessionId credentialSecret : String)
  | markCredential (call : SourceCall) (sourceId sourceAccountId : String) (command : MarkCommand)
  | withCredential (call : SourceCall) (sourceId sourceAccountId : String)
      (operation : String → Bool)
  | purge (ownerUserId : String)
  /-- any call of the persistence module -/
  | persistence (action : Action)

inductive SourceReply
  | done
  | login (login : SourceLogin)
  | credential (credential : Option SourceCredential)
  | persistence (reply : Reply)
  | failed (error : VaultError PersistenceError)

def replyOf {α : Type} (reply : α → SourceReply) (call : SourceM α) (sources : Sources) :
    SourceReply × Sources :=
  match call.run sources with
  | (.ok value, sources) => (reply value, sources)
  | (.error error, sources) => (.failed error, sources)

/-- One event at an instant. -/
def sourceStep (senv : SourceEnvironment) (before : Sources) :
    Instant × SourceEvent → Option (SourceReply × Sources)
  | (now, event) =>
    let sources := { before with clock := now }
    match event with
    | .beginLogin scope officialLoginUrl =>
      some (replyOf .login (beginLogin senv scope officialLoginUrl) sources)
    | .completeLogin call loginSessionId credentialSecret =>
      some (replyOf (fun row => .credential (some row))
        (completeLogin senv call loginSessionId credentialSecret) sources)
    | .markCredential call sourceId sourceAccountId command =>
      some (replyOf .credential
        (markCredential senv call ⟨call.ownerUserId, sourceId, sourceAccountId⟩ command) sources)
    | .withCredential call sourceId sourceAccountId operation =>
      some (replyOf (fun _ => .done)
        (withCredential senv call sourceId sourceAccountId operation) sources)
    | .purge ownerUserId =>
      some (replyOf (fun _ => .done) (purgePrivateDataForOwner ownerUserId) sources)
    | .persistence action =>
      (step senv.env sources.db (now, action)).map fun (reply, db) =>
        (.persistence reply, { sources with db })

end ChoiceMind.SourceAccess
