import ChoiceMind.Foundation.Transition
import ChoiceMind.SourceAccess.Access

/-!
# Source access under overlapping calls

The commands of `openPostgresSourceAccess` and `withCredential`, one transaction or one call of the
vault after another, so that other calls come in between. A row lock and an advisory lock are
held from the statement that takes them to the end of its transaction; a statement that waits for
one is a step that is not enabled. The database is there all the time.
-/

namespace ChoiceMind.SourceAccess

set_option autoImplicit false

open Contracts TaskPersistence Security

/-! ### The tables -/

/-- A row of the vault without its ciphertexts; they open under the master key or they do not. -/
structure VaultRow where
  key : CredentialKey
  secretType : SecretType
  opens : Bool
  deriving DecidableEq

structure AccessTables where
  logins : Table SourceLogin.loginSessionId
  credentials : Table SourceCredential.scope
  vault : Table VaultRow.key
  uuidsDrawn : Nat

def AccessTables.empty : AccessTables := ⟨.empty, .empty, .empty, 0⟩

/-- Uuids that never repeat, and what the audit sink throws for a record of the system actor. -/
structure AccessEnvironment where
  randomUUID : Nat → String
  randomUUID_injective : Function.Injective randomUUID
  systemAuditError : Option PersistenceError

abbrev AccessError := VaultError PersistenceError

inductive AccessReply
  /-- the call goes on -/
  | pending
  | login (login : SourceLogin)
  | status (row : Option SourceCredential)
  | used
  | failed (error : AccessError)
  deriving DecidableEq

/-! ### Calls in progress -/

/-- What a call does after its `deleteVaultCredential`. -/
inductive Continuation
  | marked (row : SourceCredential)
  | replaced (loginSessionId : String) (existing : Option SourceCredential)
  | cleaned (error : AccessError)
  deriving DecidableEq

/-- Where a call stands between two of its steps. -/
inductive CallPhase
  /-- the lock of the login is held -/
  | opened (login : SourceLogin)
  /-- the lock of the account and that of its row are held as well; `vault.store` comes next -/
  | locked (login : SourceLogin) (old : Option SourceCredential) (credentialId : String)
  | stored (login : SourceLogin) (old : Option SourceCredential) (credentialId : String)
  /-- before `vault.delete` -/
  | deleting (credentialId : String) (next : Continuation)
  /-- the vault has loaded the credential for the system actor -/
  | loaded (credentialId : String) (next : Continuation)
  | forgetting (loginSessionId : String) (existing : Option SourceCredential)
  /-- before `vault.use` -/
  | reading (credentialId : String)
  /-- the operation of `withCredential` runs -/
  | operating (credentialId : String)
  deriving DecidableEq

inductive CallResult
  | next (phase : CallPhase)
  | ended (reply : AccessReply)

/-- `toSourceStatus(requireRow(…))` -/
def statusOf : Option SourceCredential → AccessReply
  | some row => .status (some row)
  | none => .failed (.message "SOURCE_ACCESS_WRITE_FAILED")

def Continuation.result : Continuation → CallResult
  | .marked row => .ended (.status (some row))
  | .replaced loginSessionId existing => .next (.forgetting loginSessionId existing)
  | .cleaned error => .ended (.failed error)

/-- What the vault throws to the system actor where it writes `DENIED`. -/
def deniedError (env : AccessEnvironment) (text : String) : AccessError :=
  match env.systemAuditError with
  | some error => .port error
  | none => .message text

/-- The vault has the credential for the system actor. -/
def AccessTables.holdsSource (tables : AccessTables) (key : CredentialKey) : Bool :=
  (tables.vault.find? key).any fun row => row.secretType = .sourceCredential

/-- The row that `COMPLETE_LOGIN` leaves. -/
def AccessTables.activeRow (tables : AccessTables) (scope : SourceScope) (credentialId : String)
    (now : Instant) : SourceCredential :=
  match tables.credentials.find? scope with
  | some old => { old with scope, credentialId, status := .active, updatedAt := now }
  | none => ⟨scope, credentialId, .active, now, now⟩

def SourceLogin.completed (replacedCredentialId : Option String) (now : Instant)
    (login : SourceLogin) : SourceLogin :=
  { login with status := .completed, replacedCredentialId, updatedAt := now }

theorem SourceLogin.completed_key (replacedCredentialId : Option String) (now : Instant) :
    ∀ login : SourceLogin,
      (login.completed replacedCredentialId now).loginSessionId = login.loginSessionId :=
  fun _ => rfl

def SourceLogin.forgotten (login : SourceLogin) : SourceLogin :=
  { login with replacedCredentialId := none }

theorem SourceLogin.forgotten_key :
    ∀ login : SourceLogin, login.forgotten.loginSessionId = login.loginSessionId := fun _ => rfl

/-- The last statements of the transaction of `COMPLETE_LOGIN`. -/
def AccessTables.publish (tables : AccessTables) (login : SourceLogin)
    (old : Option SourceCredential) (credentialId : String) (now : Instant) : AccessTables :=
  { tables with
    credentials := tables.credentials.set (tables.activeRow login.scope credentialId now)
    logins := tables.logins.update login.loginSessionId
      (SourceLogin.completed (old.map SourceCredential.credentialId) now)
      (SourceLogin.completed_key _ now) }

def SourceCredential.marked (command : MarkCommand) (now : Instant) (row : SourceCredential) :
    SourceCredential :=
  { row with status := command.status, updatedAt := now }

theorem SourceCredential.marked_key (command : MarkCommand) (now : Instant) :
    ∀ row : SourceCredential, (row.marked command now).scope = row.scope := fun _ => rfl

/-- The statement of `MARK_INVALID` and `REVOKE_CREDENTIAL`. -/
def AccessTables.mark (tables : AccessTables) (scope : SourceScope) (command : MarkCommand)
    (now : Instant) : AccessTables :=
  { tables with
    credentials := tables.credentials.update scope (SourceCredential.marked command now)
      (SourceCredential.marked_key command now) }

section Steps
variable (env : AccessEnvironment)

/-- The next step of a call, which is one of the owner unless it is one of the system actor. The
operation of `withCredential` says whether it returns normally. -/
def advance (call : SourceCall) (now : Instant) (returns : Bool) (tables : AccessTables) :
    CallPhase → CallResult × AccessTables
  | .opened login =>
    (.next (.locked login (tables.credentials.find? login.scope)
      (env.randomUUID tables.uuidsDrawn)), { tables with uuidsDrawn := tables.uuidsDrawn + 1 })
  | .locked login old credentialId =>
    match call.caller with
    | .systemActor _ =>
      (.next (.deleting credentialId (.cleaned (deniedError env "CREDENTIAL_OWNER_MISMATCH"))),
        tables)
    | .other _ =>
      (.next (.stored login old credentialId),
        { tables with
          vault := tables.vault.set ⟨⟨call.ownerUserId, credentialId⟩, .sourceCredential, true⟩ })
  | .stored login old credentialId =>
    let row := tables.activeRow login.scope credentialId now
    let published := tables.publish login old credentialId now
    match old with
    | none => (.ended (.status (some row)), published)
    | some old =>
      if old.credentialId = credentialId then (.ended (.status (some row)), published)
      else
        (.next (.deleting old.credentialId (.replaced login.loginSessionId (some row))), published)
  | .deleting credentialId next =>
    let key : CredentialKey := ⟨call.ownerUserId, credentialId⟩
    match call.caller with
    | .systemActor _ =>
      if env.systemAuditError.isSome || !tables.holdsSource key then
        (.ended (.failed (deniedError env "CREDENTIAL_NOT_FOUND")), tables)
      else (.next (.loaded credentialId next), tables)
    | .other _ => (next.result, { tables with vault := tables.vault.erase key })
  | .loaded credentialId next =>
    (next.result,
      { tables with vault := tables.vault.erase ⟨call.ownerUserId, credentialId⟩ })
  | .forgetting loginSessionId existing =>
    (.ended (statusOf existing),
      { tables with
        logins := tables.logins.update loginSessionId SourceLogin.forgotten
          SourceLogin.forgotten_key })
  | .reading credentialId =>
    let key : CredentialKey := ⟨call.ownerUserId, credentialId⟩
    match call.caller, tables.vault.find? key with
    | .systemActor _, found =>
      if env.systemAuditError.isSome || !tables.holdsSource key then
        (.ended (.failed (deniedError env "CREDENTIAL_NOT_FOUND")), tables)
      else if found.any VaultRow.opens then (.next (.operating credentialId), tables)
      else (.ended (.failed (.message "CREDENTIAL_USE_FAILED")), tables)
    | .other _, none => (.ended (.failed (.message "CREDENTIAL_NOT_FOUND")), tables)
    | .other _, some row =>
      if row.opens then (.next (.operating credentialId), tables)
      else (.ended (.failed (.message "CREDENTIAL_USE_FAILED")), tables)
  | .operating _ =>
    (.ended (if returns then .used else .failed (.message "SECRET_OPERATION_FAILED")), tables)

end Steps

/-! ### The system -/

/-- A call in progress and who waits for it; a client makes one call at a time. -/
structure OpenCall where
  client : Nat
  call : SourceCall
  phase : CallPhase

/-- The login whose lock a call holds. -/
def CallPhase.login? : CallPhase → Option SourceLogin
  | .opened login | .locked login _ _ | .stored login _ _ => some login
  | _ => none

def CallPhase.holdsLogin (loginSessionId : String) (phase : CallPhase) : Bool :=
  phase.login?.any fun login => login.loginSessionId = loginSessionId

/-- The account whose lock a call holds, with the row that it has locked. -/
def CallPhase.account? : CallPhase → Option (SourceScope × Option SourceCredential)
  | .locked login old _ | .stored login old _ => some (login.scope, old)
  | _ => none

def CallPhase.holdsScope (scope : SourceScope) (phase : CallPhase) : Bool :=
  phase.account?.any fun account => account.1 = scope

def CallPhase.holdsRow (scope : SourceScope) (phase : CallPhase) : Bool :=
  phase.account?.any fun account => account.1 = scope && account.2.isSome

/-- The login session of a `COMPLETE_LOGIN` in progress. -/
def CallPhase.loginSession? : CallPhase → Option String
  | .opened login | .locked login _ _ | .stored login _ _ => some login.loginSessionId
  | .deleting _ (.replaced loginSessionId _) | .loaded _ (.replaced loginSessionId _) =>
    some loginSessionId
  | .forgetting loginSessionId _ => some loginSessionId
  | _ => none

structure AccessWorld where
  tables : AccessTables
  calls : Table OpenCall.client

def AccessWorld.initial : AccessWorld := ⟨.empty, .empty⟩

inductive AccessLabel
  | beginLogin (scope : SourceScope) (officialLoginUrl : String) (now : Instant)
  | completeLogin (client : Nat) (call : SourceCall) (loginSessionId : String)
  | markCredential (client : Nat) (call : SourceCall) (sourceId sourceAccountId : String)
    (command : MarkCommand) (now : Instant)
  | withCredential (client : Nat) (call : SourceCall) (sourceId sourceAccountId : String)
  | advance (client : Nat) (now : Instant) (returns : Bool)

/-- The call of a client after a step. -/
def AccessWorld.put (world : AccessWorld) (client : Nat) (call : SourceCall) :
    CallResult × AccessTables → AccessReply × AccessWorld
  | (.next phase, tables) => (.pending, ⟨tables, world.calls.set ⟨client, call, phase⟩⟩)
  | (.ended reply, tables) => (reply, ⟨tables, world.calls.erase client⟩)

theorem tables_of_put {world world' : AccessWorld} {client : Nat} {call : SourceCall}
    {result : CallResult × AccessTables} {reply : AccessReply}
    (h : world.put client call result = (reply, world')) : world'.tables = result.2 := by
  obtain ⟨result, tables⟩ := result
  cases result with
  | next phase =>
    cases h
    rfl
  | ended reply =>
    cases h
    rfl

/-- A step waits for this lock, which another call holds. -/
def AccessWorld.waitsFor (world : AccessWorld) : CallPhase → Bool
  | .opened login => world.calls.rows.any fun other => other.phase.holdsScope login.scope
  | _ => false

section Step
variable (env : AccessEnvironment)

/-- The first step of `COMPLETE_LOGIN`, which for a completed login is its whole transaction. -/
def openLogin (tables : AccessTables) (login : SourceLogin) : CallResult :=
  if login.status = .completed then
    match login.replacedCredentialId with
    | none => .ended (statusOf (tables.credentials.find? login.scope))
    | some replaced => .next (.deleting replaced
      (.replaced login.loginSessionId (tables.credentials.find? login.scope)))
  else .next (.opened login)

/-- The `UPDATE … RETURNING` of `MARK_INVALID` and `REVOKE_CREDENTIAL`. -/
def markRow (scope : SourceScope) (command : MarkCommand) (now : Instant)
    (tables : AccessTables) : CallResult × AccessTables :=
  match tables.credentials.find? scope with
  | none => (.ended (.status none), tables)
  | some row => (.next (.deleting row.credentialId (.marked (row.marked command now))),
    tables.mark scope command now)

/-- The first statement of `withCredential`. -/
def readCredential (scope : SourceScope) (tables : AccessTables) : CallResult :=
  match (tables.credentials.find? scope).filter fun row => row.status = .active with
  | none => .ended (.failed (.message "SOURCE_LOGIN_REQUIRED"))
  | some row => .next (.reading row.credentialId)

def beginLoginRow (scope : SourceScope) (officialLoginUrl : String) (now : Instant)
    (tables : AccessTables) : AccessReply × AccessTables :=
  let login : SourceLogin := ⟨env.randomUUID tables.uuidsDrawn, scope, officialLoginUrl,
    .waitingChallenge, none, now, now⟩
  match tables.logins.insert? login with
  | none => (.failed (.port .persistenceUnavailable),
    { tables with uuidsDrawn := tables.uuidsDrawn + 1 })
  | some logins => (.login login, { tables with logins, uuidsDrawn := tables.uuidsDrawn + 1 })

/-- `assertActorOwnsScope` -/
def ownerMismatch : AccessReply := .failed (.message "CREDENTIAL_OWNER_MISMATCH")

def accessStep (world : AccessWorld) : AccessLabel → Option (AccessReply × AccessWorld)
  | .beginLogin scope officialLoginUrl now =>
    let (reply, tables) := beginLoginRow env scope officialLoginUrl now world.tables
    some (reply, { world with tables })
  | .completeLogin client call loginSessionId =>
    if (world.calls.find? client).isSome then none
    else if !ownsScope call.process call.caller call.ownerUserId then some (ownerMismatch, world)
    else if world.calls.rows.any fun other => other.call.ownerUserId = call.ownerUserId &&
        other.phase.holdsLogin loginSessionId then none
    else
      match (world.tables.logins.find? loginSessionId).filter fun login =>
          login.scope.ownerUserId = call.ownerUserId with
      | none => some (.failed (.message "SOURCE_LOGIN_SESSION_NOT_FOUND"), world)
      | some login => some (world.put client call (openLogin world.tables login, world.tables))
  | .markCredential client call sourceId sourceAccountId command now =>
    let scope : SourceScope := ⟨call.ownerUserId, sourceId, sourceAccountId⟩
    if (world.calls.find? client).isSome then none
    else if !ownsScope call.process call.caller call.ownerUserId then some (ownerMismatch, world)
    else if world.calls.rows.any fun other => other.phase.holdsRow scope then none
    else some (world.put client call (markRow scope command now world.tables))
  | .withCredential client call sourceId sourceAccountId =>
    let scope : SourceScope := ⟨call.ownerUserId, sourceId, sourceAccountId⟩
    if (world.calls.find? client).isSome then none
    else if !ownsScope call.process call.caller call.ownerUserId then some (ownerMismatch, world)
    else some (world.put client call (readCredential scope world.tables, world.tables))
  | .advance client now returns =>
    match world.calls.find? client with
    | none => none
    | some current =>
      if world.waitsFor current.phase then none
      else some (world.put client current.call
        (advance env current.call now returns world.tables current.phase))

end Step

end ChoiceMind.SourceAccess
