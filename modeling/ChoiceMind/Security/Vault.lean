import ChoiceMind.TaskPersistence.Store

/-!
# The credential vault

`createCredentialVault` over a storage port and an audit sink. A call of a port that throws
leaves the calls before it in place, and what the audit sink throws goes through to the caller.
-/

namespace ChoiceMind.Security

set_option autoImplicit false

open Contracts TaskPersistence

/-! ### Actors -/

structure SecurityActor where
  userId : String
  role : ActorRole
  deriving DecidableEq

/-- An actor as an object: the one that the source worker freezes, or any other one. -/
inductive Caller
  | systemActor (userId : String)
  | other (actor : SecurityActor)
  deriving DecidableEq

def Caller.actor : Caller → SecurityActor
  | .systemActor userId => ⟨userId, .system⟩
  | .other actor => actor

inductive SystemAction
  | use
  | delete
  deriving DecidableEq, Repr

/-- `systemAccess`, whose actor is the frozen object. -/
structure SystemCredentialAccess where
  secretType : SecretType
  actions : List SystemAction

def allowsSystemAccess (access : Option SystemCredentialAccess) (caller : Caller)
    (action : SystemAction) : Bool :=
  match access, caller with
  | some access, .systemActor _ => access.actions.contains action
  | _, _ => false

/-! ### Records -/

structure EncryptedCredentialRecord where
  credentialId : String
  ownerUserId : String
  secretType : SecretType
  secret : SealedText
  wrappedDataKey : SealedText
  deriving DecidableEq

inductive CredentialAction
  | store
  | use
  | delete
  deriving DecidableEq, Repr

def CredentialAction.text : CredentialAction → String
  | .store => "CREDENTIAL_STORE"
  | .use => "CREDENTIAL_USE"
  | .delete => "CREDENTIAL_DELETE"

inductive AuditResult
  | started
  | allowed
  | denied
  | failed
  deriving DecidableEq, Repr

def AuditResult.text : AuditResult → String
  | .started => "STARTED"
  | .allowed => "ALLOWED"
  | .denied => "DENIED"
  | .failed => "FAILED"

structure CredentialAuditRecord where
  actor : SecurityActor
  action : CredentialAction
  credentialId : String
  result : AuditResult
  correlationId : String
  occurredAt : Instant
  deriving DecidableEq

/-! ### Encryption -/

def secretTypeText : SecretType → String
  | .providerCredential => "PROVIDER_CREDENTIAL"
  | .sourceCredential => "SOURCE_CREDENTIAL"

/-- The associated data of both encryptions of a record. -/
def associatedData (credentialId ownerUserId : String) (secretType : SecretType) : String :=
  credentialId ++ "\x00" ++ ownerUserId ++ "\x00" ++ secretTypeText secretType

/-- AES-256-GCM on texts: what was encrypted is read back with the same key and the same
associated data. -/
structure Cipher where
  encrypt (plaintext key aad iv : String) : SealedText
  decrypt (text : SealedText) (key aad : String) : Option String
  decrypt_encrypt (plaintext key aad iv : String) :
    decrypt (encrypt plaintext key aad iv) key aad = some plaintext

attribute [simp] Cipher.decrypt_encrypt

/-- The envelope of a secret under a new data key. -/
def sealSecret (cipher : Cipher) (masterKey credentialId ownerUserId secret : String)
    (secretType : SecretType) (dataKey secretIv dataKeyIv : String) :
    EncryptedCredentialRecord :=
  let aad := associatedData credentialId ownerUserId secretType
  { credentialId
    ownerUserId
    secretType
    secret := cipher.encrypt secret dataKey aad secretIv
    wrappedDataKey := cipher.encrypt dataKey masterKey aad dataKeyIv }

/-- The secret of a record, `none` where a decryption throws. -/
def openSecret (cipher : Cipher) (masterKey : String) (record : EncryptedCredentialRecord) :
    Option String := do
  let aad := associatedData record.credentialId record.ownerUserId record.secretType
  let dataKey ← cipher.decrypt record.wrappedDataKey masterKey aad
  cipher.decrypt record.secret dataKey aad

@[simp] theorem openSecret_sealSecret (cipher : Cipher)
    (masterKey credentialId ownerUserId secret : String) (secretType : SecretType)
    (dataKey secretIv dataKeyIv : String) :
    openSecret cipher masterKey (sealSecret cipher masterKey credentialId ownerUserId secret
      secretType dataKey secretIv dataKeyIv) = some secret := by
  simp [openSecret, sealSecret]

/-! ### The vault -/

/-- The ports of a vault over a world `σ` whose calls throw `ε`. -/
structure VaultPorts (σ ε : Type) where
  appendAuditRecord : CredentialAuditRecord → ExceptT ε (StateM σ) Unit
  save : EncryptedCredentialRecord → ExceptT ε (StateM σ) Unit
  load : String → String → ExceptT ε (StateM σ) (Option EncryptedCredentialRecord)
  delete : Option (String → String → ExceptT ε (StateM σ) Bool)
  randomBytes : StateM σ String
  now : StateM σ Instant

structure VaultOptions (σ ε : Type) where
  cipher : Cipher
  masterKey : String
  ports : VaultPorts σ ε
  systemAccess : Option SystemCredentialAccess

/-- An error of the vault with its message, or what a port threw. -/
inductive VaultError (ε : Type)
  | message (text : String)
  | port (error : ε)
  deriving DecidableEq

section Vault
variable {σ ε α : Type}

abbrev VaultM (σ ε : Type) := ExceptT (VaultError ε) (StateM σ)

/-- A call whose error goes through. -/
def callPort (call : ExceptT ε (StateM σ) α) : VaultM σ ε α := fun world =>
  match call world with
  | (.ok value, world) => (.ok value, world)
  | (.error error, world) => (.error (.port error), world)

/-- `try … catch`: the calls before the error stay. -/
def attempt (call : VaultM σ ε α) : VaultM σ ε (Except (VaultError ε) α) := fun world =>
  match call world with
  | (result, world) => (.ok result, world)

/-- A call that does not throw. -/
def readPort (call : StateM σ α) : VaultM σ ε α := fun world =>
  match call world with
  | (value, world) => (.ok value, world)

section Runs
variable {call : ExceptT ε (StateM σ) α} {a : α} {error : ε} {world world' : σ}

theorem run_callPort_ok (h : call.run world = (.ok a, world')) :
    (callPort call).run world = (.ok a, world') := by
  simp only [ExceptT.run] at h ⊢
  simp only [callPort, h]

theorem run_callPort_error (h : call.run world = (.error error, world')) :
    (callPort call).run world = (.error (.port error), world') := by
  simp only [ExceptT.run] at h ⊢
  simp only [callPort, h]

theorem run_attempt {call : VaultM σ ε α} {result : Except (VaultError ε) α}
    (h : call.run world = (result, world')) :
    (attempt call).run world = (.ok result, world') := by
  simp only [ExceptT.run] at h ⊢
  simp only [attempt, h]

theorem run_readPort {call : StateM σ α} (h : call.run world = (a, world')) :
    (readPort call : VaultM σ ε α).run world = (.ok a, world') := by
  simp only [StateT.run] at h
  simp only [ExceptT.run, readPort, h]

end Runs

/-- What `store`, `use` and `delete` have in common. -/
structure CredentialCall where
  credentialId : String
  ownerUserId : String
  caller : Caller
  correlationId : String

def appendCredentialAudit (options : VaultOptions σ ε) (input : CredentialCall)
    (action : CredentialAction) (result : AuditResult) : VaultM σ ε Unit := do
  let occurredAt ← readPort options.ports.now
  callPort <| options.ports.appendAuditRecord
    ⟨input.caller.actor, action, input.credentialId, result, input.correlationId, occurredAt⟩

def CredentialCall.isSystem (input : CredentialCall) : Bool :=
  input.caller.actor.role = .system

/-- Only the owner stores a secret. -/
def store (options : VaultOptions σ ε) (input : CredentialCall) (secret : String)
    (secretType : SecretType) : VaultM σ ε Unit := do
  if input.isSystem ∨ input.caller.actor.userId ≠ input.ownerUserId then do
    appendCredentialAudit options input .store .denied
    throw (.message "CREDENTIAL_OWNER_MISMATCH")
  else do
    appendCredentialAudit options input .store .started
    let dataKey ← readPort options.ports.randomBytes
    let secretIv ← readPort options.ports.randomBytes
    let dataKeyIv ← readPort options.ports.randomBytes
    let saved ← attempt <| callPort <| options.ports.save <| sealSecret options.cipher options.masterKey
      input.credentialId input.ownerUserId secret secretType dataKey secretIv dataKeyIv
    match saved with
    | .error _ => do
      appendCredentialAudit options input .store .failed
      throw (.message "CREDENTIAL_STORE_FAILED")
    | .ok () => appendCredentialAudit options input .store .allowed

/-- The caller may act on the credential. -/
def CredentialCall.authorised (options : VaultOptions σ ε) (input : CredentialCall)
    (action : SystemAction) : Bool :=
  if input.isSystem then allowsSystemAccess options.systemAccess input.caller action
  else input.caller.actor.userId = input.ownerUserId

/-- The record is the one that was asked for, of a type that the caller may read. -/
def admitsRecord (options : VaultOptions σ ε) (input : CredentialCall)
    (record : EncryptedCredentialRecord) : Bool :=
  record.ownerUserId = input.ownerUserId && record.credentialId = input.credentialId &&
    (!input.isSystem || options.systemAccess.map SystemCredentialAccess.secretType =
      some record.secretType)

/-- `use`: the operation runs between two audit records, and says whether it returned normally. -/
def use (options : VaultOptions σ ε) (input : CredentialCall)
    (operation : String → StateM σ Bool) : VaultM σ ε Unit := do
  if !input.authorised options .use then do
    appendCredentialAudit options input .use .denied
    throw (.message "CREDENTIAL_NOT_FOUND")
  else do
    appendCredentialAudit options input .use .started
    match ← attempt <| callPort <| options.ports.load input.credentialId input.ownerUserId with
    | .error _ => do
      appendCredentialAudit options input .use .failed
      throw (.message "CREDENTIAL_USE_FAILED")
    | .ok record =>
      match record.filter (admitsRecord options input) with
      | none => do
        appendCredentialAudit options input .use .denied
        throw (.message "CREDENTIAL_NOT_FOUND")
      | some record =>
        match openSecret options.cipher options.masterKey record with
        | none => do
          appendCredentialAudit options input .use .failed
          throw (.message "CREDENTIAL_USE_FAILED")
        | some secret =>
          if ← readPort (operation secret) then
            appendCredentialAudit options input .use .allowed
          else do
            appendCredentialAudit options input .use .failed
            throw (.message "SECRET_OPERATION_FAILED")

/-- The part of `delete` after its checks. -/
def deleteStored (options : VaultOptions σ ε) (input : CredentialCall) : VaultM σ ε Bool := do
  appendCredentialAudit options input .delete .started
  let deleted ← attempt do
    match options.ports.delete with
    | none => throw (.message "CREDENTIAL_DELETE_UNSUPPORTED")
    | some delete =>
      let deleted ← callPort <| delete input.credentialId input.ownerUserId
      appendCredentialAudit options input .delete .allowed
      return deleted
  match deleted with
  | .ok deleted => return deleted
  | .error _ => do
    appendCredentialAudit options input .delete .failed
    throw (.message "CREDENTIAL_DELETE_FAILED")

def delete (options : VaultOptions σ ε) (input : CredentialCall) : VaultM σ ε Bool := do
  if !input.authorised options .delete then do
    appendCredentialAudit options input .delete .denied
    throw (.message "CREDENTIAL_NOT_FOUND")
  else if input.isSystem then
    match ← attempt <| callPort <| options.ports.load input.credentialId input.ownerUserId with
    | .error _ => do
      appendCredentialAudit options input .delete .failed
      throw (.message "CREDENTIAL_DELETE_FAILED")
    | .ok record =>
      if record.map EncryptedCredentialRecord.secretType ≠
          options.systemAccess.map SystemCredentialAccess.secretType then do
        appendCredentialAudit options input .delete .denied
        throw (.message "CREDENTIAL_NOT_FOUND")
      else deleteStored options input
  else deleteStored options input

end Vault

end ChoiceMind.Security
