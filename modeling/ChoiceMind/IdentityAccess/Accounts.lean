import ChoiceMind.Foundation.Table
import ChoiceMind.Contracts.Values
import Mathlib.Data.Prod.Lex
import Mathlib.Data.String.Basic
import Mathlib.Data.List.Sort

/-!
# The identity tables

One record per table of the migration. Account, session, invitation, event and audit ids are
uuid columns; everything that names an account in an audit record is a text.
-/

namespace ChoiceMind.IdentityAccess

set_option autoImplicit false

open Contracts

/-! ### Values -/

def isUuidCharacter (c : Char) : Bool := c.isDigit || ('a' ≤ c && c ≤ 'f') || c = '-'

/-- The text that PostgreSQL prints for a uuid. -/
structure Uuid where
  text : String
  canonical : text.toList.all isUuidCharacter = true
  deriving DecidableEq

theorem Uuid.text_injective : Function.Injective Uuid.text := by
  rintro ⟨left, hleft⟩ ⟨right, hright⟩ h
  cases h
  rfl

inductive AccountRole
  | user
  | admin
  | superadmin
  deriving DecidableEq, Repr

inductive AccountStatus
  | active
  | disabled
  | pendingDeletion
  | deleted
  deriving DecidableEq, Repr

inductive PasswordKind
  | permanent
  | temporary
  deriving DecidableEq, Repr

/-- `password_hash`: a salted derivation, or the text that an erased account is left with. -/
inductive PasswordHash
  | scrypt (salt derived : String)
  | erased (pseudonym : String)
  deriving DecidableEq

/-- What the module takes from its platform: how the database reads uuids, the digest, the key
derivation and the characters of the script `Han`. -/
structure IdentityEnvironment where
  parseUuid : String → Option Uuid
  parseUuid_text : ∀ id : Uuid, parseUuid id.text = some id
  sha256 : String → String
  scrypt : String → String → String
  isHan : Char → Bool

def IdentityEnvironment.hashOpaqueSecret (env : IdentityEnvironment) (secret : String) : String :=
  env.sha256 secret

def IdentityEnvironment.hashPassword (env : IdentityEnvironment) (password salt : String) :
    PasswordHash :=
  .scrypt salt (env.scrypt password salt)

def IdentityEnvironment.verifyPassword (env : IdentityEnvironment) (password : String) :
    PasswordHash → Bool
  | .scrypt salt derived => env.scrypt password salt = derived
  | .erased _ => false

@[simp] theorem IdentityEnvironment.verifyPassword_hashPassword (env : IdentityEnvironment)
    (password salt : String) :
    env.verifyPassword password (env.hashPassword password salt) = true := by
  simp [verifyPassword, hashPassword]

/-- Only the letters of ASCII are folded. -/
def normalizeUsername (username : String) : String :=
  username.map fun c => if 'A' ≤ c ∧ c ≤ 'Z' then c.toLower else c

def IdentityEnvironment.isValidUsername (env : IdentityEnvironment) (username : String) : Bool :=
  2 ≤ username.toList.length && username.toList.length ≤ 32 &&
    username.toList.all fun c => env.isHan c || c.isAlphanum || c = '_'

def isValidPassword (password : String) : Bool :=
  6 ≤ password.toList.length && password.toList.all fun c => '!' ≤ c && c ≤ '~'

/-- `formatRecoveryCode`: groups of six characters. -/
def formatRecoveryCode (hex : String) : String :=
  "-".intercalate (hex.toList.toChunks 6 |>.map String.ofList)

def loginSessionLifetimeMs : Instant := 7 * 24 * 60 * 60 * 1000
def loginThrottleLifetimeMs : Instant := 30 * 1000
def accountDeletionWaitMs : Instant := 7 * 24 * 60 * 60 * 1000
def auditRetentionMs : Instant := 180 * 24 * 60 * 60 * 1000

/-! ### Rows -/

structure Account where
  accountId : Uuid
  username : String
  usernameKey : String
  role : AccountRole
  status : AccountStatus
  passwordHash : PasswordHash
  passwordKind : PasswordKind
  deletionRequestedAt : Option Instant
  deletionDueAt : Option Instant
  createdAt : Instant
  updatedAt : Instant
  deriving DecidableEq

structure RecoveryCode where
  accountId : Uuid
  codeHash : String
  createdAt : Instant
  deriving DecidableEq

structure LoginSession where
  sessionId : Uuid
  accountId : Uuid
  tokenHash : String
  createdAt : Instant
  expiresAt : Instant
  revokedAt : Option Instant
  deriving DecidableEq

structure Invitation where
  invitationId : Uuid
  codeHash : String
  createdByAccountId : Uuid
  createdAt : Instant
  expiresAt : Instant
  revokedAt : Option Instant
  usedAt : Option Instant
  usedByAccountId : Option Uuid
  deriving DecidableEq

/-- An invitation that can be used or revoked. -/
def Invitation.isOpen (invitation : Invitation) (now : Instant) : Bool :=
  invitation.revokedAt.isNone && invitation.usedAt.isNone && now < invitation.expiresAt

structure LoginThrottle where
  usernameKey : String
  failedCount : Nat
  lockedUntil : Option Instant
  updatedAt : Instant
  deriving DecidableEq

/-- The types of the commands, which are also the actions of their audit records. -/
inductive CommandType
  | bootstrapSuperadmin
  | createInvitation
  | registerWithInvitation
  | login
  | logoutCurrent
  | logoutAll
  | changePassword
  | createAccount
  | completeTemporaryPasswordChange
  | resetAccountPassword
  | revokeInvitation
  | setAccountRole
  | setAccountStatus
  | requestSelfDeletion
  | cancelSelfDeletion
  | recoverSuperadmin
  | requestAccountDeletion
  deriving DecidableEq, Repr

inductive AuditObjectType
  | account
  | invitation
  | loginSession
  deriving DecidableEq, Repr

inductive AuditResult
  | allowed
  | denied
  deriving DecidableEq, Repr

structure AuditRecord where
  auditId : Uuid
  occurredAt : Instant
  actorAccountId : Option String
  action : CommandType
  objectType : AuditObjectType
  objectId : String
  result : AuditResult
  correlationId : String
  deriving DecidableEq

inductive LifecycleEventType
  | restrictAccount
  | deleteAccount
  deriving DecidableEq, Repr

structure LifecycleEvent where
  eventId : Uuid
  accountId : Uuid
  eventType : LifecycleEventType
  correlationId : String
  occurredAt : Instant
  scheduledAt : Instant
  processedAt : Option Instant
  cancelledAt : Option Instant
  attemptCount : Nat
  lastAttemptAt : Option Instant
  deriving DecidableEq

/-- `processed_at IS NULL AND cancelled_at IS NULL` -/
def LifecycleEvent.isPending (event : LifecycleEvent) : Bool :=
  event.processedAt.isNone && event.cancelledAt.isNone

/-- `ORDER BY scheduled_at, occurred_at, event_id` -/
def LifecycleEvent.order (event : LifecycleEvent) : Instant ×ₗ Instant ×ₗ String :=
  toLex (event.scheduledAt, toLex (event.occurredAt, event.eventId.text))

structure IdentityStore where
  accounts : Table Account.accountId
  recoveryCodes : Table RecoveryCode.accountId
  sessions : Table LoginSession.sessionId
  invitations : Table Invitation.invitationId
  throttles : Table LoginThrottle.usernameKey
  audits : Table AuditRecord.auditId
  events : Table LifecycleEvent.eventId
  /-- `token_hash` is unique. -/
  tokens_nodup : (sessions.rows.map LoginSession.tokenHash).Nodup

/-- The tables after the migration. -/
def IdentityStore.empty : IdentityStore :=
  ⟨.empty, .empty, .empty, .empty, .empty, .empty, .empty, List.nodup_nil⟩

namespace IdentityStore

theorem eq_of_tokenHash_eq {db : IdentityStore} {session other : LoginSession}
    (hsession : session ∈ db.sessions) (hother : other ∈ db.sessions)
    (h : session.tokenHash = other.tokenHash) : session = other :=
  List.inj_on_of_nodup_map db.tokens_nodup hsession hother h

/-- `SET revoked_at` of the sessions of a condition. -/
def setRevoked (condition : LoginSession → Bool) (now : Instant) (db : IdentityStore) :
    IdentityStore :=
  { db with
    sessions := db.sessions.updateWhere condition fun session =>
      { session with revokedAt := some now }
    tokens_nodup := Table.nodup_map_updateWhere db.tokens_nodup fun _ => rfl }

def removeSessions (condition : LoginSession → Bool) (db : IdentityStore) : IdentityStore :=
  { db with
    sessions := db.sessions.deleteWhere condition
    tokens_nodup := db.tokens_nodup.sublist (List.filter_sublist.map _) }

end IdentityStore

end ChoiceMind.IdentityAccess
