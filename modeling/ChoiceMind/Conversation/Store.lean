import Mathlib.Data.List.MinMax
import ChoiceMind.Conversation.Requirement

/-!
# The conversation tables

The rows of the four tables in the order of their insertion, the constraints of the
migration, and what the module reads back.
-/

namespace ChoiceMind.Conversation

set_option autoImplicit false

open Contracts

/-! ### Rows -/

inductive MessageRole
  | assistant
  | user
  deriving DecidableEq, Repr

structure SessionRow where
  sessionId : String
  ownerUserId : String
  clientRequestId : String
  title : String
  createdAt : Instant
  updatedAt : Instant
  deriving DecidableEq

structure MessageRow where
  messageId : String
  sessionId : String
  ownerUserId : String
  clientTurnId : Option String
  commandFingerprint : Option String
  ordinal : Nat
  role : MessageRole
  text : String
  createdAt : Instant
  deriving DecidableEq

structure RevisionRow extends Requirement where
  revisionId : String
  sessionId : String
  ownerUserId : String
  sourceMessageId : String
  previousRevisionId : Option String
  revisionNumber : Nat
  missingKeys : List RequirementMissingKey
  readiness : Readiness
  createdAt : Instant
  deriving DecidableEq

structure LinkRow where
  sessionId : String
  ownerUserId : String
  decisionTaskId : String
  linkedAt : Instant
  deriving DecidableEq

structure Store where
  sessions : List SessionRow
  messages : List MessageRow
  revisions : List RevisionRow
  links : List LinkRow

namespace Store

def empty : Store := ⟨[], [], [], []⟩

def messagesOf (db : Store) (sessionId : String) : List MessageRow :=
  db.messages.filter fun row => row.sessionId = sessionId

def revisionsOf (db : Store) (sessionId : String) : List RevisionRow :=
  db.revisions.filter fun row => row.sessionId = sessionId

/-! ### Reads -/

/-- `WHERE owner_user_id = $1 AND client_request_id = $2` -/
def sessionFor (db : Store) (ownerUserId clientRequestId : String) : Option SessionRow :=
  db.sessions.find? fun row =>
    row.ownerUserId = ownerUserId && row.clientRequestId = clientRequestId

/-- `WHERE session_id = $1 AND owner_user_id = $2` -/
def ownedSession (db : Store) (sessionId ownerUserId : String) : Option SessionRow :=
  db.sessions.find? fun row => row.sessionId = sessionId && row.ownerUserId = ownerUserId

/-- `WHERE session_id = $1 AND client_turn_id = $2` -/
def existingTurn (db : Store) (sessionId clientTurnId : String) : Option MessageRow :=
  (db.messagesOf sessionId).find? fun row => row.clientTurnId = some clientTurnId

/-- `Number(latestMessage.rows[0]?.ordinal ?? "0")` -/
def latestOrdinal (db : Store) (sessionId : String) : Nat :=
  ((db.messagesOf sessionId).map MessageRow.ordinal).max?.getD 0

/-- `ORDER BY revision_number DESC LIMIT 1` -/
def loadLatestRequirement (db : Store) (sessionId : String) : Option RevisionRow :=
  (db.revisionsOf sessionId).argmax RevisionRow.revisionNumber

end Store

structure RequirementRevision extends Requirement where
  revisionId : String
  revisionNumber : Nat
  missingKeys : List RequirementMissingKey
  readiness : Readiness
  createdAt : UtcTimestamp
  deriving DecidableEq

structure ConversationMessage where
  messageId : String
  ordinal : Nat
  role : MessageRole
  text : String
  createdAt : UtcTimestamp
  deriving DecidableEq

structure ConversationDecisionTaskLink where
  decisionTaskId : String
  linkedAt : UtcTimestamp
  deriving DecidableEq

structure ConversationSession where
  sessionId : String
  title : String
  createdAt : UtcTimestamp
  updatedAt : UtcTimestamp
  messages : List ConversationMessage
  currentRequirement : Option RequirementRevision
  decisionTasks : List ConversationDecisionTaskLink
  deriving DecidableEq

def decodeRequirementRow (row : RevisionRow) : RequirementRevision where
  toRequirement := row.toRequirement
  revisionId := row.revisionId
  revisionNumber := row.revisionNumber
  missingKeys := row.missingKeys
  readiness := row.readiness
  createdAt := .toISOString row.createdAt

def MessageRow.decode (row : MessageRow) : ConversationMessage :=
  ⟨row.messageId, row.ordinal, row.role, row.text, .toISOString row.createdAt⟩

/-- `ORDER BY linked_at, decision_task_id` -/
def linkLe (env : Environment) (a b : LinkRow) : Bool :=
  a.linkedAt < b.linkedAt ||
    (a.linkedAt = b.linkedAt && env.collate a.decisionTaskId b.decisionTaskId)

namespace Store

def loadSession (env : Environment) (db : Store) (ownerUserId sessionId : String) :
    Option ConversationSession := do
  let session ← db.ownedSession sessionId ownerUserId
  let messages := (db.messagesOf sessionId).filter fun row => row.ownerUserId = ownerUserId
  let links := db.links.filter fun row =>
    row.sessionId = sessionId && row.ownerUserId = ownerUserId
  some
    { sessionId := session.sessionId
      title := session.title
      createdAt := .toISOString session.createdAt
      updatedAt := .toISOString session.updatedAt
      messages := (messages.insertionSort fun a b => a.ordinal ≤ b.ordinal).map MessageRow.decode
      currentRequirement := (db.loadLatestRequirement sessionId).map decodeRequirementRow
      decisionTasks := (links.insertionSort fun a b => linkLe env a b).map fun row =>
        ⟨row.decisionTaskId, .toISOString row.linkedAt⟩ }

def listRequirementRevisions (db : Store) (ownerUserId sessionId : String) :
    List RequirementRevision :=
  let revisions := (db.revisionsOf sessionId).filter fun _ =>
    (db.ownedSession sessionId ownerUserId).isSome
  (revisions.insertionSort fun a b => a.revisionNumber ≤ b.revisionNumber).map decodeRequirementRow

/-! ### Writes -/

def addSession (db : Store) (row : SessionRow) : Store :=
  { db with sessions := db.sessions ++ [row] }

def addMessage (db : Store) (row : MessageRow) : Store :=
  { db with messages := db.messages ++ [row] }

def addRevision (db : Store) (row : RevisionRow) : Store :=
  { db with revisions := db.revisions ++ [row] }

/-- The constraints that an inserted message meets. -/
def admitsMessage (db : Store) (row : MessageRow) : Bool :=
  db.sessions.any (fun session => session.sessionId = row.sessionId) &&
  db.messages.all (fun other => other.messageId ≠ row.messageId) &&
  0 < row.ordinal && row.text ≠ "" &&
  (db.messagesOf row.sessionId).all (fun other => other.ordinal ≠ row.ordinal &&
    (row.clientTurnId = none || other.clientTurnId ≠ row.clientTurnId))

/-- The constraints that an inserted revision meets. -/
def admitsRevision (db : Store) (row : RevisionRow) : Bool :=
  db.sessions.any (fun session => session.sessionId = row.sessionId) &&
  db.messages.any (fun message => message.messageId = row.sourceMessageId) &&
  row.previousRevisionId.all (fun previous =>
    db.revisions.any fun other => other.revisionId = previous) &&
  db.revisions.all (fun other => other.revisionId ≠ row.revisionId) &&
  0 < row.revisionNumber &&
  (db.revisionsOf row.sessionId).all (fun other => other.revisionNumber ≠ row.revisionNumber)

/-- `UPDATE conversation_sessions SET title = …, updated_at = $4` -/
def touchSession (db : Store) (sessionId ownerUserId : String) (title : Option String)
    (updatedAt : Instant) : Store :=
  { db with
    sessions := db.sessions.map fun row =>
      if row.sessionId = sessionId ∧ row.ownerUserId = ownerUserId then
        { row with title := title.getD row.title, updatedAt }
      else row }

/-- `DELETE FROM conversation_sessions WHERE owner_user_id = $1`, with its cascades. -/
def purgePrivateDataForOwner (db : Store) (ownerUserId : String) : Store :=
  let kept := fun sessionId : String =>
    !db.sessions.any fun row => row.sessionId = sessionId && row.ownerUserId = ownerUserId
  { sessions := db.sessions.filter fun row => row.ownerUserId ≠ ownerUserId
    messages := db.messages.filter fun row => kept row.sessionId
    revisions := db.revisions.filter fun row => kept row.sessionId
    links := db.links.filter fun row => kept row.sessionId }

end Store

end ChoiceMind.Conversation
