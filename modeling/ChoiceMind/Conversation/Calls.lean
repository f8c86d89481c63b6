import ChoiceMind.Foundation.Table
import ChoiceMind.Foundation.Transition
import ChoiceMind.Conversation.Store

/-!
# Commands while transactions overlap

A command is a transaction of its own, one statement after another, and a read of the session
after it. What a transaction writes is seen by others when it commits. Turns are written under
the lock of their session row, so only the `INSERT` of a session can meet rows that another
transaction has not committed.
-/

namespace ChoiceMind.Conversation

set_option autoImplicit false

open Contracts

/-! ### Commands -/

structure CreateSessionCommand where
  clientRequestId : String
  ownerUserId : String
  deriving DecidableEq, Repr

structure AppendUserTurnCommand where
  clientTurnId : String
  ownerUserId : String
  sessionId : String
  text : String
  requirementUpdate : RequirementUpdate
  deriving DecidableEq, Repr

structure LinkDecisionTaskCommand where
  decisionTaskId : String
  ownerUserId : String
  sessionId : String
  deriving DecidableEq, Repr

inductive Command
  | createSession (command : CreateSessionCommand)
  | appendUserTurn (command : AppendUserTurnCommand)
  deriving DecidableEq

/-- What a turn says, normalised. -/
structure Turn where
  clientTurnId : String
  text : String
  update : RequirementUpdate
  normalized : Normalized update

def Turn.fingerprint (env : Environment) (turn : Turn) : String :=
  fingerprintUserTurn env turn.text turn.update

/-- The checks before a connection is taken. -/
def CreateSessionCommand.check (command : CreateSessionCommand) :
    Except ConversationError Unit := do
  assertOpaqueId command.ownerUserId "ownerUserId"
  assertOpaqueId command.clientRequestId "clientRequestId"

def AppendUserTurnCommand.turn (command : AppendUserTurnCommand) :
    Except ConversationError Turn := do
  assertOpaqueId command.ownerUserId "ownerUserId"
  assertOpaqueId command.clientTurnId "clientTurnId"
  assertOpaqueId command.sessionId "sessionId"
  let text ← normalizeText command.text "text"
  match hupdate : normalizeRequirementUpdate command.requirementUpdate with
  | .error error => .error error
  | .ok update => .ok ⟨command.clientTurnId, text, update, normalized_of_eq_ok hupdate⟩

/-! ### Transactions -/

/-- How far `createSession` has come. -/
inductive CreatePhase
  | started
  /-- the `SELECT` found no session -/
  | absent
  | inserted (session : SessionRow)
  | opened (session : SessionRow) (message : MessageRow)
  /-- the `INSERT` did nothing -/
  | conflicting
  /-- nothing is left but the `COMMIT` -/
  | found (sessionId : Option String) (missing : String)

/-- How far `appendUserTurn` has come. -/
inductive AppendPhase
  | started
  | locked (sessionId : String)
  /-- the turn is there already -/
  | known (sessionId : String)
  | fresh (sessionId : String)
  | numbered (sessionId : String) (userOrdinal : Nat)
  | spoken (message : MessageRow)
  | merged (message : MessageRow) (previous : Option RevisionRow)
  | revised (message : MessageRow) (revision : Option RevisionRow)
      (missingKeys : List RequirementMissingKey)
  | answered (message : MessageRow) (revision : Option RevisionRow) (answer : MessageRow)
  | titled (message : MessageRow) (revision : Option RevisionRow) (answer : MessageRow)

/-- The session whose row is locked. -/
def AppendPhase.sessionId : AppendPhase → Option String
  | .started => none
  | .locked sessionId | .known sessionId | .fresh sessionId | .numbered sessionId _ =>
    some sessionId
  | .spoken message | .merged message _ | .revised message _ _ | .answered message _ _
  | .titled message _ _ => some message.sessionId

inductive Progress
  | creating (command : CreateSessionCommand) (phase : CreatePhase)
  | appending (command : AppendUserTurnCommand) (turn : Turn) (phase : AppendPhase)
  /-- after the `COMMIT`, before `loadSession` -/
  | loading (ownerUserId sessionId missing : String)

namespace Progress

def lockedSession : Progress → Option String
  | .appending _ _ phase => phase.sessionId
  | _ => none

/-- The session that is inserted and not committed. -/
def pendingSession : Progress → Option SessionRow
  | .creating _ (.inserted session) => some session
  | .creating _ (.opened session _) => some session
  | _ => none

end Progress

inductive Reply
  | progress
  | session (session : ConversationSession)
  | failed (error : ConversationError)
  | purged (deletedSessions : Nat)
  deriving DecidableEq

/-- What a statement comes to. -/
inductive Outcome
  /-- it waits for another transaction -/
  | waits
  | continues (progress : Progress) (draws : Nat)
  | commits (progress : Progress) (db : Store)
  | ends (reply : Reply)

/-- What a statement sees: the committed tables, the uuids drawn so far, the time of the call
and what other transactions hold. -/
structure Surroundings where
  db : Store
  drawn : Nat
  calledAt : Instant
  locked : String → Bool
  contested : SessionRow → Bool

def addRevision? (db : Store) (revision : Option RevisionRow) : Store :=
  revision.elim db db.addRevision

section Statements
variable (env : Environment) (around : Surroundings)

def newSession (command : CreateSessionCommand) : SessionRow where
  sessionId := env.randomUUID around.drawn
  ownerUserId := command.ownerUserId
  clientRequestId := command.clientRequestId
  title := "新的消费决策"
  createdAt := around.calledAt
  updatedAt := around.calledAt

def openingMessage (session : SessionRow) : MessageRow where
  messageId := env.randomUUID around.drawn
  sessionId := session.sessionId
  ownerUserId := session.ownerUserId
  clientTurnId := none
  commandFingerprint := none
  ordinal := 1
  role := .assistant
  text := "先告诉我，你这次想解决什么消费问题？"
  createdAt := around.calledAt

def createSession (command : CreateSessionCommand) : CreatePhase → Outcome
  | .started =>
    match around.db.sessionFor command.ownerUserId command.clientRequestId with
    | some session =>
      .continues (.creating command (.found (some session.sessionId) "幂等 Session 无法读取")) 0
    | none => .continues (.creating command .absent) 0
  | .absent =>
    if around.contested (newSession env around command) then .waits
    else if (around.db.sessionFor command.ownerUserId command.clientRequestId).isSome then
      .continues (.creating command .conflicting) 1
    else .continues (.creating command (.inserted (newSession env around command))) 1
  | .inserted session =>
    let message := openingMessage env around session
    if (around.db.addSession session).admitsMessage message then
      .continues (.creating command (.opened session message)) 1
    else .ends (.failed .statement)
  | .opened session message =>
    .commits (.loading command.ownerUserId session.sessionId "新建 Session 无法读取")
      ((around.db.addSession session).addMessage message)
  | .conflicting =>
    let concurrent := around.db.sessionFor command.ownerUserId command.clientRequestId
    .continues (.creating command
      (.found (concurrent.map SessionRow.sessionId) "并发幂等 Session 无法读取")) 0
  | .found sessionId missing =>
    match sessionId with
    | some sessionId => .commits (.loading command.ownerUserId sessionId missing) around.db
    | none => .ends (.failed (.unreadable missing))

def userMessage (command : AppendUserTurnCommand) (turn : Turn) (sessionId : String)
    (userOrdinal : Nat) : MessageRow where
  messageId := env.randomUUID around.drawn
  sessionId
  ownerUserId := command.ownerUserId
  clientTurnId := some turn.clientTurnId
  commandFingerprint := some (turn.fingerprint env)
  ordinal := userOrdinal
  role := .user
  text := turn.text
  createdAt := around.calledAt

def newRevision (message : MessageRow) (previous : Option RevisionRow) (next : Requirement) :
    RevisionRow where
  toRequirement := next
  revisionId := env.randomUUID around.drawn
  sessionId := message.sessionId
  ownerUserId := message.ownerUserId
  sourceMessageId := message.messageId
  previousRevisionId := previous.map RevisionRow.revisionId
  revisionNumber := (previous.map RevisionRow.revisionNumber).getD 0 + 1
  missingKeys := next.missingKeys
  readiness := next.readiness
  createdAt := around.calledAt

def answerMessage (message : MessageRow) (missingKeys : List RequirementMissingKey) :
    MessageRow where
  messageId := env.randomUUID around.drawn
  sessionId := message.sessionId
  ownerUserId := message.ownerUserId
  clientTurnId := none
  commandFingerprint := none
  ordinal := message.ordinal + 1
  role := .assistant
  text := clarificationMessage missingKeys
  createdAt := around.calledAt

/-- The tables with a whole turn. -/
def Store.addTurn (db : Store) (message : MessageRow) (revision : Option RevisionRow)
    (answer : MessageRow) : Store :=
  (addRevision? (db.addMessage message) revision).addMessage answer

def appendUserTurn (command : AppendUserTurnCommand) (turn : Turn) : AppendPhase → Outcome
  | .started =>
    match env.readUuid command.sessionId with
    | none => .ends (.failed .statement)
    | some sessionId =>
      match around.db.ownedSession sessionId command.ownerUserId with
      | none => .ends (.failed .notFound)
      | some _ =>
        if around.locked sessionId then .waits
        else .continues (.appending command turn (.locked sessionId)) 0
  | .locked sessionId =>
    match around.db.existingTurn sessionId turn.clientTurnId with
    | some existing =>
      if existing.commandFingerprint ≠ some (turn.fingerprint env) then
        .ends (.failed (.idempotencyConflict turn.clientTurnId))
      else .continues (.appending command turn (.known sessionId)) 0
    | none => .continues (.appending command turn (.fresh sessionId)) 0
  | .known sessionId =>
    .commits (.loading command.ownerUserId sessionId "幂等消息无法读取") around.db
  | .fresh sessionId =>
    .continues (.appending command turn
      (.numbered sessionId (around.db.latestOrdinal sessionId + 1))) 0
  | .numbered sessionId userOrdinal =>
    let message := userMessage env around command turn sessionId userOrdinal
    if around.db.admitsMessage message then
      .continues (.appending command turn (.spoken message)) 1
    else .ends (.failed .statement)
  | .spoken message =>
    .continues (.appending command turn
      (.merged message (around.db.loadLatestRequirement message.sessionId))) 0
  | .merged message previous =>
    match mergeRequirement (previous.map RevisionRow.toRequirement) turn.update with
    | .error error => .ends (.failed error)
    | .ok next =>
      if hasKeys turn.update &&
          requirementChanged (previous.map RevisionRow.toRequirement) next then
        let revision := newRevision env around message previous next
        if (around.db.addMessage message).admitsRevision revision then
          .continues (.appending command turn
            (.revised message (some revision) next.missingKeys)) 1
        else .ends (.failed .statement)
      else .continues (.appending command turn (.revised message none next.missingKeys)) 0
  | .revised message revision missingKeys =>
    let answer := answerMessage env around message missingKeys
    if (addRevision? (around.db.addMessage message) revision).admitsMessage answer then
      .continues (.appending command turn (.answered message revision answer)) 1
    else .ends (.failed .statement)
  | .answered message revision answer =>
    .continues (.appending command turn (.titled message revision answer)) 0
  | .titled message revision answer =>
    .commits (.loading command.ownerUserId message.sessionId "更新后的 Session 无法读取")
      ((around.db.addTurn message revision answer).touchSession message.sessionId
        command.ownerUserId turn.update.consumptionGoal around.calledAt)

def advance : Progress → Outcome
  | .creating command phase => createSession env around command phase
  | .appending command turn phase => appendUserTurn env around command turn phase
  | .loading ownerUserId sessionId missing =>
    match around.db.loadSession env ownerUserId sessionId with
    | some session => .ends (.session session)
    | none => .ends (.failed (.unreadable missing))

end Statements

/-! ### The system -/

structure Call where
  callId : Nat
  calledAt : Instant
  progress : Progress

def Call.goOn (progress : Progress) (call : Call) : Call := { call with progress }

theorem Call.goOn_callId (progress : Progress) (call : Call) :
    (call.goOn progress).callId = call.callId := rfl

structure World where
  db : Store
  calls : Table Call.callId
  drawn : Nat

inductive Label
  /-- a command arrives and begins its transaction -/
  | call (callId : Nat) (command : Command) (calledAt : Instant)
  /-- the next statement of a call -/
  | next (callId : Nat)
  /-- the next statement fails, or the connection is lost -/
  | fail (callId : Nat)
  | linkDecisionTask (command : LinkDecisionTaskCommand) (linkedAt : Instant)
  | purgePrivateDataForOwner (ownerUserId : String)

def Command.start : Command → Except ConversationError Progress
  | .createSession command => do
    command.check
    .ok (.creating command .started)
  | .appendUserTurn command => do .ok (.appending command (← command.turn) .started)

/-- The `INSERT … ON CONFLICT (session_id, decision_task_id) DO NOTHING`, and the `SELECT` after
one that did nothing. -/
def insertLink (db : Store) (sessionId : String) (command : LinkDecisionTaskCommand)
    (linkedAt : Instant) : Except ConversationError Store :=
  let linked := db.links.find? fun row =>
    row.sessionId = sessionId && row.decisionTaskId = command.decisionTaskId
  if (db.ownedSession sessionId command.ownerUserId).isNone ∨ linked.isSome then
    if linked.any fun row => row.ownerUserId = command.ownerUserId then .ok db
    else .error .notFound
  else if db.links.any fun row => row.decisionTaskId = command.decisionTaskId then
    .error .statement
  else
    .ok { db with
      links := db.links ++ [⟨sessionId, command.ownerUserId, command.decisionTaskId, linkedAt⟩] }

def linkDecisionTask (env : Environment) (command : LinkDecisionTaskCommand) (linkedAt : Instant)
    (db : Store) : Except ConversationError (ConversationSession × Store) := do
  assertOpaqueId command.ownerUserId "ownerUserId"
  assertOpaqueId command.sessionId "sessionId"
  assertOpaqueId command.decisionTaskId "decisionTaskId"
  match env.readUuid command.sessionId with
  | none => .error .statement
  | some sessionId => do
    let inserted ← insertLink db sessionId command linkedAt
    match inserted.loadSession env command.ownerUserId sessionId with
    | some session => .ok (session, inserted)
    | none => .error .notFound

namespace World
variable (env : Environment)

def start : World := ⟨.empty, .empty, 0⟩

/-- What a statement of the call sees. -/
def around (w : World) (call : Call) : Surroundings where
  db := w.db
  drawn := w.drawn
  calledAt := call.calledAt
  locked sessionId := w.calls.rows.any fun other =>
    other.callId ≠ call.callId && other.progress.lockedSession = some sessionId
  contested session := w.calls.rows.any fun other =>
    other.callId ≠ call.callId && other.progress.pendingSession.any fun pending =>
      pending.ownerUserId = session.ownerUserId &&
        pending.clientRequestId = session.clientRequestId

def goOn (w : World) (callId : Nat) (progress : Progress) : World :=
  { w with calls := w.calls.update callId (Call.goOn progress) (Call.goOn_callId progress) }

def close (w : World) (callId : Nat) : World := { w with calls := w.calls.erase callId }

def apply (w : World) (callId : Nat) : Outcome → Option (Reply × World)
  | .waits => none
  | .continues progress draws =>
    some (.progress, { w.goOn callId progress with drawn := w.drawn + draws })
  | .commits progress db => some (.progress, { w.goOn callId progress with db })
  | .ends reply => some (reply, w.close callId)

/-- A row lock keeps the session from being deleted. -/
def purgeable (w : World) (ownerUserId : String) : Bool :=
  w.calls.rows.all fun call => call.progress.lockedSession.all fun sessionId =>
    (w.db.ownedSession sessionId ownerUserId).isNone

def step (w : World) : Label → Option (Reply × World)
  | .call callId command calledAt =>
    match command.start with
    | .error error => some (.failed error, w)
    | .ok progress =>
      (w.calls.insert? ⟨callId, calledAt, progress⟩).map fun calls =>
        (.progress, { w with calls })
  | .next callId =>
    (w.calls.find? callId).bind fun call =>
      w.apply callId (advance env (w.around call) call.progress)
  | .fail callId =>
    (w.calls.find? callId).map fun _ => (.failed .statement, w.close callId)
  | .linkDecisionTask command linkedAt =>
    match linkDecisionTask env command linkedAt w.db with
    | .error error => some (.failed error, w)
    | .ok (session, db) => some (.session session, { w with db })
  | .purgePrivateDataForOwner ownerUserId =>
    match assertOpaqueId ownerUserId "ownerUserId" with
    | .error error => some (.failed error, w)
    | .ok () =>
      if w.purgeable ownerUserId then
        some (.purged (w.db.sessions.countP fun row => row.ownerUserId = ownerUserId),
          { w with db := w.db.purgePrivateDataForOwner ownerUserId })
      else none

end World

end ChoiceMind.Conversation
