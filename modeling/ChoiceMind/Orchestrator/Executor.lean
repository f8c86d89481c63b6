import ChoiceMind.Contracts.Finalize
import ChoiceMind.Foundation.Transition
import ChoiceMind.TaskPersistence.Store

/-!
# The decision task executor

One executor with its receipts, as a transition system: a call is answered with a promise
at once, the runtime ends an attempt later, and the continuation that forgets a retryable
attempt runs at some time after that.
-/

namespace ChoiceMind.Orchestrator

set_option autoImplicit false

open Contracts TaskPersistence

/-! ### Calls and the runtime -/

structure EgressConfirmation where
  operationId : String
  userId : String
  deriving DecidableEq

structure DecisionTaskExecutionContext where
  agentRunId : String
  userId : Option String := none
  operationId : Option String := none
  correlationId : Option String := none
  egressConfirmation : Option EgressConfirmation := none
  deriving DecidableEq

structure AgentRuntimeSecurityContext where
  userId : String
  operationId : String
  correlationId : String
  egressConfirmation : EgressConfirmation
  deriving DecidableEq

def toRuntimeSecurityContext (context : Option DecisionTaskExecutionContext) :
    Option AgentRuntimeSecurityContext := do
  let context ← context
  let userId ← context.userId
  let operationId ← context.operationId
  let correlationId ← context.correlationId
  let egressConfirmation ← context.egressConfirmation
  return { userId, operationId, correlationId, egressConfirmation }

/-- A command as the JSON value it arrives in; the order of its keys is free. -/
structure CommandValue where
  value : Json Rat
  command : ExecuteDecisionTaskCommand
  distinct : value.Distinct
  reads : value.Same command.toJson

def CommandValue.executionRequestId (value : CommandValue) : String :=
  value.command.executionRequestId

/-- A call of `execute`, or of `executePersistent`. -/
structure Call where
  command : CommandValue
  context : Option DecisionTaskExecutionContext
  forPersistence : Bool

namespace Call

def executionRequestId (call : Call) : String := call.command.executionRequestId

def decisionTaskId (call : Call) : String :=
  call.command.command.requirementRevision.decisionTaskId

/-- `context?.agentRunId ?? …` -/
def agentRunId (call : Call) : String :=
  match call.context with
  | some context => context.agentRunId
  | none => "agent-run-" ++ call.executionRequestId

end Call

inductive RuntimeMethod
  | run
  | runPersistent
  deriving DecidableEq, Repr

structure RuntimeInvocation where
  method : RuntimeMethod
  decisionTaskId : String
  agentRunId : String
  requirementRevision : RequirementRevision
  securityContext : Option AgentRuntimeSecurityContext
  deriving DecidableEq

/-- `AgentRuntimeRunOutputV1` -/
structure RuntimeRunOutput where
  candidates : List Candidate
  claims : List Claim
  evidence : List Evidence
  claimEvidenceLinks : List ClaimEvidenceLink
  decision : DecisionRevision
  runEvents : List RunEvent
  deriving DecidableEq

/-- An unknown value, in each of the shapes that the executor tries; a value that has none
of them is malformed. -/
structure RuntimeOutput where
  paused : Option RuntimePausedOutcome := none
  explicit : Option FailureOutcome := none
  run : Option RuntimeRunOutput := none
  deriving DecidableEq

/-- How an invocation ends. -/
inductive RuntimeAnswer
  | output (value : RuntimeOutput)
  /-- the runtime throws, or reading its output does -/
  | error (code : Option String)
  deriving DecidableEq

structure DecisionTaskExecutionAttempt where
  result : DecisionTaskResult
  persistentOutcome : PersistentOutcome
  deriving DecidableEq

/-! ### Outcomes of one attempt -/

/-- `"2026-08-12T12:00:00.000Z"` -/
def conflictAt : UtcTimestamp where
  second := 1786536000
  fraction := UtcTimestamp.millisecondDigits 0
  whole_minute := by
    intro h
    cases h

/-- `"2026-08-12T12:00:01.000Z"` -/
def failedAt : UtcTimestamp where
  second := 1786536001
  fraction := UtcTimestamp.millisecondDigits 0
  whole_minute := by
    intro h
    cases h

def createRuntimeFailedResult (decisionTaskId agentRunId : String) (retryMode : RetryMode) :
    DecisionTaskResult :=
  .failed
    { taskStatus := ⟨decisionTaskId, agentRunId, 2, "error-synth-runtime-failure", failedAt⟩
      runEvents :=
        [{ eventId := "event-synth-runtime-failure-1"
           decisionTaskId
           agentRunId
           sequence := 1
           occurredAt := conflictAt
           eventType := .taskStateChanged
           taskState := .created
           summary := "已创建合成决策任务" },
         { eventId := "event-synth-runtime-failure-2"
           decisionTaskId
           agentRunId
           sequence := 2
           occurredAt := failedAt
           eventType := .runtimeFailed
           taskState := .failed
           summary := "合成 Runtime 执行失败" }]
      error :=
        { errorId := "error-synth-runtime-failure"
          code := .agentRuntimeFailed
          category := .runtime
          message := "决策任务失败"
          retryMode
          issues := []
          occurredAt := failedAt } }

def createFailedExecutionAttempt (decisionTaskId agentRunId : String) :
    DecisionTaskExecutionAttempt where
  result := createRuntimeFailedResult decisionTaskId agentRunId .newExecutionAllowed
  persistentOutcome := .failure ⟨.failedFinal, "Agent Runtime 未形成合法 Decision", none⟩

def isExplicitRuntimeOutcome (outcome : FailureOutcome) : Bool := isMeaningful outcome.summary

def finalizeRuntimeOutput (call : Call) (output : Option RuntimeRunOutput) :
    DecisionTaskExecutionAttempt :=
  match output with
  | none => createFailedExecutionAttempt call.decisionTaskId call.agentRunId
  | some output =>
    match output.runEvents.getLast? with
    | none => createFailedExecutionAttempt call.decisionTaskId call.agentRunId
    | some completedEvent =>
      match finalizeSuccessfulDecisionTaskResultV1
        { taskStatus :=
            { decisionTaskId := call.decisionTaskId
              agentRunId := call.agentRunId
              latestEventSequence := completedEvent.sequence
              decisionRevisionId := output.decision.decisionRevisionId
              updatedAt := completedEvent.occurredAt }
          runEvents := output.runEvents
          bundle :=
            { requirementRevision := call.command.command.requirementRevision
              candidates := output.candidates
              claims := output.claims
              evidence := output.evidence
              claimEvidenceLinks := output.claimEvidenceLinks
              decision := output.decision } } with
      | .ok value => ⟨.succeeded value, .result (.succeeded value)⟩
      | .error _ => createFailedExecutionAttempt call.decisionTaskId call.agentRunId

/-- `executeOnce` after the runtime was called -/
def executeOnce (call : Call) : RuntimeAnswer → DecisionTaskExecutionAttempt
  | .output value =>
    match value.paused.bind fun outcome => (decodeRuntimePausedOutcomeV1 outcome).toOption with
    | some pausedOutcome =>
      { result :=
          createRuntimeFailedResult call.decisionTaskId call.agentRunId .newExecutionAllowed
        persistentOutcome := .paused pausedOutcome }
    | none =>
      match value.explicit.filter isExplicitRuntimeOutcome with
      | some outcome =>
        { result := createRuntimeFailedResult call.decisionTaskId call.agentRunId
            (if outcome.state = .failedRetryable then .sameExecutionOnly
              else .newExecutionAllowed)
          persistentOutcome := .failure outcome }
      | none => finalizeRuntimeOutput call value.run
  | .error code =>
    if call.forPersistence && code = some "PERSISTENCE_UNAVAILABLE" then
      { result := createRuntimeFailedResult call.decisionTaskId call.agentRunId .sameExecutionOnly
        persistentOutcome := .failure ⟨.failedRetryable, "Runtime 恢复事实暂时无法持久化", none⟩ }
    else createFailedExecutionAttempt call.decisionTaskId call.agentRunId

def isRetryableOutcome : PersistentOutcome → Bool
  | .failure outcome => outcome.state = .failedRetryable
  | _ => false

/-- The outcome of a call that reuses an id for another command. -/
def conflictingAttempt : DecisionTaskExecutionAttempt where
  result := .rejected
    { errorId := "error-execution-request-conflict"
      code := .contractInvalid
      category := .validation
      message := "执行标识与原命令不一致"
      retryMode := .none
      issues := [⟨"executionRequestId", "同一执行标识不能绑定不同命令"⟩]
      occurredAt := conflictAt }
  persistentOutcome := .failure ⟨.failedFinal, "执行标识与原命令不一致", none⟩

/-! ### The executor -/

/-- An entry of `receipts`; an attempt is named by its place among the started ones. -/
structure Receipt where
  executionRequestId : String
  fingerprint : String
  attempt : Option Nat
  deriving DecidableEq

/-- An invocation of the runtime, for the call that started it. -/
structure Attempt where
  call : Call
  answer : Option RuntimeAnswer

def Attempt.completed (attempt : Attempt) : Option DecisionTaskExecutionAttempt :=
  attempt.answer.map (executeOnce attempt.call)

structure Executor where
  receipts : Table Receipt.executionRequestId
  attempts : List Attempt

def Executor.empty : Executor := ⟨Table.empty, []⟩

/-- What a call returns. -/
inductive AttemptPromise
  | attempt (index : Nat)
  | resolved (attempt : DecisionTaskExecutionAttempt)
  deriving DecidableEq

/-- The value of a promise, once it is there. -/
def Executor.await (executor : Executor) : AttemptPromise → Option DecisionTaskExecutionAttempt
  | .attempt index => executor.attempts[index]?.bind Attempt.completed
  | .resolved attempt => some attempt

/-- `DecisionTaskExecutorOptions`, and the texts of numbers. -/
structure ExecutorOptions where
  hasRunPersistent : Bool
  numberText : Json.NumberText Rat

variable (options : ExecutorOptions)

def ExecutorOptions.fingerprint (command : CommandValue) : String :=
  canonicalize options.numberText command.value

/-- The invocation that an attempt makes. -/
def Call.invocation (call : Call) : RuntimeInvocation where
  method := if call.forPersistence && options.hasRunPersistent then .runPersistent else .run
  decisionTaskId := call.decisionTaskId
  agentRunId := call.agentRunId
  requirementRevision := call.command.command.requirementRevision
  securityContext := toRuntimeSecurityContext call.context

/-- Start `executeOnce` and keep its promise. -/
def startAttempt (call : Call) (executor : Executor) : AttemptPromise × Executor :=
  (.attempt executor.attempts.length,
   { receipts := executor.receipts.set
       ⟨call.executionRequestId, options.fingerprint call.command,
        some executor.attempts.length⟩
     attempts := executor.attempts ++ [⟨call, none⟩] })

def executeAttempt (call : Call) (executor : Executor) : AttemptPromise × Executor :=
  match executor.receipts.find? call.executionRequestId with
  | none => startAttempt options call executor
  | some receipt =>
    if receipt.fingerprint = options.fingerprint call.command then
      match receipt.attempt with
      | some index => (.attempt index, executor)
      | none => startAttempt options call executor
    else (.resolved conflictingAttempt, executor)

/-- The runtime ends an attempt. -/
def answerAttempt (index : Nat) (answer : RuntimeAnswer) (executor : Executor) :
    Option Executor :=
  match executor.attempts[index]? with
  | some ⟨call, none⟩ =>
    some { executor with attempts := executor.attempts.set index ⟨call, some answer⟩ }
  | _ => none

/-- `attempt.then(…)`: a retryable attempt is forgotten unless another one took its place. -/
def continueAttempt (index : Nat) (executor : Executor) : Option Executor :=
  match executor.attempts[index]? with
  | some ⟨call, some answer⟩ =>
    if isRetryableOutcome (executeOnce call answer).persistentOutcome &&
        (executor.receipts.find? call.executionRequestId).bind Receipt.attempt = some index then
      some { executor with
        receipts := executor.receipts.set
          ⟨call.executionRequestId, options.fingerprint call.command, none⟩ }
    else some executor
  | _ => none

inductive Event
  | call (call : Call)
  | answer (index : Nat) (answer : RuntimeAnswer)
  | continuation (index : Nat)

inductive Reply
  | promise (promise : AttemptPromise)
  | done
  deriving DecidableEq

def step (executor : Executor) : Event → Option (Reply × Executor)
  | .call call =>
    some (.promise (executeAttempt options call executor).1,
      (executeAttempt options call executor).2)
  | .answer index answer => (answerAttempt index answer executor).map fun next => (.done, next)
  | .continuation index =>
    (continueAttempt options index executor).map fun next => (.done, next)

end ChoiceMind.Orchestrator
