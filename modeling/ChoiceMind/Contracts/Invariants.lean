import ChoiceMind.Contracts.DecisionBasis

/-!
# Result invariants

`checkDecisionTaskResultInvariants`, check by check in the order of the source, and
the result decoders that apply it.
-/

namespace ChoiceMind.Contracts

set_option autoImplicit false

/-- The index of a state among the authoritative run states, or -1. -/
def authoritativeStateIndex : TaskState → Int
  | .created => 0
  | .understanding => 1
  | .planning => 2
  | .researching => 3
  | .verifying => 4
  | .gapResearch => 5
  | .comparing => 6
  | .critiquing => 7
  | .generating => 8
  | .completed => 9
  | .paused _ => -1
  | .failed => -1
  | .cancelled => -1

def errorSemanticsByCode : ErrorCode → ErrorCategory × RetryMode
  | .contractInvalid => (.validation, .none)
  | .contractVersionUnsupported => (.version, .none)
  | .agentRuntimeFailed => (.runtime, .newExecutionAllowed)
  | .decisionExecutionStatusUnknown => (.transport, .sameExecutionOnly)
  | .decisionTaskNotFound => (.resource, .none)
  | .idempotencyConflict => (.validation, .none)
  | .persistenceUnavailable => (.storage, .sameExecutionOnly)

/-- The checks on the events of a result against its task status. -/
def runEventIssues (runEvents : List RunEvent) (decisionTaskId agentRunId : String)
    (latestEventSequence : Nat) (updatedAt : UtcTimestamp) : List ContractIssue :=
  collectUniqueIds (runEvents.map RunEvent.eventId) "runEvents" "eventId" "RunEvent" ++
  (forEachIssue runEvents fun index event =>
    issueIf (event.sequence ≠ index + 1) ("runEvents." ++ toString index ++ ".sequence")
      "RunEvent 序号必须从 1 开始严格递增" ++
    issueIf (event.decisionTaskId ≠ decisionTaskId)
      ("runEvents." ++ toString index ++ ".decisionTaskId")
      "RunEvent 必须属于结果中的 Decision Task" ++
    issueIf (event.agentRunId ≠ agentRunId) ("runEvents." ++ toString index ++ ".agentRunId")
      "RunEvent 必须属于 Task Status 中的 Agent Run") ++
  issueIf (some latestEventSequence ≠ runEvents.getLast?.map RunEvent.sequence)
    "taskStatus.latestEventSequence" "Task Status 必须指向最后一个 RunEvent" ++
  issueIf (some updatedAt ≠ runEvents.getLast?.map RunEvent.occurredAt)
    "taskStatus.updatedAt" "Task Status 更新时间必须等于最后一个 RunEvent 时间"

/-- The fixed category and retry mode of an error code. -/
def errorSemanticsIssues (error : ChoiceMindError) : List ContractIssue :=
  issueIf (error.category ≠ (errorSemanticsByCode error.code).1) "error.category"
    "错误分类必须与错误码的固定语义一致" ++
  issueIf (error.retryMode ≠ (errorSemanticsByCode error.code).2) "error.retryMode"
    "重试模式必须与错误码的固定语义一致"

def finalEventPath (runEvents : List RunEvent) (field : String) : String :=
  "runEvents." ++ toString (runEvents.length - 1) ++ "." ++ field

def failedResultIssues (result : FailedDecisionTaskResult) : List ContractIssue :=
  let finalEvent := result.runEvents.getLast?
  issueIf (result.error.code ≠ .agentRuntimeFailed) "error.code"
    "已创建任务的失败结果必须使用 Runtime 失败错误码" ++
  issueIf (result.taskStatus.errorId ≠ result.error.errorId) "taskStatus.errorId"
    "Task Status 必须指向结果中的 Error" ++
  issueIf (finalEvent.map RunEvent.taskState ≠ some .failed)
    (finalEventPath result.runEvents "taskState") "失败结果的最后事件必须是 FAILED" ++
  issueIf (finalEvent.map RunEvent.eventType ≠ some .runtimeFailed)
    (finalEventPath result.runEvents "eventType") "失败结果的最后事件必须是 RUNTIME_FAILED"

/-- Every event moves forward in the authoritative order. -/
def stateOrderIssues (previous : Int) (index : Nat) : List RunEvent → List ContractIssue
  | [] => []
  | event :: events =>
    let current := authoritativeStateIndex event.taskState
    issueIf (current = -1 || current ≤ previous)
      ("runEvents." ++ toString index ++ ".taskState")
      "成功结果的 RunEvent 必须按权威阶段顺序单调向前" ++
    stateOrderIssues current (index + 1) events

def successfulRunIssues (runEvents : List RunEvent) : List ContractIssue :=
  let finalEvent := runEvents.getLast?
  issueIf (finalEvent.map RunEvent.taskState ≠ some .completed)
    (finalEventPath runEvents "taskState") "成功结果的最后事件必须是 COMPLETED" ++
  issueIf (finalEvent.map RunEvent.eventType ≠ some .runtimeSucceeded)
    (finalEventPath runEvents "eventType") "成功结果的最后事件必须是 RUNTIME_SUCCEEDED" ++
  issueIf (runEvents.head?.map RunEvent.taskState ≠ some .created) "runEvents.0.taskState"
    "成功结果的 RunEvent 必须从 CREATED 开始" ++
  stateOrderIssues (-1) 0 runEvents ++
  forEachIssue runEvents.dropLast fun index event =>
    issueIf (event.eventType ≠ .taskStateChanged)
      ("runEvents." ++ toString index ++ ".eventType")
      "成功结果的中间 RunEvent 必须是任务状态变化"

def asksForRequirement (decision : DecisionRevision) (requirementKey : String) : Bool :=
  decision.nextSteps.any fun nextStep => nextStep.action = .provideRequirement requirementKey

/-- `budget?.confirmed !== true || unknowns.includes("budget.maxAmountMinor")` -/
def budgetNeedsConfirmation (requirement : RequirementRevision) : Bool :=
  (!requirement.budget.any Budget.confirmed) ||
    requirement.unknowns.contains "budget.maxAmountMinor"

def referenceIssues (result : SuccessfulDecisionTaskResult) : List ContractIssue :=
  let decision := result.bundle.decision
  let requirement := result.bundle.requirementRevision
  issueIf (decision.status ≠ .buyIfPrice && decision.status ≠ .needMoreInfo)
    "bundle.decision.status" "P0-03 仅开放 BUY_IF_PRICE 和 NEED_MORE_INFO" ++
  issueIf (result.taskStatus.decisionRevisionId ≠ decision.decisionRevisionId)
    "taskStatus.decisionRevisionId" "Task Status 必须指向结果中的 Decision Revision" ++
  issueIf (requirement.decisionTaskId ≠ result.taskStatus.decisionTaskId)
    "bundle.requirementRevision.decisionTaskId"
    "Requirement Revision 必须属于结果中的 Decision Task" ++
  issueIf (decision.decisionTaskId ≠ result.taskStatus.decisionTaskId)
    "bundle.decision.decisionTaskId" "Decision Revision 必须属于结果中的 Decision Task" ++
  issueIf (decision.requirementRevisionId ≠ requirement.requirementRevisionId)
    "bundle.decision.requirementRevisionId" "Decision 必须引用结果中的 Requirement Revision"

def budgetConfirmationIssues (decision : DecisionRevision) : List ContractIssue :=
  issueIf (decision.status ≠ .needMoreInfo) "bundle.decision.status"
    "预算上限未确认时必须返回 NEED_MORE_INFO" ++
  issueIf decision.selectedCandidateId.isSome "bundle.decision.selectedCandidateId"
    "预算上限未确认时不能选择 Candidate" ++
  issueIf (!decision.criticalGaps.any fun gap => gap.key = "budget.maxAmountMinor")
    "bundle.decision.criticalGaps" "预算上限未确认时必须保留对应 Critical Gap" ++
  issueIf (!asksForRequirement decision "budget.maxAmountMinor")
    "bundle.decision.nextSteps" "预算上限未确认时必须要求用户补充预算"

def needMoreInfoGapIssues (decision : DecisionRevision) : List ContractIssue :=
  forEachIssue decision.criticalGaps fun index gap =>
    let path := "bundle.decision.criticalGaps." ++ toString index ++ ".resolution."
    let message := "NEED_MORE_INFO Critical Gap 必须由同一 Requirement 补充步骤闭合"
    match gap.resolution with
    | .verifyCondition _ => [⟨path ++ "resolutionType", message⟩]
    | .provideRequirement requirementKey =>
      issueIf (requirementKey ≠ gap.key || !asksForRequirement decision requirementKey)
        (path ++ "requirementKey") message

def needMoreInfoIssues (decision : DecisionRevision) : List ContractIssue :=
  issueIf (decision.criticalGaps = []) "bundle.decision.criticalGaps"
    "NEED_MORE_INFO 必须至少包含一个可回答的 Critical Gap" ++
  issueIf decision.selectedCandidateId.isSome "bundle.decision.selectedCandidateId"
    "NEED_MORE_INFO 不得选择 Candidate" ++
  issueIf (decision.candidateDispositions ≠ []) "bundle.decision.candidateDispositions"
    "NEED_MORE_INFO 不得形成 Candidate Disposition" ++
  needMoreInfoGapIssues decision

/-- The condition is a maximum price above a confirmed hard budget. -/
def exceedsHardBudget (requirement : RequirementRevision) (condition : DecisionCondition) :
    Bool :=
  match condition.conditionType, confirmedHardBudget requirement with
  | .maxPrice amountMinor, some budget => budget.maxAmountMinor < amountMinor
  | _, _ => false

def conditionIssues (bundle : DecisionBundle) : List ContractIssue :=
  let decision := bundle.decision
  let candidateIds := bundle.candidates.map Candidate.candidateId
  forEachIssue decision.conditions fun index condition =>
    let path := "bundle.decision.conditions." ++ toString index
    issueIf (condition.candidateId ∉ candidateIds) (path ++ ".candidateId")
      "Decision Condition 必须关联存在的 Candidate" ++
    issueIf (some condition.candidateId ≠ decision.selectedCandidateId) (path ++ ".candidateId")
      "Decision Condition 必须关联被选 Candidate" ++
    issueIf (exceedsHardBudget bundle.requirementRevision condition) (path ++ ".amountMinor")
      "MAX_PRICE 条件不得超过已确认硬预算" ++
    issueIf
      (!decision.nextSteps.any fun nextStep =>
        nextStep.action = .verifyCondition condition.conditionId)
      (path ++ ".conditionId") "每个 Decision Condition 必须有对应的 VERIFY_CONDITION next step"

def buyIfPriceGapIssues (decision : DecisionRevision) : List ContractIssue :=
  forEachIssue decision.criticalGaps fun index gap =>
    let path := "bundle.decision.criticalGaps." ++ toString index ++ ".resolution."
    let message := "BUY_IF_PRICE Critical Gap 必须由可核验的 Decision Condition 闭合"
    match gap.resolution with
    | .provideRequirement _ => [⟨path ++ "resolutionType", message⟩]
    | .verifyCondition conditionId =>
      issueIf (!decision.conditions.any fun condition => condition.conditionId = conditionId)
        (path ++ "conditionId") message

def nextStepIssues (decision : DecisionRevision) : List ContractIssue :=
  (forEachIssue decision.nextSteps fun index nextStep =>
    let path := "bundle.decision.nextSteps." ++ toString index
    match nextStep.action with
    | .verifyCondition conditionId =>
      issueIf (!decision.conditions.any fun condition => condition.conditionId = conditionId)
        (path ++ ".conditionId") "VERIFY_CONDITION 必须引用存在的 Decision Condition"
    | .verifyRisk riskId =>
      issueIf (!decision.risks.any fun risk => risk.riskId = riskId) (path ++ ".riskId")
        "VERIFY_RISK 必须引用存在的 Decision Risk"
    | .provideRequirement _ => []) ++
  forEachIssue decision.risks fun index risk =>
    issueIf
      (!decision.nextSteps.any fun nextStep => nextStep.action = .verifyRisk risk.riskId)
      ("bundle.decision.risks." ++ toString index ++ ".riskId")
      "每个 Decision Risk 必须有对应的 VERIFY_RISK next step"

def successfulResultIssues (result : SuccessfulDecisionTaskResult) : List ContractIssue :=
  let decision := result.bundle.decision
  successfulRunIssues result.runEvents ++
  referenceIssues result ++
  (if budgetNeedsConfirmation result.bundle.requirementRevision then
    budgetConfirmationIssues decision else []) ++
  (if decision.status = .needMoreInfo then needMoreInfoIssues decision else []) ++
  issueIf (decision.status = .noMatch && decision.selectedCandidateId.isSome)
    "bundle.decision.selectedCandidateId" "NO_MATCH 不得选择 Candidate" ++
  conditionIssues result.bundle ++
  (if decision.status = .buyIfPrice then buyIfPriceGapIssues decision else []) ++
  nextStepIssues decision ++
  issueIf (decision.status = .buyIfPrice && decision.conditions = [])
    "bundle.decision.conditions" "BUY_IF_PRICE 必须包含至少一个可核验条件" ++
  issueIf (decision.status = .buyNow && decision.criticalGaps ≠ [])
    "bundle.decision.criticalGaps" "存在 Critical Gap 时禁止 BUY_NOW" ++
  checkDecisionBasisV1 result.taskStatus.decisionTaskId result.bundle

def checkDecisionTaskResultInvariants : DecisionTaskResult → List ContractIssue
  | .succeeded result =>
    runEventIssues result.runEvents result.taskStatus.decisionTaskId
      result.taskStatus.agentRunId result.taskStatus.latestEventSequence
      result.taskStatus.updatedAt ++
    successfulResultIssues result
  | .failed result =>
    runEventIssues result.runEvents result.taskStatus.decisionTaskId
      result.taskStatus.agentRunId result.taskStatus.latestEventSequence
      result.taskStatus.updatedAt ++
    errorSemanticsIssues result.error ++ failedResultIssues result
  | .rejected error =>
    errorSemanticsIssues error ++
    issueIf (error.code = .agentRuntimeFailed) "error.code"
      "AGENT_RUNTIME_FAILED 必须属于已创建任务的失败结果"

/-- A value outside the union of the three result shapes is one issue of the union. -/
def decodeDecisionTaskResultV1 (result : DecisionTaskResult) :
    ContractDecodeResult DecisionTaskResult :=
  if !result.schemaHolds then contractInvalid [⟨"", "字段不符合合同要求"⟩]
  else if checkDecisionTaskResultInvariants result ≠ [] then
    contractInvalid (checkDecisionTaskResultInvariants result)
  else .ok result

theorem decodeDecisionTaskResultV1_eq_ok {result decoded : DecisionTaskResult} :
    decodeDecisionTaskResultV1 result = .ok decoded ↔
      decoded = result ∧ result.schemaHolds = true ∧
        checkDecisionTaskResultInvariants result = [] := by
  unfold decodeDecisionTaskResultV1
  by_cases hschema : result.schemaHolds = true
  · by_cases hinvariants : checkDecisionTaskResultInvariants result = []
    · simp [hschema, hinvariants, eq_comm]
    · simp [hschema, hinvariants, contractInvalid]
  · simp [hschema, contractInvalid]

@[simp] theorem issueIf_eq_nil {failed : Bool} {path message : String} :
    issueIf failed path message = [] ↔ failed = false := by
  unfold issueIf
  cases failed <;> simp

/-- No issue was pushed exactly when no item pushed one. -/
theorem forEachIssue_eq_nil {α : Type} {items : List α} {check : Nat → α → List ContractIssue} :
    forEachIssue items check = [] ↔ ∀ item index, items[index]? = some item →
      check index item = [] := by
  unfold forEachIssue
  simp only [List.flatMap_eq_nil_iff, List.mem_zipIdx_iff_getElem?, Prod.forall]

theorem forEachIssue_nil_mem {α : Type} {items : List α}
    {check : Nat → α → List ContractIssue} (h : forEachIssue items check = []) {item : α}
    (hitem : item ∈ items) : ∃ index, check index item = [] := by
  obtain ⟨index, hindex⟩ := List.mem_iff_getElem?.mp hitem
  exact ⟨index, forEachIssue_eq_nil.mp h item index hindex⟩

end ChoiceMind.Contracts
