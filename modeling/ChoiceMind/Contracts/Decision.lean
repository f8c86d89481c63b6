import Mathlib.Data.Rat.Defs
import ChoiceMind.Contracts.Runtime

/-!
# Decision contracts

The requirement, the evidence graph, the decision and the task result, with the
field refinements of their schemas. Literal-typed members carry no information and
are left out.
-/

namespace ChoiceMind.Contracts

set_option autoImplicit false

structure Quantity where
  amount : Rat
  unit : String
  deriving DecidableEq

inductive ConstraintOperator
  | atLeast
  | atMost
  | equals
  deriving DecidableEq, Repr

structure RequirementConstraint where
  key : String
  operator : ConstraintOperator
  value : Quantity
  deriving DecidableEq

structure Budget where
  confirmed : Bool
  hard : Bool
  maxAmountMinor : Nat
  deriving DecidableEq

structure RequirementRevision where
  requirementRevisionId : String
  decisionTaskId : String
  revision : Nat
  submittedText : String
  intendedUses : List String
  budget : Option Budget
  mustHaves : List RequirementConstraint
  niceToHaves : List String
  mustNotHaves : List String
  unknowns : List String
  deriving DecidableEq

/-- `z.number().int().nonnegative()` on a typed amount. -/
def isMoney (amountMinor : Nat) : Bool := isSafeInteger amountMinor

def textChecks (value : String) : List FieldCheck := [⟨"", isMeaningful value⟩]

def RequirementConstraint.fieldChecks (constraint : RequirementConstraint) : List FieldCheck :=
  [⟨"key", nonEmpty constraint.key⟩,
   ⟨"value.amount", 0 < constraint.value.amount⟩,
   ⟨"value.unit", nonEmpty constraint.value.unit⟩]

/-- The `superRefine` of a requirement: a must-have key has not been seen before. -/
def uniqueKeyChecks (mustHaves : List RequirementConstraint) : List FieldCheck :=
  mustHaves.zipIdx.map fun (constraint, index) =>
    ⟨"mustHaves." ++ toString index ++ ".key",
      constraint.key ∉ (mustHaves.take index).map RequirementConstraint.key⟩

def RequirementRevision.fieldChecks (requirement : RequirementRevision) : List FieldCheck :=
  [⟨"requirementRevisionId", nonEmpty requirement.requirementRevisionId⟩,
   ⟨"decisionTaskId", nonEmpty requirement.decisionTaskId⟩,
   ⟨"revision", 0 < requirement.revision && isSafeInteger requirement.revision⟩,
   ⟨"submittedText", isMeaningful requirement.submittedText⟩,
   ⟨"intendedUses", requirement.intendedUses ≠ []⟩] ++
  itemChecks "intendedUses" requirement.intendedUses textChecks ++
  (match requirement.budget with
    | none => []
    | some budget => [⟨"budget.maxAmountMinor", isMoney budget.maxAmountMinor⟩]) ++
  itemChecks "mustHaves" requirement.mustHaves RequirementConstraint.fieldChecks ++
  itemChecks "niceToHaves" requirement.niceToHaves textChecks ++
  itemChecks "mustNotHaves" requirement.mustNotHaves textChecks ++
  itemChecks "unknowns" requirement.unknowns textChecks ++
  uniqueKeyChecks requirement.mustHaves

def RequirementRevision.schemaHolds (requirement : RequirementRevision) : Bool :=
  fieldChecksHold requirement.fieldChecks

structure ExecuteDecisionTaskCommand where
  executionRequestId : String
  requirementRevision : RequirementRevision
  deriving DecidableEq

def ExecuteDecisionTaskCommand.fieldChecks (command : ExecuteDecisionTaskCommand) :
    List FieldCheck :=
  ⟨"executionRequestId", nonEmpty command.executionRequestId⟩ ::
    FieldCheck.below "requirementRevision" command.requirementRevision.fieldChecks

/-- `/^requirementRevision\.mustHaves\.\d+\.key$/` -/
def isMustHaveKeyPath (path : String) : Bool :=
  match path.splitOn "." with
  | ["requirementRevision", "mustHaves", index, "key"] => index.isNat
  | _ => false

def commandIssueMessage (path : String) : String :=
  if path = "requirementRevision.budget.maxAmountMinor" then "金额必须是非负整数人民币分"
  else if isMustHaveKeyPath path then "must-have key 在 Requirement Revision 中必须唯一"
  else "字段不符合合同要求"

def decodeExecuteDecisionTaskCommandV1 (command : ExecuteDecisionTaskCommand) :
    ContractDecodeResult ExecuteDecisionTaskCommand :=
  if fieldChecksHold command.fieldChecks then .ok command
  else contractInvalid <| (invalidFields command.fieldChecks).map fun issue =>
    { issue with message := commandIssueMessage issue.path }

theorem decodeExecuteDecisionTaskCommandV1_eq {command decoded : ExecuteDecisionTaskCommand}
    (h : decodeExecuteDecisionTaskCommandV1 command = .ok decoded) : decoded = command := by
  unfold decodeExecuteDecisionTaskCommandV1 at h
  split at h
  · cases h
    rfl
  · cases h

structure CandidateIdentity where
  model : String
  sku : String
  configuration : String
  deriving DecidableEq

structure ObservedPrice where
  amountMinor : Nat
  observedAt : UtcTimestamp
  deriving DecidableEq

structure Candidate where
  candidateId : String
  decisionTaskId : String
  displayName : String
  identity : CandidateIdentity
  observedPrice : ObservedPrice
  deriving DecidableEq

def Candidate.schemaHolds (candidate : Candidate) : Bool :=
  nonEmpty candidate.candidateId && nonEmpty candidate.decisionTaskId &&
    isMeaningful candidate.displayName && nonEmpty candidate.identity.model &&
    nonEmpty candidate.identity.sku && isMeaningful candidate.identity.configuration &&
    isMoney candidate.observedPrice.amountMinor

inductive ClaimValue
  | money (amountMinor : Nat)
  | quantity (amount : Rat) (unit : String)
  | boolean (value : Bool)
  | text (value : String)
  deriving DecidableEq

def ClaimValue.schemaHolds : ClaimValue → Bool
  | .money amountMinor => isMoney amountMinor
  | .quantity amount unit => 0 ≤ amount && nonEmpty unit
  | .boolean _ => true
  | .text value => isMeaningful value

inductive ClaimKind
  | factAssertion
  | sourceOpinion
  | systemInference
  deriving DecidableEq, Repr

structure Claim where
  claimId : String
  decisionTaskId : String
  subjectId : String
  predicate : String
  value : ClaimValue
  claimKind : ClaimKind
  deriving DecidableEq

def Claim.schemaHolds (claim : Claim) : Bool :=
  nonEmpty claim.claimId && nonEmpty claim.decisionTaskId && nonEmpty claim.subjectId &&
    nonEmpty claim.predicate && claim.value.schemaHolds

structure PublicWebSource where
  sourceId : String
  title : String
  url : String
  excerptDigest : String
  parserVersion : String
  rawArtifactDigest : String
  rawArtifactObjectKey : String
  deriving DecidableEq

inductive EvidenceSource
  | synthetic (sourceId title : String)
  | publicWeb (source : PublicWebSource)
  deriving DecidableEq

def EvidenceSource.schemaHolds : EvidenceSource → Bool
  | .synthetic sourceId title => nonEmpty sourceId && isMeaningful title
  | .publicWeb source =>
    nonEmpty source.sourceId && isMeaningful source.title &&
      isSha256Digest source.excerptDigest && isMeaningful source.parserVersion &&
      isSha256Digest source.rawArtifactDigest &&
      source.rawArtifactObjectKey = "evidence-raw/sha256/" ++ source.rawArtifactDigest

structure Evidence where
  evidenceId : String
  decisionTaskId : String
  capturedAt : UtcTimestamp
  section_ : String
  field : String
  excerpt : String
  validUntil : UtcTimestamp
  source : EvidenceSource
  deriving DecidableEq

def Evidence.schemaHolds (evidence : Evidence) : Bool :=
  nonEmpty evidence.evidenceId && nonEmpty evidence.decisionTaskId &&
    isMeaningful evidence.section_ && isMeaningful evidence.field &&
    isMeaningful evidence.excerpt && evidence.source.schemaHolds

inductive LinkDirection
  | supports
  | refutes
  deriving DecidableEq, Repr

structure ClaimEvidenceLink where
  linkId : String
  decisionTaskId : String
  claimId : String
  evidenceId : String
  direction : LinkDirection
  deriving DecidableEq

def ClaimEvidenceLink.schemaHolds (link : ClaimEvidenceLink) : Bool :=
  nonEmpty link.linkId && nonEmpty link.decisionTaskId && nonEmpty link.claimId &&
    nonEmpty link.evidenceId

inductive EvidenceState
  | supported
  | refuted
  | conflicted
  | insufficient
  deriving DecidableEq, Repr

structure ClaimAssessment where
  claimId : String
  evidenceState : EvidenceState
  supportingEvidenceIds : List String
  refutingEvidenceIds : List String
  deriving DecidableEq

def ClaimAssessment.schemaHolds (assessment : ClaimAssessment) : Bool :=
  nonEmpty assessment.claimId && assessment.supportingEvidenceIds.all nonEmpty &&
    assessment.refutingEvidenceIds.all nonEmpty

inductive ConditionType
  | maxPrice (amountMinor : Nat)
  | officialWarranty
  deriving DecidableEq, Repr

structure DecisionCondition where
  conditionId : String
  conditionType : ConditionType
  candidateId : String
  verification : String
  deriving DecidableEq

def DecisionCondition.schemaHolds (condition : DecisionCondition) : Bool :=
  nonEmpty condition.conditionId && nonEmpty condition.candidateId &&
    isMeaningful condition.verification &&
    match condition.conditionType with
    | .maxPrice amountMinor => isMoney amountMinor
    | .officialWarranty => true

structure CandidateDisposition where
  dispositionId : String
  candidateId : String
  requirementKey : String
  reason : String
  evidenceIds : List String
  deriving DecidableEq

def CandidateDisposition.schemaHolds (disposition : CandidateDisposition) : Bool :=
  nonEmpty disposition.dispositionId && nonEmpty disposition.candidateId &&
    nonEmpty disposition.requirementKey && isMeaningful disposition.reason &&
    disposition.evidenceIds ≠ [] && disposition.evidenceIds.all nonEmpty

structure DecisionRisk where
  riskId : String
  candidateId : String
  statementClaimId : String
  verification : String
  deriving DecidableEq

def DecisionRisk.schemaHolds (risk : DecisionRisk) : Bool :=
  nonEmpty risk.riskId && nonEmpty risk.candidateId && nonEmpty risk.statementClaimId &&
    isMeaningful risk.verification

inductive CriticalGapResolution
  | verifyCondition (conditionId : String)
  | provideRequirement (requirementKey : String)
  deriving DecidableEq

structure CriticalGap where
  gapId : String
  key : String
  question : String
  resolution : CriticalGapResolution
  deriving DecidableEq

def CriticalGap.schemaHolds (gap : CriticalGap) : Bool :=
  nonEmpty gap.gapId && nonEmpty gap.key && isMeaningful gap.question &&
    match gap.resolution with
    | .verifyCondition conditionId => nonEmpty conditionId
    | .provideRequirement requirementKey => nonEmpty requirementKey

inductive NextStepAction
  | provideRequirement (requirementKey : String)
  | verifyCondition (conditionId : String)
  | verifyRisk (riskId : String)
  deriving DecidableEq

structure DecisionNextStep where
  action : NextStepAction
  instruction : String
  deriving DecidableEq

def DecisionNextStep.schemaHolds (nextStep : DecisionNextStep) : Bool :=
  isMeaningful nextStep.instruction &&
    match nextStep.action with
    | .provideRequirement requirementKey => nonEmpty requirementKey
    | .verifyCondition conditionId => nonEmpty conditionId
    | .verifyRisk riskId => nonEmpty riskId

inductive DecisionStatus
  | buyNow
  | buyIfPrice
  | wait
  | keepCurrent
  | needMoreInfo
  | noMatch
  | refuseRisk
  deriving DecidableEq, Repr

structure DecisionRevision where
  decisionRevisionId : String
  decisionTaskId : String
  requirementRevisionId : String
  revision : Nat
  status : DecisionStatus
  summary : String
  selectedCandidateId : Option String
  conditions : List DecisionCondition
  candidateDispositions : List CandidateDisposition
  risks : List DecisionRisk
  evidenceIds : List String
  criticalGaps : List CriticalGap
  assumptions : List String
  validFrom : UtcTimestamp
  validUntil : UtcTimestamp
  nextSteps : List DecisionNextStep
  deriving DecidableEq

def DecisionRevision.schemaHolds (decision : DecisionRevision) : Bool :=
  nonEmpty decision.decisionRevisionId && nonEmpty decision.decisionTaskId &&
    nonEmpty decision.requirementRevisionId && 0 < decision.revision &&
    isSafeInteger decision.revision && isMeaningful decision.summary &&
    decision.selectedCandidateId.all nonEmpty &&
    decision.conditions.all DecisionCondition.schemaHolds &&
    decision.candidateDispositions.all CandidateDisposition.schemaHolds &&
    decision.risks.all DecisionRisk.schemaHolds && decision.evidenceIds.all nonEmpty &&
    decision.criticalGaps.all CriticalGap.schemaHolds &&
    decision.assumptions.all isMeaningful &&
    decision.nextSteps.all DecisionNextStep.schemaHolds

structure DecisionBundleDraft where
  requirementRevision : RequirementRevision
  candidates : List Candidate
  claims : List Claim
  evidence : List Evidence
  claimEvidenceLinks : List ClaimEvidenceLink
  decision : DecisionRevision
  deriving DecidableEq

structure DecisionBundle extends DecisionBundleDraft where
  claimAssessments : List ClaimAssessment
  deriving DecidableEq

def DecisionBundleDraft.schemaHolds (bundle : DecisionBundleDraft) : Bool :=
  bundle.requirementRevision.schemaHolds && bundle.candidates ≠ [] &&
    bundle.candidates.all Candidate.schemaHolds && bundle.claims.all Claim.schemaHolds &&
    bundle.evidence.all Evidence.schemaHolds &&
    bundle.claimEvidenceLinks.all ClaimEvidenceLink.schemaHolds && bundle.decision.schemaHolds

structure CompletedTaskStatus where
  decisionTaskId : String
  agentRunId : String
  latestEventSequence : Nat
  decisionRevisionId : String
  updatedAt : UtcTimestamp
  deriving DecidableEq

def CompletedTaskStatus.schemaHolds (status : CompletedTaskStatus) : Bool :=
  nonEmpty status.decisionTaskId && nonEmpty status.agentRunId &&
    0 < status.latestEventSequence && isSafeInteger status.latestEventSequence &&
    nonEmpty status.decisionRevisionId

structure FailedTaskStatus where
  decisionTaskId : String
  agentRunId : String
  latestEventSequence : Nat
  errorId : String
  updatedAt : UtcTimestamp
  deriving DecidableEq

def FailedTaskStatus.schemaHolds (status : FailedTaskStatus) : Bool :=
  nonEmpty status.decisionTaskId && nonEmpty status.agentRunId &&
    0 < status.latestEventSequence && isSafeInteger status.latestEventSequence &&
    nonEmpty status.errorId

inductive ErrorCode
  | contractInvalid
  | contractVersionUnsupported
  | agentRuntimeFailed
  | decisionExecutionStatusUnknown
  | decisionTaskNotFound
  | idempotencyConflict
  | persistenceUnavailable
  deriving DecidableEq, Repr

inductive ErrorCategory
  | validation
  | version
  | runtime
  | transport
  | resource
  | storage
  deriving DecidableEq, Repr

inductive RetryMode
  | none
  | sameExecutionOnly
  | newExecutionAllowed
  deriving DecidableEq, Repr

structure ChoiceMindError where
  errorId : String
  code : ErrorCode
  category : ErrorCategory
  message : String
  retryMode : RetryMode
  issues : List ContractIssue
  occurredAt : UtcTimestamp
  deriving DecidableEq

def ChoiceMindError.schemaHolds (error : ChoiceMindError) : Bool :=
  nonEmpty error.errorId && isMeaningful error.message &&
    error.issues.all fun issue => isMeaningful issue.message

structure SuccessfulDecisionTaskResult where
  taskStatus : CompletedTaskStatus
  runEvents : List RunEvent
  bundle : DecisionBundle
  deriving DecidableEq

structure FailedDecisionTaskResult where
  taskStatus : FailedTaskStatus
  runEvents : List RunEvent
  error : ChoiceMindError
  deriving DecidableEq

inductive DecisionTaskResult
  | succeeded (result : SuccessfulDecisionTaskResult)
  | failed (result : FailedDecisionTaskResult)
  | rejected (error : ChoiceMindError)
  deriving DecidableEq

def eventsSchemaHolds (runEvents : List RunEvent) : Bool :=
  runEvents ≠ [] && runEvents.all fun event => fieldChecksHold event.fieldChecks

def DecisionTaskResult.schemaHolds : DecisionTaskResult → Bool
  | .succeeded result =>
    result.taskStatus.schemaHolds && eventsSchemaHolds result.runEvents &&
      result.bundle.toDecisionBundleDraft.schemaHolds &&
      result.bundle.claimAssessments.all ClaimAssessment.schemaHolds
  | .failed result =>
    result.taskStatus.schemaHolds && eventsSchemaHolds result.runEvents &&
      result.error.schemaHolds
  | .rejected error => error.schemaHolds

end ChoiceMind.Contracts
