import Mathlib.Algebra.Order.Field.Rat
import ChoiceMind.Contracts.Decision

/-!
# The decision basis

Evaluation of the evidence graph of a bundle and the checks of a decision against
it. A JavaScript `Map` built from a list is that list, read by the last entry of a
key; a `Set` is its elements in insertion order.
-/

namespace ChoiceMind.Contracts

set_option autoImplicit false

/-- `items.forEach((item, index) => …)`, collecting the issues it pushes. -/
def forEachIssue {α : Type} (items : List α) (check : Nat → α → List ContractIssue) :
    List ContractIssue :=
  items.zipIdx.flatMap fun (item, index) => check index item

def issueIf (failed : Bool) (path message : String) : List ContractIssue :=
  if failed then [⟨path, message⟩] else []

/-- `new Map(items.map((item) => [key(item), item])).get(id)` -/
def byId {α : Type} (key : α → String) (items : List α) (id : String) : Option α :=
  items.reverse.find? fun item => key item = id

def addToSet {α : Type} [DecidableEq α] (set : List α) (value : α) : List α :=
  if value ∈ set then set else set ++ [value]

/-- `${collectionPath}.${index}.${idField}` for every id seen before. -/
def collectUniqueIds (ids : List String) (collectionPath idField entityName : String) :
    List ContractIssue :=
  forEachIssue ids fun index id =>
    issueIf (id ∈ ids.take index) (collectionPath ++ "." ++ toString index ++ "." ++ idField)
      (entityName ++ " ID 在结果中必须唯一")

def claimIndexKey (candidateId predicate : String) : String :=
  candidateId ++ "\x00" ++ predicate

/-- The key of one claim-evidence relation. -/
def claimEvidencePairKey (link : ClaimEvidenceLink) : String :=
  link.claimId ++ "\x00" ++ link.evidenceId

def deriveClaimAssessment (claim : Claim) (links : List ClaimEvidenceLink)
    (evidence : List Evidence) (validFrom : UtcTimestamp) : ClaimAssessment :=
  let eligible := links.filter fun link =>
    match byId Evidence.evidenceId evidence link.evidenceId with
    | none => false
    | some found => !isBeforeUtc found.validUntil validFrom
  let collect (direction : LinkDirection) : List String :=
    sortIds <| (eligible.filter fun link => link.direction = direction).foldl
      (fun ids link => addToSet ids link.evidenceId) []
  let supporting := collect .supports
  let refuting := collect .refutes
  { claimId := claim.claimId
    evidenceState :=
      if supporting ≠ [] then (if refuting ≠ [] then .conflicted else .supported)
      else if refuting ≠ [] then .refuted
      else .insufficient
    supportingEvidenceIds := supporting
    refutingEvidenceIds := refuting }

structure EvidenceGraph where
  candidates : List Candidate
  claims : List Claim
  evidence : List Evidence
  links : List ClaimEvidenceLink
  claimAssessments : List ClaimAssessment

namespace EvidenceGraph

def candidateById (graph : EvidenceGraph) : String → Option Candidate :=
  byId Candidate.candidateId graph.candidates

def claimById (graph : EvidenceGraph) : String → Option Claim :=
  byId Claim.claimId graph.claims

def evidenceById (graph : EvidenceGraph) : String → Option Evidence :=
  byId Evidence.evidenceId graph.evidence

def claimAssessmentById (graph : EvidenceGraph) : String → Option ClaimAssessment :=
  byId ClaimAssessment.claimId graph.claimAssessments

/-- `linksByEvidenceId.get(evidenceId) ?? []` -/
def linksByEvidenceId (graph : EvidenceGraph) (evidenceId : String) : List ClaimEvidenceLink :=
  graph.links.filter fun link => link.evidenceId = evidenceId

/-- `claimsByCandidateAndPredicate.get(key) ?? []` -/
def claimsAt (graph : EvidenceGraph) (key : String) : List Claim :=
  graph.claims.filter fun claim => claimIndexKey claim.subjectId claim.predicate = key

end EvidenceGraph

/-- The issues of the evidence graph itself. -/
def basisIssues (decisionTaskId : String) (bundle : DecisionBundleDraft) : List ContractIssue :=
  let candidateIds := bundle.candidates.map Candidate.candidateId
  let claimIds := bundle.claims.map Claim.claimId
  let evidenceIds := bundle.evidence.map Evidence.evidenceId
  let linkedEvidenceIds := bundle.claimEvidenceLinks.filterMap fun link =>
    if link.evidenceId ∈ evidenceIds then some link.evidenceId else none
  let pairKeys := bundle.claimEvidenceLinks.map claimEvidencePairKey
  collectUniqueIds candidateIds "bundle.candidates" "candidateId" "Candidate" ++
  collectUniqueIds claimIds "bundle.claims" "claimId" "Claim" ++
  collectUniqueIds evidenceIds "bundle.evidence" "evidenceId" "Evidence" ++
  collectUniqueIds (bundle.claimEvidenceLinks.map ClaimEvidenceLink.linkId)
    "bundle.claimEvidenceLinks" "linkId" "Claim-Evidence Link" ++
  (forEachIssue bundle.candidates fun index candidate =>
    issueIf (candidate.decisionTaskId ≠ decisionTaskId)
      ("bundle.candidates." ++ toString index ++ ".decisionTaskId")
      "Candidate 必须属于结果中的 Decision Task") ++
  (forEachIssue bundle.claims fun index claim =>
    issueIf (claim.decisionTaskId ≠ decisionTaskId)
      ("bundle.claims." ++ toString index ++ ".decisionTaskId")
      "Claim 必须属于结果中的 Decision Task" ++
    issueIf (claim.subjectId ∉ candidateIds)
      ("bundle.claims." ++ toString index ++ ".subject.subjectId")
      "Claim 必须关联存在的 Candidate") ++
  (forEachIssue bundle.evidence fun index evidence =>
    issueIf (evidence.decisionTaskId ≠ decisionTaskId)
      ("bundle.evidence." ++ toString index ++ ".decisionTaskId")
      "Evidence 必须属于结果中的 Decision Task" ++
    issueIf (isBeforeUtc evidence.validUntil evidence.capturedAt)
      ("bundle.evidence." ++ toString index ++ ".validUntil")
      "Evidence 有效期不得早于采集时间" ++
    issueIf (isBeforeUtc bundle.decision.validFrom evidence.capturedAt)
      ("bundle.evidence." ++ toString index ++ ".capturedAt")
      "Decision 不得引用形成时间之后采集的 Evidence") ++
  issueIf (isBeforeUtc bundle.decision.validUntil bundle.decision.validFrom)
    "bundle.decision.validUntil" "Decision 有效期不得早于生效时间" ++
  (forEachIssue bundle.claimEvidenceLinks fun index link =>
    issueIf (link.decisionTaskId ≠ decisionTaskId)
      ("bundle.claimEvidenceLinks." ++ toString index ++ ".decisionTaskId")
      "Claim-Evidence Link 必须属于结果中的 Decision Task" ++
    issueIf (link.claimId ∉ claimIds)
      ("bundle.claimEvidenceLinks." ++ toString index ++ ".claimId")
      "Claim-Evidence Link 必须引用存在的 Claim" ++
    issueIf (link.evidenceId ∉ evidenceIds)
      ("bundle.claimEvidenceLinks." ++ toString index ++ ".evidenceId")
      "Claim-Evidence Link 必须引用存在的 Evidence" ++
    issueIf (claimEvidencePairKey link ∈ pairKeys.take index)
      ("bundle.claimEvidenceLinks." ++ toString index ++ ".evidenceId")
      "同一 Claim 与 Evidence 组合只能有一个关系方向") ++
  (forEachIssue bundle.evidence fun index evidence =>
    issueIf (evidence.evidenceId ∉ linkedEvidenceIds)
      ("bundle.evidence." ++ toString index ++ ".evidenceId")
      "每份 Evidence 必须至少关联一个 Claim")

/-- The canonical assessments: one for every claim, sorted by claim id. -/
def deriveClaimAssessments (bundle : DecisionBundleDraft) : List ClaimAssessment :=
  (bundle.claims.insertionSort fun a b => codeUnitsLe a.claimId b.claimId).map fun claim =>
    deriveClaimAssessment claim
      (bundle.claimEvidenceLinks.filter fun link => link.claimId = claim.claimId)
      bundle.evidence bundle.decision.validFrom

def evidenceGraph (bundle : DecisionBundleDraft) : EvidenceGraph where
  candidates := bundle.candidates
  claims := bundle.claims
  evidence := bundle.evidence
  links := bundle.claimEvidenceLinks
  claimAssessments := deriveClaimAssessments bundle

/-- `evaluateDecisionBasisV1`: the assessments, or the issues of the graph. -/
def evaluateDecisionBasisV1 (decisionTaskId : String) (bundle : DecisionBundleDraft) :
    List ClaimAssessment × List ContractIssue :=
  if basisIssues decisionTaskId bundle ≠ [] then ([], basisIssues decisionTaskId bundle)
  else (deriveClaimAssessments bundle, [])

def validateCanonicalAssessments (actual expected : List ClaimAssessment) :
    List ContractIssue :=
  collectUniqueIds (actual.map ClaimAssessment.claimId) "bundle.claimAssessments" "claimId"
    "Claim Assessment" ++
  issueIf (actual.length ≠ expected.length) "bundle.claimAssessments"
    "每个 Claim 必须恰有一份规范化 Claim Assessment" ++
  forEachIssue (actual.zip expected) fun index pair =>
    issueIf (pair.1 ≠ pair.2) ("bundle.claimAssessments." ++ toString index)
      "Claim Assessment 必须等于 Decision Basis 的规范化派生结果"

inductive ConstraintStatus
  | satisfied
  | violated
  | indeterminate
  deriving DecidableEq, Repr

structure CandidateConstraintAssessment where
  status : ConstraintStatus
  supportingEvidenceIds : List String
  deriving DecidableEq

def createIndeterminateAssessment : CandidateConstraintAssessment := ⟨.indeterminate, []⟩

structure TrustedClaimValues where
  values : List Rat
  supportingEvidenceIds : List String
  deriving DecidableEq

/-- The loop of `collectTrustedClaimValues` over the fact claims; `none` is the early
`return undefined`. -/
def collectFactValues (graph : EvidenceGraph) (readValue : Claim → Option Rat) :
    List Claim → TrustedClaimValues → Option TrustedClaimValues
  | [], collected => some collected
  | claim :: claims, collected =>
    match graph.claimAssessmentById claim.claimId, readValue claim with
    | some assessment, some value =>
      if assessment.evidenceState ≠ .supported then none
      else collectFactValues graph readValue claims
        { values := addToSet collected.values value
          supportingEvidenceIds :=
            assessment.supportingEvidenceIds.foldl addToSet collected.supportingEvidenceIds }
    | _, _ => none

def collectTrustedClaimValues (candidateId predicate : String) (graph : EvidenceGraph)
    (readValue : Claim → Option Rat) : Option TrustedClaimValues :=
  let factClaims := (graph.claimsAt (claimIndexKey candidateId predicate)).filter fun claim =>
    claim.claimKind = .factAssertion
  if factClaims = [] then none else collectFactValues graph readValue factClaims ⟨[], []⟩

/-- The trusted values when they are one number. -/
def getOnlyValue (trusted : Option TrustedClaimValues) : Option (Rat × List String) :=
  match trusted with
  | some ⟨[value], supportingEvidenceIds⟩ => some (value, supportingEvidenceIds)
  | _ => none

def readMoney (claim : Claim) : Option Rat :=
  match claim.value with
  | .money amountMinor => some amountMinor
  | _ => none

def readQuantity (unit : String) (claim : Claim) : Option Rat :=
  match claim.value with
  | .quantity amount claimUnit => if claimUnit = unit then some amount else none
  | _ => none

def assessCandidateBudgetConstraint (candidate : Candidate) (budget : Budget)
    (graph : EvidenceGraph) : CandidateConstraintAssessment :=
  match getOnlyValue
    (collectTrustedClaimValues candidate.candidateId "price.observed" graph readMoney) with
  | none => createIndeterminateAssessment
  | some (amountMinor, supportingEvidenceIds) =>
    if amountMinor ≠ candidate.observedPrice.amountMinor then createIndeterminateAssessment
    else
      { status := if amountMinor ≤ budget.maxAmountMinor then .satisfied else .violated
        supportingEvidenceIds := supportingEvidenceIds }

/-- The comparison of one amount with a must-have. -/
def satisfiesOperator (operator : ConstraintOperator) (amount required : Rat) : Bool :=
  match operator with
  | .atLeast => required ≤ amount
  | .atMost => amount ≤ required
  | .equals => amount = required

def assessCandidateConstraint (candidateId : String) (constraint : RequirementConstraint)
    (graph : EvidenceGraph) : CandidateConstraintAssessment :=
  match getOnlyValue (collectTrustedClaimValues candidateId constraint.key graph
    (readQuantity constraint.value.unit)) with
  | none => createIndeterminateAssessment
  | some (amount, supportingEvidenceIds) =>
    { status :=
        if satisfiesOperator constraint.operator amount constraint.value.amount then .satisfied
        else .violated
      supportingEvidenceIds := supportingEvidenceIds }

/-- `budget?.confirmed === true && budget.hard` -/
def confirmedHardBudget (requirement : RequirementRevision) : Option Budget :=
  requirement.budget.filter fun budget => budget.confirmed && budget.hard

def validateSelectedCandidateBasis (selectedCandidate : Option Candidate)
    (requirement : RequirementRevision) (graph : EvidenceGraph) : List ContractIssue :=
  match selectedCandidate with
  | none => []
  | some selected =>
    (match confirmedHardBudget requirement with
      | none => []
      | some budget =>
        issueIf ((assessCandidateBudgetConstraint selected budget graph).status ≠ .satisfied)
          "bundle.decision.selectedCandidateId"
          "被选 Candidate 的价格事实必须满足已确认的硬预算") ++
    issueIf
      (!requirement.mustHaves.all fun constraint =>
        (assessCandidateConstraint selected.candidateId constraint graph).status = .satisfied)
      "bundle.decision.selectedCandidateId" "被选 Candidate 必须满足每项 must-have"

def assessDispositionConstraint (candidateId requirementKey : String)
    (requirement : RequirementRevision) (graph : EvidenceGraph) :
    CandidateConstraintAssessment :=
  if requirementKey = "budget.maxAmountMinor" then
    match graph.candidateById candidateId, confirmedHardBudget requirement with
    | some candidate, some budget => assessCandidateBudgetConstraint candidate budget graph
    | _, _ => createIndeterminateAssessment
  else match requirement.mustHaves.find? fun mustHave => mustHave.key = requirementKey with
    | none => createIndeterminateAssessment
    | some constraint => assessCandidateConstraint candidateId constraint graph

/-- The must-have keys, and the budget's when it is confirmed and hard. -/
def hardConstraintKeys (requirement : RequirementRevision) : List String :=
  requirement.mustHaves.map RequirementConstraint.key ++
    (match confirmedHardBudget requirement with
      | none => []
      | some _ => ["budget.maxAmountMinor"])

def validateDisposition (bundle : DecisionBundleDraft) (graph : EvidenceGraph) (index : Nat)
    (disposition : CandidateDisposition) : List ContractIssue :=
  let path := "bundle.decision.candidateDispositions." ++ toString index
  let earlier := (bundle.decision.candidateDispositions.take index).map
    CandidateDisposition.candidateId
  let assessment := assessDispositionConstraint disposition.candidateId
    disposition.requirementKey bundle.requirementRevision graph
  let provesViolation := assessment.status = .violated &&
    disposition.evidenceIds.any fun evidenceId => evidenceId ∈ assessment.supportingEvidenceIds
  let isHard := decide (disposition.requirementKey ∈ hardConstraintKeys bundle.requirementRevision)
  issueIf (disposition.candidateId ∈ earlier) (path ++ ".candidateId")
    "同一 Candidate 只能拥有一个 Candidate Disposition" ++
  issueIf (some disposition.candidateId = bundle.decision.selectedCandidateId)
    (path ++ ".candidateId") "被选 Candidate 不能拥有 Candidate Disposition" ++
  issueIf (graph.candidateById disposition.candidateId).isNone (path ++ ".candidateId")
    "Candidate Disposition 必须关联存在的 Candidate" ++
  (forEachIssue disposition.evidenceIds fun evidenceIndex evidenceId =>
    match graph.evidenceById evidenceId with
    | none => [⟨path ++ ".evidenceIds." ++ toString evidenceIndex,
        "Candidate Disposition 引用了不存在的 Evidence"⟩]
    | some _ =>
      issueIf
        (!(graph.linksByEvidenceId evidenceId).any fun link =>
          (graph.claimById link.claimId).map Claim.subjectId = some disposition.candidateId)
        (path ++ ".evidenceIds." ++ toString evidenceIndex)
        "Candidate Disposition Evidence 必须描述对应 Candidate") ++
  issueIf (!isHard) (path ++ ".requirementKey")
    "ELIMINATED Disposition 必须引用真实 Hard Constraint" ++
  issueIf (isHard && !provesViolation) (path ++ ".requirementKey")
    "ELIMINATED Evidence 必须证明 Candidate 违反 Hard Constraint"

def validateEliminations (bundle : DecisionBundleDraft) (graph : EvidenceGraph) :
    List ContractIssue :=
  let dispositionCandidateIds :=
    bundle.decision.candidateDispositions.map CandidateDisposition.candidateId
  forEachIssue bundle.decision.candidateDispositions (validateDisposition bundle graph) ++
  if bundle.decision.status ≠ .needMoreInfo then
    forEachIssue bundle.candidates fun index candidate =>
      issueIf
        (some candidate.candidateId ≠ bundle.decision.selectedCandidateId &&
          candidate.candidateId ∉ dispositionCandidateIds)
        ("bundle.candidates." ++ toString index ++ ".candidateId")
        "未选 Candidate 必须拥有 Candidate Disposition"
  else []

def validateRisk (bundle : DecisionBundleDraft) (graph : EvidenceGraph) (index : Nat)
    (risk : DecisionRisk) : List ContractIssue :=
  let candidatePath := "bundle.decision.risks." ++ toString index ++ ".candidateId"
  let claimPath := "bundle.decision.risks." ++ toString index ++ ".statementClaimId"
  issueIf (graph.candidateById risk.candidateId).isNone candidatePath
    "Decision Risk 必须关联存在的 Candidate" ++
  issueIf (some risk.candidateId ≠ bundle.decision.selectedCandidateId) candidatePath
    "Decision Risk 必须关联被选 Candidate" ++
  match graph.claimById risk.statementClaimId with
  | none => [⟨claimPath, "Decision Risk 必须引用存在的 Claim"⟩]
  | some statementClaim =>
    issueIf (statementClaim.subjectId ≠ risk.candidateId) claimPath
      "Decision Risk Claim 必须描述对应 Candidate" ++
    match (graph.claimAssessmentById statementClaim.claimId).filter fun assessment =>
        assessment.evidenceState = .supported with
    | none => [⟨claimPath, "Decision Risk Claim 必须由权威 Assessment 判定为 SUPPORTED"⟩]
    | some assessment =>
      if assessment.supportingEvidenceIds = [] then
        [⟨claimPath, "Decision Risk Claim 必须至少有一条有效 SUPPORTS Evidence"⟩]
      else
        issueIf
          (!assessment.supportingEvidenceIds.any fun evidenceId =>
            evidenceId ∈ bundle.decision.evidenceIds)
          claimPath "Decision Risk 的 SUPPORTS Evidence 必须进入 Decision Evidence"

def validateRiskClaimBasis (bundle : DecisionBundleDraft) (graph : EvidenceGraph) :
    List ContractIssue :=
  forEachIssue bundle.decision.risks (validateRisk bundle graph)

/-- The supporting evidence of a satisfied assessment has to be decision evidence. -/
def evidenceClosureIssues (decisionEvidenceIds : List String)
    (assessment : CandidateConstraintAssessment) (message : String) : List ContractIssue :=
  if assessment.status = .satisfied then
    assessment.supportingEvidenceIds.flatMap fun evidenceId =>
      issueIf (evidenceId ∉ decisionEvidenceIds) "bundle.decision.evidenceIds" message
  else []

def validateDecisionEvidenceClosure (bundle : DecisionBundleDraft) (graph : EvidenceGraph) :
    List ContractIssue :=
  let decision := bundle.decision
  issueIf (decision.evidenceIds = []) "bundle.decision.evidenceIds"
    "Decision 必须引用至少一条 Evidence" ++
  (forEachIssue decision.evidenceIds fun index evidenceId =>
    issueIf (graph.evidenceById evidenceId).isNone
      ("bundle.decision.evidenceIds." ++ toString index) "Decision 引用了不存在的 Evidence") ++
  match decision.selectedCandidateId.bind graph.candidateById with
  | none => []
  | some selected =>
    (match confirmedHardBudget bundle.requirementRevision with
      | none => []
      | some budget =>
        evidenceClosureIssues decision.evidenceIds
          (assessCandidateBudgetConstraint selected budget graph)
          "被选 Candidate 的预算 Evidence 必须进入 Decision Evidence") ++
    bundle.requirementRevision.mustHaves.flatMap fun constraint =>
      evidenceClosureIssues decision.evidenceIds
        (assessCandidateConstraint selected.candidateId constraint graph)
        "被选 Candidate 的 must-have Evidence 必须进入 Decision Evidence"

def checkDecisionBasisV1 (decisionTaskId : String) (bundle : DecisionBundle) :
    List ContractIssue :=
  let draft := bundle.toDecisionBundleDraft
  if basisIssues decisionTaskId draft ≠ [] then basisIssues decisionTaskId draft
  else
    let graph := evidenceGraph draft
    let decision := bundle.decision
    let selectedCandidate := decision.selectedCandidateId.bind graph.candidateById
    validateCanonicalAssessments bundle.claimAssessments graph.claimAssessments ++
    collectUniqueIds (decision.candidateDispositions.map CandidateDisposition.dispositionId)
      "bundle.decision.candidateDispositions" "dispositionId" "Candidate Disposition" ++
    issueIf (decision.selectedCandidateId.isSome && selectedCandidate.isNone)
      "bundle.decision.selectedCandidateId" "Decision 必须选择结果中存在的 Candidate" ++
    validateSelectedCandidateBasis selectedCandidate bundle.requirementRevision graph ++
    validateEliminations draft graph ++
    validateRiskClaimBasis draft graph ++
    validateDecisionEvidenceClosure draft graph

end ChoiceMind.Contracts
