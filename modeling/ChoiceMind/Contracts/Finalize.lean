import ChoiceMind.Contracts.StatusClosure

/-!
# Finalizing a successful result

The producer's entry point: a draft without assessments is checked field by field, its
evidence graph is evaluated, and the result with the derived assessments is checked like a
decoded one.
-/

namespace ChoiceMind.Contracts

set_option autoImplicit false

/-! ### The fields of a draft -/

def Candidate.fieldChecks (candidate : Candidate) : List FieldCheck :=
  [⟨"candidateId", nonEmpty candidate.candidateId⟩,
   ⟨"decisionTaskId", nonEmpty candidate.decisionTaskId⟩,
   ⟨"displayName", isMeaningful candidate.displayName⟩,
   ⟨"identity.model", nonEmpty candidate.identity.model⟩,
   ⟨"identity.sku", nonEmpty candidate.identity.sku⟩,
   ⟨"identity.configuration", isMeaningful candidate.identity.configuration⟩,
   ⟨"observedPrice.amountMinor", isMoney candidate.observedPrice.amountMinor⟩]

def ClaimValue.fieldChecks : ClaimValue → List FieldCheck
  | .money amountMinor => [⟨"amountMinor", isMoney amountMinor⟩]
  | .quantity amount unit => [⟨"amount", 0 ≤ amount⟩, ⟨"unit", nonEmpty unit⟩]
  | .boolean _ => []
  | .text value => [⟨"value", isMeaningful value⟩]

def Claim.fieldChecks (claim : Claim) : List FieldCheck :=
  [⟨"claimId", nonEmpty claim.claimId⟩,
   ⟨"decisionTaskId", nonEmpty claim.decisionTaskId⟩,
   ⟨"subject.subjectId", nonEmpty claim.subjectId⟩,
   ⟨"predicate", nonEmpty claim.predicate⟩] ++
  FieldCheck.below "value" claim.value.fieldChecks

def EvidenceSource.fieldChecks : EvidenceSource → List FieldCheck
  | .synthetic sourceId title =>
    [⟨"source.sourceId", nonEmpty sourceId⟩, ⟨"source.title", isMeaningful title⟩]
  | .publicWeb source =>
    [⟨"source.sourceId", nonEmpty source.sourceId⟩,
     ⟨"source.title", isMeaningful source.title⟩,
     ⟨"excerptHash.digest", isSha256Digest source.excerptDigest⟩,
     ⟨"parserVersion", isMeaningful source.parserVersion⟩,
     ⟨"rawArtifact.digest", isSha256Digest source.rawArtifactDigest⟩,
     ⟨"rawArtifact.objectKey", nonEmpty source.rawArtifactObjectKey⟩,
     ⟨"rawArtifact.objectKey",
       source.rawArtifactObjectKey = "evidence-raw/sha256/" ++ source.rawArtifactDigest⟩]

def Evidence.fieldChecks (evidence : Evidence) : List FieldCheck :=
  [⟨"evidenceId", nonEmpty evidence.evidenceId⟩,
   ⟨"decisionTaskId", nonEmpty evidence.decisionTaskId⟩,
   ⟨"locator.section", isMeaningful evidence.section_⟩,
   ⟨"locator.field", isMeaningful evidence.field⟩,
   ⟨"excerpt", isMeaningful evidence.excerpt⟩] ++
  evidence.source.fieldChecks

def ClaimEvidenceLink.fieldChecks (link : ClaimEvidenceLink) : List FieldCheck :=
  [⟨"linkId", nonEmpty link.linkId⟩,
   ⟨"decisionTaskId", nonEmpty link.decisionTaskId⟩,
   ⟨"claimId", nonEmpty link.claimId⟩,
   ⟨"evidenceId", nonEmpty link.evidenceId⟩]

def idChecks (id : String) : List FieldCheck := [⟨"", nonEmpty id⟩]

def DecisionCondition.fieldChecks (condition : DecisionCondition) : List FieldCheck :=
  [⟨"conditionId", nonEmpty condition.conditionId⟩,
   ⟨"candidateId", nonEmpty condition.candidateId⟩] ++
  (match condition.conditionType with
    | .maxPrice amountMinor => [⟨"amountMinor", isMoney amountMinor⟩]
    | .officialWarranty => []) ++
  [⟨"verification", isMeaningful condition.verification⟩]

def CandidateDisposition.fieldChecks (disposition : CandidateDisposition) : List FieldCheck :=
  [⟨"dispositionId", nonEmpty disposition.dispositionId⟩,
   ⟨"candidateId", nonEmpty disposition.candidateId⟩,
   ⟨"requirementKey", nonEmpty disposition.requirementKey⟩,
   ⟨"reason", isMeaningful disposition.reason⟩] ++
  itemChecks "evidenceIds" disposition.evidenceIds idChecks ++
  [⟨"evidenceIds", disposition.evidenceIds ≠ []⟩]

def DecisionRisk.fieldChecks (risk : DecisionRisk) : List FieldCheck :=
  [⟨"riskId", nonEmpty risk.riskId⟩,
   ⟨"candidateId", nonEmpty risk.candidateId⟩,
   ⟨"statementClaimId", nonEmpty risk.statementClaimId⟩,
   ⟨"verification", isMeaningful risk.verification⟩]

def CriticalGap.fieldChecks (gap : CriticalGap) : List FieldCheck :=
  [⟨"gapId", nonEmpty gap.gapId⟩,
   ⟨"key", nonEmpty gap.key⟩,
   ⟨"question", isMeaningful gap.question⟩,
   match gap.resolution with
    | .verifyCondition conditionId => ⟨"resolution.conditionId", nonEmpty conditionId⟩
    | .provideRequirement requirementKey =>
      ⟨"resolution.requirementKey", nonEmpty requirementKey⟩]

def DecisionNextStep.fieldChecks (nextStep : DecisionNextStep) : List FieldCheck :=
  [match nextStep.action with
    | .provideRequirement requirementKey => ⟨"requirementKey", nonEmpty requirementKey⟩
    | .verifyCondition conditionId => ⟨"conditionId", nonEmpty conditionId⟩
    | .verifyRisk riskId => ⟨"riskId", nonEmpty riskId⟩,
   ⟨"instruction", isMeaningful nextStep.instruction⟩]

def DecisionRevision.fieldChecks (decision : DecisionRevision) : List FieldCheck :=
  [⟨"decisionRevisionId", nonEmpty decision.decisionRevisionId⟩,
   ⟨"decisionTaskId", nonEmpty decision.decisionTaskId⟩,
   ⟨"requirementRevisionId", nonEmpty decision.requirementRevisionId⟩,
   ⟨"revision", 0 < decision.revision && isSafeInteger decision.revision⟩,
   ⟨"summary", isMeaningful decision.summary⟩,
   ⟨"selectedCandidateId", decision.selectedCandidateId.all nonEmpty⟩] ++
  itemChecks "conditions" decision.conditions DecisionCondition.fieldChecks ++
  itemChecks "candidateDispositions" decision.candidateDispositions
    CandidateDisposition.fieldChecks ++
  itemChecks "risks" decision.risks DecisionRisk.fieldChecks ++
  itemChecks "evidenceIds" decision.evidenceIds idChecks ++
  itemChecks "criticalGaps" decision.criticalGaps CriticalGap.fieldChecks ++
  itemChecks "assumptions" decision.assumptions textChecks ++
  itemChecks "nextSteps" decision.nextSteps DecisionNextStep.fieldChecks

def DecisionBundleDraft.fieldChecks (bundle : DecisionBundleDraft) : List FieldCheck :=
  FieldCheck.below "requirementRevision" bundle.requirementRevision.fieldChecks ++
  itemChecks "candidates" bundle.candidates Candidate.fieldChecks ++
  [⟨"candidates", bundle.candidates ≠ []⟩] ++
  itemChecks "claims" bundle.claims Claim.fieldChecks ++
  itemChecks "evidence" bundle.evidence Evidence.fieldChecks ++
  itemChecks "claimEvidenceLinks" bundle.claimEvidenceLinks ClaimEvidenceLink.fieldChecks ++
  FieldCheck.below "decision" bundle.decision.fieldChecks

def CompletedTaskStatus.fieldChecks (status : CompletedTaskStatus) : List FieldCheck :=
  [⟨"decisionTaskId", nonEmpty status.decisionTaskId⟩,
   ⟨"agentRunId", nonEmpty status.agentRunId⟩,
   ⟨"latestEventSequence",
     0 < status.latestEventSequence && isSafeInteger status.latestEventSequence⟩,
   ⟨"decisionRevisionId", nonEmpty status.decisionRevisionId⟩]

structure SuccessfulDecisionTaskResultDraft where
  taskStatus : CompletedTaskStatus
  runEvents : List RunEvent
  bundle : DecisionBundleDraft
  deriving DecidableEq

def SuccessfulDecisionTaskResultDraft.fieldChecks (draft : SuccessfulDecisionTaskResultDraft) :
    List FieldCheck :=
  FieldCheck.below "taskStatus" draft.taskStatus.fieldChecks ++
  itemChecks "runEvents" draft.runEvents RunEvent.fieldChecks ++
  [⟨"runEvents", draft.runEvents ≠ []⟩] ++
  FieldCheck.below "bundle" draft.bundle.fieldChecks

/-- The draft with the given assessments. -/
def SuccessfulDecisionTaskResultDraft.withAssessments (draft : SuccessfulDecisionTaskResultDraft)
    (claimAssessments : List ClaimAssessment) : SuccessfulDecisionTaskResult where
  taskStatus := draft.taskStatus
  runEvents := draft.runEvents
  bundle := { draft.bundle with claimAssessments }

/-- The result with its assessments removed. -/
def SuccessfulDecisionTaskResult.toDraft (result : SuccessfulDecisionTaskResult) :
    SuccessfulDecisionTaskResultDraft where
  taskStatus := result.taskStatus
  runEvents := result.runEvents
  bundle := result.bundle.toDecisionBundleDraft

def finalizeSuccessfulDecisionTaskResultV1 (draft : SuccessfulDecisionTaskResultDraft) :
    ContractDecodeResult SuccessfulDecisionTaskResult :=
  if !fieldChecksHold draft.fieldChecks then contractInvalid (invalidFields draft.fieldChecks)
  else
    let evaluation := evaluateDecisionBasisV1 draft.taskStatus.decisionTaskId draft.bundle
    if evaluation.2 ≠ [] then contractInvalid evaluation.2
    else
      let value := draft.withAssessments evaluation.1
      let invariantIssues := checkDecisionTaskResultInvariants (.succeeded value)
      if invariantIssues ≠ [] then contractInvalid invariantIssues else .ok value

/-! ### The fields of a draft are those of a result -/

section Fields

@[simp] theorem fieldChecksHold_idChecks (id : String) :
    fieldChecksHold (idChecks id) = nonEmpty id := by
  simp [idChecks]

@[simp] theorem fieldChecksHold_textChecks (value : String) :
    fieldChecksHold (textChecks value) = isMeaningful value := by
  simp [textChecks]

theorem Candidate.fieldChecksHold_eq (candidate : Candidate) :
    fieldChecksHold candidate.fieldChecks = candidate.schemaHolds := by
  simp [Candidate.fieldChecks, Candidate.schemaHolds, Bool.and_assoc]

theorem Claim.fieldChecksHold_eq (claim : Claim) :
    fieldChecksHold claim.fieldChecks = claim.schemaHolds := by
  have hvalue : fieldChecksHold claim.value.fieldChecks = claim.value.schemaHolds := by
    cases claim.value <;> simp [ClaimValue.fieldChecks, ClaimValue.schemaHolds]
  simp [Claim.fieldChecks, Claim.schemaHolds, hvalue, Bool.and_assoc]

theorem Evidence.fieldChecksHold_eq (evidence : Evidence) :
    fieldChecksHold evidence.fieldChecks = evidence.schemaHolds := by
  have hsource : fieldChecksHold evidence.source.fieldChecks = evidence.source.schemaHolds := by
    cases evidence.source with
    | synthetic sourceId title => simp [EvidenceSource.fieldChecks, EvidenceSource.schemaHolds]
    | publicWeb source =>
      by_cases hkey : source.rawArtifactObjectKey =
          "evidence-raw/sha256/" ++ source.rawArtifactDigest
      · have hne : nonEmpty source.rawArtifactObjectKey = true := by
          simp [nonEmpty, hkey]
        simp [EvidenceSource.fieldChecks, EvidenceSource.schemaHolds, hne, Bool.and_assoc]
      · simp [EvidenceSource.fieldChecks, EvidenceSource.schemaHolds, hkey]
  simp [Evidence.fieldChecks, Evidence.schemaHolds, hsource, Bool.and_assoc]

theorem ClaimEvidenceLink.fieldChecksHold_eq (link : ClaimEvidenceLink) :
    fieldChecksHold link.fieldChecks = link.schemaHolds := by
  simp [ClaimEvidenceLink.fieldChecks, ClaimEvidenceLink.schemaHolds, Bool.and_assoc]

theorem DecisionCondition.fieldChecksHold_eq (condition : DecisionCondition) :
    fieldChecksHold condition.fieldChecks = condition.schemaHolds := by
  unfold DecisionCondition.fieldChecks DecisionCondition.schemaHolds
  cases condition.conditionType with
  | maxPrice amountMinor => simp [Bool.and_assoc, Bool.and_comm (isMoney amountMinor)]
  | officialWarranty => simp [Bool.and_assoc]

theorem CandidateDisposition.fieldChecksHold_eq (disposition : CandidateDisposition) :
    fieldChecksHold disposition.fieldChecks = disposition.schemaHolds := by
  simp [CandidateDisposition.fieldChecks, CandidateDisposition.schemaHolds,
    fieldChecksHold_itemChecks, Bool.and_assoc, Bool.and_comm (disposition.evidenceIds.all nonEmpty)]

theorem DecisionRisk.fieldChecksHold_eq (risk : DecisionRisk) :
    fieldChecksHold risk.fieldChecks = risk.schemaHolds := by
  simp [DecisionRisk.fieldChecks, DecisionRisk.schemaHolds, Bool.and_assoc]

theorem CriticalGap.fieldChecksHold_eq (gap : CriticalGap) :
    fieldChecksHold gap.fieldChecks = gap.schemaHolds := by
  unfold CriticalGap.fieldChecks CriticalGap.schemaHolds
  cases gap.resolution <;> simp [Bool.and_assoc]

theorem DecisionNextStep.fieldChecksHold_eq (nextStep : DecisionNextStep) :
    fieldChecksHold nextStep.fieldChecks = nextStep.schemaHolds := by
  unfold DecisionNextStep.fieldChecks DecisionNextStep.schemaHolds
  cases nextStep.action <;> simp [Bool.and_comm]

theorem DecisionRevision.fieldChecksHold_eq (decision : DecisionRevision) :
    fieldChecksHold decision.fieldChecks = decision.schemaHolds := by
  simp only [DecisionRevision.fieldChecks, DecisionRevision.schemaHolds, fieldChecksHold_append,
    fieldChecksHold_cons, fieldChecksHold_nil, fieldChecksHold_itemChecks,
    fieldChecksHold_idChecks, fieldChecksHold_textChecks, DecisionCondition.fieldChecksHold_eq,
    CandidateDisposition.fieldChecksHold_eq, DecisionRisk.fieldChecksHold_eq,
    CriticalGap.fieldChecksHold_eq, DecisionNextStep.fieldChecksHold_eq, Bool.and_assoc,
    Bool.and_true]

theorem DecisionBundleDraft.fieldChecksHold_eq (bundle : DecisionBundleDraft) :
    fieldChecksHold bundle.fieldChecks = bundle.schemaHolds := by
  simp only [DecisionBundleDraft.fieldChecks, DecisionBundleDraft.schemaHolds,
    RequirementRevision.schemaHolds, fieldChecksHold_append, fieldChecksHold_below,
    fieldChecksHold_cons, fieldChecksHold_nil, fieldChecksHold_itemChecks,
    Candidate.fieldChecksHold_eq, Claim.fieldChecksHold_eq, Evidence.fieldChecksHold_eq,
    ClaimEvidenceLink.fieldChecksHold_eq, DecisionRevision.fieldChecksHold_eq, Bool.and_assoc,
    Bool.and_true]
  ac_rfl

theorem CompletedTaskStatus.fieldChecksHold_eq (status : CompletedTaskStatus) :
    fieldChecksHold status.fieldChecks = status.schemaHolds := by
  simp [CompletedTaskStatus.fieldChecks, CompletedTaskStatus.schemaHolds, Bool.and_assoc]

/-- Apart from its assessments a result has the fields of its draft. -/
theorem schemaHolds_succeeded (result : SuccessfulDecisionTaskResult) :
    (DecisionTaskResult.succeeded result).schemaHolds =
      (fieldChecksHold result.toDraft.fieldChecks &&
        result.bundle.claimAssessments.all ClaimAssessment.schemaHolds) := by
  simp only [DecisionTaskResult.schemaHolds, SuccessfulDecisionTaskResultDraft.fieldChecks,
    SuccessfulDecisionTaskResult.toDraft, eventsSchemaHolds, fieldChecksHold_append,
    fieldChecksHold_below, fieldChecksHold_cons, fieldChecksHold_nil, fieldChecksHold_itemChecks,
    CompletedTaskStatus.fieldChecksHold_eq, DecisionBundleDraft.fieldChecksHold_eq, Bool.and_true]
  ac_rfl

end Fields

/-! ### Finalizing and decoding -/

theorem mem_sortIds {ids : List String} {id : String} : id ∈ sortIds ids ↔ id ∈ ids :=
  (List.perm_insertionSort _ _).mem_iff

/-- The evidence of an assessment comes from the links it is derived from. -/
theorem evidenceIds_deriveClaimAssessment {claim : Claim} {links : List ClaimEvidenceLink}
    {evidence : List Evidence} {validFrom : UtcTimestamp} {evidenceId : String}
    (h : evidenceId ∈
        (deriveClaimAssessment claim links evidence validFrom).supportingEvidenceIds ∨
      evidenceId ∈ (deriveClaimAssessment claim links evidence validFrom).refutingEvidenceIds) :
    ∃ link ∈ links, link.evidenceId = evidenceId := by
  have hcollected : ∀ eligible : List ClaimEvidenceLink, (∀ link ∈ eligible, link ∈ links) →
      evidenceId ∈ sortIds (eligible.foldl (fun ids link => addToSet ids link.evidenceId) []) →
      ∃ link ∈ links, link.evidenceId = evidenceId := by
    intro eligible hlinks hin
    rw [mem_sortIds, ← List.foldl_map, mem_foldl_addToSet] at hin
    rcases hin with hnone | hin
    · cases hnone
    · obtain ⟨link, hlink, hid⟩ := List.mem_map.mp hin
      exact ⟨link, hlinks link hlink, hid⟩
  rcases h with hsupporting | hrefuting
  · exact hcollected _ (fun link hlink => List.mem_of_mem_filter (List.mem_of_mem_filter hlink))
      hsupporting
  · exact hcollected _ (fun link hlink => List.mem_of_mem_filter (List.mem_of_mem_filter hlink))
      hrefuting

/-- Assessments derived from well-formed claims and links are well formed. -/
theorem schemaHolds_deriveClaimAssessments {bundle : DecisionBundleDraft}
    (hclaims : ∀ claim ∈ bundle.claims, claim.schemaHolds = true)
    (hlinks : ∀ link ∈ bundle.claimEvidenceLinks, link.schemaHolds = true) :
    ∀ assessment ∈ deriveClaimAssessments bundle, assessment.schemaHolds = true := by
  have hevidence : ∀ {evidenceId}, (∃ link ∈ bundle.claimEvidenceLinks,
      link.evidenceId = evidenceId) → nonEmpty evidenceId = true := by
    rintro _ ⟨link, hlink, rfl⟩
    have hschema := hlinks link hlink
    rw [ClaimEvidenceLink.schemaHolds, Bool.and_eq_true] at hschema
    exact hschema.2
  intro assessment hin
  obtain ⟨claim, hclaim, rfl⟩ := List.mem_map.mp hin
  have hschema := hclaims claim ((List.perm_insertionSort _ _).mem_iff.mp hclaim)
  simp only [Claim.schemaHolds, Bool.and_eq_true] at hschema
  obtain ⟨⟨⟨⟨hid, -⟩, -⟩, -⟩, -⟩ := hschema
  simp only [ClaimAssessment.schemaHolds, Bool.and_eq_true, List.all_eq_true]
  refine ⟨⟨hid, fun evidenceId hin => hevidence ?_⟩, fun evidenceId hin => hevidence ?_⟩
  · obtain ⟨link, hlink, heq⟩ := evidenceIds_deriveClaimAssessment (.inl hin)
    exact ⟨link, List.mem_of_mem_filter hlink, heq⟩
  · obtain ⟨link, hlink, heq⟩ := evidenceIds_deriveClaimAssessment (.inr hin)
    exact ⟨link, List.mem_of_mem_filter hlink, heq⟩

/-- A checked successful result has a well-formed evidence graph and its assessments. -/
theorem basisChecked_of_invariants {result : SuccessfulDecisionTaskResult}
    (h : checkDecisionTaskResultInvariants (.succeeded result) = []) :
    BasisChecked result.taskStatus.decisionTaskId result.bundle := by
  simp only [checkDecisionTaskResultInvariants, successfulResultIssues,
    List.append_eq_nil_iff] at h
  exact checkDecisionBasisV1_eq_nil.mp h.2.2

theorem evaluateDecisionBasisV1_of_wellFormed {decisionTaskId : String}
    {bundle : DecisionBundleDraft} (h : GraphWellFormed decisionTaskId bundle) :
    evaluateDecisionBasisV1 decisionTaskId bundle = (deriveClaimAssessments bundle, []) := by
  rw [evaluateDecisionBasisV1, if_neg (not_not.mpr (basisIssues_eq_nil.mpr h))]

/-- The producer returns a result exactly when the consumer accepts it. -/
theorem finalize_eq_ok {draft : SuccessfulDecisionTaskResultDraft}
    {value : SuccessfulDecisionTaskResult} :
    finalizeSuccessfulDecisionTaskResultV1 draft = .ok value ↔
      draft = value.toDraft ∧
        decodeDecisionTaskResultV1 (.succeeded value) = .ok (.succeeded value) := by
  rw [decodeDecisionTaskResultV1_eq_ok, schemaHolds_succeeded, Bool.and_eq_true]
  constructor
  · intro h
    simp only [finalizeSuccessfulDecisionTaskResultV1] at h
    split at h
    · cases h
    rename_i hfields
    rw [Bool.not_eq_true, Bool.not_eq_false'] at hfields
    split at h
    · cases h
    rename_i hissues
    split at h
    · cases h
    rename_i hinvariants
    cases h
    rw [not_not] at hinvariants
    have hbasis := basisChecked_of_invariants hinvariants
    refine ⟨rfl, rfl, ⟨hfields, ?_⟩, hinvariants⟩
    rw [hbasis.assessments, List.all_eq_true]
    rw [SuccessfulDecisionTaskResultDraft.fieldChecks, fieldChecksHold_append,
      fieldChecksHold_below, DecisionBundleDraft.fieldChecksHold_eq, Bool.and_eq_true] at hfields
    have hbundle := hfields.2
    simp only [DecisionBundleDraft.schemaHolds, Bool.and_eq_true, List.all_eq_true] at hbundle
    obtain ⟨⟨⟨⟨-, hclaims⟩, -⟩, hlinks⟩, -⟩ := hbundle
    exact schemaHolds_deriveClaimAssessments hclaims hlinks
  · rintro ⟨rfl, -, ⟨hfields, -⟩, hinvariants⟩
    have hbasis := basisChecked_of_invariants hinvariants
    have hevaluated := evaluateDecisionBasisV1_of_wellFormed hbasis.graph
    have hvalue : value.toDraft.withAssessments
        (deriveClaimAssessments value.bundle.toDecisionBundleDraft) = value := by
      rw [← hbasis.assessments]
      rfl
    simp only [finalizeSuccessfulDecisionTaskResultV1, hfields, Bool.not_true, Bool.false_eq_true,
      if_false]
    rw [show evaluateDecisionBasisV1 value.toDraft.taskStatus.decisionTaskId
      value.toDraft.bundle = _ from hevaluated]
    simp only [ne_eq, not_true_eq_false, if_false, hvalue, hinvariants]

/-- What the two entry points say about each other. -/
structure FinalizeCoherent : Prop where
  accepted : ∀ draft value, finalizeSuccessfulDecisionTaskResultV1 draft = .ok value →
    decodeDecisionTaskResultV1 (.succeeded value) = .ok (.succeeded value)
  reproduced : ∀ input value, decodeDecisionTaskResultV1 input = .ok (.succeeded value) →
    finalizeSuccessfulDecisionTaskResultV1 value.toDraft = .ok value
  /-- Two accepted results differ in more than their assessments. -/
  unique : ∀ (draft : SuccessfulDecisionTaskResultDraft) (claimAssessments others),
    decodeDecisionTaskResultV1 (.succeeded (draft.withAssessments claimAssessments)) =
      .ok (.succeeded (draft.withAssessments claimAssessments)) →
    decodeDecisionTaskResultV1 (.succeeded (draft.withAssessments others)) =
      .ok (.succeeded (draft.withAssessments others)) → claimAssessments = others
  /-- The assessments of an accepted result are the derived ones. -/
  derived : ∀ input value, decodeDecisionTaskResultV1 input = .ok (.succeeded value) →
    value.bundle.claimAssessments = (evaluateDecisionBasisV1 value.taskStatus.decisionTaskId
      value.bundle.toDecisionBundleDraft).1

theorem finalize_coherent : FinalizeCoherent where
  accepted _ _ h := (finalize_eq_ok.mp h).2
  reproduced input value h := by
    obtain ⟨rfl, -⟩ := decodeDecisionTaskResultV1_eq_ok.mp h
    exact finalize_eq_ok.mpr ⟨rfl, h⟩
  unique draft claimAssessments others h hothers := by
    have hfirst := finalize_eq_ok.mpr ⟨rfl, h⟩
    have hsecond := finalize_eq_ok.mpr ⟨rfl, hothers⟩
    have hsame : (draft.withAssessments claimAssessments).toDraft =
        (draft.withAssessments others).toDraft := rfl
    rw [hsame, hsecond] at hfirst
    have hvalues := Except.ok.inj hfirst
    exact (congrArg (fun value => value.bundle.claimAssessments) hvalues).symm
  derived input value h := by
    have hchecked := (resultChecked_of_decoded h).basis
    rw [evaluateDecisionBasisV1_of_wellFormed hchecked.graph]
    exact hchecked.assessments

example : finalizeSuccessfulDecisionTaskResultV1 sampleInquiry.toDraft = .ok sampleInquiry := by
  decide +kernel

end ChoiceMind.Contracts
