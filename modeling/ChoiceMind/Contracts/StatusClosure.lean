import ChoiceMind.Contracts.Acceptance

/-!
# The structure of an accepted decision

What the status of an accepted result says about its candidate, conditions, gaps, risks
and next steps. Each check of the result is read off once, as a statement about all the
members of the list it goes through.
-/

namespace ChoiceMind.Contracts

set_option autoImplicit false

/-! ### The statement -/

/-- `VERIFY_CONDITION` and `VERIFY_RISK` steps correspond to the conditions and risks. -/
structure StepsCorrespond (decision : DecisionRevision) : Prop where
  condition : ∀ condition ∈ decision.conditions, ∃ nextStep ∈ decision.nextSteps,
    nextStep.action = .verifyCondition condition.conditionId
  risk : ∀ risk ∈ decision.risks, ∃ nextStep ∈ decision.nextSteps,
    nextStep.action = .verifyRisk risk.riskId
  conditionExists : ∀ nextStep ∈ decision.nextSteps, ∀ conditionId,
    nextStep.action = .verifyCondition conditionId →
      ∃ condition ∈ decision.conditions, condition.conditionId = conditionId
  riskExists : ∀ nextStep ∈ decision.nextSteps, ∀ riskId,
    nextStep.action = .verifyRisk riskId → ∃ risk ∈ decision.risks, risk.riskId = riskId

/-- A risk on the selected candidate that rests on a supported claim about it. -/
structure RiskGrounded (bundle : DecisionBundle) (risk : DecisionRisk) : Prop where
  selected : bundle.decision.selectedCandidateId = some risk.candidateId
  candidate : ∃ candidate ∈ bundle.candidates, candidate.candidateId = risk.candidateId
  claim : ∃ claim ∈ bundle.claims, claim.claimId = risk.statementClaimId ∧
    claim.subjectId = risk.candidateId ∧
    ∃ assessment ∈ bundle.claimAssessments, assessment.claimId = claim.claimId ∧
      assessment.evidenceState = .supported ∧
      ∃ evidenceId ∈ assessment.supportingEvidenceIds, evidenceId ∈ bundle.decision.evidenceIds

/-- What `BUY_IF_PRICE` says. -/
structure PurchaseClosed (bundle : DecisionBundle) : Prop where
  selected : ∃ candidate ∈ bundle.candidates,
    bundle.decision.selectedCandidateId = some candidate.candidateId
  conditions : bundle.decision.conditions ≠ []
  about : ∀ condition ∈ bundle.decision.conditions,
    bundle.decision.selectedCandidateId = some condition.candidateId
  maxPrice : ∀ condition ∈ bundle.decision.conditions, ∀ amountMinor,
    condition.conditionType = .maxPrice amountMinor →
    ∀ budget, confirmedHardBudget bundle.requirementRevision = some budget →
      amountMinor ≤ budget.maxAmountMinor
  gaps : ∀ gap ∈ bundle.decision.criticalGaps, ∃ conditionId,
    gap.resolution = .verifyCondition conditionId ∧
    ∃ condition ∈ bundle.decision.conditions, condition.conditionId = conditionId

/-- What `NEED_MORE_INFO` says. -/
structure InquiryClosed (decision : DecisionRevision) : Prop where
  selected : decision.selectedCandidateId = none
  dispositions : decision.candidateDispositions = []
  conditions : decision.conditions = []
  risks : decision.risks = []
  gaps : decision.criticalGaps ≠ []
  answered : ∀ gap ∈ decision.criticalGaps, gap.resolution = .provideRequirement gap.key ∧
    ∃ nextStep ∈ decision.nextSteps, nextStep.action = .provideRequirement gap.key

/-- The budget is missing, unconfirmed or listed as unknown. -/
def BudgetOpen (requirement : RequirementRevision) : Prop :=
  (∀ budget, requirement.budget = some budget → budget.confirmed = false) ∨
    "budget.maxAmountMinor" ∈ requirement.unknowns

/-- The decision asks for the budget. -/
structure AsksForBudget (decision : DecisionRevision) : Prop where
  status : decision.status = .needMoreInfo
  gap : ∃ gap ∈ decision.criticalGaps, gap.key = "budget.maxAmountMinor"
  nextStep : ∃ nextStep ∈ decision.nextSteps,
    nextStep.action = .provideRequirement "budget.maxAmountMinor"

structure StatusClosed (bundle : DecisionBundle) : Prop where
  status : bundle.decision.status = .buyIfPrice ∨ bundle.decision.status = .needMoreInfo
  purchase : bundle.decision.status = .buyIfPrice → PurchaseClosed bundle
  inquiry : bundle.decision.status = .needMoreInfo → InquiryClosed bundle.decision
  steps : StepsCorrespond bundle.decision
  risks : ∀ risk ∈ bundle.decision.risks, RiskGrounded bundle risk
  budget : BudgetOpen bundle.requirementRevision → AsksForBudget bundle.decision

/-! ### The checks, one by one -/

/-- A successful result without issues, as far as its decision goes. -/
structure ResultChecked (result : SuccessfulDecisionTaskResult) : Prop where
  references : referenceIssues result = []
  budget : budgetNeedsConfirmation result.bundle.requirementRevision = true →
    budgetConfirmationIssues result.bundle.decision = []
  inquiry : result.bundle.decision.status = .needMoreInfo →
    needMoreInfoIssues result.bundle.decision = []
  conditions : conditionIssues result.bundle = []
  gaps : result.bundle.decision.status = .buyIfPrice →
    buyIfPriceGapIssues result.bundle.decision = []
  steps : nextStepIssues result.bundle.decision = []
  someCondition : result.bundle.decision.status = .buyIfPrice →
    result.bundle.decision.conditions ≠ []
  basis : BasisChecked result.taskStatus.decisionTaskId result.bundle

theorem resultChecked_of_decoded {input : DecisionTaskResult}
    {result : SuccessfulDecisionTaskResult}
    (h : decodeDecisionTaskResultV1 input = .ok (.succeeded result)) : ResultChecked result := by
  obtain ⟨rfl, -, hissues⟩ := decodeDecisionTaskResultV1_eq_ok.mp h
  simp only [checkDecisionTaskResultInvariants, successfulResultIssues, List.append_eq_nil_iff,
    ite_eq_right_iff, issueIf_eq_nil, Bool.and_eq_false_imp, decide_eq_true_eq,
    decide_eq_false_iff_not] at hissues
  obtain ⟨-, ⟨⟨⟨⟨⟨⟨⟨⟨⟨⟨-, hreferences⟩, hbudget⟩, hinquiry⟩, -⟩, hconditions⟩, hgaps⟩, hsteps⟩,
    hsome⟩, -⟩, hbasis⟩⟩ := hissues
  exact ⟨hreferences, hbudget, hinquiry, hconditions, hgaps, hsteps, hsome,
    checkDecisionBasisV1_eq_nil.mp hbasis⟩

theorem conditionIssues_eq_nil {bundle : DecisionBundle} :
    conditionIssues bundle = [] ↔ ∀ condition ∈ bundle.decision.conditions,
      condition.candidateId ∈ bundle.candidates.map Candidate.candidateId ∧
      some condition.candidateId = bundle.decision.selectedCandidateId ∧
      exceedsHardBudget bundle.requirementRevision condition = false ∧
      ∃ nextStep ∈ bundle.decision.nextSteps,
        nextStep.action = .verifyCondition condition.conditionId := by
  dsimp only [conditionIssues]
  refine forEachIssue_const_eq_nil fun index condition => ?_
  simp only [List.append_eq_nil_iff, issueIf_eq_nil, decide_eq_false_iff_not, not_not,
    Bool.not_eq_false', List.any_eq_true, decide_eq_true_eq, and_assoc]

theorem nextStepIssues_eq_nil {decision : DecisionRevision} :
    nextStepIssues decision = [] ↔
      (∀ nextStep ∈ decision.nextSteps, match nextStep.action with
        | .verifyCondition conditionId =>
          ∃ condition ∈ decision.conditions, condition.conditionId = conditionId
        | .verifyRisk riskId => ∃ risk ∈ decision.risks, risk.riskId = riskId
        | .provideRequirement _ => True) ∧
      ∀ risk ∈ decision.risks, ∃ nextStep ∈ decision.nextSteps,
        nextStep.action = .verifyRisk risk.riskId := by
  rw [nextStepIssues, List.append_eq_nil_iff]
  refine and_congr (forEachIssue_const_eq_nil fun index nextStep => ?_)
    (forEachIssue_const_eq_nil fun index risk => ?_)
  · cases nextStep.action <;> simp
  · simp

theorem buyIfPriceGapIssues_eq_nil {decision : DecisionRevision} :
    buyIfPriceGapIssues decision = [] ↔ ∀ gap ∈ decision.criticalGaps, ∃ conditionId,
      gap.resolution = .verifyCondition conditionId ∧
      ∃ condition ∈ decision.conditions, condition.conditionId = conditionId := by
  refine forEachIssue_const_eq_nil fun index gap => ?_
  cases gap.resolution with
  | verifyCondition conditionId =>
    simp only [issueIf_eq_nil, Bool.not_eq_false', List.any_eq_true, decide_eq_true_eq,
      CriticalGapResolution.verifyCondition.injEq, exists_eq_left']
  | provideRequirement requirementKey => simp

theorem asksForRequirement_iff {decision : DecisionRevision} {requirementKey : String} :
    asksForRequirement decision requirementKey = true ↔ ∃ nextStep ∈ decision.nextSteps,
      nextStep.action = .provideRequirement requirementKey := by
  simp [asksForRequirement]

theorem needMoreInfoGapIssues_eq_nil {decision : DecisionRevision} :
    needMoreInfoGapIssues decision = [] ↔ ∀ gap ∈ decision.criticalGaps,
      gap.resolution = .provideRequirement gap.key ∧
      ∃ nextStep ∈ decision.nextSteps, nextStep.action = .provideRequirement gap.key := by
  refine forEachIssue_const_eq_nil fun index gap => ?_
  cases gap.resolution with
  | verifyCondition conditionId => simp
  | provideRequirement requirementKey =>
    simp only [issueIf_eq_nil, Bool.or_eq_false_iff, decide_eq_false_iff_not, not_not,
      Bool.not_eq_false', asksForRequirement_iff, CriticalGapResolution.provideRequirement.injEq]
    refine and_congr_right fun hkey => ?_
    rw [hkey]

theorem validateRisk_eq_nil {decisionTaskId : String} {bundle : DecisionBundle} {index : Nat}
    {risk : DecisionRisk} (hbasis : BasisChecked decisionTaskId bundle) :
    validateRisk bundle.toDecisionBundleDraft (evidenceGraph bundle.toDecisionBundleDraft)
      index risk = [] ↔ RiskGrounded bundle risk := by
  simp only [validateRisk, List.append_eq_nil_iff, issueIf_eq_nil]
  constructor
  · rintro ⟨⟨hcandidate, hselected⟩, hclaim⟩
    rw [Option.isNone_eq_false_iff, Option.isSome_iff_exists] at hcandidate
    obtain ⟨candidate, hfound⟩ := hcandidate
    obtain ⟨hin, hid⟩ := hbasis.candidateById_eq_some.mp hfound
    split at hclaim
    · cases hclaim
    rename_i claim hstatement
    obtain ⟨hclaimIn, hclaimId⟩ := hbasis.claimById_eq_some.mp hstatement
    rw [List.append_eq_nil_iff, issueIf_eq_nil] at hclaim
    obtain ⟨hsubject, hassessed⟩ := hclaim
    split at hassessed
    · cases hassessed
    rename_i assessment hfiltered
    obtain ⟨hassessment, hsupported⟩ := Option.filter_eq_some_iff.mp hfiltered
    obtain ⟨hassessmentIn, hassessmentId⟩ := hbasis.claimAssessmentById_eq_some.mp hassessment
    split at hassessed
    · cases hassessed
    rw [issueIf_eq_nil, Bool.not_eq_false', List.any_eq_true] at hassessed
    obtain ⟨evidenceId, hevidence, hdecision⟩ := hassessed
    exact
      { selected := (by simpa using hselected : some risk.candidateId = _).symm
        candidate := ⟨candidate, hin, hid⟩
        claim := ⟨claim, hclaimIn, hclaimId, by simpa using hsubject, assessment, hassessmentIn,
          hassessmentId, of_decide_eq_true hsupported, evidenceId, hevidence,
          of_decide_eq_true hdecision⟩ }
  · rintro ⟨hselected, ⟨candidate, hin, hid⟩, claim, hclaimIn, hclaimId, hsubject, assessment,
      hassessmentIn, hassessmentId, hsupported, evidenceId, hevidence, hdecision⟩
    have hassessment := hbasis.claimAssessmentById_eq_some.mpr ⟨hassessmentIn, hassessmentId⟩
    rw [hbasis.candidateById_eq_some.mpr ⟨hin, hid⟩,
      hbasis.claimById_eq_some.mpr ⟨hclaimIn, hclaimId⟩]
    simp only [hassessment, Option.filter_some, hsupported, decide_true, if_true]
    refine ⟨⟨rfl, by simp [hselected]⟩, ?_⟩
    rw [if_neg (List.ne_nil_of_mem hevidence)]
    simp only [hsubject, List.append_eq_nil_iff, issueIf_eq_nil, ne_eq, not_true_eq_false,
      decide_false, Bool.not_eq_false', List.any_eq_true, decide_eq_true_eq, true_and]
    exact ⟨evidenceId, hevidence, hdecision⟩

theorem validateRiskClaimBasis_eq_nil {decisionTaskId : String} {bundle : DecisionBundle}
    (hbasis : BasisChecked decisionTaskId bundle) :
    validateRiskClaimBasis bundle.toDecisionBundleDraft
      (evidenceGraph bundle.toDecisionBundleDraft) = [] ↔
      ∀ risk ∈ bundle.decision.risks, RiskGrounded bundle risk :=
  forEachIssue_const_eq_nil fun _ _ => validateRisk_eq_nil hbasis

theorem budgetNeedsConfirmation_iff {requirement : RequirementRevision} :
    budgetNeedsConfirmation requirement = true ↔ BudgetOpen requirement := by
  unfold budgetNeedsConfirmation BudgetOpen
  cases requirement.budget <;> simp

/-! ### Accepted results -/

namespace ResultChecked
variable {result : SuccessfulDecisionTaskResult}

theorem status (h : ResultChecked result) : result.bundle.decision.status = .buyIfPrice ∨
    result.bundle.decision.status = .needMoreInfo := by
  have hreferences := h.references
  simp only [referenceIssues, List.append_eq_nil_iff, issueIf_eq_nil] at hreferences
  obtain ⟨⟨⟨⟨hstatus, -⟩, -⟩, -⟩, -⟩ := hreferences
  by_contra hother
  rw [not_or] at hother
  simp [hother] at hstatus

theorem stepsCorrespond (h : ResultChecked result) : StepsCorrespond result.bundle.decision := by
  obtain ⟨hexist, hrisks⟩ := nextStepIssues_eq_nil.mp h.steps
  refine ⟨fun condition hin => ?_, hrisks, ?_, ?_⟩
  · obtain ⟨-, -, -, hstep⟩ := conditionIssues_eq_nil.mp h.conditions condition hin
    exact hstep
  · intro nextStep hin conditionId haction
    have hexists := hexist nextStep hin
    rwa [haction] at hexists
  · intro nextStep hin riskId haction
    have hexists := hexist nextStep hin
    rwa [haction] at hexists

theorem purchaseClosed (h : ResultChecked result)
    (hstatus : result.bundle.decision.status = .buyIfPrice) : PurchaseClosed result.bundle := by
  have hconditions := conditionIssues_eq_nil.mp h.conditions
  obtain ⟨condition, hcondition⟩ := List.exists_mem_of_ne_nil _ (h.someCondition hstatus)
  obtain ⟨hcandidate, hselected, -⟩ := hconditions condition hcondition
  obtain ⟨candidate, hin, hid⟩ := List.mem_map.mp hcandidate
  refine ⟨⟨candidate, hin, ?_⟩, h.someCondition hstatus, ?_, ?_,
    buyIfPriceGapIssues_eq_nil.mp (h.gaps hstatus)⟩
  · rw [hid, hselected]
  · intro other hother
    obtain ⟨-, habout, -⟩ := hconditions other hother
    exact habout.symm
  · intro other hother amountMinor htype budget hbudget
    obtain ⟨-, -, hwithin, -⟩ := hconditions other hother
    simpa [exceedsHardBudget, htype, hbudget] using hwithin

theorem inquiryClosed (h : ResultChecked result)
    (hstatus : result.bundle.decision.status = .needMoreInfo) :
    InquiryClosed result.bundle.decision := by
  have hinquiry := h.inquiry hstatus
  simp only [needMoreInfoIssues, List.append_eq_nil_iff, issueIf_eq_nil, decide_eq_false_iff_not,
    not_not, Option.isSome_eq_false_iff, Option.isNone_iff_eq_none,
    needMoreInfoGapIssues_eq_nil] at hinquiry
  obtain ⟨⟨⟨hgaps, hselected⟩, hdispositions⟩, hanswered⟩ := hinquiry
  -- conditions and risks are about the selected candidate, and there is none
  refine ⟨hselected, hdispositions, ?_, ?_, hgaps, hanswered⟩
  · apply List.eq_nil_iff_forall_not_mem.mpr
    intro condition hin
    obtain ⟨-, habout, -⟩ := conditionIssues_eq_nil.mp h.conditions condition hin
    rw [hselected] at habout
    cases habout
  · apply List.eq_nil_iff_forall_not_mem.mpr
    intro risk hin
    have habout := ((validateRiskClaimBasis_eq_nil h.basis).mp h.basis.risks risk hin).selected
    rw [hselected] at habout
    cases habout

theorem asksForBudget (h : ResultChecked result)
    (hopen : BudgetOpen result.bundle.requirementRevision) :
    AsksForBudget result.bundle.decision := by
  have hbudget := h.budget (budgetNeedsConfirmation_iff.mpr hopen)
  simp only [budgetConfirmationIssues, List.append_eq_nil_iff, issueIf_eq_nil,
    decide_eq_false_iff_not, not_not, Bool.not_eq_false', List.any_eq_true, decide_eq_true_eq,
    asksForRequirement_iff] at hbudget
  obtain ⟨⟨⟨hstatus, -⟩, hgap⟩, hstep⟩ := hbudget
  exact ⟨hstatus, hgap, hstep⟩

end ResultChecked

theorem status_closed {input : DecisionTaskResult} {result : SuccessfulDecisionTaskResult}
    (h : decodeDecisionTaskResultV1 input = .ok (.succeeded result)) :
    StatusClosed result.bundle := by
  have hchecked := resultChecked_of_decoded h
  exact
    { status := hchecked.status
      purchase := hchecked.purchaseClosed
      inquiry := hchecked.inquiryClosed
      steps := hchecked.stepsCorrespond
      risks := (validateRiskClaimBasis_eq_nil hchecked.basis).mp hchecked.basis.risks
      budget := hchecked.asksForBudget }

/-- The recommendation without its budget: it asks for it instead. -/
def sampleInquiry : SuccessfulDecisionTaskResult :=
  let recommendation := sampleRecommendation "a" "b\x00c"
  { recommendation with
    bundle :=
      { recommendation.bundle with
        requirementRevision := { recommendation.bundle.requirementRevision with budget := none }
        decision :=
          { sampleDecision with
            status := .needMoreInfo
            selectedCandidateId := none
            conditions := []
            candidateDispositions := []
            criticalGaps := [⟨"gap", "budget.maxAmountMinor", "question",
              .provideRequirement "budget.maxAmountMinor"⟩]
            nextSteps := [⟨.provideRequirement "budget.maxAmountMinor", "instruction"⟩] } } }

theorem status_closed_samples :
    (sampleRecommendation "a" "b\x00c").bundle.decision.status = .buyIfPrice ∧
      StatusClosed (sampleRecommendation "a" "b\x00c").bundle ∧
      sampleInquiry.bundle.decision.status = .needMoreInfo ∧
      StatusClosed sampleInquiry.bundle := by
  refine ⟨rfl, ?_, rfl, ?_⟩
  · exact status_closed sampleRecommendation_accepted
  · exact status_closed
      (decodeDecisionTaskResultV1_eq_ok.mpr ⟨rfl, by decide +kernel, by decide +kernel⟩)

end ChoiceMind.Contracts
