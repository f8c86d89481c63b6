import ChoiceMind.Contracts.Basis

/-!
# What an accepted recommendation proves

The claims behind the hard constraints of a selected candidate. The index of claims is
read by a composed key, so another pair of candidate and predicate can share an entry.
-/

namespace ChoiceMind.Contracts

set_option autoImplicit false

/-! ### The statement -/

/-- A fact assertion about exactly this candidate and this predicate. -/
def Claim.isFactOf (claim : Claim) (candidateId predicate : String) : Bool :=
  claim.claimKind = .factAssertion && claim.subjectId = candidateId &&
    claim.predicate = predicate

/-- The fact assertions about a candidate and a predicate exist, are supported by decision
evidence and carry one common admitted amount. -/
structure ProvesConstraint (bundle : DecisionBundle) (candidateId predicate : String)
    (readValue : Claim → Option Rat) (admitted : Rat → Prop) : Prop where
  asserted : ∃ claim ∈ bundle.claims, claim.isFactOf candidateId predicate = true
  assessed : ∀ claim ∈ bundle.claims, claim.isFactOf candidateId predicate = true →
    ∃ assessment ∈ bundle.claimAssessments, assessment.claimId = claim.claimId
  supported : ∀ claim ∈ bundle.claims, claim.isFactOf candidateId predicate = true →
    ∀ assessment ∈ bundle.claimAssessments, assessment.claimId = claim.claimId →
      assessment.evidenceState = .supported ∧
        ∀ evidenceId ∈ assessment.supportingEvidenceIds, evidenceId ∈ bundle.decision.evidenceIds
  valued : ∃ amount, admitted amount ∧
    ∀ claim ∈ bundle.claims, claim.isFactOf candidateId predicate = true →
      readValue claim = some amount

/-- Every must-have and the confirmed hard budget are proved of the candidate. -/
structure RecommendationProved (bundle : DecisionBundle) (candidateId : String) : Prop where
  mustHaves : ∀ constraint ∈ bundle.requirementRevision.mustHaves,
    ProvesConstraint bundle candidateId constraint.key (readQuantity constraint.value.unit)
      fun amount => satisfiesOperator constraint.operator amount constraint.value.amount = true
  budget : ∀ budget, confirmedHardBudget bundle.requirementRevision = some budget →
    ProvesConstraint bundle candidateId "price.observed" readMoney fun amount =>
      amount ≤ budget.maxAmountMinor ∧ ∀ candidate ∈ bundle.candidates,
        candidate.candidateId = candidateId → amount = candidate.observedPrice.amountMinor

/-- The predicates that the hard constraints of a requirement are checked on. -/
def hardPredicates (requirement : RequirementRevision) : List String :=
  requirement.mustHaves.map RequirementConstraint.key ++
    if (confirmedHardBudget requirement).isSome then ["price.observed"] else []

/-- The fact assertion is about another pair with the same index key. -/
def Claim.collides (claim : Claim) (candidateId predicate : String) : Bool :=
  claim.claimKind = .factAssertion && !claim.isFactOf candidateId predicate &&
    claimIndexKey claim.subjectId claim.predicate = claimIndexKey candidateId predicate

/-- Where the fact assertion of another pair shares the index entry of the candidate and a
hard predicate, the candidate has one of its own there. -/
def collisionsCovered (bundle : DecisionBundle) (candidateId : String) : Bool :=
  (hardPredicates bundle.requirementRevision).all fun predicate =>
    (!bundle.claims.any fun claim => claim.collides candidateId predicate) ||
      bundle.claims.any fun claim => claim.isFactOf candidateId predicate

/-! ### What the checks establish -/

/-- The conclusions of an accepted decision basis with a selected candidate. -/
structure BasisAccepted (bundle : DecisionBundle) (selected : Candidate) : Prop where
  claims_nodup : (bundle.claims.map Claim.claimId).Nodup
  candidates_nodup : (bundle.candidates.map Candidate.candidateId).Nodup
  assessments : bundle.claimAssessments = deriveClaimAssessments bundle.toDecisionBundleDraft
  found : bundle.decision.selectedCandidateId.bind
    (evidenceGraph bundle.toDecisionBundleDraft).candidateById = some selected
  basis : validateSelectedCandidateBasis (some selected) bundle.requirementRevision
    (evidenceGraph bundle.toDecisionBundleDraft) = []
  closure : validateDecisionEvidenceClosure bundle.toDecisionBundleDraft
    (evidenceGraph bundle.toDecisionBundleDraft) = []

theorem basisAccepted_of_check {decisionTaskId candidateId : String} {bundle : DecisionBundle}
    (h : checkDecisionBasisV1 decisionTaskId bundle = [])
    (hselected : bundle.decision.selectedCandidateId = some candidateId) :
    ∃ selected, selected.candidateId = candidateId ∧ BasisAccepted bundle selected := by
  have hchecked := checkDecisionBasisV1_eq_nil.mp h
  have hfound := hchecked.found
  rw [hselected] at hfound
  cases hcandidate : (evidenceGraph bundle.toDecisionBundleDraft).candidateById candidateId with
  | none =>
    rw [Option.bind_some, hcandidate] at hfound
    cases hfound
  | some selected =>
    obtain ⟨-, hid⟩ := hchecked.candidateById_eq_some.mp hcandidate
    have hfound : bundle.decision.selectedCandidateId.bind
        (evidenceGraph bundle.toDecisionBundleDraft).candidateById = some selected := by
      rw [hselected, Option.bind_some, hcandidate]
    exact ⟨selected, hid, hchecked.graph.claimIds, hchecked.graph.candidateIds,
      hchecked.assessments, hfound, hfound ▸ hchecked.selected, hchecked.closure⟩

section Accepted
variable {bundle : DecisionBundle} {selected : Candidate}

/-- Reading the canonical assessments by claim id finds the stored one. -/
theorem BasisAccepted.assessment_iff (h : BasisAccepted bundle selected) {claimId : String}
    {assessment : ClaimAssessment} :
    (evidenceGraph bundle.toDecisionBundleDraft).claimAssessmentById claimId = some assessment ↔
      assessment ∈ bundle.claimAssessments ∧ assessment.claimId = claimId := by
  have hnodup : (bundle.claimAssessments.map ClaimAssessment.claimId).Nodup := by
    rw [h.assessments]
    exact (claimIds_deriveClaimAssessments _).nodup_iff.mpr h.claims_nodup
  have hgraph : (evidenceGraph bundle.toDecisionBundleDraft).claimAssessmentById =
      byId ClaimAssessment.claimId bundle.claimAssessments := by
    rw [h.assessments]
    rfl
  rw [hgraph, byId_eq_some hnodup]

theorem isFactOf_iff {claim : Claim} {candidateId predicate : String} :
    claim.isFactOf candidateId predicate = true ↔ claim.claimKind = .factAssertion ∧
      claim.subjectId = candidateId ∧ claim.predicate = predicate := by
  simp [Claim.isFactOf, and_assoc]

/-- The fact assertions of a pair are in the index entry of the pair. -/
theorem mem_claimsAt_of_isFactOf {claim : Claim} {candidateId predicate : String}
    (hclaim : claim ∈ bundle.claims) (hfact : claim.isFactOf candidateId predicate = true) :
    claim ∈ (evidenceGraph bundle.toDecisionBundleDraft).claimsAt
      (claimIndexKey candidateId predicate) := by
  obtain ⟨-, hsubject, hpredicate⟩ := isFactOf_iff.mp hfact
  exact List.mem_filter.mpr ⟨hclaim, by simp [hsubject, hpredicate]⟩

/-- An index entry with one trusted amount and closed evidence proves its constraint, once
the candidate has a fact assertion of its own in it. -/
theorem BasisAccepted.provesConstraint (h : BasisAccepted bundle selected)
    {predicate : String} {readValue : Claim → Option Rat} {admitted : Rat → Prop} {amount : Rat}
    {supportingEvidenceIds : List String}
    (hvalue : getOnlyValue (collectTrustedClaimValues selected.candidateId predicate
      (evidenceGraph bundle.toDecisionBundleDraft) readValue) =
        some (amount, supportingEvidenceIds))
    (hadmitted : admitted amount)
    (hclosed : ∀ evidenceId ∈ supportingEvidenceIds, evidenceId ∈ bundle.decision.evidenceIds)
    (hcovered : (bundle.claims.any fun claim =>
        claim.collides selected.candidateId predicate) = true →
      (bundle.claims.any fun claim =>
        claim.isFactOf selected.candidateId predicate) = true) :
    ProvesConstraint bundle selected.candidateId predicate readValue admitted := by
  obtain ⟨⟨entry, hentry, hkind⟩, htrusted⟩ := trusted_of_getOnlyValue hvalue
  have hfacts : ∀ claim ∈ bundle.claims,
      claim.isFactOf selected.candidateId predicate = true →
      TrustedClaim (evidenceGraph bundle.toDecisionBundleDraft) readValue
        ⟨[amount], supportingEvidenceIds⟩ claim := by
    intro claim hclaim hfact
    exact htrusted claim (mem_claimsAt_of_isFactOf hclaim hfact) (isFactOf_iff.mp hfact).1
  refine ⟨?_, ?_, ?_, amount, hadmitted, ?_⟩
  · obtain ⟨hmem, hkey⟩ := List.mem_filter.mp hentry
    by_cases hown : entry.isFactOf selected.candidateId predicate = true
    · exact ⟨entry, hmem, hown⟩
    · refine List.any_eq_true.mp (hcovered (List.any_eq_true.mpr ⟨entry, hmem, ?_⟩))
      simp [Claim.collides, hkind, hown, of_decide_eq_true hkey]
  · intro claim hclaim hfact
    obtain ⟨assessment, hfound, -⟩ := (hfacts claim hclaim hfact).assessed
    exact ⟨assessment, h.assessment_iff.mp hfound⟩
  · intro claim hclaim hfact assessment hassessment hid
    obtain ⟨found, hfound, hsupported, hevidence⟩ := (hfacts claim hclaim hfact).assessed
    rw [h.assessment_iff.mpr ⟨hassessment, hid⟩] at hfound
    cases hfound
    exact ⟨hsupported, fun evidenceId hin => hclosed evidenceId (hevidence evidenceId hin)⟩
  · intro claim hclaim hfact
    obtain ⟨value, hin, hread⟩ := (hfacts claim hclaim hfact).valued
    rw [hread, List.mem_singleton.mp hin]

/-- The evidence of a satisfied assessment is decision evidence. -/
theorem evidence_closed {decisionEvidenceIds supportingEvidenceIds : List String}
    {message : String}
    (h : evidenceClosureIssues decisionEvidenceIds ⟨.satisfied, supportingEvidenceIds⟩ message =
      []) :
    ∀ evidenceId ∈ supportingEvidenceIds, evidenceId ∈ decisionEvidenceIds := by
  rw [evidenceClosureIssues, if_pos rfl, List.flatMap_eq_nil_iff] at h
  intro evidenceId hin
  simpa using h evidenceId hin

theorem constraint_satisfied {graph : EvidenceGraph} {candidateId : String}
    {constraint : RequirementConstraint}
    (h : (assessCandidateConstraint candidateId constraint graph).status = .satisfied) :
    ∃ amount supportingEvidenceIds,
      getOnlyValue (collectTrustedClaimValues candidateId constraint.key graph
        (readQuantity constraint.value.unit)) = some (amount, supportingEvidenceIds) ∧
      satisfiesOperator constraint.operator amount constraint.value.amount = true ∧
      assessCandidateConstraint candidateId constraint graph =
        ⟨.satisfied, supportingEvidenceIds⟩ := by
  unfold assessCandidateConstraint at h ⊢
  split at h
  · cases h
  · rename_i amount supportingEvidenceIds hvalue
    simp only at h
    split at h
    · rename_i hsatisfied
      exact ⟨amount, supportingEvidenceIds, hvalue, hsatisfied, by simp [hsatisfied]⟩
    · cases h

theorem budget_satisfied {graph : EvidenceGraph} {candidate : Candidate} {budget : Budget}
    (h : (assessCandidateBudgetConstraint candidate budget graph).status = .satisfied) :
    ∃ amount supportingEvidenceIds,
      getOnlyValue (collectTrustedClaimValues candidate.candidateId "price.observed" graph
        readMoney) = some (amount, supportingEvidenceIds) ∧
      amount ≤ budget.maxAmountMinor ∧ amount = candidate.observedPrice.amountMinor ∧
      assessCandidateBudgetConstraint candidate budget graph =
        ⟨.satisfied, supportingEvidenceIds⟩ := by
  unfold assessCandidateBudgetConstraint at h ⊢
  split at h
  · cases h
  · rename_i amount supportingEvidenceIds hvalue
    split at h
    · cases h
    rename_i hprice
    rw [ne_eq, not_not] at hprice
    simp only at h
    split at h
    · rename_i hwithin
      refine ⟨amount, supportingEvidenceIds, hvalue, hwithin, hprice, ?_⟩
      simp [← hprice, hwithin]
    · cases h

/-- What the two passes over the selected candidate establish. -/
theorem BasisAccepted.constraints (h : BasisAccepted bundle selected) :
    (∀ constraint ∈ bundle.requirementRevision.mustHaves,
      (assessCandidateConstraint selected.candidateId constraint
        (evidenceGraph bundle.toDecisionBundleDraft)).status = .satisfied ∧
      evidenceClosureIssues bundle.decision.evidenceIds
        (assessCandidateConstraint selected.candidateId constraint
          (evidenceGraph bundle.toDecisionBundleDraft))
        "被选 Candidate 的 must-have Evidence 必须进入 Decision Evidence" = []) ∧
    ∀ budget, confirmedHardBudget bundle.requirementRevision = some budget →
      (assessCandidateBudgetConstraint selected budget
        (evidenceGraph bundle.toDecisionBundleDraft)).status = .satisfied ∧
      evidenceClosureIssues bundle.decision.evidenceIds
        (assessCandidateBudgetConstraint selected budget
          (evidenceGraph bundle.toDecisionBundleDraft))
        "被选 Candidate 的预算 Evidence 必须进入 Decision Evidence" = [] := by
  have hbasis := h.basis
  have hclosure := h.closure
  simp only [validateSelectedCandidateBasis, List.append_eq_nil_iff, issueIf_eq_nil,
    Bool.not_eq_false', List.all_eq_true, decide_eq_true_eq] at hbasis
  simp only [validateDecisionEvidenceClosure, h.found, List.append_eq_nil_iff,
    List.flatMap_eq_nil_iff] at hclosure
  refine ⟨fun constraint hin => ⟨hbasis.2 constraint hin, hclosure.2.2 constraint hin⟩, ?_⟩
  intro budget hbudget
  have hstatus := hbasis.1
  have hissues := hclosure.2.1
  rw [hbudget] at hstatus hissues
  simp only [issueIf_eq_nil, decide_eq_false_iff_not, not_not] at hstatus
  exact ⟨hstatus, hissues⟩

theorem covered_at {predicate candidateId : String}
    (h : collisionsCovered bundle candidateId = true)
    (hpredicate : predicate ∈ hardPredicates bundle.requirementRevision) :
    (bundle.claims.any fun claim => claim.collides candidateId predicate) = true →
      (bundle.claims.any fun claim => claim.isFactOf candidateId predicate) = true := by
  intro hcollides
  have hcovered := List.all_eq_true.mp h predicate hpredicate
  rwa [hcollides, Bool.not_true, Bool.false_or] at hcovered

theorem BasisAccepted.proved_of_covered (h : BasisAccepted bundle selected)
    (hcovered : collisionsCovered bundle selected.candidateId = true) :
    RecommendationProved bundle selected.candidateId := by
  obtain ⟨hmustHaves, hbudget⟩ := h.constraints
  constructor
  · intro constraint hin
    obtain ⟨hstatus, hclosed⟩ := hmustHaves constraint hin
    obtain ⟨amount, supportingEvidenceIds, hvalue, hsatisfied, hassessment⟩ :=
      constraint_satisfied hstatus
    rw [hassessment] at hclosed
    refine h.provesConstraint hvalue hsatisfied (evidence_closed hclosed)
      (covered_at hcovered ?_)
    exact List.mem_append_left _ (List.mem_map_of_mem hin)
  · intro budget hfound
    obtain ⟨hstatus, hclosed⟩ := hbudget budget hfound
    obtain ⟨amount, supportingEvidenceIds, hvalue, hwithin, hprice, hassessment⟩ :=
      budget_satisfied hstatus
    rw [hassessment] at hclosed
    refine h.provesConstraint hvalue ⟨hwithin, ?_⟩ (evidence_closed hclosed)
      (covered_at hcovered ?_)
    · intro candidate hcandidate hid
      have hselected : selected ∈ bundle.candidates := by
        obtain ⟨_, -, hcandidate⟩ := Option.bind_eq_some_iff.mp h.found
        exact ((byId_eq_some h.candidates_nodup).mp hcandidate).1
      rw [List.inj_on_of_nodup_map h.candidates_nodup hcandidate hselected hid]
      exact hprice
    · simp [hardPredicates, hfound]

/-- Ids without U+0000 cannot collide. -/
theorem claimIndexKey_injective {subjectId predicate candidateId key : String}
    (hsubject : '\x00' ∉ subjectId.toList) (hcandidate : '\x00' ∉ candidateId.toList)
    (h : claimIndexKey subjectId predicate = claimIndexKey candidateId key) :
    subjectId = candidateId ∧ predicate = key := by
  have hlists := congrArg String.toList h
  simp only [claimIndexKey, String.toList_append, List.append_assoc] at hlists
  obtain ⟨hsame, hrest⟩ : subjectId.toList = candidateId.toList ∧
      predicate.toList = key.toList := by
    rcases List.append_eq_append_iff.mp hlists with ⟨rest, hlonger, htail⟩ |
      ⟨rest, hlonger, htail⟩
    · cases rest with
      | nil => exact ⟨by simpa using hlonger.symm, by simpa using htail⟩
      | cons c rest =>
        obtain rfl : '\x00' = c := by simpa using congrArg List.head? htail
        exact absurd (hlonger ▸ by simp) hcandidate
    · cases rest with
      | nil => exact ⟨by simpa using hlonger, by simpa using htail.symm⟩
      | cons c rest =>
        obtain rfl : '\x00' = c := by simpa using congrArg List.head? htail
        exact absurd (hlonger ▸ by simp) hsubject
  exact ⟨String.toList_inj.mp hsame, String.toList_inj.mp hrest⟩

/-- With such candidate ids every accepted recommendation is proved. -/
theorem BasisAccepted.proved_of_ids (h : BasisAccepted bundle selected)
    (hids : ∀ claim ∈ bundle.claims, '\x00' ∉ claim.subjectId.toList)
    (hselected : '\x00' ∉ selected.candidateId.toList) :
    RecommendationProved bundle selected.candidateId := by
  refine h.proved_of_covered (List.all_eq_true.mpr fun predicate _ => ?_)
  rw [Bool.or_eq_true, Bool.not_eq_true', List.any_eq_false]
  refine .inl fun claim hclaim hcollides => ?_
  simp only [Claim.collides, Bool.and_eq_true, decide_eq_true_eq, Bool.not_eq_true'] at hcollides
  obtain ⟨⟨hkind, hother⟩, hkey⟩ := hcollides
  obtain ⟨hsubject, hpredicate⟩ :=
    claimIndexKey_injective (hids claim hclaim) hselected hkey
  rw [isFactOf_iff.mpr ⟨hkind, hsubject, hpredicate⟩] at hother
  cases hother

/-- A proved recommendation has its own fact assertion at every hard predicate. -/
theorem covered_of_proved {candidateId : String} (h : RecommendationProved bundle candidateId) :
    collisionsCovered bundle candidateId = true := by
  apply List.all_eq_true.mpr
  intro predicate hpredicate
  have hasserted : ∃ claim ∈ bundle.claims, claim.isFactOf candidateId predicate = true := by
    rcases List.mem_append.mp hpredicate with hkey | hprice
    · obtain ⟨constraint, hin, rfl⟩ := List.mem_map.mp hkey
      exact (h.mustHaves constraint hin).asserted
    · split at hprice
      · rename_i hsome
        obtain ⟨budget, hbudget⟩ := Option.isSome_iff_exists.mp hsome
        rw [List.mem_singleton.mp hprice]
        exact (h.budget budget hbudget).asserted
      · cases hprice
  rw [List.any_eq_true.mpr hasserted, Bool.or_true]

theorem basisAccepted_of_decoded {input : DecisionTaskResult}
    {result : SuccessfulDecisionTaskResult} {candidateId : String}
    (h : decodeDecisionTaskResultV1 input = .ok (.succeeded result))
    (hselected : result.bundle.decision.selectedCandidateId = some candidateId) :
    ∃ selected, selected.candidateId = candidateId ∧ BasisAccepted result.bundle selected := by
  obtain ⟨rfl, -, hissues⟩ := decodeDecisionTaskResultV1_eq_ok.mp h
  simp only [checkDecisionTaskResultInvariants, successfulResultIssues,
    List.append_eq_nil_iff] at hissues
  exact basisAccepted_of_check hissues.2.2 hselected

/-- An accepted recommendation is proved by the selected candidate's own claims exactly
when no index entry of a hard predicate consists of other pairs' claims only. -/
theorem recommendation_proved_iff {input : DecisionTaskResult}
    {result : SuccessfulDecisionTaskResult} {candidateId : String}
    (h : decodeDecisionTaskResultV1 input = .ok (.succeeded result))
    (hselected : result.bundle.decision.selectedCandidateId = some candidateId) :
    RecommendationProved result.bundle candidateId ↔
      collisionsCovered result.bundle candidateId = true := by
  obtain ⟨selected, rfl, haccepted⟩ := basisAccepted_of_decoded h hselected
  exact ⟨covered_of_proved, haccepted.proved_of_covered⟩

end Accepted

section Sample

/-- Two candidates, `a` and `a` with a suffix, and claims of one amount each. -/
def sampleClaims (subjectId predicate : String) : List Claim :=
  [⟨"claim-1", "task", subjectId, predicate, .quantity 2 "unit", .factAssertion⟩,
   ⟨"claim-2", "task", "a", "m", .quantity 6 "unit", .factAssertion⟩,
   ⟨"claim-3", "task", "a\x00b", "m", .quantity 3 "unit", .factAssertion⟩]

def sampleCandidate (candidateId : String) : Candidate where
  candidateId
  decisionTaskId := "task"
  displayName := "candidate"
  identity := ⟨"model", "sku", "configuration"⟩
  observedPrice := ⟨10, .toISOString 0⟩

def sampleEvidence (evidenceId : String) : Evidence where
  evidenceId
  decisionTaskId := "task"
  capturedAt := .toISOString 0
  section_ := "section"
  field := "field"
  excerpt := "excerpt"
  validUntil := .toISOString 0
  source := .synthetic "source" "title"

def sampleDecision : DecisionRevision where
  decisionRevisionId := "decision"
  decisionTaskId := "task"
  requirementRevisionId := "requirement"
  revision := 1
  status := .buyIfPrice
  summary := "summary"
  selectedCandidateId := some "a"
  conditions := [⟨"condition", .maxPrice 10, "a", "verification"⟩]
  candidateDispositions := [⟨"disposition", "a\x00b", "m", "reason", ["evidence-3"]⟩]
  risks := []
  evidenceIds := ["evidence-1", "evidence-2"]
  criticalGaps := []
  assumptions := []
  validFrom := .toISOString 0
  validUntil := .toISOString 0
  nextSteps := [⟨.verifyCondition "condition", "instruction"⟩]

def sampleEvent (sequence : Nat) (eventType : RunEventType) (taskState : TaskState) :
    RunEvent where
  eventId := "event-" ++ toString sequence
  decisionTaskId := "task"
  agentRunId := "run"
  sequence
  occurredAt := .toISOString 0
  eventType
  taskState
  summary := "summary"

/-- A recommendation of `a` under the must-haves `b\x00c` and `m`, where the first is
asserted by the given pair. -/
def sampleRecommendation (subjectId predicate : String) : SuccessfulDecisionTaskResult :=
  let draft : DecisionBundleDraft :=
    { requirementRevision :=
        { requirementRevisionId := "requirement"
          decisionTaskId := "task"
          revision := 1
          submittedText := "text"
          intendedUses := ["use"]
          budget := some ⟨true, false, 100⟩
          mustHaves :=
            [⟨"b\x00c", .atLeast, ⟨1, "unit"⟩⟩, ⟨"m", .atLeast, ⟨5, "unit"⟩⟩]
          niceToHaves := []
          mustNotHaves := []
          unknowns := [] }
      candidates := [sampleCandidate "a", sampleCandidate "a\x00b"]
      claims := sampleClaims subjectId predicate
      evidence := ["evidence-1", "evidence-2", "evidence-3"].map sampleEvidence
      claimEvidenceLinks :=
        [⟨"link-1", "task", "claim-1", "evidence-1", .supports⟩,
         ⟨"link-2", "task", "claim-2", "evidence-2", .supports⟩,
         ⟨"link-3", "task", "claim-3", "evidence-3", .supports⟩]
      decision := sampleDecision }
  { taskStatus := ⟨"task", "run", 2, "decision", .toISOString 0⟩
    runEvents := [sampleEvent 1 .taskStateChanged .created,
      sampleEvent 2 .runtimeSucceeded .completed]
    bundle := { draft with claimAssessments := deriveClaimAssessments draft } }

/-- The recommendation of `a` is accepted although only the other candidate has a claim in
the index entry of `a` and `b\x00c`. -/
theorem collision_not_proved :
    decodeDecisionTaskResultV1 (.succeeded (sampleRecommendation "a\x00b" "c")) =
        .ok (.succeeded (sampleRecommendation "a\x00b" "c")) ∧
      (sampleRecommendation "a\x00b" "c").bundle.decision.selectedCandidateId = some "a" ∧
      ¬ RecommendationProved (sampleRecommendation "a\x00b" "c").bundle "a" := by
  refine ⟨decodeDecisionTaskResultV1_eq_ok.mpr ⟨rfl, ?_, ?_⟩, rfl, ?_⟩
  · decide +kernel
  · decide +kernel
  · intro hproved
    have hcovered := covered_of_proved hproved
    revert hcovered
    decide +kernel

theorem sampleRecommendation_accepted :
    decodeDecisionTaskResultV1 (.succeeded (sampleRecommendation "a" "b\x00c")) =
      .ok (.succeeded (sampleRecommendation "a" "b\x00c")) :=
  decodeDecisionTaskResultV1_eq_ok.mpr ⟨rfl, by decide +kernel, by decide +kernel⟩

theorem recommendation_proved_iff_own_claim :
    RecommendationProved (sampleRecommendation "a" "b\x00c").bundle "a" ↔
      collisionsCovered (sampleRecommendation "a" "b\x00c").bundle "a" = true :=
  recommendation_proved_iff sampleRecommendation_accepted rfl

end Sample

end ChoiceMind.Contracts
