import ChoiceMind.Contracts.StatusClosure

/-!
# Eliminated candidates

An accepted recommendation divides its candidates into the selected one and the eliminated
ones, and every elimination names a hard constraint that the candidate violates. That the
candidate's own claims prove the violation depends on the composed key of the claim index.
-/

namespace ChoiceMind.Contracts

set_option autoImplicit false

/-! ### The statement -/

inductive HardConstraint
  | mustHave (constraint : RequirementConstraint)
  | budget (budget : Budget)

namespace HardConstraint

/-- The predicate of the claims that it is checked on. -/
def predicate : HardConstraint → String
  | .mustHave constraint => constraint.key
  | .budget _ => "price.observed"

def readValue : HardConstraint → Claim → Option Rat
  | .mustHave constraint => readQuantity constraint.value.unit
  | .budget _ => readMoney

def violatedBy (amount : Rat) : HardConstraint → Prop
  | .mustHave constraint =>
    satisfiesOperator constraint.operator amount constraint.value.amount = false
  | .budget limit => limit.maxAmountMinor < amount

end HardConstraint

/-- The requirement has the hard constraint, and the key names it. The key of the budget
names no must-have. -/
def RequirementRevision.Names (requirement : RequirementRevision) (requirementKey : String) :
    HardConstraint → Prop
  | .mustHave constraint => constraint ∈ requirement.mustHaves ∧
      constraint.key = requirementKey ∧ requirementKey ≠ "budget.maxAmountMinor"
  | .budget budget => requirement.budget = some budget ∧ budget.confirmed = true ∧
      budget.hard = true ∧ requirementKey = "budget.maxAmountMinor"

/-- The candidate's own fact assertions prove that it violates the constraint, and the
cited evidence supports one of them. -/
structure ProvesViolation (bundle : DecisionBundle) (candidateId : String)
    (constraint : HardConstraint) (evidenceIds : List String) : Prop where
  asserted : ∃ claim ∈ bundle.claims, claim.isFactOf candidateId constraint.predicate = true
  supported : ∀ claim ∈ bundle.claims,
    claim.isFactOf candidateId constraint.predicate = true →
    ∃ assessment ∈ bundle.claimAssessments, assessment.claimId = claim.claimId ∧
      assessment.evidenceState = .supported
  valued : ∃ amount, constraint.violatedBy amount ∧ ∀ claim ∈ bundle.claims,
    claim.isFactOf candidateId constraint.predicate = true →
      constraint.readValue claim = some amount
  cited : ∃ claim ∈ bundle.claims, claim.isFactOf candidateId constraint.predicate = true ∧
    ∃ assessment ∈ bundle.claimAssessments, assessment.claimId = claim.claimId ∧
      ∃ evidenceId ∈ evidenceIds, evidenceId ∈ assessment.supportingEvidenceIds

/-- Every candidate is selected or eliminated by one disposition, and not both. -/
structure CandidatesDivided (bundle : DecisionBundle) : Prop where
  divided : ∀ candidate ∈ bundle.candidates,
    bundle.decision.selectedCandidateId = some candidate.candidateId ∨
      ∃ disposition ∈ bundle.decision.candidateDispositions,
        disposition.candidateId = candidate.candidateId
  exclusive : ∀ disposition ∈ bundle.decision.candidateDispositions,
    bundle.decision.selectedCandidateId ≠ some disposition.candidateId
  once : (bundle.decision.candidateDispositions.map CandidateDisposition.candidateId).Nodup
  existing : ∀ disposition ∈ bundle.decision.candidateDispositions,
    ∃ candidate ∈ bundle.candidates, candidate.candidateId = disposition.candidateId

structure EliminationsSound (bundle : DecisionBundle) : Prop where
  divided : CandidatesDivided bundle
  proved : ∀ disposition ∈ bundle.decision.candidateDispositions, ∃ constraint,
    bundle.requirementRevision.Names disposition.requirementKey constraint ∧
    ProvesViolation bundle disposition.candidateId constraint disposition.evidenceIds

/-- The predicate of the hard constraint that a key names. -/
def constraintPredicate (requirementKey : String) : String :=
  if requirementKey = "budget.maxAmountMinor" then "price.observed" else requirementKey

/-- The disposition cites evidence of one of the candidate's own fact assertions. -/
def citesOwnClaim (bundle : DecisionBundle) (disposition : CandidateDisposition) : Bool :=
  bundle.claims.any fun claim =>
    claim.isFactOf disposition.candidateId (constraintPredicate disposition.requirementKey) &&
      bundle.claimAssessments.any fun assessment => assessment.claimId = claim.claimId &&
        disposition.evidenceIds.any fun evidenceId =>
          evidenceId ∈ assessment.supportingEvidenceIds

/-- Where the fact assertion of another pair shares the index entry of the eliminated
candidate and its constraint, the disposition cites a claim of the candidate's own. -/
def eliminationsCovered (bundle : DecisionBundle) : Bool :=
  bundle.decision.candidateDispositions.all fun disposition =>
    (!bundle.claims.any fun claim =>
      claim.collides disposition.candidateId (constraintPredicate disposition.requirementKey)) ||
    citesOwnClaim bundle disposition

/-! ### The checks of one disposition -/

section Disposition
variable {bundle : DecisionBundleDraft} {graph : EvidenceGraph}

/-- What the checks of a disposition establish, apart from the evidence it cites. -/
structure DispositionChecked (bundle : DecisionBundleDraft) (graph : EvidenceGraph)
    (disposition : CandidateDisposition) : Prop where
  exclusive : some disposition.candidateId ≠ bundle.decision.selectedCandidateId
  existing : ∃ candidate, graph.candidateById disposition.candidateId = some candidate
  violated : (assessDispositionConstraint disposition.candidateId disposition.requirementKey
    bundle.requirementRevision graph).status = .violated
  cited : ∃ evidenceId ∈ disposition.evidenceIds, evidenceId ∈
    (assessDispositionConstraint disposition.candidateId disposition.requirementKey
      bundle.requirementRevision graph).supportingEvidenceIds

theorem dispositionChecked_of_validate {index : Nat} {disposition : CandidateDisposition}
    (h : validateDisposition bundle graph index disposition = []) :
    disposition.candidateId ∉ (bundle.decision.candidateDispositions.take index).map
        CandidateDisposition.candidateId ∧
      DispositionChecked bundle graph disposition := by
  simp only [validateDisposition, List.append_eq_nil_iff, issueIf_eq_nil,
    decide_eq_false_iff_not, Option.isNone_eq_false_iff, Option.isSome_iff_exists] at h
  obtain ⟨⟨⟨⟨⟨hearlier, hexclusive⟩, hexisting⟩, -⟩, hhard⟩, hproves⟩ := h
  rw [Bool.not_eq_false'] at hhard
  rw [hhard, Bool.true_and, Bool.not_eq_false', Bool.and_eq_true, decide_eq_true_eq,
    List.any_eq_true] at hproves
  obtain ⟨hviolated, evidenceId, hin, hcited⟩ := hproves
  exact ⟨hearlier, hexclusive, hexisting, hviolated, evidenceId, hin, of_decide_eq_true hcited⟩

theorem constraint_violated {candidateId : String} {constraint : RequirementConstraint}
    (h : (assessCandidateConstraint candidateId constraint graph).status = .violated) :
    ∃ amount, satisfiesOperator constraint.operator amount constraint.value.amount = false ∧
      getOnlyValue (collectTrustedClaimValues candidateId constraint.key graph
        (readQuantity constraint.value.unit)) = some (amount,
          (assessCandidateConstraint candidateId constraint graph).supportingEvidenceIds) := by
  unfold assessCandidateConstraint at h ⊢
  split at h
  · cases h
  · rename_i amount supportingEvidenceIds hvalue
    simp only at h
    split at h
    · cases h
    · rename_i hviolated
      exact ⟨amount, Bool.eq_false_iff.mpr hviolated, hvalue⟩

theorem budget_violated {candidate : Candidate} {budget : Budget}
    (h : (assessCandidateBudgetConstraint candidate budget graph).status = .violated) :
    ∃ amount : Rat, budget.maxAmountMinor < amount ∧
      getOnlyValue (collectTrustedClaimValues candidate.candidateId "price.observed" graph
        readMoney) = some (amount,
          (assessCandidateBudgetConstraint candidate budget graph).supportingEvidenceIds) := by
  unfold assessCandidateBudgetConstraint at h ⊢
  split at h
  · cases h
  · rename_i amount supportingEvidenceIds hvalue
    split at h
    · cases h
    rename_i hprice
    simp only at h
    split at h
    · cases h
    · rename_i hover
      rw [if_neg hprice]
      exact ⟨amount, not_le.mp hover, hvalue⟩

/-- A violated assessment names its constraint and the one trusted amount that breaks it. -/
theorem exists_constraint_of_violated {candidateId requirementKey : String}
    {requirement : RequirementRevision}
    (hcandidates : ∀ candidate, graph.candidateById candidateId = some candidate →
      candidate.candidateId = candidateId)
    (h : (assessDispositionConstraint candidateId requirementKey requirement graph).status =
      .violated) :
    ∃ constraint, requirement.Names requirementKey constraint ∧
      constraint.predicate = constraintPredicate requirementKey ∧
      ∃ amount, constraint.violatedBy amount ∧
        getOnlyValue (collectTrustedClaimValues candidateId constraint.predicate graph
          constraint.readValue) = some (amount,
            (assessDispositionConstraint candidateId requirementKey requirement
              graph).supportingEvidenceIds) := by
  unfold assessDispositionConstraint at h ⊢
  split at h
  · rename_i hkey
    rw [if_pos hkey]
    split at h
    · rename_i candidate budget hcandidate hbudget
      obtain ⟨hsome, hhard⟩ := Option.filter_eq_some_iff.mp hbudget
      rw [Bool.and_eq_true] at hhard
      refine ⟨.budget budget, ⟨hsome, hhard.1, hhard.2, hkey⟩, ?_, ?_⟩
      · rw [constraintPredicate, if_pos hkey]
        rfl
      · have hviolated := budget_violated h
        rwa [hcandidates candidate hcandidate] at hviolated
    · cases h
  · rename_i hkey
    rw [if_neg hkey]
    split at h
    · cases h
    · rename_i constraint hfound
      have hnamed : constraint.key = requirementKey := by simpa using List.find?_some hfound
      refine ⟨.mustHave constraint, ⟨List.mem_of_find?_eq_some hfound, hnamed, hkey⟩, ?_,
        constraint_violated h⟩
      rw [constraintPredicate, if_neg hkey, ← hnamed]
      rfl

end Disposition

/-! ### The own claims of an eliminated candidate -/

section Eliminated
variable {decisionTaskId : String} {bundle : DecisionBundle}

/-- An index entry with one trusted amount that violates the constraint, read for the
candidate's own fact assertions. -/
theorem BasisChecked.provesViolation_of_cites (h : BasisChecked decisionTaskId bundle)
    {candidateId : String} {constraint : HardConstraint} {evidenceIds : List String}
    {amount : Rat} {supportingEvidenceIds : List String}
    (hvalue : getOnlyValue (collectTrustedClaimValues candidateId constraint.predicate
      (evidenceGraph bundle.toDecisionBundleDraft) constraint.readValue) =
        some (amount, supportingEvidenceIds))
    (hviolated : constraint.violatedBy amount)
    (hcited : ∃ claim ∈ bundle.claims, claim.isFactOf candidateId constraint.predicate = true ∧
      ∃ assessment ∈ bundle.claimAssessments, assessment.claimId = claim.claimId ∧
        ∃ evidenceId ∈ evidenceIds, evidenceId ∈ assessment.supportingEvidenceIds) :
    ProvesViolation bundle candidateId constraint evidenceIds := by
  obtain ⟨-, htrusted⟩ := trusted_of_getOnlyValue hvalue
  have hfacts : ∀ claim ∈ bundle.claims,
      claim.isFactOf candidateId constraint.predicate = true →
      TrustedClaim (evidenceGraph bundle.toDecisionBundleDraft) constraint.readValue
        ⟨[amount], supportingEvidenceIds⟩ claim := by
    intro claim hclaim hfact
    exact htrusted claim (mem_claimsAt_of_isFactOf hclaim hfact) (isFactOf_iff.mp hfact).1
  obtain ⟨claim, hclaim, hfact, hcites⟩ := hcited
  refine ⟨⟨claim, hclaim, hfact⟩, ?_, ⟨amount, hviolated, ?_⟩, claim, hclaim, hfact, hcites⟩
  · intro other hother hown
    obtain ⟨assessment, hfound, hsupported, -⟩ := (hfacts other hother hown).assessed
    obtain ⟨hin, hid⟩ := h.claimAssessmentById_eq_some.mp hfound
    exact ⟨assessment, hin, hid, hsupported⟩
  · intro other hother hown
    obtain ⟨value, hin, hread⟩ := (hfacts other hother hown).valued
    rw [hread, List.mem_singleton.mp hin]

/-- Without the fact assertions of other pairs the cited evidence supports an own claim. -/
theorem BasisChecked.cites_of_no_collision (h : BasisChecked decisionTaskId bundle)
    {candidateId predicate : String} {readValue : Claim → Option Rat}
    {evidenceIds supportingEvidenceIds : List String} {amount : Rat}
    (hvalue : getOnlyValue (collectTrustedClaimValues candidateId predicate
      (evidenceGraph bundle.toDecisionBundleDraft) readValue) =
        some (amount, supportingEvidenceIds))
    (hcited : ∃ evidenceId ∈ evidenceIds, evidenceId ∈ supportingEvidenceIds)
    (hown : ∀ claim ∈ bundle.claims, claim.collides candidateId predicate = false) :
    ∃ claim ∈ bundle.claims, claim.isFactOf candidateId predicate = true ∧
      ∃ assessment ∈ bundle.claimAssessments, assessment.claimId = claim.claimId ∧
        ∃ evidenceId ∈ evidenceIds, evidenceId ∈ assessment.supportingEvidenceIds := by
  obtain ⟨evidenceId, hin, hsupporting⟩ := hcited
  obtain ⟨claim, hentry, hkind, assessment, hfound, hevidence⟩ :=
    evidence_of_getOnlyValue hvalue hsupporting
  obtain ⟨hclaim, hkey⟩ := List.mem_filter.mp hentry
  obtain ⟨hassessment, hid⟩ := h.claimAssessmentById_eq_some.mp hfound
  refine ⟨claim, hclaim, ?_, assessment, hassessment, hid, evidenceId, hin, hevidence⟩
  by_contra hother
  have hforeign := Bool.eq_false_iff.mpr hother
  have hcollides : claim.collides candidateId predicate = true := by
    simp [Claim.collides, hkind, hforeign, of_decide_eq_true hkey]
  rw [hown claim hclaim] at hcollides
  cases hcollides

theorem citesOwnClaim_iff {disposition : CandidateDisposition} :
    citesOwnClaim bundle disposition = true ↔ ∃ claim ∈ bundle.claims,
      claim.isFactOf disposition.candidateId
        (constraintPredicate disposition.requirementKey) = true ∧
      ∃ assessment ∈ bundle.claimAssessments, assessment.claimId = claim.claimId ∧
        ∃ evidenceId ∈ disposition.evidenceIds,
          evidenceId ∈ assessment.supportingEvidenceIds := by
  simp only [citesOwnClaim, List.any_eq_true, Bool.and_eq_true, decide_eq_true_eq]

theorem predicate_eq_of_names {requirement : RequirementRevision} {requirementKey : String}
    {constraint : HardConstraint} (h : requirement.Names requirementKey constraint) :
    constraint.predicate = constraintPredicate requirementKey := by
  unfold constraintPredicate
  cases constraint with
  | mustHave constraint =>
    obtain ⟨-, hkey, hother⟩ := h
    rw [if_neg hother]
    exact hkey
  | budget budget =>
    obtain ⟨-, -, -, hkey⟩ := h
    rw [if_pos hkey]
    rfl

theorem BasisChecked.dispositions (h : BasisChecked decisionTaskId bundle) :
    (bundle.decision.candidateDispositions.map CandidateDisposition.candidateId).Nodup ∧
      ∀ disposition ∈ bundle.decision.candidateDispositions,
        DispositionChecked bundle.toDecisionBundleDraft
          (evidenceGraph bundle.toDecisionBundleDraft) disposition := by
  have heliminations := h.eliminations
  simp only [validateEliminations, List.append_eq_nil_iff] at heliminations
  have hchecks := forEachIssue_eq_nil.mp heliminations.1
  constructor
  · rw [← forall_not_mem_take_iff]
    intro candidateId index hindex
    rw [List.getElem?_map, Option.map_eq_some_iff] at hindex
    obtain ⟨disposition, hindex, rfl⟩ := hindex
    rw [← List.map_take]
    exact (dispositionChecked_of_validate (hchecks disposition index hindex)).1
  · intro disposition hin
    obtain ⟨index, hindex⟩ := List.mem_iff_getElem?.mp hin
    exact (dispositionChecked_of_validate (hchecks disposition index hindex)).2

theorem BasisChecked.candidatesDivided (h : BasisChecked decisionTaskId bundle)
    (hstatus : bundle.decision.status ≠ .needMoreInfo) : CandidatesDivided bundle := by
  obtain ⟨honce, hchecked⟩ := h.dispositions
  refine ⟨?_, fun disposition hin heq => (hchecked disposition hin).exclusive heq.symm, honce, ?_⟩
  · have heliminations := h.eliminations
    simp only [validateEliminations, List.append_eq_nil_iff] at heliminations
    have hunselected := heliminations.2
    rw [if_pos hstatus, forEachIssue_eq_nil] at hunselected
    intro candidate hin
    obtain ⟨index, hindex⟩ := List.mem_iff_getElem?.mp hin
    have hcandidate := issueIf_eq_nil.mp (hunselected candidate index hindex)
    rw [Bool.and_eq_false_iff, decide_eq_false_iff_not, not_not, decide_eq_false_iff_not,
      not_not] at hcandidate
    rcases hcandidate with hselected | heliminated
    · exact .inl hselected.symm
    · exact .inr (List.mem_map.mp heliminated)
  · intro disposition hin
    obtain ⟨candidate, hfound⟩ := (hchecked disposition hin).existing
    exact ⟨candidate, h.candidateById_eq_some.mp hfound⟩

theorem BasisChecked.eliminationsSound_iff (h : BasisChecked decisionTaskId bundle)
    (hstatus : bundle.decision.status ≠ .needMoreInfo) :
    EliminationsSound bundle ↔ eliminationsCovered bundle = true := by
  constructor
  · intro hsound
    apply List.all_eq_true.mpr
    intro disposition hin
    obtain ⟨constraint, hnames, hproves⟩ := hsound.proved disposition hin
    have hcited := hproves.cited
    rw [predicate_eq_of_names hnames] at hcited
    rw [citesOwnClaim_iff.mpr hcited, Bool.or_true]
  · intro hcovered
    refine ⟨h.candidatesDivided hstatus, fun disposition hin => ?_⟩
    have hchecked := h.dispositions.2 disposition hin
    obtain ⟨constraint, hnames, hpredicate, amount, hviolated, hvalue⟩ :=
      exists_constraint_of_violated
        (fun candidate hfound => (h.candidateById_eq_some.mp hfound).2) hchecked.violated
    refine ⟨constraint, hnames, h.provesViolation_of_cites hvalue hviolated ?_⟩
    have hcase := List.all_eq_true.mp hcovered disposition hin
    rw [Bool.or_eq_true, Bool.not_eq_true', List.any_eq_false, ← hpredicate] at hcase
    rcases hcase with hnone | hcites
    · exact h.cites_of_no_collision hvalue hchecked.cited fun claim hclaim =>
        Bool.eq_false_iff.mpr (hnone claim hclaim)
    · rw [hpredicate]
      exact citesOwnClaim_iff.mp hcites

end Eliminated

theorem eliminations_sound_iff {input : DecisionTaskResult}
    {result : SuccessfulDecisionTaskResult}
    (h : decodeDecisionTaskResultV1 input = .ok (.succeeded result))
    (hstatus : result.bundle.decision.status ≠ .needMoreInfo) :
    EliminationsSound result.bundle ↔ eliminationsCovered result.bundle = true :=
  (resultChecked_of_decoded h).basis.eliminationsSound_iff hstatus

section Sample

/-- A recommendation of `a\x00b` that eliminates `a` for the must-have `b\x00c`, whose
violation is asserted by the given pair. -/
def sampleElimination (subjectId predicate : String) : SuccessfulDecisionTaskResult :=
  let recommendation := sampleRecommendation subjectId predicate
  let draft : DecisionBundleDraft :=
    { recommendation.bundle.toDecisionBundleDraft with
      requirementRevision :=
        { recommendation.bundle.requirementRevision with
          mustHaves := [⟨"b\x00c", .atLeast, ⟨5, "unit"⟩⟩] }
      claims :=
        [⟨"claim-1", "task", subjectId, predicate, .quantity 2 "unit", .factAssertion⟩,
         ⟨"claim-2", "task", "a", "m", .quantity 6 "unit", .factAssertion⟩,
         ⟨"claim-3", "task", "a\x00b", "b\x00c", .quantity 6 "unit", .factAssertion⟩]
      claimEvidenceLinks :=
        [⟨"link-1", "task", "claim-1", "evidence-1", .supports⟩,
         ⟨"link-2", "task", "claim-2", "evidence-1", .supports⟩,
         ⟨"link-3", "task", "claim-3", "evidence-2", .supports⟩]
      evidence := ["evidence-1", "evidence-2"].map sampleEvidence
      decision :=
        { sampleDecision with
          selectedCandidateId := some "a\x00b"
          conditions := [⟨"condition", .maxPrice 10, "a\x00b", "verification"⟩]
          candidateDispositions := [⟨"disposition", "a", "b\x00c", "reason", ["evidence-1"]⟩] } }
  { recommendation with
    bundle := { draft with claimAssessments := deriveClaimAssessments draft } }

/-- The candidate `a` is eliminated by a claim about the selected candidate. -/
theorem elimination_not_proved :
    decodeDecisionTaskResultV1 (.succeeded (sampleElimination "a\x00b" "c")) =
        .ok (.succeeded (sampleElimination "a\x00b" "c")) ∧
      (sampleElimination "a\x00b" "c").bundle.decision.status ≠ .needMoreInfo ∧
      ¬ EliminationsSound (sampleElimination "a\x00b" "c").bundle := by
  have hdecoded := decodeDecisionTaskResultV1_eq_ok.mpr
    (⟨rfl, by decide +kernel, by decide +kernel⟩ :
      DecisionTaskResult.succeeded (sampleElimination "a\x00b" "c") = _ ∧ _ ∧ _)
  refine ⟨hdecoded, by decide, ?_⟩
  rw [(resultChecked_of_decoded hdecoded).basis.eliminationsSound_iff (by decide)]
  decide +kernel

theorem eliminations_sound_iff_own_claim :
    EliminationsSound (sampleElimination "a" "b\x00c").bundle ↔
      eliminationsCovered (sampleElimination "a" "b\x00c").bundle = true :=
  eliminations_sound_iff
    (decodeDecisionTaskResultV1_eq_ok.mpr ⟨rfl, by decide +kernel, by decide +kernel⟩)
    (by decide)

end Sample

end ChoiceMind.Contracts
