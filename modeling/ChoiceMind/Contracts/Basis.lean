import Mathlib.Data.List.Nodup
import ChoiceMind.Contracts.Invariants

/-!
# What the checks of a decision basis establish

Lookups by unique ids, the trusted values of an index entry, and a decision basis without
issues as one structure.
-/

namespace ChoiceMind.Contracts

set_option autoImplicit false

section Lookup
variable {α : Type} {key : α → String} {items : List α}

/-- No item equals an earlier one. -/
theorem forall_not_mem_take_iff {β : Type} {items : List β} :
    (∀ item index, items[index]? = some item → item ∉ items.take index) ↔ items.Nodup := by
  rw [List.Nodup, List.pairwise_iff_getElem]
  constructor
  · intro h i j hi hj hij heq
    exact h items[j] j (List.getElem?_eq_getElem hj)
      (List.mem_take_iff_getElem.mpr ⟨i, by omega, heq⟩)
  · intro h item index hitem hearlier
    obtain ⟨hlt, rfl⟩ := List.getElem?_eq_some_iff.mp hitem
    obtain ⟨i, hi, heq⟩ := List.mem_take_iff_getElem.mp hearlier
    exact h i index (by omega) hlt (by omega) heq

@[simp] theorem collectUniqueIds_eq_nil {ids : List String}
    {collectionPath idField entityName : String} :
    collectUniqueIds ids collectionPath idField entityName = [] ↔ ids.Nodup := by
  simp only [collectUniqueIds, forEachIssue_eq_nil, issueIf_eq_nil, decide_eq_false_iff_not,
    forall_not_mem_take_iff]

theorem byId_eq_some (hunique : (items.map key).Nodup) {id : String} {item : α} :
    byId key items id = some item ↔ item ∈ items ∧ key item = id := by
  unfold byId
  constructor
  · intro h
    exact ⟨List.mem_reverse.mp (List.mem_of_find?_eq_some h), by simpa using List.find?_some h⟩
  · rintro ⟨hitem, rfl⟩
    cases hfound : items.reverse.find? fun other => key other = key item with
    | none =>
      have hnone := List.find?_eq_none.mp hfound item (List.mem_reverse.mpr hitem)
      simp at hnone
    | some other =>
      have hother : other ∈ items := List.mem_reverse.mp (List.mem_of_find?_eq_some hfound)
      have hkey : key other = key item := by simpa using List.find?_some hfound
      rw [List.inj_on_of_nodup_map hunique hother hitem hkey]

end Lookup

section Trusted
variable {graph : EvidenceGraph} {readValue : Claim → Option Rat}

/-- What the loop over fact claims has established of one of them. -/
structure TrustedClaim (graph : EvidenceGraph) (readValue : Claim → Option Rat)
    (trusted : TrustedClaimValues) (claim : Claim) : Prop where
  assessed : ∃ assessment, graph.claimAssessmentById claim.claimId = some assessment ∧
    assessment.evidenceState = .supported ∧
    ∀ evidenceId ∈ assessment.supportingEvidenceIds, evidenceId ∈ trusted.supportingEvidenceIds
  valued : ∃ value ∈ trusted.values, readValue claim = some value

theorem mem_addToSet {β : Type} [DecidableEq β] {set : List β} {value other : β} :
    other ∈ addToSet set value ↔ other ∈ set ∨ other = value := by
  unfold addToSet
  split
  · rename_i hmem
    constructor
    · exact .inl
    · rintro (hset | rfl)
      · exact hset
      · exact hmem
  · simp

theorem mem_foldl_addToSet {β : Type} [DecidableEq β] {values set : List β} {other : β} :
    other ∈ values.foldl addToSet set ↔ other ∈ set ∨ other ∈ values := by
  induction values generalizing set with
  | nil => simp
  | cons value values ih => simp only [List.foldl_cons, ih, mem_addToSet, List.mem_cons, or_assoc]

theorem collectFactValues_eq_some {claims : List Claim}
    {collected trusted : TrustedClaimValues}
    (h : collectFactValues graph readValue claims collected = some trusted) :
    (∀ value ∈ collected.values, value ∈ trusted.values) ∧
      (∀ evidenceId ∈ collected.supportingEvidenceIds,
        evidenceId ∈ trusted.supportingEvidenceIds) ∧
      ∀ claim ∈ claims, TrustedClaim graph readValue trusted claim := by
  induction claims generalizing collected with
  | nil =>
    cases h
    simp
  | cons claim claims ih =>
    unfold collectFactValues at h
    split at h
    · rename_i assessment value hassessment hvalue
      split at h
      · cases h
      rename_i hsupported
      obtain ⟨hvalues, hevidence, hclaims⟩ := ih h
      refine ⟨fun v hv => hvalues v (mem_addToSet.mpr (.inl hv)),
        fun e he => hevidence e (mem_foldl_addToSet.mpr (.inl he)), ?_⟩
      intro other hother
      rcases List.mem_cons.mp hother with rfl | hother
      · exact ⟨⟨assessment, hassessment, not_not.mp hsupported,
          fun e he => hevidence e (mem_foldl_addToSet.mpr (.inr he))⟩,
          value, hvalues value (mem_addToSet.mpr (.inr rfl)), hvalue⟩
      · exact hclaims other hother
    · cases h

/-- The collected evidence supports one of the claims that were gone through. -/
theorem collectFactValues_evidence {claims : List Claim}
    {collected trusted : TrustedClaimValues}
    (h : collectFactValues graph readValue claims collected = some trusted) {evidenceId : String}
    (hevidence : evidenceId ∈ trusted.supportingEvidenceIds) :
    evidenceId ∈ collected.supportingEvidenceIds ∨ ∃ claim ∈ claims, ∃ assessment,
      graph.claimAssessmentById claim.claimId = some assessment ∧
      evidenceId ∈ assessment.supportingEvidenceIds := by
  induction claims generalizing collected with
  | nil =>
    cases h
    exact .inl hevidence
  | cons claim claims ih =>
    unfold collectFactValues at h
    split at h
    · rename_i assessment value hassessment hvalue
      split at h
      · cases h
      rcases ih h with hcollected | ⟨other, hother, found, hfound, hin⟩
      · rcases mem_foldl_addToSet.mp hcollected with hold | hnew
        · exact .inl hold
        · exact .inr ⟨claim, List.mem_cons_self, assessment, hassessment, hnew⟩
      · exact .inr ⟨other, List.mem_cons_of_mem _ hother, found, hfound, hin⟩
    · cases h

/-- A single trusted value is the value of every fact claim of the index entry. -/
theorem trusted_of_getOnlyValue {candidateId predicate : String} {amount : Rat}
    {supportingEvidenceIds : List String}
    (h : getOnlyValue (collectTrustedClaimValues candidateId predicate graph readValue) =
      some (amount, supportingEvidenceIds)) :
    (∃ claim ∈ graph.claimsAt (claimIndexKey candidateId predicate),
        claim.claimKind = .factAssertion) ∧
      ∀ claim ∈ graph.claimsAt (claimIndexKey candidateId predicate),
        claim.claimKind = .factAssertion →
        TrustedClaim graph readValue ⟨[amount], supportingEvidenceIds⟩ claim := by
  unfold getOnlyValue at h
  split at h
  · rename_i value evidenceIds htrusted
    cases h
    unfold collectTrustedClaimValues at htrusted
    simp only at htrusted
    split at htrusted
    · cases htrusted
    rename_i hne
    obtain ⟨-, -, hclaims⟩ := collectFactValues_eq_some htrusted
    simp only [List.mem_filter, decide_eq_true_eq] at hclaims
    refine ⟨?_, fun claim hclaim hkind => hclaims claim ⟨hclaim, hkind⟩⟩
    obtain ⟨claim, hclaim⟩ := List.exists_mem_of_ne_nil _ hne
    simp only [List.mem_filter, decide_eq_true_eq] at hclaim
    exact ⟨claim, hclaim⟩
  · cases h

/-- Its evidence supports one of them. -/
theorem evidence_of_getOnlyValue {candidateId predicate : String} {amount : Rat}
    {supportingEvidenceIds : List String}
    (h : getOnlyValue (collectTrustedClaimValues candidateId predicate graph readValue) =
      some (amount, supportingEvidenceIds)) {evidenceId : String}
    (hevidence : evidenceId ∈ supportingEvidenceIds) :
    ∃ claim ∈ graph.claimsAt (claimIndexKey candidateId predicate),
      claim.claimKind = .factAssertion ∧ ∃ assessment,
        graph.claimAssessmentById claim.claimId = some assessment ∧
        evidenceId ∈ assessment.supportingEvidenceIds := by
  unfold getOnlyValue at h
  split at h
  · rename_i value evidenceIds htrusted
    cases h
    unfold collectTrustedClaimValues at htrusted
    simp only at htrusted
    split at htrusted
    · cases htrusted
    rcases collectFactValues_evidence htrusted hevidence with hnone | ⟨claim, hclaim, hassessed⟩
    · cases hnone
    · simp only [List.mem_filter, decide_eq_true_eq] at hclaim
      exact ⟨claim, hclaim.1, hclaim.2, hassessed⟩
  · cases h

end Trusted

/-! ### A decision basis without issues -/

/-- A check that does not look at the index holds of every item. -/
theorem forEachIssue_const_eq_nil {α : Type} {items : List α} {check : Nat → α → List ContractIssue}
    {holds : α → Prop} (hcheck : ∀ index item, check index item = [] ↔ holds item) :
    forEachIssue items check = [] ↔ ∀ item ∈ items, holds item := by
  simp only [forEachIssue_eq_nil, hcheck, List.mem_iff_getElem?]
  constructor
  · rintro h item ⟨index, hindex⟩
    exact h item index hindex
  · intro h item index hindex
    exact h item ⟨index, hindex⟩

/-- An evidence graph without issues. -/
structure GraphWellFormed (decisionTaskId : String) (bundle : DecisionBundleDraft) : Prop where
  candidateIds : (bundle.candidates.map Candidate.candidateId).Nodup
  claimIds : (bundle.claims.map Claim.claimId).Nodup
  evidenceIds : (bundle.evidence.map Evidence.evidenceId).Nodup
  linkIds : (bundle.claimEvidenceLinks.map ClaimEvidenceLink.linkId).Nodup
  candidates : ∀ candidate ∈ bundle.candidates, candidate.decisionTaskId = decisionTaskId
  claims : ∀ claim ∈ bundle.claims, claim.decisionTaskId = decisionTaskId ∧
    claim.subjectId ∈ bundle.candidates.map Candidate.candidateId
  evidence : ∀ evidence ∈ bundle.evidence, evidence.decisionTaskId = decisionTaskId ∧
    isBeforeUtc evidence.validUntil evidence.capturedAt = false ∧
    isBeforeUtc bundle.decision.validFrom evidence.capturedAt = false
  validity : isBeforeUtc bundle.decision.validUntil bundle.decision.validFrom = false
  links : ∀ link ∈ bundle.claimEvidenceLinks, link.decisionTaskId = decisionTaskId ∧
    link.claimId ∈ bundle.claims.map Claim.claimId ∧
    link.evidenceId ∈ bundle.evidence.map Evidence.evidenceId
  pairs : (bundle.claimEvidenceLinks.map claimEvidencePairKey).Nodup
  linked : ∀ evidence ∈ bundle.evidence, ∃ link ∈ bundle.claimEvidenceLinks,
    link.evidenceId = evidence.evidenceId

/-- The checks of the links: each refers to members of the graph and repeats no pair. -/
theorem linkIssues_eq_nil {decisionTaskId : String} {claimIds evidenceIds : List String}
    {links : List ClaimEvidenceLink} :
    (forEachIssue links fun index link =>
      issueIf (link.decisionTaskId ≠ decisionTaskId)
        ("bundle.claimEvidenceLinks." ++ toString index ++ ".decisionTaskId")
        "Claim-Evidence Link 必须属于结果中的 Decision Task" ++
      issueIf (link.claimId ∉ claimIds)
        ("bundle.claimEvidenceLinks." ++ toString index ++ ".claimId")
        "Claim-Evidence Link 必须引用存在的 Claim" ++
      issueIf (link.evidenceId ∉ evidenceIds)
        ("bundle.claimEvidenceLinks." ++ toString index ++ ".evidenceId")
        "Claim-Evidence Link 必须引用存在的 Evidence" ++
      issueIf (claimEvidencePairKey link ∈ (links.map claimEvidencePairKey).take index)
        ("bundle.claimEvidenceLinks." ++ toString index ++ ".evidenceId")
        "同一 Claim 与 Evidence 组合只能有一个关系方向") = [] ↔
      (∀ link ∈ links, link.decisionTaskId = decisionTaskId ∧ link.claimId ∈ claimIds ∧
        link.evidenceId ∈ evidenceIds) ∧ (links.map claimEvidencePairKey).Nodup := by
  simp only [forEachIssue_eq_nil, List.append_eq_nil_iff, issueIf_eq_nil,
    decide_eq_false_iff_not, not_not, ← forall_not_mem_take_iff, List.getElem?_map,
    Option.map_eq_some_iff]
  constructor
  · intro h
    refine ⟨fun link hlink => ?_, ?_⟩
    · obtain ⟨index, hindex⟩ := List.mem_iff_getElem?.mp hlink
      obtain ⟨⟨⟨htask, hclaim⟩, hevidence⟩, -⟩ := h link index hindex
      exact ⟨htask, hclaim, hevidence⟩
    · rintro key index ⟨link, hindex, rfl⟩
      exact (h link index hindex).2
  · rintro ⟨hlinks, hpairs⟩ link index hindex
    obtain ⟨htask, hclaim, hevidence⟩ := hlinks link (List.mem_of_getElem? hindex)
    exact ⟨⟨⟨htask, hclaim⟩, hevidence⟩, hpairs _ index ⟨link, hindex, rfl⟩⟩

theorem basisIssues_eq_nil {decisionTaskId : String} {bundle : DecisionBundleDraft} :
    basisIssues decisionTaskId bundle = [] ↔ GraphWellFormed decisionTaskId bundle := by
  have hlinked : (∀ evidence ∈ bundle.evidence, evidence.evidenceId ∈
        bundle.claimEvidenceLinks.filterMap fun link =>
          if link.evidenceId ∈ bundle.evidence.map Evidence.evidenceId then some link.evidenceId
          else none) ↔
      ∀ evidence ∈ bundle.evidence, ∃ link ∈ bundle.claimEvidenceLinks,
        link.evidenceId = evidence.evidenceId := by
    refine forall₂_congr fun evidence hevidence => ?_
    rw [List.mem_filterMap]
    constructor
    · rintro ⟨link, hlink, hid⟩
      split at hid
      · exact ⟨link, hlink, Option.some.inj hid⟩
      · cases hid
    · rintro ⟨link, hlink, hid⟩
      refine ⟨link, hlink, ?_⟩
      rw [hid, if_pos (List.mem_map_of_mem hevidence)]
  simp only [basisIssues, List.append_eq_nil_iff, collectUniqueIds_eq_nil, linkIssues_eq_nil,
    issueIf_eq_nil]
  rw [forEachIssue_const_eq_nil fun _ _ => by
      rw [issueIf_eq_nil, decide_eq_false_iff_not, not_not],
    forEachIssue_const_eq_nil fun _ _ => by
      rw [List.append_eq_nil_iff, issueIf_eq_nil, issueIf_eq_nil, decide_eq_false_iff_not,
        decide_eq_false_iff_not, not_not, not_not],
    forEachIssue_const_eq_nil fun _ _ => by
      rw [List.append_eq_nil_iff, List.append_eq_nil_iff, issueIf_eq_nil, issueIf_eq_nil,
        issueIf_eq_nil, decide_eq_false_iff_not, not_not],
    forEachIssue_const_eq_nil fun _ _ => by
      rw [issueIf_eq_nil, decide_eq_false_iff_not, not_not], hlinked]
  constructor
  · rintro ⟨⟨⟨⟨⟨⟨⟨⟨⟨hcandidateIds, hclaimIds⟩, hevidenceIds⟩, hlinkIds⟩, hcandidates⟩, hclaims⟩,
      hevidence⟩, hvalidity⟩, hlinks, hpairs⟩, hall⟩
    exact ⟨hcandidateIds, hclaimIds, hevidenceIds, hlinkIds, hcandidates, hclaims,
      fun evidence hin => ⟨(hevidence evidence hin).1.1, (hevidence evidence hin).1.2,
        (hevidence evidence hin).2⟩, hvalidity, hlinks, hpairs, hall⟩
  · intro h
    exact ⟨⟨⟨⟨⟨⟨⟨⟨⟨h.candidateIds, h.claimIds⟩, h.evidenceIds⟩, h.linkIds⟩, h.candidates⟩,
      h.claims⟩, fun evidence hin => ⟨⟨(h.evidence evidence hin).1, (h.evidence evidence hin).2.1⟩,
        (h.evidence evidence hin).2.2⟩⟩, h.validity⟩, h.links, h.pairs⟩, h.linked⟩

theorem validateCanonicalAssessments_eq_nil {actual expected : List ClaimAssessment} :
    validateCanonicalAssessments actual expected = [] ↔
      actual = expected ∧ (actual.map ClaimAssessment.claimId).Nodup := by
  simp only [validateCanonicalAssessments, List.append_eq_nil_iff, issueIf_eq_nil,
    collectUniqueIds_eq_nil, decide_eq_false_iff_not, not_not, forEachIssue_eq_nil]
  constructor
  · rintro ⟨⟨hnodup, hlength⟩, hpairs⟩
    refine ⟨List.ext_getElem hlength fun index hi hj => ?_, hnodup⟩
    apply hpairs (actual[index], expected[index]) index
    rw [List.getElem?_eq_some_iff]
    exact ⟨by simp [hi, hj], List.getElem_zip⟩
  · rintro ⟨rfl, hnodup⟩
    refine ⟨⟨hnodup, rfl⟩, fun pair index hindex => ?_⟩
    obtain ⟨hlt, rfl⟩ := List.getElem?_eq_some_iff.mp hindex
    rw [List.getElem_zip]

theorem claimIds_deriveClaimAssessments (draft : DecisionBundleDraft) :
    ((deriveClaimAssessments draft).map ClaimAssessment.claimId).Perm
      (draft.claims.map Claim.claimId) := by
  have hids : (deriveClaimAssessments draft).map ClaimAssessment.claimId =
      (draft.claims.insertionSort fun a b => codeUnitsLe a.claimId b.claimId).map
        Claim.claimId := by
    rw [deriveClaimAssessments, List.map_map]
    rfl
  rw [hids]
  exact (List.perm_insertionSort _ _).map _

/-- A decision basis without issues, check by check. -/
structure BasisChecked (decisionTaskId : String) (bundle : DecisionBundle) : Prop where
  graph : GraphWellFormed decisionTaskId bundle.toDecisionBundleDraft
  assessments : bundle.claimAssessments = deriveClaimAssessments bundle.toDecisionBundleDraft
  dispositionIds :
    (bundle.decision.candidateDispositions.map CandidateDisposition.dispositionId).Nodup
  found : (bundle.decision.selectedCandidateId.isSome &&
    (bundle.decision.selectedCandidateId.bind
      (evidenceGraph bundle.toDecisionBundleDraft).candidateById).isNone) = false
  selected : validateSelectedCandidateBasis (bundle.decision.selectedCandidateId.bind
    (evidenceGraph bundle.toDecisionBundleDraft).candidateById) bundle.requirementRevision
    (evidenceGraph bundle.toDecisionBundleDraft) = []
  eliminations : validateEliminations bundle.toDecisionBundleDraft
    (evidenceGraph bundle.toDecisionBundleDraft) = []
  risks : validateRiskClaimBasis bundle.toDecisionBundleDraft
    (evidenceGraph bundle.toDecisionBundleDraft) = []
  closure : validateDecisionEvidenceClosure bundle.toDecisionBundleDraft
    (evidenceGraph bundle.toDecisionBundleDraft) = []

theorem checkDecisionBasisV1_eq_nil {decisionTaskId : String} {bundle : DecisionBundle} :
    checkDecisionBasisV1 decisionTaskId bundle = [] ↔ BasisChecked decisionTaskId bundle := by
  by_cases hgraph : basisIssues decisionTaskId bundle.toDecisionBundleDraft = []
  · have hwell := basisIssues_eq_nil.mp hgraph
    simp only [checkDecisionBasisV1, ne_eq, hgraph, not_true_eq_false, if_false,
      List.append_eq_nil_iff, validateCanonicalAssessments_eq_nil, collectUniqueIds_eq_nil,
      issueIf_eq_nil]
    constructor
    · rintro ⟨⟨⟨⟨⟨⟨⟨hassessments, -⟩, hids⟩, hfound⟩, hselected⟩, heliminations⟩, hrisks⟩, hclosure⟩
      exact ⟨hwell, hassessments, hids, hfound, hselected, heliminations, hrisks, hclosure⟩
    · intro h
      refine ⟨⟨⟨⟨⟨⟨⟨h.assessments, ?_⟩, h.dispositionIds⟩, h.found⟩, h.selected⟩,
        h.eliminations⟩, h.risks⟩, h.closure⟩
      rw [h.assessments]
      exact (claimIds_deriveClaimAssessments _).nodup_iff.mpr hwell.claimIds
  · simp only [checkDecisionBasisV1, ne_eq, hgraph, not_false_eq_true, if_true]
    exact iff_of_false id fun h => hgraph (basisIssues_eq_nil.mpr h.graph)

namespace BasisChecked
variable {decisionTaskId : String} {bundle : DecisionBundle}

theorem candidateById_eq_some (h : BasisChecked decisionTaskId bundle) {candidateId : String}
    {candidate : Candidate} :
    (evidenceGraph bundle.toDecisionBundleDraft).candidateById candidateId = some candidate ↔
      candidate ∈ bundle.candidates ∧ candidate.candidateId = candidateId :=
  byId_eq_some h.graph.candidateIds

theorem claimById_eq_some (h : BasisChecked decisionTaskId bundle) {claimId : String}
    {claim : Claim} :
    (evidenceGraph bundle.toDecisionBundleDraft).claimById claimId = some claim ↔
      claim ∈ bundle.claims ∧ claim.claimId = claimId :=
  byId_eq_some h.graph.claimIds

/-- Reading the canonical assessments by claim id finds the stored one. -/
theorem claimAssessmentById_eq_some (h : BasisChecked decisionTaskId bundle) {claimId : String}
    {assessment : ClaimAssessment} :
    (evidenceGraph bundle.toDecisionBundleDraft).claimAssessmentById claimId = some assessment ↔
      assessment ∈ bundle.claimAssessments ∧ assessment.claimId = claimId := by
  have hnodup := (claimIds_deriveClaimAssessments bundle.toDecisionBundleDraft).nodup_iff.mpr
    h.graph.claimIds
  rw [h.assessments]
  exact byId_eq_some hnodup

end BasisChecked

end ChoiceMind.Contracts
