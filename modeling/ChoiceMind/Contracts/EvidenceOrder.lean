import ChoiceMind.Contracts.Canonical
import ChoiceMind.Contracts.Finalize

/-!
# The evidence that counts

The derived assessments depend on the members of the graph and not on their order, and the
links of evidence that has expired add nothing to them.
-/

namespace ChoiceMind.Contracts

set_option autoImplicit false

/-! ### The statement -/

/-- Two drafts with the same members of the graph, in any order. -/
structure SameMembers (bundle other : DecisionBundleDraft) : Prop where
  candidates : bundle.candidates.Perm other.candidates
  claims : bundle.claims.Perm other.claims
  evidence : bundle.evidence.Perm other.evidence
  links : bundle.claimEvidenceLinks.Perm other.claimEvidenceLinks
  decision : bundle.decision = other.decision

/-- The draft with one more evidence record and links. -/
def DecisionBundleDraft.addEvidence (bundle : DecisionBundleDraft) (evidence : Evidence)
    (links : List ClaimEvidenceLink) : DecisionBundleDraft :=
  { bundle with
    evidence := evidence :: bundle.evidence
    claimEvidenceLinks := links ++ bundle.claimEvidenceLinks }

/-- A record that is not yet part of the draft, valid and captured in time, but expired when
the decision takes effect. -/
structure ExpiredEvidence (decisionTaskId : String) (bundle : DecisionBundleDraft)
    (evidence : Evidence) : Prop where
  fresh : evidence.evidenceId ∉ bundle.evidence.map Evidence.evidenceId
  decisionTaskId : evidence.decisionTaskId = decisionTaskId
  valid : isBeforeUtc evidence.validUntil evidence.capturedAt = false
  captured : isBeforeUtc bundle.decision.validFrom evidence.capturedAt = false
  expired : isBeforeUtc evidence.validUntil bundle.decision.validFrom = true

/-- Links from the evidence to existing claims. -/
def LinksOf (bundle : DecisionBundleDraft) (evidence : Evidence)
    (links : List ClaimEvidenceLink) : Prop :=
  ∀ link ∈ links, link.evidenceId = evidence.evidenceId ∧
    link.claimId ∈ bundle.claims.map Claim.claimId

/-- The links that the graph admits beside its own. -/
structure LinksAdmitted (decisionTaskId : String) (bundle : DecisionBundleDraft)
    (links : List ClaimEvidenceLink) : Prop where
  nonempty : links ≠ []
  decisionTaskId : ∀ link ∈ links, link.decisionTaskId = decisionTaskId
  linkIds : ((links ++ bundle.claimEvidenceLinks).map ClaimEvidenceLink.linkId).Nodup
  pairs : ((links ++ bundle.claimEvidenceLinks).map claimEvidencePairKey).Nodup

/-! ### The order of the members -/

section Order
variable {α : Type} {key : α → String}

/-- A unique id is found at any place of the list. -/
theorem byId_perm {items others : List α} (hunique : (others.map key).Nodup)
    (hperm : items.Perm others) (id : String) : byId key items id = byId key others id := by
  apply Option.ext
  intro item
  rw [byId_eq_some ((hperm.map key).nodup_iff.mpr hunique), byId_eq_some hunique,
    hperm.mem_iff]

theorem nodup_foldl_addToSet {β : Type} [DecidableEq β] {values set : List β}
    (h : set.Nodup) : (values.foldl addToSet set).Nodup := by
  induction values generalizing set with
  | nil => exact h
  | cons value values ih =>
    apply ih
    unfold addToSet
    split
    · exact h
    · rename_i hfresh
      exact List.nodup_append.mpr ⟨h, List.nodup_singleton _, by
        intro other hother _ hvalue heq
        rw [List.mem_singleton.mp hvalue] at heq
        exact hfresh (heq ▸ hother)⟩

/-- The sorted ids of a set do not depend on the order of insertion. -/
theorem sortIds_foldl_addToSet_perm {ids others : List String} (hperm : ids.Perm others) :
    sortIds (ids.foldl addToSet []) = sortIds (others.foldl addToSet []) := by
  have hnodup : ∀ values : List String, (values.foldl addToSet []).Nodup := fun values =>
    nodup_foldl_addToSet List.nodup_nil
  have hsets : (ids.foldl addToSet []).Perm (others.foldl addToSet []) := by
    rw [List.perm_ext_iff_of_nodup (hnodup ids) (hnodup others)]
    intro id
    rw [mem_foldl_addToSet, mem_foldl_addToSet, hperm.mem_iff]
  have hkeys : ((others.foldl addToSet []).map id).Nodup := by
    rw [List.map_id]
    exact hnodup others
  exact Json.insertionSort_eq_of_perm keyOrder_codeUnitsLe hkeys hsets

end Order

/-! ### One assessment -/

/-- The links of evidence that is still valid. -/
def eligibleLinks (links : List ClaimEvidenceLink) (evidence : List Evidence)
    (validFrom : UtcTimestamp) : List ClaimEvidenceLink :=
  links.filter fun link =>
    match byId Evidence.evidenceId evidence link.evidenceId with
    | none => false
    | some found => !isBeforeUtc found.validUntil validFrom

/-- The evidence that the links name in one direction. -/
def evidenceIdsOf (links : List ClaimEvidenceLink) (direction : LinkDirection) : List String :=
  sortIds <| (links.filter fun link => link.direction = direction).foldl
    (fun ids link => addToSet ids link.evidenceId) []

/-- The assessment of a claim with this evidence. -/
def assessmentOf (claimId : String) (supporting refuting : List String) : ClaimAssessment where
  claimId
  evidenceState :=
    if supporting ≠ [] then (if refuting ≠ [] then .conflicted else .supported)
    else if refuting ≠ [] then .refuted
    else .insufficient
  supportingEvidenceIds := supporting
  refutingEvidenceIds := refuting

theorem deriveClaimAssessment_eq (claim : Claim) (links : List ClaimEvidenceLink)
    (evidence : List Evidence) (validFrom : UtcTimestamp) :
    deriveClaimAssessment claim links evidence validFrom = assessmentOf claim.claimId
      (evidenceIdsOf (eligibleLinks links evidence validFrom) .supports)
      (evidenceIdsOf (eligibleLinks links evidence validFrom) .refutes) := rfl

theorem evidenceIdsOf_perm {links others : List ClaimEvidenceLink} (hperm : links.Perm others)
    (direction : LinkDirection) : evidenceIdsOf links direction = evidenceIdsOf others direction := by
  have hmap : ∀ ls : List ClaimEvidenceLink,
      ls.foldl (fun ids link => addToSet ids link.evidenceId) [] =
        (ls.map ClaimEvidenceLink.evidenceId).foldl addToSet [] := fun ls => List.foldl_map.symm
  rw [evidenceIdsOf, evidenceIdsOf, hmap, hmap]
  exact sortIds_foldl_addToSet_perm ((hperm.filter _).map _)

/-- An assessment depends on the eligible links, in any order. -/
theorem deriveClaimAssessment_congr {claim : Claim} {links others : List ClaimEvidenceLink}
    {evidence otherEvidence : List Evidence} {validFrom : UtcTimestamp}
    (h : (eligibleLinks links evidence validFrom).Perm
      (eligibleLinks others otherEvidence validFrom)) :
    deriveClaimAssessment claim links evidence validFrom =
      deriveClaimAssessment claim others otherEvidence validFrom := by
  rw [deriveClaimAssessment_eq, deriveClaimAssessment_eq, evidenceIdsOf_perm h,
    evidenceIdsOf_perm h]

section Members
variable {decisionTaskId : String} {bundle other : DecisionBundleDraft}

theorem SameMembers.symm (h : SameMembers bundle other) : SameMembers other bundle :=
  ⟨h.candidates.symm, h.claims.symm, h.evidence.symm, h.links.symm, h.decision.symm⟩

theorem GraphWellFormed.of_sameMembers (h : GraphWellFormed decisionTaskId bundle)
    (hsame : SameMembers bundle other) : GraphWellFormed decisionTaskId other where
  candidateIds := (hsame.candidates.map _).nodup_iff.mp h.candidateIds
  claimIds := (hsame.claims.map _).nodup_iff.mp h.claimIds
  evidenceIds := (hsame.evidence.map _).nodup_iff.mp h.evidenceIds
  linkIds := (hsame.links.map _).nodup_iff.mp h.linkIds
  candidates candidate hin := h.candidates candidate (hsame.candidates.mem_iff.mpr hin)
  claims claim hin := by
    obtain ⟨htask, hsubject⟩ := h.claims claim (hsame.claims.mem_iff.mpr hin)
    exact ⟨htask, (hsame.candidates.map _).mem_iff.mp hsubject⟩
  evidence evidence hin := by
    rw [← hsame.decision]
    exact h.evidence evidence (hsame.evidence.mem_iff.mpr hin)
  validity := by
    rw [← hsame.decision]
    exact h.validity
  links link hin := by
    obtain ⟨htask, hclaim, hevidence⟩ := h.links link (hsame.links.mem_iff.mpr hin)
    exact ⟨htask, (hsame.claims.map _).mem_iff.mp hclaim,
      (hsame.evidence.map _).mem_iff.mp hevidence⟩
  pairs := (hsame.links.map _).nodup_iff.mp h.pairs
  linked evidence hin := by
    obtain ⟨link, hlink, hid⟩ := h.linked evidence (hsame.evidence.mem_iff.mpr hin)
    exact ⟨link, hsame.links.mem_iff.mp hlink, hid⟩

/-- Assessments that agree claim by claim are the same list once sorted. -/
theorem deriveClaimAssessments_congr (hclaimIds : (other.claims.map Claim.claimId).Nodup)
    (hclaims : bundle.claims.Perm other.claims)
    (hderived : ∀ claim ∈ other.claims,
      deriveClaimAssessment claim
          (bundle.claimEvidenceLinks.filter fun link => link.claimId = claim.claimId)
          bundle.evidence bundle.decision.validFrom =
        deriveClaimAssessment claim
          (other.claimEvidenceLinks.filter fun link => link.claimId = claim.claimId)
          other.evidence other.decision.validFrom) :
    deriveClaimAssessments bundle = deriveClaimAssessments other := by
  have hsorted := Json.insertionSort_eq_of_perm keyOrder_codeUnitsLe hclaimIds hclaims
  unfold deriveClaimAssessments
  rw [hsorted]
  apply List.map_congr_left
  intro claim hin
  exact hderived claim ((List.mem_insertionSort _).mp hin)

theorem deriveClaimAssessments_of_sameMembers (h : GraphWellFormed decisionTaskId other)
    (hsame : SameMembers bundle other) :
    deriveClaimAssessments bundle = deriveClaimAssessments other := by
  refine deriveClaimAssessments_congr h.claimIds hsame.claims fun claim _ => ?_
  rw [hsame.decision]
  apply deriveClaimAssessment_congr
  unfold eligibleLinks
  simp only [byId_perm h.evidenceIds hsame.evidence]
  exact (hsame.links.filter _).filter _

/-- The verdict of the evaluation: no issues exactly for a well-formed graph, and then the
derived assessments. -/
theorem evaluateDecisionBasisV1_issues_eq_nil :
    (evaluateDecisionBasisV1 decisionTaskId bundle).2 = [] ↔
      GraphWellFormed decisionTaskId bundle := by
  rw [← basisIssues_eq_nil]
  unfold evaluateDecisionBasisV1
  split
  · rfl
  · rename_i hnone
    exact iff_of_true rfl (not_not.mp hnone)

theorem evaluateDecisionBasisV1_of_issues
    (h : ¬ GraphWellFormed decisionTaskId bundle) :
    (evaluateDecisionBasisV1 decisionTaskId bundle).1 = [] := by
  rw [← basisIssues_eq_nil] at h
  rw [evaluateDecisionBasisV1, if_pos h]

theorem evaluateDecisionBasisV1_of_sameMembers (hsame : SameMembers bundle other) :
    ((evaluateDecisionBasisV1 decisionTaskId bundle).2 = [] ↔
      (evaluateDecisionBasisV1 decisionTaskId other).2 = []) ∧
    (evaluateDecisionBasisV1 decisionTaskId bundle).1 =
      (evaluateDecisionBasisV1 decisionTaskId other).1 := by
  have hiff : GraphWellFormed decisionTaskId bundle ↔ GraphWellFormed decisionTaskId other :=
    ⟨fun h => h.of_sameMembers hsame, fun h => h.of_sameMembers hsame.symm⟩
  refine ⟨by rw [evaluateDecisionBasisV1_issues_eq_nil, evaluateDecisionBasisV1_issues_eq_nil,
    hiff], ?_⟩
  by_cases hwell : GraphWellFormed decisionTaskId other
  · rw [evaluateDecisionBasisV1_of_wellFormed (hiff.mpr hwell),
      evaluateDecisionBasisV1_of_wellFormed hwell]
    exact deriveClaimAssessments_of_sameMembers hwell hsame
  · rw [evaluateDecisionBasisV1_of_issues fun h => hwell (hiff.mp h),
      evaluateDecisionBasisV1_of_issues hwell]

end Members

/-! ### Expired evidence -/

section Expired
variable {decisionTaskId : String} {bundle : DecisionBundleDraft} {evidence : Evidence}
  {links : List ClaimEvidenceLink}

/-- The graph with an expired record and its links is well formed exactly when the links
are admitted. -/
theorem wellFormed_addEvidence (h : GraphWellFormed decisionTaskId bundle)
    (hevidence : ExpiredEvidence decisionTaskId bundle evidence)
    (hlinks : LinksOf bundle evidence links) :
    GraphWellFormed decisionTaskId (bundle.addEvidence evidence links) ↔
      LinksAdmitted decisionTaskId bundle links := by
  constructor
  · intro hwell
    refine ⟨?_, fun link hin => (hwell.links link (List.mem_append_left _ hin)).1,
      hwell.linkIds, hwell.pairs⟩
    rintro rfl
    obtain ⟨link, hlink, hid⟩ := hwell.linked evidence List.mem_cons_self
    -- an old link to the new record would refer to a record of the old graph
    exact hevidence.fresh (hid ▸ (h.links link hlink).2.2)
  · intro hadmitted
    refine
      { h with
        evidenceIds := List.nodup_cons.mpr ⟨hevidence.fresh, h.evidenceIds⟩
        linkIds := hadmitted.linkIds
        pairs := hadmitted.pairs
        evidence := ?_
        links := ?_
        linked := ?_ }
    · intro record hin
      rcases List.mem_cons.mp hin with rfl | hold
      · exact ⟨hevidence.decisionTaskId, hevidence.valid, hevidence.captured⟩
      · exact h.evidence record hold
    · intro link hin
      rcases List.mem_append.mp hin with hnew | hold
      · obtain ⟨hid, hclaim⟩ := hlinks link hnew
        exact ⟨hadmitted.decisionTaskId link hnew, hclaim, hid ▸ List.mem_cons_self⟩
      · obtain ⟨htask, hclaim, hid⟩ := h.links link hold
        exact ⟨htask, hclaim, List.mem_cons_of_mem _ hid⟩
    · intro record hin
      rcases List.mem_cons.mp hin with rfl | hold
      · obtain ⟨link, hlink⟩ := List.exists_mem_of_ne_nil _ hadmitted.nonempty
        exact ⟨link, List.mem_append_left _ hlink, (hlinks link hlink).1⟩
      · obtain ⟨link, hlink, hid⟩ := h.linked record hold
        exact ⟨link, List.mem_append_right _ hlink, hid⟩

theorem deriveClaimAssessments_addEvidence (h : GraphWellFormed decisionTaskId bundle)
    (hevidence : ExpiredEvidence decisionTaskId bundle evidence)
    (hlinks : LinksOf bundle evidence links) :
    deriveClaimAssessments (bundle.addEvidence evidence links) =
      deriveClaimAssessments bundle := by
  have hids : ((evidence :: bundle.evidence).map Evidence.evidenceId).Nodup :=
    List.nodup_cons.mpr ⟨hevidence.fresh, h.evidenceIds⟩
  refine deriveClaimAssessments_congr h.claimIds (List.Perm.refl _) fun claim _ => ?_
  apply deriveClaimAssessment_congr
  apply List.Perm.of_eq
  unfold eligibleLinks
  dsimp only [DecisionBundleDraft.addEvidence]
  rw [List.filter_append, List.filter_append]
  -- the new links lead to the expired record
  have hnew : ((links.filter fun link => link.claimId = claim.claimId).filter fun link =>
      match byId Evidence.evidenceId (evidence :: bundle.evidence) link.evidenceId with
      | none => false
      | some found => !isBeforeUtc found.validUntil bundle.decision.validFrom) = [] := by
    apply List.filter_eq_nil_iff.mpr
    intro link hin
    have hid := (hlinks link (List.mem_of_mem_filter hin)).1
    rw [(byId_eq_some hids).mpr ⟨List.mem_cons_self, hid.symm⟩]
    simp [hevidence.expired]
  rw [hnew, List.nil_append]
  -- the old links lead to the records they led to before
  apply List.filter_congr
  intro link hin
  obtain ⟨-, -, hknown⟩ := h.links link (List.mem_of_mem_filter hin)
  obtain ⟨record, hrecord, hid⟩ := List.mem_map.mp hknown
  rw [(byId_eq_some hids).mpr ⟨List.mem_cons_of_mem _ hrecord, hid⟩,
    (byId_eq_some h.evidenceIds).mpr ⟨hrecord, hid⟩]

/-- An expired record with its links changes no assessment, and is accepted exactly with
links that the graph admits. -/
theorem evaluateDecisionBasisV1_addEvidence
    (h : (evaluateDecisionBasisV1 decisionTaskId bundle).2 = [])
    (hevidence : ExpiredEvidence decisionTaskId bundle evidence)
    (hlinks : LinksOf bundle evidence links) :
    ((evaluateDecisionBasisV1 decisionTaskId (bundle.addEvidence evidence links)).2 = [] ↔
      LinksAdmitted decisionTaskId bundle links) ∧
    (LinksAdmitted decisionTaskId bundle links →
      (evaluateDecisionBasisV1 decisionTaskId (bundle.addEvidence evidence links)).1 =
        (evaluateDecisionBasisV1 decisionTaskId bundle).1) := by
  rw [evaluateDecisionBasisV1_issues_eq_nil] at h ⊢
  have hiff := wellFormed_addEvidence h hevidence hlinks
  refine ⟨hiff, fun hadmitted => ?_⟩
  rw [evaluateDecisionBasisV1_of_wellFormed (hiff.mpr hadmitted),
    evaluateDecisionBasisV1_of_wellFormed h]
  exact deriveClaimAssessments_addEvidence h hevidence hlinks

end Expired

/-- The evaluation does not depend on the order of the members, and an expired record that
is added anywhere, with links the graph admits, leaves its assessments as they are. -/
theorem assessments_from_eligible_evidence (decisionTaskId : String)
    (bundle : DecisionBundleDraft) :
    (∀ other, SameMembers bundle other →
      ((evaluateDecisionBasisV1 decisionTaskId bundle).2 = [] ↔
        (evaluateDecisionBasisV1 decisionTaskId other).2 = []) ∧
      (evaluateDecisionBasisV1 decisionTaskId bundle).1 =
        (evaluateDecisionBasisV1 decisionTaskId other).1) ∧
    ∀ evidence links other, (evaluateDecisionBasisV1 decisionTaskId bundle).2 = [] →
      ExpiredEvidence decisionTaskId bundle evidence → LinksOf bundle evidence links →
      SameMembers (bundle.addEvidence evidence links) other →
      ((evaluateDecisionBasisV1 decisionTaskId other).2 = [] ↔
        LinksAdmitted decisionTaskId bundle links) ∧
      (LinksAdmitted decisionTaskId bundle links →
        (evaluateDecisionBasisV1 decisionTaskId other).1 =
          (evaluateDecisionBasisV1 decisionTaskId bundle).1) := by
  refine ⟨fun other hsame => evaluateDecisionBasisV1_of_sameMembers hsame, ?_⟩
  intro evidence links other hbundle hevidence hlinks hsame
  obtain ⟨haccepted, hassessments⟩ :=
    evaluateDecisionBasisV1_addEvidence hbundle hevidence hlinks
  obtain ⟨hissues, hderived⟩ :=
    evaluateDecisionBasisV1_of_sameMembers hsame
  exact ⟨hissues.symm.trans haccepted, fun hadmitted =>
    hderived.symm.trans (hassessments hadmitted)⟩

section Sample

def sampleDraft : DecisionBundleDraft :=
  (sampleRecommendation "a" "b\x00c").bundle.toDecisionBundleDraft

/-- Evidence that expired a second before the sample decision takes effect. -/
def sampleExpired : Evidence :=
  { sampleEvidence "evidence-4" with
    capturedAt := .toISOString (-2000)
    validUntil := .toISOString (-1000) }

def sampleLink (linkId : String) (direction : LinkDirection) : ClaimEvidenceLink :=
  ⟨linkId, "task", "claim-1", "evidence-4", direction⟩

/-- The sample is accepted, and so is the expired evidence with one link, but not without a link
or with two links. -/
theorem sample_checks :
    ExpiredEvidence "task" sampleDraft sampleExpired ∧
      "claim-1" ∈ sampleDraft.claims.map Claim.claimId ∧
      LinksAdmitted "task" sampleDraft [sampleLink "link-4" .refutes] ∧
      (evaluateDecisionBasisV1 "task" sampleDraft).2 = [] ∧
      (evaluateDecisionBasisV1 "task" (sampleDraft.addEvidence sampleExpired
        [sampleLink "link-4" .supports, sampleLink "link-5" .refutes])).2 ≠ [] ∧
      (evaluateDecisionBasisV1 "task" (sampleDraft.addEvidence sampleExpired [])).2 ≠ [] := by
  refine ⟨?_, ?_, ?_, ?_⟩
  · constructor <;> decide +kernel
  · decide +kernel
  · constructor <;> decide +kernel
  · decide +kernel

theorem linksOf_sample {links : List ClaimEvidenceLink}
    (h : ∀ link ∈ links, link.evidenceId = "evidence-4" ∧ link.claimId = "claim-1") :
    LinksOf sampleDraft sampleExpired links := by
  intro link hin
  obtain ⟨hid, hclaim⟩ := h link hin
  rw [hclaim]
  exact ⟨hid, sample_checks.2.1⟩

/-- Expired evidence without a link, or with two links to one claim, is an issue. -/
theorem expired_evidence_rejected :
    (evaluateDecisionBasisV1 "task" sampleDraft).2 = [] ∧
      ExpiredEvidence "task" sampleDraft sampleExpired ∧
      (LinksOf sampleDraft sampleExpired
          [sampleLink "link-4" .supports, sampleLink "link-5" .refutes] ∧
        (evaluateDecisionBasisV1 "task" (sampleDraft.addEvidence sampleExpired
          [sampleLink "link-4" .supports, sampleLink "link-5" .refutes])).2 ≠ []) ∧
      LinksOf sampleDraft sampleExpired [] ∧
      (evaluateDecisionBasisV1 "task" (sampleDraft.addEvidence sampleExpired [])).2 ≠ [] := by
  obtain ⟨hexpired, -, -, haccepted, htwo, hnone⟩ := sample_checks
  refine ⟨haccepted, hexpired, ⟨linksOf_sample ?_, htwo⟩, linksOf_sample ?_, hnone⟩
  · decide
  · exact List.forall_mem_nil _

theorem assessments_from_eligible_evidence_sample :
    (evaluateDecisionBasisV1 "task" (sampleDraft.addEvidence sampleExpired
        [sampleLink "link-4" .refutes])).2 = [] ∧
      (evaluateDecisionBasisV1 "task" (sampleDraft.addEvidence sampleExpired
        [sampleLink "link-4" .refutes])).1 = (evaluateDecisionBasisV1 "task" sampleDraft).1 := by
  have hsame : SameMembers (sampleDraft.addEvidence sampleExpired [sampleLink "link-4" .refutes])
      (sampleDraft.addEvidence sampleExpired [sampleLink "link-4" .refutes]) :=
    ⟨.refl _, .refl _, .refl _, .refl _, rfl⟩
  obtain ⟨hexpired, -, hadmitted, haccepted, -, -⟩ := sample_checks
  obtain ⟨hissues, hassessments⟩ := (assessments_from_eligible_evidence "task" sampleDraft).2
    sampleExpired [sampleLink "link-4" .refutes] _ haccepted hexpired
    (linksOf_sample (by decide)) hsame
  exact ⟨hissues.mpr hadmitted, hassessments hadmitted⟩

end Sample

end ChoiceMind.Contracts
