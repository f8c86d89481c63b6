import Mathlib.Tactic.Linarith
import ChoiceMind.Contracts.EvidenceOrder

/-!
# Timestamps below a millisecond

The schema admits any number of fraction digits and `Date.parse` reads three of them. An
evaluation is exact for the instants that its timestamps denote unless two of them fall into
one millisecond in the wrong order.
-/

namespace ChoiceMind.Contracts

set_option autoImplicit false

namespace UtcTimestamp

/-- The fraction of a second that digits after the point denote. -/
def fractionValue : List (Fin 10) → Rat
  | [] => 0
  | digit :: digits => (digit.val + fractionValue digits) / 10

theorem fractionValue_bounds (digits : List (Fin 10)) :
    0 ≤ fractionValue digits ∧ fractionValue digits < 1 := by
  induction digits with
  | nil => exact ⟨le_refl _, zero_lt_one⟩
  | cons digit digits ih =>
    have hlow : (0 : Rat) ≤ digit.val := Nat.cast_nonneg _
    have hhigh : (digit.val : Rat) ≤ 9 := by
      have hlt := digit.isLt
      exact_mod_cast (by omega : digit.val ≤ 9)
    simp only [fractionValue]
    constructor
    · linarith
    · linarith

/-- The digits after the third are cut off. -/
theorem fractionMs_bounds (digits : List (Fin 10)) :
    (fractionMs digits : Rat) ≤ fractionValue digits * 1000 ∧
      fractionValue digits * 1000 < fractionMs digits + 1 := by
  match digits with
  | [] => simp [fractionMs, fractionValue]
  | [a] =>
    simp only [fractionMs, fractionValue]
    push_cast
    constructor <;> linarith
  | [a, b] =>
    simp only [fractionMs, fractionValue]
    push_cast
    constructor <;> linarith
  | a :: b :: c :: rest =>
    obtain ⟨hlow, hhigh⟩ := fractionValue_bounds rest
    simp only [fractionMs, fractionValue]
    push_cast
    constructor <;> linarith

/-- The instant that the string denotes, in seconds since 1970. -/
def instant (t : UtcTimestamp) : Rat := t.second + fractionValue t.fraction

theorem parse_bounds (t : UtcTimestamp) :
    (t.parse : Rat) ≤ t.instant * 1000 ∧ t.instant * 1000 < t.parse + 1 := by
  obtain ⟨hlow, hhigh⟩ := fractionMs_bounds t.fraction
  simp only [parse, instant]
  push_cast
  constructor
  · linarith
  · linarith

theorem instant_lt_of_parse_lt {left right : UtcTimestamp} (h : left.parse < right.parse) :
    left.instant < right.instant := by
  have hms : (left.parse : Rat) + 1 ≤ right.parse := by exact_mod_cast h
  have hleft := (parse_bounds left).2
  have hright := (parse_bounds right).1
  linarith

end UtcTimestamp

/-- Two timestamps of one millisecond, the second of which denotes the earlier instant. -/
def HiddenInversion (left right : UtcTimestamp) : Prop :=
  left.parse = right.parse ∧ right.instant < left.instant

/-- What `compareUtc` takes to be in order is in order, hidden inversions apart. -/
theorem instant_le_iff {left right : UtcTimestamp} (h : isBeforeUtc right left = false) :
    left.instant ≤ right.instant ↔ ¬ HiddenInversion left right := by
  have hparse : left.parse ≤ right.parse := by
    rw [isBeforeUtc, decide_eq_false_iff_not] at h
    omega
  constructor
  · intro hle hhidden
    exact absurd hle (not_le.mpr hhidden.2)
  · intro hvisible
    rcases lt_or_eq_of_le hparse with hlt | heq
    · exact le_of_lt (UtcTimestamp.instant_lt_of_parse_lt hlt)
    · exact not_lt.mp fun hlt => hvisible ⟨heq, hlt⟩

theorem instant_lt_of_isBeforeUtc {left right : UtcTimestamp} (h : isBeforeUtc left right = true) :
    left.instant < right.instant :=
  UtcTimestamp.instant_lt_of_parse_lt (of_decide_eq_true h)

/-! ### The evidence that counts -/

def ClaimAssessment.evidenceIds (assessment : ClaimAssessment) : LinkDirection → List String
  | .supports => assessment.supportingEvidenceIds
  | .refutes => assessment.refutingEvidenceIds

/-- The assessment of the link's claim counts its evidence in its direction. -/
def Counts (assessments : List ClaimAssessment) (link : ClaimEvidenceLink) : Prop :=
  ∃ assessment ∈ assessments, assessment.claimId = link.claimId ∧
    link.evidenceId ∈ assessment.evidenceIds link.direction

/-- The times of an evaluated graph are right for the exact instants. -/
structure TemporallyExact (bundle : DecisionBundleDraft) (assessments : List ClaimAssessment) :
    Prop where
  captured : ∀ evidence ∈ bundle.evidence,
    evidence.capturedAt.instant ≤ bundle.decision.validFrom.instant
  valid : ∀ evidence ∈ bundle.evidence, evidence.capturedAt.instant ≤ evidence.validUntil.instant
  counted : ∀ link ∈ bundle.claimEvidenceLinks, ∀ evidence ∈ bundle.evidence,
    evidence.evidenceId = link.evidenceId →
      (Counts assessments link ↔ bundle.decision.validFrom.instant ≤ evidence.validUntil.instant)

/-- No two timestamps that the evaluation compares are inverted within a millisecond. -/
structure NoHiddenInversion (bundle : DecisionBundleDraft) : Prop where
  captured : ∀ evidence ∈ bundle.evidence,
    ¬ HiddenInversion evidence.capturedAt bundle.decision.validFrom
  valid : ∀ evidence ∈ bundle.evidence, ¬ HiddenInversion evidence.capturedAt evidence.validUntil
  eligible : ∀ evidence ∈ bundle.evidence,
    ¬ HiddenInversion bundle.decision.validFrom evidence.validUntil

section Counted
variable {decisionTaskId : String} {bundle : DecisionBundleDraft} {link : ClaimEvidenceLink}
  {evidence : Evidence}

theorem mem_evidenceIds_deriveClaimAssessment {claim : Claim} {links : List ClaimEvidenceLink}
    {records : List Evidence} {validFrom : UtcTimestamp} {direction : LinkDirection}
    {evidenceId : String} :
    evidenceId ∈
        (deriveClaimAssessment claim links records validFrom).evidenceIds direction ↔
      ∃ other ∈ eligibleLinks links records validFrom,
        other.direction = direction ∧ other.evidenceId = evidenceId := by
  have hids : (deriveClaimAssessment claim links records validFrom).evidenceIds direction =
      evidenceIdsOf (eligibleLinks links records validFrom) direction := by
    cases direction <;> rfl
  rw [hids, evidenceIdsOf, mem_sortIds, ← List.foldl_map, mem_foldl_addToSet]
  simp only [List.not_mem_nil, false_or, List.mem_map, List.mem_filter, decide_eq_true_eq,
    and_assoc]

/-- A link counts exactly when its evidence has not expired by `compareUtc`. -/
theorem counts_iff (h : GraphWellFormed decisionTaskId bundle)
    (hlink : link ∈ bundle.claimEvidenceLinks) (hevidence : evidence ∈ bundle.evidence)
    (hid : evidence.evidenceId = link.evidenceId) :
    Counts (deriveClaimAssessments bundle) link ↔
      isBeforeUtc evidence.validUntil bundle.decision.validFrom = false := by
  have hfound : byId Evidence.evidenceId bundle.evidence link.evidenceId = some evidence :=
    (byId_eq_some h.evidenceIds).mpr ⟨hevidence, hid⟩
  constructor
  · rintro ⟨assessment, hin, -, hcounted⟩
    obtain ⟨claim, -, rfl⟩ := List.mem_map.mp hin
    obtain ⟨other, hother, -, hsame⟩ := mem_evidenceIds_deriveClaimAssessment.mp hcounted
    have heligible := (List.mem_filter.mp hother).2
    rw [hsame, hfound] at heligible
    simpa using heligible
  · intro hvalid
    obtain ⟨claim, hclaim, hof⟩ := List.mem_map.mp (h.links link hlink).2.1
    have hin : deriveClaimAssessment claim
        (bundle.claimEvidenceLinks.filter fun other => other.claimId = claim.claimId)
        bundle.evidence bundle.decision.validFrom ∈ deriveClaimAssessments bundle :=
      List.mem_map.mpr ⟨claim, (List.mem_insertionSort _).mpr hclaim, rfl⟩
    refine ⟨_, hin, hof, mem_evidenceIds_deriveClaimAssessment.mpr ⟨link, ?_, rfl, rfl⟩⟩
    refine List.mem_filter.mpr ⟨List.mem_filter.mpr ⟨hlink, decide_eq_true hof.symm⟩, ?_⟩
    rw [hfound]
    simp [hvalid]

end Counted

/-- For an accepted graph the evaluation is exact if and only if the timestamps it compares
hide no inversion. -/
theorem temporal_eligibility_iff {decisionTaskId : String} {bundle : DecisionBundleDraft}
    (h : (evaluateDecisionBasisV1 decisionTaskId bundle).2 = []) :
    TemporallyExact bundle (evaluateDecisionBasisV1 decisionTaskId bundle).1 ↔
      NoHiddenInversion bundle := by
  rw [evaluateDecisionBasisV1_issues_eq_nil] at h
  rw [evaluateDecisionBasisV1_of_wellFormed h]
  constructor
  · intro hexact
    refine ⟨?_, ?_, ?_⟩
    · intro evidence hin
      exact (instant_le_iff (h.evidence evidence hin).2.2).mp (hexact.captured evidence hin)
    · intro evidence hin
      exact (instant_le_iff (h.evidence evidence hin).2.1).mp (hexact.valid evidence hin)
    · intro evidence hin hhidden
      obtain ⟨link, hlink, hid⟩ := h.linked evidence hin
      have hequal : isBeforeUtc evidence.validUntil bundle.decision.validFrom = false := by
        rw [isBeforeUtc, decide_eq_false_iff_not, hhidden.1]
        exact lt_irrefl _
      have hcounts := (counts_iff h hlink hin hid.symm).mpr hequal
      have hle := (hexact.counted link hlink evidence hin hid.symm).mp hcounts
      exact absurd hle (not_le.mpr hhidden.2)
  · intro hvisible
    refine ⟨?_, ?_, ?_⟩
    · intro evidence hin
      exact (instant_le_iff (h.evidence evidence hin).2.2).mpr (hvisible.captured evidence hin)
    · intro evidence hin
      exact (instant_le_iff (h.evidence evidence hin).2.1).mpr (hvisible.valid evidence hin)
    · intro link hlink evidence hin hid
      rw [counts_iff h hlink hin hid]
      cases hbefore : isBeforeUtc evidence.validUntil bundle.decision.validFrom with
      | true =>
        have hlt := instant_lt_of_isBeforeUtc hbefore
        exact iff_of_false (by simp) (not_le.mpr hlt)
      | false =>
        exact iff_of_true rfl ((instant_le_iff hbefore).mpr (hvisible.eligible evidence hin))

section Sample

/-- The sample draft with its evidence captured and valid at the given times. -/
def datedDraft (capturedAt validUntil : UtcTimestamp) : DecisionBundleDraft :=
  { sampleDraft with
    evidence := sampleDraft.evidence.map fun evidence => { evidence with capturedAt, validUntil } }

/-- A tenth of a millisecond after 1970 began. -/
def tenthMillisecond : UtcTimestamp where
  second := 0
  fraction := UtcTimestamp.millisecondDigits 0 ++ UtcTimestamp.millisecondDigits 100
  whole_minute := by intro h; cases h

theorem temporal_eligibility_sample :
    (evaluateDecisionBasisV1 "task" (datedDraft (.toISOString 0) tenthMillisecond)).2 = [] ∧
      (TemporallyExact (datedDraft (.toISOString 0) tenthMillisecond)
          (evaluateDecisionBasisV1 "task" (datedDraft (.toISOString 0) tenthMillisecond)).1 ↔
        NoHiddenInversion (datedDraft (.toISOString 0) tenthMillisecond)) := by
  have haccepted :
      (evaluateDecisionBasisV1 "task" (datedDraft (.toISOString 0) tenthMillisecond)).2 = [] := by
    decide +kernel
  exact ⟨haccepted, temporal_eligibility_iff haccepted⟩

/-- Evidence captured a tenth of a millisecond after the decision takes effect is accepted. -/
theorem captured_after_valid_from :
    (evaluateDecisionBasisV1 "task" (datedDraft tenthMillisecond tenthMillisecond)).2 = [] ∧
      ¬ TemporallyExact (datedDraft tenthMillisecond tenthMillisecond)
        (evaluateDecisionBasisV1 "task" (datedDraft tenthMillisecond tenthMillisecond)).1 := by
  refine ⟨by decide +kernel, ?_⟩
  intro hexact
  have hlate : ¬ ∀ evidence ∈ (datedDraft tenthMillisecond tenthMillisecond).evidence,
      evidence.capturedAt.instant ≤ sampleDraft.decision.validFrom.instant := by
    decide +kernel
  exact hlate hexact.captured

end Sample

end ChoiceMind.Contracts
