import ChoiceMind.LocalServices.Client

/-!
# Evidence retrieval

`search` asks the index for the candidates nearest to a query and a reranker for their order.
What the reranker ranks twice is found twice.
-/

namespace ChoiceMind.EvidenceIngestion

set_option autoImplicit false

open CodeUnits LocalServices
open Contracts (record)

/-! ### First mentions -/

section Mentions
variable {α : Type} [DecidableEq α]

/-- The distinct entries of a list in the order of their first mention. -/
def firstMentions : List α → List α
  | [] => []
  | a :: entries => a :: (firstMentions entries).filter fun b => b ≠ a

theorem mem_firstMentions {entries : List α} {a : α} : a ∈ firstMentions entries ↔ a ∈ entries := by
  induction entries with
  | nil => rfl
  | cons b entries ih =>
    rw [firstMentions, List.mem_cons, List.mem_cons, List.mem_filter, ih, decide_eq_true_eq]
    constructor
    · rintro (rfl | ⟨ha, -⟩)
      · exact .inl rfl
      · exact .inr ha
    · intro ha
      by_cases hab : a = b
      · exact .inl hab
      · exact .inr ⟨ha.resolve_left hab, hab⟩

theorem nodup_firstMentions (entries : List α) : (firstMentions entries).Nodup := by
  induction entries with
  | nil => exact List.nodup_nil
  | cons a entries ih =>
    rw [firstMentions, List.nodup_cons]
    refine ⟨?_, ih.filter _⟩
    intro ha
    exact of_decide_eq_true (List.mem_filter.mp ha).2 rfl

theorem length_firstMentions (entries : List α) :
    (firstMentions entries).length ≤ entries.length := by
  induction entries with
  | nil => exact Nat.le_refl _
  | cons a entries ih =>
    rw [firstMentions, List.length_cons, List.length_cons]
    exact Nat.succ_le_succ ((List.length_filter_le _ _).trans ih)

/-- A beginning without repetitions consists of first mentions. -/
theorem take_firstMentions {entries : List α} {count : Nat}
    (h : (entries.take count).Nodup) : entries.take count <+: firstMentions entries := by
  induction entries generalizing count with
  | nil => simp [firstMentions]
  | cons a entries ih =>
    cases count with
    | zero => exact List.nil_prefix
    | succ count =>
      rw [List.take_succ_cons, List.nodup_cons] at h
      rw [List.take_succ_cons, firstMentions, List.cons_prefix_cons]
      refine ⟨rfl, ?_⟩
      have hkept : (entries.take count).filter (fun b => b ≠ a) = entries.take count := by
        rw [List.filter_eq_self]
        intro b hb
        rw [decide_eq_true_eq]
        rintro rfl
        exact h.1 hb
      rw [← hkept]
      exact (ih h.2).filter _

end Mentions

/-! ### The service -/

/-- `options`, whose calls may throw. -/
structure RetrievalPorts (ε : Type) where
  embed : LocalServiceRequest → Except ε Value
  /-- the ids of the candidates, by limit, model and query vector -/
  nearest : Nat → CodeUnits → List Rat → Except ε (List CodeUnits)
  loadExcerpt : CodeUnits → Except ε CodeUnits
  nextEmbeddingRequestId : CodeUnits
  nextRerankerRequestId : CodeUnits
  rerank : LocalServiceRequest → Except ε Value

inductive RetrievalError (ε : Type)
  | invalidRequest
  | port (error : ε)
  deriving DecidableEq

inductive RetrievalGap
  | embeddingFailed
  | rerankFailed
  deriving DecidableEq, Repr

structure RetrievedEvidence where
  evidenceId : CodeUnits
  score : Rat
  deriving DecidableEq

inductive RetrievalOutcome
  | evidenceGap (code : RetrievalGap)
  | retrieved (results : List RetrievedEvidence)
  deriving DecidableEq

section Service
variable {ε : Type}

/-- The model and the only vector of an embedding. -/
def readEmbedding (issuesOf : Value → List ContractIssue) (answer : Value) :
    Option (CodeUnits × List Rat) :=
  match decodeLocalServiceResultV1 issuesOf answer with
  | .ok (.succeeded ⟨_, .embeddingProvider, output⟩) =>
    match output.vectors with
    | [vector] => some (output.model, vector)
    | _ => none
  | _ => none

def embedText (issuesOf : Value → List ContractIssue) (ports : RetrievalPorts ε)
    (text : CodeUnits) : Except ε (Option (CodeUnits × List Rat)) := do
  let answer ← ports.embed ⟨ports.nextEmbeddingRequestId, .embeddingProvider [text]⟩
  .ok (readEmbedding issuesOf answer)

def readRankings (issuesOf : Value → List ContractIssue) (answer : Value) :
    Option (List Ranking) :=
  match decodeLocalServiceResultV1 issuesOf answer with
  | .ok (.succeeded ⟨_, .reranker, output⟩) => some output.rankings
  | _ => none

/-- The rankings of documents that were sent. -/
def knownRankings (candidateIds : List CodeUnits) (rankings : List Ranking) : List Ranking :=
  rankings.filter fun ranking => ranking.documentId ∈ candidateIds

def resultsOf (candidateIds : List CodeUnits) (rankings : List Ranking) (topK : Nat) :
    List RetrievedEvidence :=
  ((knownRankings candidateIds rankings).take topK).map fun ranking =>
    ⟨ranking.documentId, ranking.score⟩

def loadDocuments (ports : RetrievalPorts ε) (candidates : List CodeUnits) :
    Except ε (List RerankerDocument) :=
  candidates.mapM fun evidenceId => do
    .ok ⟨evidenceId, ← ports.loadExcerpt evidenceId⟩

/-- `Number.isSafeInteger(topK) && topK > 0` -/
def readTopK (topK : JsNumber) : Option Nat := topK.toNat.filter isPositiveInteger

/-- The steps of `search` after its check. -/
def searchNearest (issuesOf : Value → List ContractIssue) (ports : RetrievalPorts ε)
    (query : CodeUnits) (topK : Nat) : Except ε RetrievalOutcome := do
  match ← embedText issuesOf ports query with
  | none => .ok (.evidenceGap .embeddingFailed)
  | some (model, queryVector) =>
    let candidates ← ports.nearest (topK * 2) model queryVector
    let documents ← loadDocuments ports candidates
    let answer ← ports.rerank ⟨ports.nextRerankerRequestId, .reranker query documents topK⟩
    match readRankings issuesOf answer with
    | none => .ok (.evidenceGap .rerankFailed)
    | some rankings =>
      .ok (.retrieved (resultsOf (documents.map RerankerDocument.documentId) rankings topK))

def search (issuesOf : Value → List ContractIssue) (ports : RetrievalPorts ε) (query : CodeUnits)
    (topK : JsNumber) : Except (RetrievalError ε) RetrievalOutcome :=
  match readTopK topK with
  | none => .error .invalidRequest
  | some topK =>
    if !isMeaningful query then .error .invalidRequest
    else (searchNearest issuesOf ports query topK).mapError .port

/-! ### What is retrieved -/

/-- The request is valid, and the reranker ranks the nearest candidates in an admitted response. -/
structure Reranked (issuesOf : Value → List ContractIssue) (ports : RetrievalPorts ε)
    (query : CodeUnits) (topK : JsNumber) (count : Nat) (candidates : List CodeUnits)
    (rankings : List Ranking) : Prop where
  positive : readTopK topK = some count
  meaningful : isMeaningful query = true
  answered : ∃ model vector documents answer,
    embedText issuesOf ports query = .ok (some (model, vector)) ∧
      ports.nearest (count * 2) model vector = .ok candidates ∧
      loadDocuments ports candidates = .ok documents ∧
      ports.rerank ⟨ports.nextRerankerRequestId, .reranker query documents count⟩ = .ok answer ∧
      readRankings issuesOf answer = some rankings

/-- The candidates that the reranker names, each as often as it does. -/
def mentionedIds (candidates : List CodeUnits) (rankings : List Ranking) : List CodeUnits :=
  (knownRankings candidates rankings).map Ranking.documentId

/-- At most `topK` distinct candidates, the ones that the reranker mentions first. -/
structure DistinctNearest (candidates : List CodeUnits) (rankings : List Ranking) (topK : Nat)
    (results : List RetrievedEvidence) : Prop where
  bounded : results.length ≤ topK
  distinct : (results.map RetrievedEvidence.evidenceId).Nodup
  nearest : ∀ result ∈ results, result.evidenceId ∈ candidates
  ordered : results.map RetrievedEvidence.evidenceId <+:
    firstMentions (mentionedIds candidates rankings)
  full : topK ≤ (firstMentions (mentionedIds candidates rankings)).length → results.length = topK

section Results
variable {issuesOf : Value → List ContractIssue} {ports : RetrievalPorts ε} {query : CodeUnits}
  {topK : JsNumber} {count : Nat} {candidates : List CodeUnits} {rankings : List Ranking}

theorem bind_eq_ok {α β : Type} {x : Except ε α} {next : α → Except ε β} {b : β} :
    (x >>= next) = .ok b ↔ ∃ a, x = .ok a ∧ next a = .ok b := by
  cases x with
  | error error => exact ⟨nofun, nofun⟩
  | ok a => exact ⟨fun h => ⟨a, rfl, h⟩, fun ⟨_, ha, h⟩ => Except.ok.inj ha ▸ h⟩

theorem ids_loadDocuments {documents : List RerankerDocument}
    (h : loadDocuments ports candidates = .ok documents) :
    documents.map RerankerDocument.documentId = candidates := by
  unfold loadDocuments at h
  induction candidates generalizing documents with
  | nil =>
    cases h
    rfl
  | cons candidate candidates ih =>
    simp only [List.mapM_cons, bind_eq_ok] at h
    obtain ⟨document, ⟨excerpt, -, hdocument⟩, rest, hrest, hdocuments⟩ := h
    cases hdocument
    cases hdocuments
    rw [List.map_cons, ih hrest]

theorem Reranked.search_eq
    (h : Reranked issuesOf ports query topK count candidates rankings) :
    search issuesOf ports query topK = .ok (.retrieved (resultsOf candidates rankings count)) := by
  obtain ⟨model, vector, documents, answer, hembed, hnearest, hdocuments, hanswer, hrankings⟩ :=
    h.answered
  have hsteps : searchNearest issuesOf ports query count =
      .ok (.retrieved (resultsOf candidates rankings count)) := by
    refine bind_eq_ok.mpr ⟨_, hembed, bind_eq_ok.mpr ⟨_, hnearest, ?_⟩⟩
    refine bind_eq_ok.mpr ⟨_, hdocuments, bind_eq_ok.mpr ⟨_, hanswer, ?_⟩⟩
    rw [hrankings, ids_loadDocuments hdocuments]
  unfold search
  rw [h.positive]
  simp only [h.meaningful, Bool.not_true, Bool.false_eq_true, if_false, hsteps]
  rfl

theorem ids_resultsOf :
    (resultsOf candidates rankings count).map RetrievedEvidence.evidenceId =
      (mentionedIds candidates rankings).take count := by
  unfold resultsOf mentionedIds
  rw [List.map_map, ← List.map_take]
  rfl

theorem mem_resultsOf {result : RetrievedEvidence}
    (h : result ∈ resultsOf candidates rankings count) : result.evidenceId ∈ candidates := by
  obtain ⟨ranking, hranking, rfl⟩ := List.mem_map.mp h
  exact of_decide_eq_true (List.mem_filter.mp (List.mem_of_mem_take hranking)).2

theorem length_resultsOf : (resultsOf candidates rankings count).length =
    min count (mentionedIds candidates rankings).length := by
  rw [← List.length_map RetrievedEvidence.evidenceId, ids_resultsOf, List.length_take]

/-- The results are distinct nearest candidates exactly when the rankings they come from name
distinct ones. -/
theorem distinctNearest_resultsOf_iff :
    DistinctNearest candidates rankings count (resultsOf candidates rankings count) ↔
      ((mentionedIds candidates rankings).take count).Nodup := by
  constructor
  · intro h
    have hdistinct := h.distinct
    rwa [ids_resultsOf] at hdistinct
  · intro hdistinct
    constructor
    · rw [length_resultsOf]
      exact Nat.min_le_left _ _
    · rwa [ids_resultsOf]
    · exact fun result => mem_resultsOf
    · rw [ids_resultsOf]
      exact take_firstMentions hdistinct
    · intro hmany
      have hlength := length_firstMentions (mentionedIds candidates rankings)
      rw [length_resultsOf]
      omega

/-- A search retrieves distinct nearest candidates exactly when, of the rankings that name a
candidate, the first `topK` name distinct ones. -/
theorem retrieval_distinct_iff
    (h : Reranked issuesOf ports query topK count candidates rankings) :
    (∃ results, search issuesOf ports query topK = .ok (.retrieved results) ∧
      DistinctNearest candidates rankings count results) ↔
        ((mentionedIds candidates rankings).take count).Nodup := by
  rw [← distinctNearest_resultsOf_iff, h.search_eq]
  constructor
  · rintro ⟨results, hresults, hnearest⟩
    cases hresults
    exact hnearest
  · intro hnearest
    exact ⟨_, rfl, hnearest⟩

end Results

end Service

/-! ### Samples -/

def resultRecord (port : LocalServicePort) (output : Value) : Value :=
  record [("contractType", string "local-service-result"), ("contractVersion", string "1.0"),
    ("requestId", string "r"), ("port", string port.text), ("ok", .scalar (.bool true)),
    ("output", output)]

def rankingRecord (documentId : String) : Value :=
  record [("documentId", string documentId), ("score", natural 1)]

def rerankedRecord (ranked : List String) : Value :=
  resultRecord .reranker <|
    record [("model", string "m"), ("rankings", .array (ranked.map rankingRecord))]

/-- An index with two candidates, and a reranker with a fixed response. -/
def samplePorts (ranked : List String) : RetrievalPorts Unit where
  embed _ := .ok <| resultRecord .embeddingProvider <|
    record [("model", string "m"), ("dimensions", natural 1),
      ("vectors", .array [.array [natural 1]])]
  nearest _ _ _ := .ok [ofString "a", ofString "b"]
  loadExcerpt id := .ok id
  nextEmbeddingRequestId := ofString "e"
  nextRerankerRequestId := ofString "r"
  rerank _ := .ok (rerankedRecord ranked)

def sampleRankings (ranked : List String) : List Ranking :=
  ranked.map fun documentId => ⟨ofString documentId, 1⟩

theorem sample_reranked {ranked : List String}
    (h : readRankings (fun _ => []) (rerankedRecord ranked) = some (sampleRankings ranked)) :
    Reranked (fun _ => []) (samplePorts ranked) (ofString "q") (.ofNat 2) 2
      [ofString "a", ofString "b"] (sampleRankings ranked) where
  positive := by decide +kernel
  meaningful := by decide
  answered := by
    refine ⟨ofString "m", [1], [⟨ofString "a", ofString "a"⟩, ⟨ofString "b", ofString "b"⟩],
      rerankedRecord ranked, ?_, rfl, rfl, rfl, h⟩
    have hread : readEmbedding (fun _ => []) (resultRecord .embeddingProvider
        (record [("model", string "m"), ("dimensions", natural 1),
          ("vectors", .array [.array [natural 1]])])) = some (ofString "m", [1]) := by
      decide +kernel
    exact congrArg Except.ok hread

theorem retrieval_distinct_iff_sample : ∃ results, search (fun _ => [])
    (samplePorts ["b", "x", "a"]) (ofString "q") (.ofNat 2) = .ok (.retrieved results) ∧
      DistinctNearest [ofString "a", ofString "b"] (sampleRankings ["b", "x", "a"]) 2 results :=
  (retrieval_distinct_iff (sample_reranked (by decide +kernel))).mpr (by decide +kernel)

/-- A reranker that names a candidate twice makes it two results. -/
theorem repeated_document_retrieved_twice : ¬ ∀ (ports : RetrievalPorts Unit) query topK count
    candidates rankings, Reranked (fun _ => []) ports query topK count candidates rankings →
      ∃ results, search (fun _ => []) ports query topK = .ok (.retrieved results) ∧
        DistinctNearest candidates rankings count results := by
  intro hclaim
  have hranked : readRankings (fun _ => []) (rerankedRecord ["a", "a"]) =
      some (sampleRankings ["a", "a"]) := by
    decide +kernel
  obtain ⟨results, hresults, hnearest⟩ := hclaim _ _ _ _ _ _ (sample_reranked hranked)
  rw [(sample_reranked hranked).search_eq] at hresults
  cases hresults
  exact absurd hnearest.distinct (by decide +kernel)

end ChoiceMind.EvidenceIngestion
