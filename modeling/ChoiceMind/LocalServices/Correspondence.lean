import ChoiceMind.LocalServices.Results

/-!
# What corresponds to a request

The vectors of an embedding and the rankings of a rerank come from the items of the upstream
in their order. They answer the request exactly when the items do.
-/

namespace ChoiceMind.LocalServices

set_option autoImplicit false

open CodeUnits Contracts

/-! ### Items of the upstream -/

/-- The index that an item states; one without an index stands where it is. -/
def itemIndex (position : Nat) (item : Value) : JsNumber :=
  match memberOf item "index" with
  | .scalar (.number index) => index
  | _ => .ofNat position

def itemVector (item : Value) : Option (List Rat) := numberSchema.array.parse (embeddingOf item)

/-- The document at the index of an item. -/
def rankedDocument (documents : List RerankerDocument) (item : Value) : Option RerankerDocument :=
  match memberOf item "index" with
  | .scalar (.number index) => index.toNat.bind fun i => documents[i]?
  | _ => none

/-- The payload names the model of the target. -/
def NamesModel (target : LocalServiceTarget) (payload : Value) : Prop :=
  ∃ model, target.model = some model ∧ isMeaningful model = true ∧
    memberOf payload "model" = text model

/-! ### What is claimed of a result -/

/-- One vector for each text, that of the item with its index, and all of one dimension. -/
structure EmbedsTexts (texts : List CodeUnits) (items : List Value) (output : EmbeddingOutput) :
    Prop where
  count : output.vectors.length = texts.length
  dimension : ∀ vector ∈ output.vectors, vector.length = output.dimensions
  order : ∀ i < texts.length, ∃ position item, items[position]? = some item ∧
    itemIndex position item = .ofNat i ∧ itemVector item = output.vectors[i]?

/-- Different documents of the request, at most so many. -/
structure RanksDocuments (documents : List RerankerDocument) (topK : Nat)
    (output : RerankerOutput) : Prop where
  distinct : (output.rankings.map Ranking.documentId).Nodup
  known : ∀ ranking ∈ output.rankings, ∃ document ∈ documents,
    document.documentId = ranking.documentId
  atMost : output.rankings.length ≤ topK

def upstreamItems (payload : Value) (key : String) : List Value :=
  (itemsOf (memberOf payload key)).getD []

/-- The result of a payload corresponds to the request. -/
def Corresponds (input : LocalServiceInput) (payload : Value) (result : LocalServiceResult) :
    Prop :=
  match input with
  | .embeddingProvider texts => ∀ requestId (output : EmbeddingOutput),
    result = .succeeded ⟨requestId, .embeddingProvider, output⟩ →
      EmbedsTexts texts (upstreamItems payload "data") output
  | .reranker _ documents topK => ∀ requestId (output : RerankerOutput),
    result = .succeeded ⟨requestId, .reranker, output⟩ → RanksDocuments documents topK output
  | _ => True

/-- The contract takes the result, it is for the request, and a success comes from a payload. -/
structure ResultCorresponds (platform : Platform) (target : LocalServiceTarget)
    (request : LocalServiceRequest) : Prop where
  accepted : decodeLocalServiceResultV1 platform.issuesOf
      (executeLocalServiceRequest platform target request).value =
    .ok (executeLocalServiceRequest platform target request)
  requestId : (executeLocalServiceRequest platform target request).requestId = request.requestId
  port : (executeLocalServiceRequest platform target request).port = request.port
  answers : ∀ success, executeLocalServiceRequest platform target request = .succeeded success →
    ∃ payload, received platform target request = some payload ∧
      Corresponds request.input payload (executeLocalServiceRequest platform target request)

/-! ### The condition on a payload -/

/-- The payload has vectors that the contract takes. -/
def TakesVectors (target : LocalServiceTarget) (payload : Value) : Prop :=
  NamesModel target payload ∧ upstreamItems payload "data" ≠ [] ∧
    ∃ dimensions, isPositiveInteger dimensions = true ∧ ∀ item ∈ upstreamItems payload "data",
      ∃ vector, itemVector item = some vector ∧ vector.length = dimensions

/-- As many items as texts, each index among them, and the item with an index has the vector of
the item at it. -/
def InTextOrder (texts : List CodeUnits) (items : List Value) : Prop :=
  items.length = texts.length ∧ ∀ i < texts.length, ∃ position item,
    items[position]? = some item ∧ itemIndex position item = .ofNat i ∧
      itemVector item = items[i]?.bind itemVector

/-- The payload has rankings that the contract takes. -/
def TakesRankings (target : LocalServiceTarget) (documents : List RerankerDocument)
    (payload : Value) : Prop :=
  NamesModel target payload ∧ ∃ items, itemsOf (memberOf payload "results") = some items ∧
    ∀ item ∈ items, (rankedDocument documents item).isSome = true ∧
      (numberSchema.parse (memberOf item "relevance_score")).isSome = true

/-- Items for different documents, at most so many. -/
def RankedOnce (documents : List RerankerDocument) (topK : Nat) (items : List Value) : Prop :=
  ((items.filterMap (rankedDocument documents)).map RerankerDocument.documentId).Nodup ∧
    items.length ≤ topK

def PayloadCorresponds (target : LocalServiceTarget) (input : LocalServiceInput) (payload : Value) :
    Prop :=
  match input with
  | .embeddingProvider texts =>
    TakesVectors target payload → InTextOrder texts (upstreamItems payload "data")
  | .reranker _ documents topK =>
    TakesRankings target documents payload →
      RankedOnce documents topK (upstreamItems payload "results")
  | _ => True

/-! ### Results of mapped payloads -/

section Mapped
variable {platform : Platform} {target : LocalServiceTarget} {request : LocalServiceRequest}
  {payload : Value}

theorem otherVersion_withOutput (request : LocalServiceRequest) (value : Value) :
    otherVersion (withOutput request value) = false := rfl

/-- A mapped payload is a success exactly when the payload is from the model and its output is
read. -/
theorem resultOf_eq_succeeded (hrequestId : isMeaningful request.requestId = true)
    (hparser : target.protocol ≠ .choicemindDocumentParser)
    (hundefined : (outputSchema request.port).parse .undefined = none)
    {result : SuccessfulLocalServiceResult} :
    resultOf platform target request payload = .succeeded result ↔
      isRecord payload = true ∧ fromModel target payload = true ∧
        ∃ output, (outputSchema request.port).parse (outputOf target request payload) =
          some output ∧ result = ⟨request.requestId, request.port, output⟩ := by
  have hmapped : ∃ value, mapSuccessfulResponse target request payload =
      withOutput request value ∧ (isRecord payload = true ∧ fromModel target payload = true ∧
        value = outputOf target request payload ∨
          ¬ (isRecord payload = true ∧ fromModel target payload = true) ∧ value = .undefined) := by
    unfold mapSuccessfulResponse
    rw [if_neg hparser]
    split
    · rename_i hrecord
      exact ⟨_, rfl, .inr ⟨by simp [hrecord], rfl⟩⟩
    · rename_i hrecord
      split
      · rename_i hmodel
        exact ⟨_, rfl, .inr ⟨by simp [hmodel], rfl⟩⟩
      · rename_i hmodel
        rw [Bool.not_eq_false] at hrecord hmodel
        exact ⟨_, rfl, .inl ⟨hrecord, hmodel, rfl⟩⟩
  obtain ⟨value, hvalue, hcases⟩ := hmapped
  have hsucceeded : resultOf platform target request payload = .succeeded result ↔
      localServiceResultSchema.parse (withOutput request value) = some (.succeeded result) := by
    rw [resultOf, hvalue]
    constructor
    · intro h
      split at h
      · cases h
      · rename_i decoded hdecoded
        rw [(decodeLocalServiceResultV1_eq_ok.mp hdecoded).2, h]
    · intro h
      rw [decodeLocalServiceResultV1_eq_ok.mpr ⟨otherVersion_withOutput _ _, h⟩]
  rw [hsucceeded, parse_withOutput hrequestId]
  rcases hcases with ⟨hrecord, hmodel, rfl⟩ | ⟨hneither, rfl⟩
  · constructor
    · rintro ⟨output, houtput, heq⟩
      injection heq with hresult
      exact ⟨hrecord, hmodel, output, houtput, hresult⟩
    · rintro ⟨-, -, output, houtput, rfl⟩
      exact ⟨output, houtput, rfl⟩
  · constructor
    · rintro ⟨output, houtput, -⟩
      rw [hundefined] at houtput
      cases houtput
    · rintro ⟨hrecord, hmodel, -⟩
      exact absurd ⟨hrecord, hmodel⟩ hneither

/-- The payload and the contract agree on the model exactly when the payload names it. -/
theorem namesModel_iff (hmineru : target.protocol ≠ .mineru) {model : CodeUnits} :
    isRecord payload = true ∧ fromModel target payload = true ∧
        meaningfulTextSchema.parse (memberOf payload "model") = some model ↔
      target.model = some model ∧ isMeaningful model = true ∧
        memberOf payload "model" = text model := by
  unfold fromModel
  rw [if_neg hmineru]
  constructor
  · rintro ⟨-, hmodel, hread⟩
    obtain ⟨heq, hmeaningful⟩ := meaningful_parse hread
    rw [heq] at hmodel
    refine ⟨?_, hmeaningful, heq⟩
    cases htarget : target.model with
    | none =>
      rw [htarget] at hmodel
      cases hmodel
    | some other =>
      rw [htarget] at hmodel
      rw [of_decide_eq_true hmodel]
  · rintro ⟨htarget, hmeaningful, heq⟩
    rw [htarget, heq]
    refine ⟨?_, decide_eq_true rfl, meaningful_value hmeaningful⟩
    cases payload with
    | object => rfl
    | undefined | scalar | array => cases heq

end Mapped

/-! ### Embeddings -/

section Embeddings
variable {platform : Platform} {target : LocalServiceTarget} {requestId : CodeUnits}
  {texts : List CodeUnits} {payload : Value}

theorem embeddingOutput_parse {model dimensions vectors : Value} {output : EmbeddingOutput} :
    embeddingOutputSchema.parse
        (record [("model", model), ("dimensions", dimensions), ("vectors", vectors)]) =
      some output ↔
      meaningfulTextSchema.parse model = some output.model ∧
        positiveIntegerSchema.parse dimensions = some output.dimensions ∧
        numberSchema.array.array.parse vectors = some output.vectors ∧
        1 ≤ output.vectors.length ∧
        ∀ vector ∈ output.vectors, vector.length = output.dimensions := by
  have hvectors : ∀ read, (numberSchema.array.array.refine fun vectors => 1 ≤ vectors.length).parse
      vectors = some read ↔ numberSchema.array.array.parse vectors = some read ∧
        1 ≤ read.length := by
    intro read
    rw [← decide_eq_true_iff (p := 1 ≤ read.length)]
    exact Option.filter_eq_some_iff
  have hfields : ∀ fields, (strictObject <| Members.member "model" meaningfulTextSchema <|
      Members.member "dimensions" positiveIntegerSchema <| Members.member "vectors"
        (numberSchema.array.array.refine fun vectors => 1 ≤ vectors.length) .none).parse
          (record [("model", model), ("dimensions", dimensions), ("vectors", vectors)]) =
        some fields ↔
      meaningfulTextSchema.parse model = some fields.1 ∧
        positiveIntegerSchema.parse dimensions = some fields.2.1 ∧
        numberSchema.array.array.parse vectors = some fields.2.2.1 ∧ 1 ≤ fields.2.2.1.length := by
    intro fields
    rw [strictObject_record rfl]
    simp only [Members.member_parse, lookup_record]
    simp only [memberOf_record_self, memberOf_record_of_ne, ne_eq, String.reduceEq,
      not_false_eq_true, hvectors]
    constructor
    · rintro ⟨hmodel, hdimensions, hvectors, -⟩
      exact ⟨hmodel, hdimensions, hvectors⟩
    · rintro ⟨hmodel, hdimensions, hvectors⟩
      exact ⟨hmodel, hdimensions, hvectors, rfl⟩
  constructor
  · intro h
    obtain ⟨h, hall⟩ := Option.filter_eq_some_iff.mp h
    obtain ⟨fields, hread, rfl⟩ := Option.map_eq_some_iff.mp h
    obtain ⟨hmodel, hdimensions, hvectors, hlength⟩ := (hfields fields).mp hread
    refine ⟨hmodel, hdimensions, hvectors, hlength, ?_⟩
    intro vector hvector
    exact of_decide_eq_true (List.all_eq_true.mp hall vector hvector)
  · rintro ⟨hmodel, hdimensions, hvectors, hlength, hall⟩
    apply Option.filter_eq_some_iff.mpr
    refine ⟨Option.map_eq_some_iff.mpr ⟨(output.model, output.dimensions, output.vectors, ()),
      (hfields _).mpr ⟨hmodel, hdimensions, hvectors, hlength⟩, rfl⟩, ?_⟩
    rw [List.all_eq_true]
    intro vector hvector
    exact decide_eq_true (hall vector hvector)

theorem positiveInteger_parse {value : Value} {n : Nat}
    (h : positiveIntegerSchema.parse value = some n) : isPositiveInteger n = true := by
  obtain ⟨number, -, hread⟩ := Schema.number_parse h
  exact (Option.filter_eq_some_iff.mp hread).2

theorem positiveInteger_natural {n : Nat} (h : isPositiveInteger n = true) :
    positiveIntegerSchema.parse (natural n) = some n := by
  show (JsNumber.ofNat n).toNat.filter isPositiveInteger = some n
  rw [JsNumber.toNat_ofNat]
  exact Option.filter_eq_some_iff.mpr ⟨rfl, h⟩

/-- The vectors are read one by one. -/
theorem vectors_parse {vectors : List (List Rat)} :
    numberSchema.array.array.parse (arrayOf ((itemsOf (memberOf payload "data")).map fun items =>
        items.map embeddingOf)) = some vectors ↔
      ∃ items, itemsOf (memberOf payload "data") = some items ∧
        items.map itemVector = vectors.map some := by
  cases itemsOf (memberOf payload "data") with
  | none =>
    refine iff_of_false ?_ ?_
    · intro h
      cases h
    · rintro ⟨items, hnone, -⟩
      cases hnone
  | some items =>
    rw [Option.map_some]
    constructor
    · intro h
      obtain ⟨_, heq, hmap⟩ := Schema.array_parse h
      cases heq
      rw [List.map_map] at hmap
      exact ⟨items, rfl, hmap⟩
    · rintro ⟨_, heq, hmap⟩
      cases heq
      apply Schema.parse_array
      rw [List.map_map]
      exact hmap

theorem length_itemVector {item : Value} {items : List Value} {vector : List Rat}
    (hitem : embeddingOf item = .array items) (h : itemVector item = some vector) :
    items.length = vector.length := by
  unfold itemVector at h
  rw [hitem] at h
  obtain ⟨_, heq, hmap⟩ := Schema.array_parse h
  cases heq
  simpa using congrArg List.length hmap

/-- The stated dimensions are the length of the first vector. -/
theorem dimensionsOf_eq {first : Value} {items : List Value} {vector : List Rat}
    (h : itemVector first = some vector) :
    dimensionsOf (some ((first :: items).map embeddingOf)) = natural vector.length := by
  obtain ⟨numbers, hnumbers, -⟩ := Schema.array_parse h
  rw [← length_itemVector hnumbers h, List.map_cons, hnumbers]
  rfl

theorem resultOf_embedding (hrequestId : isMeaningful requestId = true)
    (hprotocol : target.protocol = .openaiEmbeddings) {id : CodeUnits} {output : EmbeddingOutput} :
    resultOf platform target ⟨requestId, .embeddingProvider texts⟩ payload =
        .succeeded ⟨id, .embeddingProvider, output⟩ ↔
      id = requestId ∧ (target.model = some output.model ∧ isMeaningful output.model = true ∧
        memberOf payload "model" = text output.model) ∧
      isPositiveInteger output.dimensions = true ∧ 1 ≤ output.vectors.length ∧
      (∀ vector ∈ output.vectors, vector.length = output.dimensions) ∧
      (upstreamItems payload "data").map itemVector = output.vectors.map some := by
  have houtput : outputOf target ⟨requestId, .embeddingProvider texts⟩ payload =
      record [("model", memberOf payload "model"),
        ("dimensions", dimensionsOf ((itemsOf (memberOf payload "data")).map fun items =>
          items.map embeddingOf)),
        ("vectors", arrayOf ((itemsOf (memberOf payload "data")).map fun items =>
          items.map embeddingOf))] := by
    simp only [outputOf, hprotocol]
  have hmineru : target.protocol ≠ .mineru := by
    rw [hprotocol]
    decide
  rw [resultOf_eq_succeeded hrequestId (by rw [hprotocol]; decide) rfl, houtput]
  constructor
  · rintro ⟨hrecord, hmodel, read, hread, heq⟩
    injection heq with hid hport houtput
    cases houtput
    obtain ⟨hname, hdimensions, hvectors, hlength, hall⟩ := embeddingOutput_parse.mp hread
    obtain ⟨items, hitems, hmap⟩ := vectors_parse.mp hvectors
    refine ⟨hid, (namesModel_iff hmineru).mp ⟨hrecord, hmodel, hname⟩,
      positiveInteger_parse hdimensions, hlength, hall, ?_⟩
    rw [upstreamItems, hitems]
    exact hmap
  · rintro ⟨rfl, hnames, hdimensions, hlength, hall, hmap⟩
    obtain ⟨hrecord, hmodel, hname⟩ := (namesModel_iff hmineru).mpr hnames
    refine ⟨hrecord, hmodel, output, embeddingOutput_parse.mpr ?_, rfl⟩
    cases hitems : itemsOf (memberOf payload "data") with
    | none =>
      rw [upstreamItems, hitems] at hmap
      rw [List.map_eq_nil_iff.mp hmap.symm] at hlength
      exact absurd hlength (by decide)
    | some items =>
      rw [upstreamItems, hitems, Option.getD_some] at hmap
      have hread := vectors_parse.mpr ⟨items, hitems, hmap⟩
      rw [hitems] at hread
      refine ⟨hname, ?_, hread, hlength, hall⟩
      cases items with
      | nil =>
        rw [List.map_eq_nil_iff.mp hmap.symm] at hlength
        exact absurd hlength (by decide)
      | cons first items =>
        cases hvectors : output.vectors with
        | nil =>
          rw [hvectors] at hlength
          exact absurd hlength (by decide)
        | cons vector vectors =>
          rw [hvectors] at hmap
          have hfirst : itemVector first = some vector := (List.cons.inj hmap).1
          have hsame : vector.length = output.dimensions :=
            hall vector (by rw [hvectors]; exact List.mem_cons_self)
          rw [Option.map_some, dimensionsOf_eq hfirst, hsame]
          exact positiveInteger_natural hdimensions

theorem getElem?_of_map_eq {items : List Value} {vectors : List (List Rat)}
    (h : items.map itemVector = vectors.map some) (i : Nat) :
    vectors[i]? = items[i]?.bind itemVector := by
  have hat : (items.map itemVector)[i]? = (vectors.map some)[i]? := by rw [h]
  rw [List.getElem?_map, List.getElem?_map] at hat
  cases hitem : items[i]? with
  | none =>
    rw [hitem] at hat
    exact Option.map_eq_none_iff.mp hat.symm
  | some item =>
    rw [hitem, Option.map_some] at hat
    obtain ⟨vector, hvector, heq⟩ := Option.map_eq_some_iff.mp hat.symm
    rw [hvector, Option.bind_some, ← heq]

theorem exists_vectors {items : List Value} {dimensions : Nat}
    (h : ∀ item ∈ items, ∃ vector, itemVector item = some vector ∧ vector.length = dimensions) :
    ∃ vectors : List (List Rat), items.map itemVector = vectors.map some ∧
      ∀ vector ∈ vectors, vector.length = dimensions := by
  induction items with
  | nil =>
    refine ⟨[], rfl, ?_⟩
    intro vector hvector
    cases hvector
  | cons first items ih =>
    obtain ⟨vector, hfirst, hlength⟩ := h first List.mem_cons_self
    obtain ⟨vectors, hmap, hall⟩ := ih fun item hitem => h item (List.mem_cons_of_mem _ hitem)
    refine ⟨vector :: vectors, ?_, ?_⟩
    · rw [List.map_cons, List.map_cons, hfirst, hmap]
    · intro other hother
      rcases List.mem_cons.mp hother with rfl | hlater
      · exact hlength
      · exact hall other hlater

theorem corresponds_embedding_iff (hrequestId : isMeaningful requestId = true)
    (hprotocol : target.protocol = .openaiEmbeddings) :
    Corresponds (.embeddingProvider texts) payload
        (resultOf platform target ⟨requestId, .embeddingProvider texts⟩ payload) ↔
      PayloadCorresponds target (.embeddingProvider texts) payload := by
  constructor
  · rintro h ⟨⟨model, hnames⟩, hsome, dimensions, hdimensions, hitems⟩
    obtain ⟨vectors, hmap, hall⟩ := exists_vectors hitems
    have hlength : (upstreamItems payload "data").length = vectors.length := by
      simpa using congrArg List.length hmap
    have hnonempty : 1 ≤ vectors.length := by
      rw [← hlength]
      exact List.length_pos_of_ne_nil hsome
    have hembeds := h requestId ⟨model, dimensions, vectors⟩ ((resultOf_embedding hrequestId
      hprotocol).mpr ⟨rfl, hnames, hdimensions, hnonempty, hall, hmap⟩)
    refine ⟨hlength.trans hembeds.count, ?_⟩
    intro i hi
    obtain ⟨position, item, hitem, hindex, hvector⟩ := hembeds.order i hi
    exact ⟨position, item, hitem, hindex, hvector.trans (getElem?_of_map_eq hmap i)⟩
  · intro h id output hresult
    obtain ⟨-, hnames, hdimensions, hnonempty, hall, hmap⟩ :=
      (resultOf_embedding hrequestId hprotocol).mp hresult
    have hlength : (upstreamItems payload "data").length = output.vectors.length := by
      simpa using congrArg List.length hmap
    have htakes : TakesVectors target payload := by
      refine ⟨⟨_, hnames⟩, ?_, output.dimensions, hdimensions, ?_⟩
      · apply List.ne_nil_of_length_pos
        rw [hlength]
        exact hnonempty
      · intro item hitem
        have hin : itemVector item ∈ output.vectors.map some := by
          rw [← hmap]
          exact List.mem_map_of_mem hitem
        obtain ⟨vector, hvector, heq⟩ := List.mem_map.mp hin
        exact ⟨vector, heq.symm, hall vector hvector⟩
    obtain ⟨hcount, horder⟩ := h htakes
    refine ⟨hlength.symm.trans hcount, hall, ?_⟩
    intro i hi
    obtain ⟨position, item, hitem, hindex, hvector⟩ := horder i hi
    exact ⟨position, item, hitem, hindex, hvector.trans (getElem?_of_map_eq hmap i).symm⟩

end Embeddings

/-! ### Rankings -/

section Rankings
variable {platform : Platform} {target : LocalServiceTarget} {requestId query : CodeUnits}
  {documents : List RerankerDocument} {topK : Nat} {payload : Value}

theorem ranking_parse {documentId score : Value} {ranking : Ranking} :
    rankingSchema.parse (record [("documentId", documentId), ("score", score)]) = some ranking ↔
      meaningfulTextSchema.parse documentId = some ranking.documentId ∧
        numberSchema.parse score = some ranking.score := by
  have hfields : ∀ fields, (strictObject <| Members.member "documentId" meaningfulTextSchema <|
      Members.member "score" numberSchema .none).parse
          (record [("documentId", documentId), ("score", score)]) = some fields ↔
      meaningfulTextSchema.parse documentId = some fields.1 ∧
        numberSchema.parse score = some fields.2.1 := by
    intro fields
    rw [strictObject_record rfl]
    simp only [Members.member_parse, lookup_record]
    simp only [memberOf_record_self, memberOf_record_of_ne, ne_eq, String.reduceEq,
      not_false_eq_true]
    constructor
    · rintro ⟨hdocumentId, hscore, -⟩
      exact ⟨hdocumentId, hscore⟩
    · rintro ⟨hdocumentId, hscore⟩
      exact ⟨hdocumentId, hscore, rfl⟩
  constructor
  · intro h
    obtain ⟨fields, hread, rfl⟩ := Option.map_eq_some_iff.mp h
    exact (hfields fields).mp hread
  · intro h
    exact Option.map_eq_some_iff.mpr ⟨(ranking.documentId, ranking.score, ()),
      (hfields _).mpr h, rfl⟩

/-- The ranking of a document, if there is one. -/
theorem ranking_parse_optional {document : Option RerankerDocument} {score : Value}
    {ranking : Ranking} :
    rankingSchema.parse (record [("documentId",
        optionalText (document.map RerankerDocument.documentId)), ("score", score)]) =
      some ranking ↔
      ∃ found, document = some found ∧ isMeaningful found.documentId = true ∧
        found.documentId = ranking.documentId ∧ numberSchema.parse score = some ranking.score := by
  rw [ranking_parse]
  cases document with
  | none =>
    refine iff_of_false ?_ ?_
    · rintro ⟨h, -⟩
      cases h
    · rintro ⟨found, h, -⟩
      cases h
  | some found =>
    rw [Option.map_some, optionalText]
    constructor
    · rintro ⟨hread, hscore⟩
      obtain ⟨heq, hmeaningful⟩ := meaningful_parse hread
      injection heq with hscalar
      injection hscalar with hsame
      rw [← hsame] at hmeaningful
      exact ⟨found, rfl, hmeaningful, hsame, hscore⟩
    · rintro ⟨_, heq, hmeaningful, hsame, hscore⟩
      cases heq
      rw [← hsame]
      exact ⟨meaningful_value hmeaningful, hscore⟩

theorem rankingOf_other {item : Value}
    (h : ∀ index, memberOf item "index" ≠ .scalar (.number index)) :
    rankingOf documents item = .undefined := by
  unfold rankingOf
  split
  · rename_i index hindex
    exact absurd hindex (h index)
  · rfl

theorem rankedDocument_other {item : Value}
    (h : ∀ index, memberOf item "index" ≠ .scalar (.number index)) :
    rankedDocument documents item = none := by
  unfold rankedDocument
  split
  · rename_i index hindex
    exact absurd hindex (h index)
  · rfl

/-- An item is read as the ranking of the document at its index. -/
theorem rankingOf_parse {item : Value} {ranking : Ranking} :
    rankingSchema.parse (rankingOf documents item) = some ranking ↔
      ∃ document, rankedDocument documents item = some document ∧
        isMeaningful document.documentId = true ∧ document.documentId = ranking.documentId ∧
        numberSchema.parse (memberOf item "relevance_score") = some ranking.score := by
  by_cases hnumber : ∃ index, memberOf item "index" = .scalar (.number index)
  · obtain ⟨index, hindex⟩ := hnumber
    simp only [rankingOf, rankedDocument, hindex]
    exact ranking_parse_optional
  · have hother : ∀ index, memberOf item "index" ≠ .scalar (.number index) :=
      fun index hindex => hnumber ⟨index, hindex⟩
    rw [rankingOf_other hother, rankedDocument_other hother]
    refine iff_of_false ?_ ?_
    · intro h
      cases h
    · rintro ⟨document, h, -⟩
      cases h

/-- The rankings are read one by one. -/
theorem rankings_parse {rankings : List Ranking} :
    rankingSchema.array.parse (arrayOf ((itemsOf (memberOf payload "results")).map fun items =>
        items.map (rankingOf documents))) = some rankings ↔
      ∃ items, itemsOf (memberOf payload "results") = some items ∧
        items.map (fun item => rankingSchema.parse (rankingOf documents item)) =
          rankings.map some := by
  cases itemsOf (memberOf payload "results") with
  | none =>
    refine iff_of_false ?_ ?_
    · intro h
      cases h
    · rintro ⟨items, hnone, -⟩
      cases hnone
  | some items =>
    rw [Option.map_some]
    constructor
    · intro h
      obtain ⟨_, heq, hmap⟩ := Schema.array_parse h
      cases heq
      rw [List.map_map] at hmap
      exact ⟨items, rfl, hmap⟩
    · rintro ⟨_, heq, hmap⟩
      cases heq
      apply Schema.parse_array
      rw [List.map_map]
      exact hmap

theorem rerankerOutput_parse {model rankings : Value} {output : RerankerOutput} :
    (outputSchema .reranker).parse (record [("model", model), ("rankings", rankings)]) =
      some output ↔
      meaningfulTextSchema.parse model = some output.model ∧
        rankingSchema.array.parse rankings = some output.rankings := by
  have hfields : ∀ fields, (strictObject <| Members.member "model" meaningfulTextSchema <|
      Members.member "rankings" rankingSchema.array .none).parse
          (record [("model", model), ("rankings", rankings)]) = some fields ↔
      meaningfulTextSchema.parse model = some fields.1 ∧
        rankingSchema.array.parse rankings = some fields.2.1 := by
    intro fields
    rw [strictObject_record rfl]
    simp only [Members.member_parse, lookup_record]
    simp only [memberOf_record_self, memberOf_record_of_ne, ne_eq, String.reduceEq,
      not_false_eq_true]
    constructor
    · rintro ⟨hmodel, hrankings, -⟩
      exact ⟨hmodel, hrankings⟩
    · rintro ⟨hmodel, hrankings⟩
      exact ⟨hmodel, hrankings, rfl⟩
  constructor
  · intro h
    obtain ⟨fields, hread, rfl⟩ := Option.map_eq_some_iff.mp h
    exact (hfields fields).mp hread
  · intro h
    exact Option.map_eq_some_iff.mpr ⟨(output.model, output.rankings, ()),
      (hfields _).mpr h, rfl⟩

theorem resultOf_reranker (hrequestId : isMeaningful requestId = true)
    (hprotocol : target.protocol = .rerank) {id : CodeUnits} {output : RerankerOutput} :
    resultOf platform target ⟨requestId, .reranker query documents topK⟩ payload =
        .succeeded ⟨id, .reranker, output⟩ ↔
      id = requestId ∧ (target.model = some output.model ∧ isMeaningful output.model = true ∧
        memberOf payload "model" = text output.model) ∧
      ∃ items, itemsOf (memberOf payload "results") = some items ∧
        items.map (fun item => rankingSchema.parse (rankingOf documents item)) =
          output.rankings.map some := by
  have houtput : outputOf target ⟨requestId, .reranker query documents topK⟩ payload =
      record [("model", memberOf payload "model"),
        ("rankings", arrayOf ((itemsOf (memberOf payload "results")).map fun items =>
          items.map (rankingOf documents)))] := by
    simp only [outputOf, hprotocol, LocalServiceRequest.documents]
  have hmineru : target.protocol ≠ .mineru := by
    rw [hprotocol]
    decide
  rw [resultOf_eq_succeeded hrequestId (by rw [hprotocol]; decide) rfl, houtput]
  constructor
  · rintro ⟨hrecord, hmodel, read, hread, heq⟩
    injection heq with hid hport houtput
    cases houtput
    obtain ⟨hname, hrankings⟩ := rerankerOutput_parse.mp hread
    exact ⟨hid, (namesModel_iff hmineru).mp ⟨hrecord, hmodel, hname⟩,
      rankings_parse.mp hrankings⟩
  · rintro ⟨rfl, hnames, hrankings⟩
    obtain ⟨hrecord, hmodel, hname⟩ := (namesModel_iff hmineru).mpr hnames
    exact ⟨hrecord, hmodel, output,
      rerankerOutput_parse.mpr ⟨hname, rankings_parse.mpr hrankings⟩, rfl⟩

theorem mem_of_rankedDocument {item : Value} {document : RerankerDocument}
    (h : rankedDocument documents item = some document) : document ∈ documents := by
  unfold rankedDocument at h
  split at h
  · obtain ⟨i, -, hdocument⟩ := Option.bind_eq_some_iff.mp h
    exact List.mem_of_getElem? hdocument
  · cases h

/-- Items of meaningful documents with scores are read as rankings. -/
theorem exists_rankings (hdocuments : ∀ document ∈ documents,
      isMeaningful document.documentId = true) {items : List Value}
    (h : ∀ item ∈ items, (rankedDocument documents item).isSome = true ∧
      (numberSchema.parse (memberOf item "relevance_score")).isSome = true) :
    ∃ rankings : List Ranking,
      items.map (fun item => rankingSchema.parse (rankingOf documents item)) =
        rankings.map some := by
  induction items with
  | nil => exact ⟨[], rfl⟩
  | cons first items ih =>
    obtain ⟨hranked, hscored⟩ := h first List.mem_cons_self
    obtain ⟨document, hdocument⟩ := Option.isSome_iff_exists.mp hranked
    obtain ⟨score, hscore⟩ := Option.isSome_iff_exists.mp hscored
    obtain ⟨rankings, hmap⟩ := ih fun item hitem => h item (List.mem_cons_of_mem _ hitem)
    have hmeaningful := hdocuments document (mem_of_rankedDocument hdocument)
    have hfirst : rankingSchema.parse (rankingOf documents first) =
        some ⟨document.documentId, score⟩ :=
      rankingOf_parse.mpr ⟨document, hdocument, hmeaningful, rfl, hscore⟩
    refine ⟨⟨document.documentId, score⟩ :: rankings, ?_⟩
    rw [List.map_cons, List.map_cons, hfirst, hmap]

/-- The rankings are of the documents that the items rank. -/
theorem rankedDocuments_of_map {items : List Value} {rankings : List Ranking}
    (h : items.map (fun item => rankingSchema.parse (rankingOf documents item)) =
      rankings.map some) :
    rankings.map Ranking.documentId =
      (items.filterMap (rankedDocument documents)).map RerankerDocument.documentId := by
  induction items generalizing rankings with
  | nil =>
    rw [List.map_eq_nil_iff.mp h.symm]
    rfl
  | cons first items ih =>
    cases rankings with
    | nil => cases h
    | cons ranking rankings =>
      obtain ⟨hfirst, hrest⟩ := List.cons.inj h
      obtain ⟨document, hdocument, -, hsame, -⟩ := rankingOf_parse.mp hfirst
      rw [List.filterMap_cons_some hdocument, List.map_cons, List.map_cons, hsame, ih hrest]

theorem corresponds_reranker_iff (hrequestId : isMeaningful requestId = true)
    (hdocuments : ∀ document ∈ documents, isMeaningful document.documentId = true)
    (hprotocol : target.protocol = .rerank) :
    Corresponds (.reranker query documents topK) payload
        (resultOf platform target ⟨requestId, .reranker query documents topK⟩ payload) ↔
      PayloadCorresponds target (.reranker query documents topK) payload := by
  constructor
  · rintro h ⟨⟨model, hnames⟩, items, hitems, htaken⟩
    obtain ⟨rankings, hmap⟩ := exists_rankings hdocuments htaken
    have hranks := h requestId ⟨model, rankings⟩ ((resultOf_reranker hrequestId
      hprotocol).mpr ⟨rfl, hnames, items, hitems, hmap⟩)
    have hlength : items.length = rankings.length := by
      simpa using congrArg List.length hmap
    have hall : upstreamItems payload "results" = items := by
      rw [upstreamItems, hitems, Option.getD_some]
    rw [hall]
    refine ⟨?_, hlength.trans_le hranks.atMost⟩
    rw [← rankedDocuments_of_map hmap]
    exact hranks.distinct
  · intro h id output hresult
    obtain ⟨-, hnames, items, hitems, hmap⟩ := (resultOf_reranker hrequestId hprotocol).mp hresult
    have hlength : items.length = output.rankings.length := by
      simpa using congrArg List.length hmap
    have hread : ∀ item ∈ items, ∃ ranking ∈ output.rankings,
        rankingSchema.parse (rankingOf documents item) = some ranking := by
      intro item hitem
      have hin : rankingSchema.parse (rankingOf documents item) ∈ output.rankings.map some := by
        rw [← hmap]
        exact List.mem_map_of_mem hitem
      obtain ⟨ranking, hranking, heq⟩ := List.mem_map.mp hin
      exact ⟨ranking, hranking, heq.symm⟩
    have htakes : TakesRankings target documents payload := by
      refine ⟨⟨_, hnames⟩, items, hitems, ?_⟩
      intro item hitem
      obtain ⟨ranking, -, hranking⟩ := hread item hitem
      obtain ⟨document, hdocument, -, -, hscore⟩ := rankingOf_parse.mp hranking
      rw [hdocument, hscore]
      exact ⟨rfl, rfl⟩
    obtain ⟨hdistinct, hatMost⟩ := h htakes
    rw [upstreamItems, hitems, Option.getD_some] at hdistinct hatMost
    refine ⟨?_, ?_, hlength.symm.trans_le hatMost⟩
    · rw [rankedDocuments_of_map hmap]
      exact hdistinct
    · intro ranking hranking
      have hid : ranking.documentId ∈ output.rankings.map Ranking.documentId :=
        List.mem_map_of_mem hranking
      rw [rankedDocuments_of_map hmap] at hid
      obtain ⟨document, hdocument, hsame⟩ := List.mem_map.mp hid
      obtain ⟨item, -, hranked⟩ := List.mem_filterMap.mp hdocument
      exact ⟨document, mem_of_rankedDocument hranked, hsame⟩

end Rankings

/-! ### Every request -/

section Requests
variable {platform : Platform} {target : LocalServiceTarget} {request : LocalServiceRequest}

theorem corresponds_failed (input : LocalServiceInput) (payload : Value)
    (error : FailedLocalServiceResult) : Corresponds input payload (.failed error) := by
  cases input with
  | embeddingProvider texts =>
    intro requestId output hresult
    cases hresult
  | reranker query documents topK =>
    intro requestId output hresult
    cases hresult
  | modelProvider | documentParser | asr => trivial

theorem built_of_received {payload : Value}
    (h : received platform target request = some payload) :
    ∃ upstream, buildUpstreamRequest target request = .ok upstream := by
  unfold received at h
  split at h
  · rename_i upstream _ hbuild
    exact ⟨upstream, hbuild⟩
  · cases h

theorem protocol_of_embedding {requestId : CodeUnits} {texts : List CodeUnits}
    {upstream : UpstreamRequest}
    (h : buildUpstreamRequest target ⟨requestId, .embeddingProvider texts⟩ = .ok upstream) :
    target.protocol = .openaiEmbeddings := by
  unfold buildUpstreamRequest at h
  cases hprotocol : target.protocol with
  | openaiEmbeddings => rfl
  | openaiChatCompletions | rerank | paddleocrVl | mineru | choicemindDocumentParser =>
    rw [hprotocol] at h
    cases h

theorem protocol_of_reranker {requestId query : CodeUnits} {documents : List RerankerDocument}
    {topK : Nat} {upstream : UpstreamRequest}
    (h : buildUpstreamRequest target ⟨requestId, .reranker query documents topK⟩ = .ok upstream) :
    target.protocol = .rerank := by
  unfold buildUpstreamRequest at h
  cases hprotocol : target.protocol with
  | rerank => rfl
  | openaiChatCompletions | openaiEmbeddings | paddleocrVl | mineru
      | choicemindDocumentParser =>
    rw [hprotocol] at h
    cases h

theorem meaningful_documents {requestId query : CodeUnits} {documents : List RerankerDocument}
    {topK : Nat}
    (h : (LocalServiceRequest.mk requestId (.reranker query documents topK)).schemaHolds = true) :
    ∀ document ∈ documents, isMeaningful document.documentId = true := by
  intro document hdocument
  simp only [LocalServiceRequest.schemaHolds, LocalServiceInput.schemaHolds,
    Bool.and_eq_true, List.all_eq_true] at h
  exact (h.2.1.2 document hdocument).1

/-- The result of a payload corresponds to the request exactly when the payload does. -/
theorem corresponds_resultOf_iff (hvalid : request.schemaHolds = true) {payload : Value}
    (h : received platform target request = some payload) :
    Corresponds request.input payload (resultOf platform target request payload) ↔
      PayloadCorresponds target request.input payload := by
  obtain ⟨upstream, hbuilt⟩ := built_of_received h
  have hrequestId : isMeaningful request.requestId = true := (Bool.and_eq_true_iff.mp hvalid).1
  obtain ⟨requestId, input⟩ := request
  cases input with
  | embeddingProvider texts =>
    exact corresponds_embedding_iff hrequestId (protocol_of_embedding hbuilt)
  | reranker query documents topK =>
    exact corresponds_reranker_iff hrequestId (meaningful_documents hvalid)
      (protocol_of_reranker hbuilt)
  | modelProvider | documentParser | asr => exact Iff.rfl

/-- Results correspond to the request exactly when what arrives does. -/
theorem resultCorresponds_iff (platform : Platform) (target : LocalServiceTarget)
    (request : LocalServiceRequest) (hvalid : request.schemaHolds = true)
    (hport : target.port = request.port) :
    ResultCorresponds platform target request ↔
      ∀ payload, received platform target request = some payload →
        PayloadCorresponds target request.input payload := by
  obtain ⟨haccepted, hrequestId, hsamePort⟩ :=
    @execute_accepted platform target request hvalid hport
  constructor
  · intro h payload hreceived
    apply (corresponds_resultOf_iff hvalid hreceived).mp
    rw [← execute_of_received hport hreceived]
    cases hresult : executeLocalServiceRequest platform target request with
    | failed error => exact corresponds_failed _ _ error
    | succeeded success =>
      obtain ⟨other, hother, hcorresponds⟩ := h.answers success hresult
      rw [hreceived] at hother
      cases hother
      rw [← hresult]
      exact hcorresponds
  · intro h
    refine ⟨haccepted, hrequestId, hsamePort, ?_⟩
    intro success hresult
    cases hreceived : received platform target request with
    | none =>
      obtain ⟨code, message, -, hfailed⟩ := execute_of_not_received hport hreceived
      rw [hresult] at hfailed
      cases hfailed
    | some payload =>
      refine ⟨payload, rfl, ?_⟩
      rw [execute_of_received hport hreceived]
      exact (corresponds_resultOf_iff hvalid hreceived).mpr (h payload hreceived)

end Requests

/-! ### Samples -/

def sampleItem (index component : Nat) : Value :=
  record [("index", natural index), ("embedding", .array [natural component])]

theorem digit_mem : ∀ u ∈ [unit '1'], u ∈ numberUnits := by
  intro u hu
  rw [List.mem_singleton.mp hu]
  exact List.mem_cons_of_mem _ List.mem_cons_self

def sampleNumeral : Numeral := ⟨[unit '1'], List.cons_ne_nil _ _, digit_mem⟩

def samplePlatform (data : List Value) : Platform where
  fetch _ := .answered 200 (some (record [("model", string "m"), ("data", .array data)]))
  numeral _ := sampleNumeral
  issuesOf _ := []

def sampleTarget : LocalServiceTarget where
  port := .embeddingProvider
  baseUrl := ofString "http://127.0.0.1/v1"
  model := some (ofString "m")
  protocol := .openaiEmbeddings
  timeoutMs := 1000
  maxInputBytes := none

def sampleRequest : LocalServiceRequest :=
  ⟨ofString "r", .embeddingProvider [ofString "a", ofString "b"]⟩

def sampleOutput (vectors : List (List Rat)) : EmbeddingOutput := ⟨ofString "m", 1, vectors⟩

/-- Items in the order of the texts correspond. -/
theorem resultCorresponds_iff_sample :
    ResultCorresponds (samplePlatform [sampleItem 0 1, sampleItem 1 2]) sampleTarget
      sampleRequest := by
  apply (resultCorresponds_iff _ sampleTarget sampleRequest (by decide) rfl).mpr
  rintro payload hpayload -
  cases hpayload
  refine ⟨rfl, ?_⟩
  intro i hi
  have hcases : i = 0 ∨ i = 1 := by
    simp only [List.length_cons, List.length_nil] at hi
    omega
  rcases hcases with rfl | rfl
  · exact ⟨0, _, rfl, rfl, rfl⟩
  · exact ⟨1, _, rfl, rfl, rfl⟩

/-- The item with index `1` comes first, and its vector becomes that of the first text. -/
theorem swapped_items_do_not_correspond :
    ¬ ∀ platform target (request : LocalServiceRequest), request.schemaHolds = true →
      target.port = request.port → ResultCorresponds platform target request := by
  intro hclaim
  have hanswers := (hclaim (samplePlatform [sampleItem 1 2, sampleItem 0 1]) sampleTarget
    sampleRequest (by decide) rfl).answers
  have hresult : executeLocalServiceRequest (samplePlatform [sampleItem 1 2, sampleItem 0 1])
      sampleTarget sampleRequest =
        .succeeded ⟨ofString "r", .embeddingProvider, sampleOutput [[2], [1]]⟩ := rfl
  obtain ⟨payload, hpayload, hcorresponds⟩ := hanswers _ hresult
  cases hpayload
  obtain ⟨position, item, hitem, hindex, hvector⟩ :=
    (hcorresponds _ _ hresult).order 0 (by decide)
  cases position with
  | zero =>
    cases hitem
    cases hindex
  | succ position =>
    cases position with
    | zero =>
      cases hitem
      cases hvector
    | succ => cases hitem

end ChoiceMind.LocalServices
