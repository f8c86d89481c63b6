import ChoiceMind.EvidenceIngestion.ObjectStore
import ChoiceMind.Foundation.Base64
import ChoiceMind.LocalServices.Client

/-!
# Where evidence comes from

`createHttpDataSourceConnector` puts the bytes of an admitted response into the object store,
and `createPublicWebEvidenceGenerator` reads them back for the parser. Both run beside other
calls on the same store.
-/

namespace ChoiceMind.EvidenceIngestion.Provenance

set_option autoImplicit false

open CodeUnits LocalServices Transition ObjectStore

/-! ### Collecting -/

structure HttpResponse where
  status : Nat
  ok : Bool
  contentType : Option String
  contentLength : Option String
  url : String
  body : Bytes
  deriving DecidableEq

/-- What the pipeline takes from the platform and from zod. -/
structure Platform where
  hash : Hash
  /-- `Number` of a text, where it is finite -/
  number : String → Option Rat
  encodeUtf8 : CodeUnits → Bytes
  issuesOf : Value → List ContractIssue

/-- `contentType.split(";", 1)[0]?.trim()` -/
def mediaTypeOf (contentType : String) : String :=
  let first := contentType.toList.takeWhile fun c => c ≠ ';'
  .ofList ((first.dropWhile Contracts.isWhiteSpace).reverse.dropWhile
    Contracts.isWhiteSpace).reverse

/-- The media type of an admitted response, or the error with the bytes that were fetched. -/
def checkResponse (number : String → Option Rat) (policy : CollectionPolicy)
    (response : HttpResponse) : Except (CollectionErrorCode × Bool × Int) String :=
  if 300 ≤ response.status ∧ response.status < 400 then .error (.redirectRejected, false, 0)
  else if !response.ok then .error (.fetchFailed, 500 ≤ response.status, 0)
  else
    match response.contentType.map mediaTypeOf with
    | none => .error (.mimeRejected, false, 0)
    | some mediaType =>
      if mediaType ∉ policy.allowedMediaTypes then .error (.mimeRejected, false, 0)
      else if (response.contentLength.bind number).any fun length =>
          (policy.maxBytes : Rat) < length then
        .error (.sizeExceeded, false, 0)
      else if policy.maxBytes < response.body.length then
        .error (.sizeExceeded, false, response.body.length)
      else .ok mediaType

/-- A call of `collect` whose response was admitted, and the number of its `put`. -/
structure Collection where
  source : SourceInput
  policy : CollectionPolicy
  response : HttpResponse
  mediaType : String
  put : Nat
  result : Option DataSourceCollectionResult
  deriving DecidableEq

/-! ### Generating -/

/-- `Buffer.from(rawBytes).toString("base64")` -/
def base64Text (bytes : Bytes) : CodeUnits := (Base64.encode bytes).map unit

structure GeneratedEvidence where
  evidenceId : String
  decisionTaskId : String
  capturedAt : String
  excerpt : CodeUnits
  validUntil : String
  sourceId : String
  title : String
  url : String
  excerptDigest : String
  parserVersion : CodeUnits
  rawArtifact : DataSourceArtifactRef
  deriving DecidableEq

inductive GenerationOutcome
  | created (evidence : GeneratedEvidence)
  | gap (decisionTaskId gapId : String) (retryable : Bool)
  | thrown
  deriving DecidableEq

/-- A call of `generate` for an HTML collection: the number of its `read`, what it has sent to
the parser and what became of it. -/
structure Generation where
  collection : Nat
  sourceFacts : SourceFacts
  rawArtifact : DataSourceArtifactRef
  decisionTaskId : String
  validUntil : String
  read : Nat
  request : Option LocalServiceRequest
  outcome : Option GenerationOutcome
  deriving DecidableEq

def evidenceOf (platform : Platform) (generation : Generation) (evidenceId : String)
    (output : DocumentOutput) : GeneratedEvidence where
  evidenceId := evidenceId
  decisionTaskId := generation.decisionTaskId
  capturedAt := generation.sourceFacts.capturedAt
  excerpt := output.text
  validUntil := generation.validUntil
  sourceId := generation.sourceFacts.sourceId
  title := generation.sourceFacts.title
  url := generation.sourceFacts.url
  excerptDigest := platform.hash.sha256 (platform.encodeUtf8 output.text)
  parserVersion := output.parser
  rawArtifact := generation.rawArtifact

/-- What `generate` makes of an answer of the parser. -/
def outcomeOf (platform : Platform) (generation : Generation) (nextId : String)
    (answer : Value) : GenerationOutcome :=
  match decodeLocalServiceResultV1 platform.issuesOf answer with
  | .ok (.succeeded ⟨_, .documentParser, output⟩) =>
    .created (evidenceOf platform generation nextId output)
  | .ok (.failed result) => .gap generation.decisionTaskId nextId result.error.retryable
  | _ => .gap generation.decisionTaskId nextId false

/-! ### Steps -/

structure World where
  store : ObjectStore.World
  collections : List Collection
  generations : List Generation

def World.initial : World := ⟨.empty, [], []⟩

inductive Label
  | store (label : ObjectStore.Label)
  | collect (source : SourceInput) (policy : CollectionPolicy) (response : Option HttpResponse)
    (durationMs : Int)
  | collected (index : Nat) (capturedAt : String) (durationMs : Int)
  | generate (collection : Nat) (decisionTaskId validUntil gapId : String)
  | parse (index : Nat) (requestId : CodeUnits) (answer : Option Value) (nextId : String)

def Label.bytes : Label → List Bytes
  | store label => label.bytes
  | collect _ _ response _ => response.toList.map HttpResponse.body
  | _ => []

inductive Reply
  | done
  | store (reply : ObjectStore.Reply)
  | collection (result : DataSourceCollectionResult)
  | outcome (outcome : GenerationOutcome)
  deriving DecidableEq

section Steps
variable (platform : Platform) (rootDirectory : String)

def collectStep (world : World) (source : SourceInput) (policy : CollectionPolicy)
    (response : Option HttpResponse) (durationMs : Int) : Reply × World :=
  match response with
  | none => (.collection (.error .fetchFailed true ⟨0, durationMs⟩), world)
  | some response =>
    match checkResponse platform.number policy response with
    | .error (code, retryable, bytesFetched) =>
      (.collection (.error code retryable ⟨bytesFetched, durationMs⟩), world)
    | .ok mediaType => (.done,
      { world with
        store := { world.store with
          puts := world.store.puts ++ [⟨response.body, .opening, false⟩] }
        collections := world.collections ++
          [⟨source, policy, response, mediaType, world.store.puts.length, none⟩] })

/-- The `put` of a collection has returned. -/
def collectedStep (world : World) (index : Nat) (capturedAt : String) (durationMs : Int) :
    Option (Reply × World) :=
  match world.collections[index]? with
  | some ⟨source, policy, response, mediaType, put, none⟩ =>
    match world.store.puts[put]? with
    | some ⟨bytes, .returned, _⟩ =>
      let result : DataSourceCollectionResult :=
        .ok ⟨capturedAt, mediaType, source.sourceId, source.title, response.url⟩
          (referenceOf platform.hash bytes) ⟨response.body.length, durationMs⟩
      some (.collection result,
        { world with
          collections :=
            world.collections.set index ⟨source, policy, response, mediaType, put, some result⟩ })
    | _ => none
  | _ => none

def generateStep (world : World) (index : Nat) (decisionTaskId validUntil gapId : String) :
    Option (Reply × World) :=
  match world.collections[index]? with
  | some ⟨_, _, _, _, _, some (.ok sourceFacts rawArtifact _)⟩ =>
    if sourceFacts.mediaType ≠ "text/html" then
      some (.outcome (.gap decisionTaskId gapId false), world)
    else
      some (.done,
        { world with
          store := (readStep rootDirectory world.store rawArtifact).2
          generations := world.generations ++
            [⟨index, sourceFacts, rawArtifact, decisionTaskId, validUntil,
              world.store.reads.length, none, none⟩] })
  | _ => none

/-- The `read` of a generation has returned, and the parser has answered or thrown. -/
def parseStep (world : World) (index : Nat) (requestId : CodeUnits) (answer : Option Value)
    (nextId : String) : Option (Reply × World) :=
  match world.generations[index]? with
  | some ⟨collection, sourceFacts, rawArtifact, decisionTaskId, validUntil, read, none, none⟩ =>
    match world.store.reads[read]? with
    | some ⟨_, .returned rawBytes⟩ =>
      let request : LocalServiceRequest :=
        ⟨requestId, .documentParser .html (base64Text rawBytes)⟩
      let generation : Generation :=
        ⟨collection, sourceFacts, rawArtifact, decisionTaskId, validUntil, read, some request, none⟩
      let outcome := answer.elim .thrown (outcomeOf platform generation nextId)
      some (.outcome outcome,
        { world with
          generations := world.generations.set index { generation with outcome := some outcome } })
    | _ => none
  | _ => none

def step (world : World) : Label → Option (Reply × World)
  | .store label =>
    (ObjectStore.step platform.hash rootDirectory world.store label).map fun result =>
      (.store result.1, { world with store := result.2 })
  | .collect source policy response durationMs =>
    some (collectStep platform world source policy response durationMs)
  | .collected index capturedAt durationMs =>
    collectedStep platform world index capturedAt durationMs
  | .generate index decisionTaskId validUntil gapId =>
    generateStep rootDirectory world index decisionTaskId validUntil gapId
  | .parse index requestId answer nextId => parseStep platform world index requestId answer nextId

end Steps

abbrev PipelineEntry := Entry World Label Reply

/-! ### The text of the bytes -/

/-- The characters of a text. -/
def chars (text : CodeUnits) : List Char := text.map fun u => .ofNat u.val

theorem char_unit {c : Char} (h : c.toNat < 128) : Char.ofNat (unit c).val = c := by
  have hval : (unit c).val = c.toNat := Nat.mod_eq_of_lt (by omega)
  rw [hval, Char.ofNat_toNat]

theorem decode_base64Text (bytes : Bytes) :
    Base64.decode (chars (base64Text bytes)) = some bytes := by
  have hchars : chars (base64Text bytes) = Base64.encode bytes := by
    unfold chars base64Text
    rw [List.map_map]
    conv_rhs => rw [← List.map_id (Base64.encode bytes)]
    apply List.map_congr_left
    intro c hc
    exact char_unit (Base64.encode_ascii hc)
  rw [hchars, Base64.decode_encode]

/-- The unit is one of the alphabet of `isBase64`. -/
def isBase64Digit (u : CodeUnit) : Bool :=
  (Char.ofNat u.val).isAlphanum || u = unit '+' || u = unit '/'

theorem isBase64Digit_digit {n : Nat} (h : n < 64) :
    isBase64Digit (unit (Base64.digit n)) = true := by
  have hall : ∀ n : Fin 64, isBase64Digit (unit (Base64.digit n)) = true := by decide +kernel
  exact hall ⟨n, h⟩

theorem isMeaningful_digit {n : Nat} (h : n < 64) :
    (!Contracts.isWhiteSpace (Char.ofNat (unit (Base64.digit n)).val)) = true := by
  have hall : ∀ n : Fin 64,
      (!Contracts.isWhiteSpace (Char.ofNat (unit (Base64.digit n)).val)) = true := by
    decide +kernel
  exact hall ⟨n, h⟩

/-- The text of a document that is not empty is admitted by the contract of the request. -/
theorem schemaHolds_base64Text {bytes : Bytes} (h : bytes ≠ []) :
    (LocalServiceInput.documentParser .html (base64Text bytes)).schemaHolds = true := by
  obtain ⟨body, pads, hencode, hbody, hlength, hpads, hsome⟩ := Base64.encode_shape bytes
  have hdigits : ∀ u ∈ body.map unit, isBase64Digit u = true := by
    intro u hu
    obtain ⟨c, hc, rfl⟩ := List.mem_map.mp hu
    obtain ⟨n, hn, rfl⟩ := hbody c hc
    exact isBase64Digit_digit hn
  have hpad : ∀ u ∈ pads.map unit, u = unit '=' := by
    intro u hu
    obtain ⟨c, hc, rfl⟩ := List.mem_map.mp hu
    rw [hpads c hc]
  have htext : base64Text bytes = body.map unit ++ pads.map unit := by
    unfold base64Text
    rw [hencode, List.map_append]
  -- a pad is no digit
  have htake : (pads.map unit).takeWhile isBase64Digit = [] := by
    cases hunits : pads.map unit with
    | nil => rfl
    | cons u units =>
      rw [hunits] at hpad
      rw [hpad u List.mem_cons_self]
      exact List.takeWhile_cons_of_neg (by decide)
  have hdrop : (pads.map unit).dropWhile isBase64Digit = pads.map unit := by
    have hsplit := List.takeWhile_append_dropWhile (p := isBase64Digit) (l := pads.map unit)
    rw [htake, List.nil_append] at hsplit
    exact hsplit
  unfold LocalServiceInput.schemaHolds
  rw [Bool.and_eq_true]
  constructor
  · obtain ⟨c, hc⟩ := List.exists_mem_of_ne_nil body (hsome h)
    obtain ⟨n, hn, rfl⟩ := hbody c hc
    unfold LocalServices.isMeaningful
    rw [List.any_eq_true]
    refine ⟨unit (Base64.digit n), ?_, isMeaningful_digit hn⟩
    rw [htext]
    exact List.mem_append_left _ (List.mem_map.mpr ⟨_, hc, rfl⟩)
  · change (decide (List.takeWhile isBase64Digit (base64Text bytes) ≠ []) &&
      decide ((List.dropWhile isBase64Digit (base64Text bytes)).length ≤ 2) &&
      (List.dropWhile isBase64Digit (base64Text bytes)).all fun u => u = unit '=') = true
    rw [htext, List.takeWhile_append_of_pos hdigits, List.dropWhile_append_of_pos hdigits, htake,
      hdrop, List.append_nil]
    simp only [Bool.and_eq_true, decide_eq_true_eq, List.all_eq_true, List.length_map]
    exact ⟨⟨fun hnil => hsome h (List.map_eq_nil_iff.mp hnil), hlength⟩, hpad⟩

/-! ### What is admitted -/

/-- A response with the media type and the size that the policy allows, and no redirect. -/
structure Admitted (policy : CollectionPolicy) (response : HttpResponse) (mediaType : String) :
    Prop where
  notRedirected : ¬(300 ≤ response.status ∧ response.status < 400)
  ok : response.ok = true
  named : response.contentType.map mediaTypeOf = some mediaType
  allowed : mediaType ∈ policy.allowedMediaTypes
  bounded : (response.body.length : Int) ≤ policy.maxBytes

theorem admitted_of_check {number : String → Option Rat} {policy : CollectionPolicy}
    {response : HttpResponse} {mediaType : String}
    (h : checkResponse number policy response = .ok mediaType) :
    Admitted policy response mediaType := by
  unfold checkResponse at h
  split at h
  · cases h
  · rename_i hredirected
    split at h
    · cases h
    · rename_i hok
      rw [Bool.not_eq_true, Bool.not_eq_false'] at hok
      split at h
      · cases h
      · rename_i named hnamed
        split at h
        · cases h
        · rename_i hallowed
          split at h
          · cases h
          · split at h
            · cases h
            · rename_i hbounded
              cases h
              exact ⟨hredirected, hok, hnamed, not_not.mp hallowed, not_lt.mp hbounded⟩

/-! ### The invariant -/

/-- The result of a collection names the bytes of its response. -/
def resultOf (hash : Hash) (collection : Collection) (capturedAt : String) (durationMs : Int) :
    DataSourceCollectionResult :=
  .ok ⟨capturedAt, collection.mediaType, collection.source.sourceId, collection.source.title,
      collection.response.url⟩
    (referenceOf hash collection.response.body) ⟨collection.response.body.length, durationMs⟩

/-- The parser has been sent these bytes, all of them and nothing else. -/
def SendsBytes (bytes : Bytes) (request : LocalServiceRequest) : Prop :=
  ∃ requestId, request = ⟨requestId, .documentParser .html (base64Text bytes)⟩

/-- An answer of the parser has this output. -/
def ParserAnswers (platform : Platform) (output : DocumentOutput) : Prop :=
  ∃ answer requestId, decodeLocalServiceResultV1 platform.issuesOf answer =
    .ok (.succeeded ⟨requestId, .documentParser, output⟩)

/-- A generation works on the result of its collection. -/
structure Generates (platform : Platform) (world : World) (generation : Generation)
    (collection : Collection) : Prop where
  uses : world.collections[generation.collection]? = some collection
  result : ∃ metrics,
    collection.result = some (.ok generation.sourceFacts generation.rawArtifact metrics)
  html : generation.sourceFacts.mediaType = "text/html"
  read : ∃ read, world.store.reads[generation.read]? = some read ∧
    read.reference = generation.rawArtifact
  request : ∀ request, generation.request = some request →
    SendsBytes collection.response.body request
  created : ∀ evidence, generation.outcome = some (.created evidence) →
    generation.request.isSome = true ∧ ∃ evidenceId output,
      ParserAnswers platform output ∧ evidence = evidenceOf platform generation evidenceId output

structure Grounded (platform : Platform) (rootDirectory : String) (known : Bytes → Prop)
    (world : World) : Prop where
  store : Sound platform.hash rootDirectory known world.store
  puts : ∀ collection ∈ world.collections, ∃ put, world.store.puts[collection.put]? = some put ∧
    put.bytes = collection.response.body
  admitted : ∀ collection ∈ world.collections,
    Admitted collection.policy collection.response collection.mediaType
  results : ∀ collection ∈ world.collections, ∀ result, collection.result = some result →
    ∃ capturedAt durationMs, result = resultOf platform.hash collection capturedAt durationMs
  held : ∀ collection ∈ world.collections, collection.result ≠ none →
    Holds (pathOf platform.hash rootDirectory collection.response.body) collection.response.body
      world.store
  generations : ∀ generation ∈ world.generations, ∃ collection,
    Generates platform world generation collection

section Invariant
variable {platform : Platform} {rootDirectory : String} {known : Bytes → Prop}
  {world world' : World} {label : Label} {reply : Reply}

theorem Grounded.known_body (h : Grounded platform rootDirectory known world)
    {collection : Collection} (hcollection : collection ∈ world.collections) :
    known collection.response.body := by
  obtain ⟨put, hput, hbytes⟩ := h.puts collection hcollection
  rw [← hbytes]
  exact h.store.handed put (Slots.mem_of_get hput)

theorem grounded_initial : Grounded platform rootDirectory known .initial where
  store := sound_empty
  puts := fun _ hcollection => absurd hcollection List.not_mem_nil
  admitted := fun _ hcollection => absurd hcollection List.not_mem_nil
  results := fun _ hcollection => absurd hcollection List.not_mem_nil
  held := fun _ hcollection => absurd hcollection List.not_mem_nil
  generations := fun _ hgeneration => absurd hgeneration List.not_mem_nil

/-- A step of the store. -/
theorem Grounded.of_move (h : Grounded platform rootDirectory known world)
    {label : ObjectStore.Label} {reply : ObjectStore.Reply} {store : ObjectStore.World}
    (hcollision : CollisionFree platform.hash known) (hhands : Hands known world.store label)
    (hmove : Move platform.hash rootDirectory world.store label reply store) :
    Grounded platform rootDirectory known { world with store } where
  store := sound_step hcollision h.store hhands hmove
  puts := by
    intro collection hcollection
    obtain ⟨put, hput, hbytes⟩ := h.puts collection hcollection
    obtain ⟨put', hput', hkept⟩ := hmove.put_kept hput
    exact ⟨put', hput', hkept.trans hbytes⟩
  admitted := h.admitted
  results := h.results
  held := fun collection hcollection hresult => h.store.holds_step hcollision
    (h.known_body hcollection) hmove (h.held collection hcollection hresult)
  generations := by
    intro generation hgeneration
    obtain ⟨collection, hgenerates⟩ := h.generations generation hgeneration
    obtain ⟨read, hread, hreference⟩ := hgenerates.read
    obtain ⟨read', hread', hkept⟩ := hmove.read_kept hread
    exact ⟨collection, hgenerates.uses, hgenerates.result, hgenerates.html,
      ⟨read', hread', hkept.trans hreference⟩, hgenerates.request, hgenerates.created⟩

/-- More collections change nothing for the generations. -/
theorem Generates.of_collections {generation : Generation} {collection : Collection}
    (h : Generates platform world generation collection) {collections : List Collection}
    (hcollection : collections[generation.collection]? = some collection) :
    Generates platform { world with collections } generation collection :=
  ⟨hcollection, h.result, h.html, h.read, h.request, h.created⟩

theorem grounded_collect (hcollision : CollisionFree platform.hash known)
    (h : Grounded platform rootDirectory known world) {source : SourceInput}
    {policy : CollectionPolicy} {response : HttpResponse} {mediaType : String}
    (hknown : known response.body)
    (hcheck : checkResponse platform.number policy response = .ok mediaType) :
    Grounded platform rootDirectory known
      { world with
        store := { world.store with
          puts := world.store.puts ++ [⟨response.body, .opening, false⟩] }
        collections := world.collections ++
          [⟨source, policy, response, mediaType, world.store.puts.length, none⟩] } := by
  have hhands : Hands known world.store (.put response.body) := by
    intro bytes hbytes
    rw [List.mem_singleton.mp hbytes]
    exact hknown
  have hstore := h.of_move hcollision hhands (.put response.body)
  refine ⟨hstore.store, ?_, ?_, ?_, ?_, ?_⟩
  · refine Slots.forall_concat hstore.puts ?_
    exact ⟨_, Slots.get_concat_new _ _, rfl⟩
  · exact Slots.forall_concat hstore.admitted (admitted_of_check hcheck)
  · exact Slots.forall_concat hstore.results fun _ hresult => by cases hresult
  · exact Slots.forall_concat hstore.held fun hresult => absurd rfl hresult
  · intro generation hgeneration
    obtain ⟨collection, hgenerates⟩ := hstore.generations generation hgeneration
    exact ⟨collection,
      hgenerates.of_collections (Slots.get_concat_old hgenerates.uses _)⟩

theorem grounded_collected (h : Grounded platform rootDirectory known world) {index : Nat}
    {collection : Collection} {bytes : Bytes} {created : Bool}
    (hcollection : world.collections[index]? = some collection) (hnone : collection.result = none)
    (hput : world.store.puts[collection.put]? = some ⟨bytes, .returned, created⟩)
    (capturedAt : String) (durationMs : Int) :
    bytes = collection.response.body ∧ Grounded platform rootDirectory known
      { world with
        collections := world.collections.set index
          { collection with
            result := some (resultOf platform.hash collection capturedAt durationMs) } } := by
  have hmem := Slots.mem_of_get hcollection
  obtain ⟨put, hown, hbytes⟩ := h.puts collection hmem
  rw [hput] at hown
  cases hown
  refine ⟨hbytes, h.store, Slots.forall_set h.puts (h.puts collection hmem),
    Slots.forall_set h.admitted (h.admitted collection hmem),
    Slots.forall_set h.results ?_, Slots.forall_set h.held ?_, ?_⟩
  · intro result hresult
    cases hresult
    exact ⟨capturedAt, durationMs, rfl⟩
  · intro _
    rw [← hbytes]
    exact h.store.stored _ (Slots.mem_of_get hput) rfl
  · intro generation hgeneration
    obtain ⟨used, hgenerates⟩ := h.generations generation hgeneration
    refine ⟨used, hgenerates.of_collections (Slots.get_set_ne ?_ hgenerates.uses _)⟩
    -- its own collection has had its result before
    rintro rfl
    obtain ⟨metrics, hresult⟩ := hgenerates.result
    rw [hgenerates.uses] at hcollection
    cases hcollection
    rw [hnone] at hresult
    cases hresult

theorem grounded_generate (hcollision : CollisionFree platform.hash known)
    (h : Grounded platform rootDirectory known world) {index : Nat} {collection : Collection}
    {sourceFacts : SourceFacts} {rawArtifact : DataSourceArtifactRef}
    {metrics : CollectionMetrics} (hcollection : world.collections[index]? = some collection)
    (hresult : collection.result = some (.ok sourceFacts rawArtifact metrics))
    (hhtml : sourceFacts.mediaType = "text/html") (decisionTaskId validUntil : String) :
    Grounded platform rootDirectory known
      { world with
        store := (readStep rootDirectory world.store rawArtifact).2
        generations := world.generations ++
          [⟨index, sourceFacts, rawArtifact, decisionTaskId, validUntil,
            world.store.reads.length, none, none⟩] } := by
  have hmove : Move platform.hash rootDirectory world.store (.read rawArtifact)
      (readStep rootDirectory world.store rawArtifact).1
      (readStep rootDirectory world.store rawArtifact).2 := move_of_step rfl
  have hstore := h.of_move hcollision (fun _ hbytes => absurd hbytes List.not_mem_nil) hmove
  refine ⟨hstore.store, hstore.puts, hstore.admitted, hstore.results, hstore.held, ?_⟩
  refine Slots.forall_concat ?_ ?_
  · intro generation hgeneration
    obtain ⟨used, hgenerates⟩ := hstore.generations generation hgeneration
    exact ⟨used, hgenerates.uses, hgenerates.result, hgenerates.html, hgenerates.read,
      hgenerates.request, hgenerates.created⟩
  · exact ⟨collection, hcollection, ⟨metrics, hresult⟩, hhtml,
      hmove.read_new, (fun _ hrequest => by cases hrequest),
      fun _ hcreated => by cases hcreated⟩

theorem outcomeOf_created {generation : Generation} {nextId : String} {answer : Value}
    {evidence : GeneratedEvidence}
    (h : outcomeOf platform generation nextId answer = .created evidence) :
    ∃ output, ParserAnswers platform output ∧
      evidence = evidenceOf platform generation nextId output := by
  unfold outcomeOf at h
  split at h
  · rename_i requestId output hdecode
    cases h
    exact ⟨output, ⟨answer, requestId, hdecode⟩, rfl⟩
  · cases h
  · cases h

/-- What a read of the collected bytes returns. -/
theorem Grounded.read_eq (h : Grounded platform rootDirectory known world)
    (hcollision : CollisionFree platform.hash known) {generation : Generation}
    {collection : Collection} (hgenerates : Generates platform world generation collection)
    {reference : DataSourceArtifactRef} {rawBytes : Bytes}
    (hread : world.store.reads[generation.read]? = some ⟨reference, .returned rawBytes⟩) :
    rawBytes = collection.response.body := by
  obtain ⟨read, hown, hreference⟩ := hgenerates.read
  rw [hread] at hown
  cases hown
  have hmem := Slots.mem_of_get hgenerates.uses
  obtain ⟨metrics, hresult⟩ := hgenerates.result
  obtain ⟨capturedAt, durationMs, hnamed⟩ := h.results collection hmem _ hresult
  have hartifact : generation.rawArtifact = referenceOf platform.hash collection.response.body :=
    (DataSourceCollectionResult.ok.inj hnamed).2.1
  obtain ⟨hread, hself, -⟩ := h.store.delivered _ (Slots.mem_of_get hread) rawBytes rfl
  apply hcollision rawBytes collection.response.body hread (h.known_body hmem)
  have hsame : referenceOf platform.hash rawBytes =
      referenceOf platform.hash collection.response.body :=
    (hself.symm.trans hreference).trans hartifact
  exact congrArg DataSourceArtifactRef.digest hsame

theorem grounded_parse (hcollision : CollisionFree platform.hash known)
    (h : Grounded platform rootDirectory known world) {index : Nat} {generation : Generation}
    {reference : DataSourceArtifactRef} {rawBytes : Bytes}
    (hgeneration : world.generations[index]? = some generation)
    (hread : world.store.reads[generation.read]? = some ⟨reference, .returned rawBytes⟩)
    (requestId : CodeUnits) {outcome : GenerationOutcome}
    (houtcome : ∀ evidence, outcome = .created evidence → ∃ evidenceId output,
      ParserAnswers platform output ∧ evidence = evidenceOf platform generation evidenceId output) :
    Grounded platform rootDirectory known
      { world with
        generations := world.generations.set index
          { generation with
            request := some ⟨requestId, .documentParser .html (base64Text rawBytes)⟩
            outcome := some outcome } } := by
  refine ⟨h.store, h.puts, h.admitted, h.results, h.held, ?_⟩
  refine Slots.forall_set ?_ ?_
  · intro other hother
    obtain ⟨collection, hgenerates⟩ := h.generations other hother
    exact ⟨collection, hgenerates.uses, hgenerates.result, hgenerates.html, hgenerates.read,
      hgenerates.request, hgenerates.created⟩
  · obtain ⟨collection, hgenerates⟩ := h.generations generation (Slots.mem_of_get hgeneration)
    refine ⟨collection, hgenerates.uses, hgenerates.result, hgenerates.html, hgenerates.read,
      ?_, ?_⟩
    · intro request hrequest
      cases hrequest
      exact ⟨requestId, by rw [h.read_eq hcollision hgenerates hread]⟩
    · intro evidence hcreated
      cases hcreated
      obtain ⟨evidenceId, output, hanswers, hevidence⟩ := houtcome evidence rfl
      exact ⟨rfl, evidenceId, output, hanswers, hevidence⟩

/-- The bytes that a step hands over are known. -/
def HandsOver (known : Bytes → Prop) (_ : World) (label : Label) : Prop :=
  ∀ bytes ∈ label.bytes, known bytes

theorem grounded_step (hcollision : CollisionFree platform.hash known)
    (h : Grounded platform rootDirectory known world) (hhands : HandsOver known world label)
    (hstep : step platform rootDirectory world label = some (reply, world')) :
    Grounded platform rootDirectory known world' := by
  cases label with
  | store label =>
    simp only [step, Option.map_eq_some_iff, Prod.exists, Prod.mk.injEq] at hstep
    obtain ⟨storeReply, store, hmoved, -, rfl⟩ := hstep
    exact h.of_move hcollision hhands (move_of_step hmoved)
  | collect source policy response durationMs =>
    simp only [step, collectStep, Option.some.injEq] at hstep
    split at hstep
    · cases hstep
      exact h
    · rename_i admitted
      split at hstep
      · cases hstep
        exact h
      · rename_i mediaType hcheck
        cases hstep
        exact grounded_collect hcollision h (hhands admitted.body List.mem_cons_self) hcheck
  | collected index capturedAt durationMs =>
    simp only [step, collectedStep] at hstep
    split at hstep
    · rename_i source policy response mediaType put hcollection
      split at hstep
      · rename_i bytes created hput
        obtain ⟨hbytes, hgrounded⟩ :=
          grounded_collected h hcollection rfl hput capturedAt durationMs
        cases hstep
        rw [hbytes]
        exact hgrounded
      · cases hstep
    · cases hstep
  | generate index decisionTaskId validUntil gapId =>
    simp only [step, generateStep] at hstep
    split at hstep
    · rename_i source policy response mediaType put sourceFacts rawArtifact metrics hcollection
      split at hstep
      · cases hstep
        exact h
      · rename_i hhtml
        cases hstep
        exact grounded_generate hcollision h hcollection rfl (not_not.mp hhtml) decisionTaskId
          validUntil
    · cases hstep
  | parse index requestId answer nextId =>
    simp only [step, parseStep] at hstep
    split at hstep
    · rename_i collection sourceFacts rawArtifact decisionTaskId validUntil read hgeneration
      split at hstep
      · rename_i reference rawBytes hread
        cases hstep
        refine grounded_parse hcollision h hgeneration hread requestId ?_
        intro evidence hcreated
        cases answer with
        | none => cases hcreated
        | some answer =>
          obtain ⟨output, hanswers, hevidence⟩ := outcomeOf_created hcreated
          exact ⟨nextId, output, hanswers, hevidence⟩
      · cases hstep
    · cases hstep

end Invariant

/-! ### Runs -/

def handedOver (es : List PipelineEntry) : List Bytes := es.flatMap fun e => e.label.bytes

/-- Evidence with the source, the stored bytes and an output of the parser that belong to one
admitted response. -/
structure TracedTo (platform : Platform) (rootDirectory : String) (world : World)
    (collection : Collection) (evidence : GeneratedEvidence) : Prop where
  admitted : Admitted collection.policy collection.response "text/html"
  source : evidence.sourceId = collection.source.sourceId ∧
    evidence.title = collection.source.title ∧ evidence.url = collection.response.url
  artifact : evidence.rawArtifact = referenceOf platform.hash collection.response.body
  stored : Holds (pathOf platform.hash rootDirectory collection.response.body)
    collection.response.body world.store
  parsed : ∃ output, ParserAnswers platform output ∧ evidence.excerpt = output.text ∧
    evidence.parserVersion = output.parser
  digest : evidence.excerptDigest = platform.hash.sha256 (platform.encodeUtf8 evidence.excerpt)

section Main
variable {platform : Platform} {rootDirectory : String} {es : List PipelineEntry}
  {world : World} {known : Bytes → Prop}

theorem grounded_run (hcollision : CollisionFree platform.hash known)
    (hhands : Guarded (HandsOver known) es)
    (hrun : Run (step platform rootDirectory) .initial es world) :
    Grounded platform rootDirectory known world :=
  hrun.invariant (fun hgrounded hguard hstep =>
    grounded_step hcollision hgrounded hguard hstep) hhands grounded_initial

theorem Grounded.tracedTo (h : Grounded platform rootDirectory known world)
    {generation : Generation} {collection : Collection} {evidence : GeneratedEvidence}
    (hgenerates : Generates platform world generation collection)
    (hcreated : generation.outcome = some (.created evidence)) :
    TracedTo platform rootDirectory world collection evidence := by
  have hmem := Slots.mem_of_get hgenerates.uses
  obtain ⟨metrics, hresult⟩ := hgenerates.result
  obtain ⟨capturedAt, durationMs, hnamed⟩ := h.results collection hmem _ hresult
  obtain ⟨hfacts, hartifact, -⟩ := DataSourceCollectionResult.ok.inj hnamed
  obtain ⟨-, evidenceId, output, hanswers, rfl⟩ := hgenerates.created evidence hcreated
  have hhtml := hgenerates.html
  rw [hfacts] at hhtml
  change collection.mediaType = "text/html" at hhtml
  have hadmitted := h.admitted collection hmem
  rw [hhtml] at hadmitted
  refine ⟨hadmitted, ⟨?_, ?_, ?_⟩, hartifact, h.held collection hmem ?_,
    ⟨output, hanswers, rfl, rfl⟩, rfl⟩
  · exact congrArg SourceFacts.sourceId hfacts
  · exact congrArg SourceFacts.title hfacts
  · exact congrArg SourceFacts.url hfacts
  · rw [hresult]
    exact Option.some_ne_none _

end Main

/-! ### A run -/

def samplePlatform : Platform where
  hash := sampleHash
  number := fun _ => none
  encodeUtf8 := fun text => text.map fun u => .ofNat u.val
  issuesOf := fun _ => []

def sampleResponse : HttpResponse where
  status := 200
  ok := true
  contentType := some "text/html; charset=utf-8"
  contentLength := none
  url := "https://shop.example/item"
  body := [1, 2]

def sampleAnswer : Value :=
  Contracts.record [("contractType", string "local-service-result"),
    ("contractVersion", string "1.0"), ("requestId", string "r"),
    ("port", string "DOCUMENT_PARSER"), ("ok", .scalar (.bool true)),
    ("output", Contracts.record [("parser", string "choicemind-html-parser-1.0"),
      ("text", string "t"), ("pageCount", natural 1)])]

/-- A page is collected, while another call puts the same bytes, and read back for the parser. -/
def sampleSteps : List Label :=
  [.collect ⟨"source", "Shop", "https://shop.example/item"⟩ ⟨["text/html"], 10⟩
      (some sampleResponse) 1,
   .store (.openFile 0), .store (.put [1, 2]), .store (.openFile 1), .store (.write 0 2),
   .store (.finish 0), .collected 0 "2026-08-26T12:00:00.000Z" 2,
   .generate 0 "task" "2026-09-26T12:00:00.000Z" "gap", .store (.verify 1 [1, 2]),
   .store (.deliver 0 [1, 2]), .parse 0 (ofString "request") (some sampleAnswer) "evidence"]

def isCreated : Option GenerationOutcome → Bool
  | some (.created _) => true
  | _ => false

theorem handedOver_eq (es : List PipelineEntry) :
    handedOver es = (es.map Entry.label).flatMap Label.bytes := by
  unfold handedOver
  rw [List.flatMap_map]

end ChoiceMind.EvidenceIngestion.Provenance
