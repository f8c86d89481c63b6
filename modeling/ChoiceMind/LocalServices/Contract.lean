import ChoiceMind.Contracts.Schema

/-!
# The contract of local services

Requests and results of the five ports, and `decodeLocalServiceResultV1`: what it accepts it
reads back from what it returns.
-/

namespace ChoiceMind.LocalServices

set_option autoImplicit false

open CodeUnits Contracts

/-! ### Values -/

/-- A number that `JSON.parse` reads: a numeral that is too large is an infinity. -/
inductive JsNumber
  | finite (value : Rat)
  | infinite (positive : Bool)
  deriving DecidableEq

abbrev Value := JsValue JsNumber

namespace JsNumber

def ofNat (n : Nat) : JsNumber := .finite n

def toRat : JsNumber → Option Rat
  | .finite value => some value
  | .infinite _ => none

/-- An integer that is not negative. -/
def toNat : JsNumber → Option Nat
  | .finite value => if value.den = 1 ∧ 0 ≤ value.num then some value.num.toNat else none
  | .infinite _ => none

theorem toNat_ofNat (n : Nat) : (ofNat n).toNat = some n := by
  have hden : (n : Rat).den = 1 := Rat.den_natCast n
  have hnum : (n : Rat).num = n := Rat.num_natCast n
  simp only [ofNat, toNat]
  rw [if_pos ⟨hden, by rw [hnum]; exact Int.natCast_nonneg n⟩, hnum, Int.toNat_natCast]

theorem toNat_eq_some {number : JsNumber} {n : Nat} (h : number.toNat = some n) :
    number = ofNat n := by
  cases number with
  | infinite => cases h
  | finite value =>
    simp only [toNat] at h
    split at h
    · rename_i hnat
      cases h
      rw [ofNat, JsNumber.finite.injEq, ← Rat.num_div_den value, hnat.1]
      have hnum : ((value.num.toNat : Int) : Rat) = value.num := by
        rw [Int.toNat_of_nonneg hnat.2]
      rw [Nat.cast_one, div_one, Rat.num_intCast, ← hnum]
      rfl
    · cases h

end JsNumber

/-! ### Ports -/

inductive LocalServicePort
  | modelProvider
  | embeddingProvider
  | reranker
  | documentParser
  | asr
  deriving DecidableEq, Repr

def LocalServicePort.text : LocalServicePort → String
  | .modelProvider => "MODEL_PROVIDER"
  | .embeddingProvider => "EMBEDDING_PROVIDER"
  | .reranker => "RERANKER"
  | .documentParser => "DOCUMENT_PARSER"
  | .asr => "ASR"

/-! ### Fields -/

/-- `value.trim().length > 0` -/
def isMeaningful (units : CodeUnits) : Bool :=
  units.any fun u => !isWhiteSpace (Char.ofNat u.val)

def meaningfulTextSchema : Schema JsNumber CodeUnits := .text isMeaningful

/-- `/^[A-Za-z0-9+/]+={0,2}$/` -/
def isBase64 (units : CodeUnits) : Bool :=
  let digit (u : CodeUnit) : Bool :=
    (Char.ofNat u.val).isAlphanum || u = unit '+' || u = unit '/'
  let body := units.takeWhile digit
  let rest := units.dropWhile digit
  body ≠ [] && rest.length ≤ 2 && rest.all (· = unit '=')

def isPositiveInteger (n : Nat) : Bool := 0 < n && isSafeInteger n

/-- `z.number().int().positive()` -/
def positiveIntegerSchema : Schema JsNumber Nat :=
  .number (fun number => number.toNat.filter isPositiveInteger) .ofNat

/-- `z.number()`, which does not take the infinities. -/
def numberSchema : Schema JsNumber Rat := .number JsNumber.toRat .finite

/-! ### Results -/

structure ModelOutput where
  model : CodeUnits
  text : CodeUnits
  deriving DecidableEq

structure EmbeddingOutput where
  model : CodeUnits
  dimensions : Nat
  vectors : List (List Rat)
  deriving DecidableEq

structure Ranking where
  documentId : CodeUnits
  score : Rat
  deriving DecidableEq

structure RerankerOutput where
  model : CodeUnits
  rankings : List Ranking
  deriving DecidableEq

structure DocumentOutput where
  parser : CodeUnits
  text : CodeUnits
  pageCount : Nat
  deriving DecidableEq

structure AsrOutput where
  model : CodeUnits
  text : CodeUnits
  language : Option CodeUnits
  deriving DecidableEq

/-- What a port puts out. -/
def Output : LocalServicePort → Type
  | .modelProvider => ModelOutput
  | .embeddingProvider => EmbeddingOutput
  | .reranker => RerankerOutput
  | .documentParser => DocumentOutput
  | .asr => AsrOutput

structure SuccessfulLocalServiceResult where
  requestId : CodeUnits
  port : LocalServicePort
  output : Output port

inductive LocalServiceErrorCode
  | timeout
  | connectionFailed
  | invalidResponse
  | capabilityLimitExceeded
  deriving DecidableEq, Repr

inductive LocalServiceErrorCategory
  | transport
  | protocol
  | capability
  deriving DecidableEq, Repr

structure LocalServiceError where
  code : LocalServiceErrorCode
  category : LocalServiceErrorCategory
  message : CodeUnits
  retryable : Bool
  deriving DecidableEq

structure FailedLocalServiceResult where
  requestId : CodeUnits
  port : LocalServicePort
  error : LocalServiceError

inductive LocalServiceResult
  | succeeded (result : SuccessfulLocalServiceResult)
  | failed (result : FailedLocalServiceResult)

def LocalServiceResult.requestId : LocalServiceResult → CodeUnits
  | .succeeded result => result.requestId
  | .failed result => result.requestId

def LocalServiceResult.port : LocalServiceResult → LocalServicePort
  | .succeeded result => result.port
  | .failed result => result.port

/-! ### Schemas of the results -/

def portSchema : Schema JsNumber LocalServicePort :=
  .choice [("MODEL_PROVIDER", .modelProvider), ("EMBEDDING_PROVIDER", .embeddingProvider),
    ("RERANKER", .reranker), ("DOCUMENT_PARSER", .documentParser), ("ASR", .asr)]
    LocalServicePort.text

open Members in
/-- The vectors have the stated dimensions. -/
def embeddingOutputSchema : Schema JsNumber EmbeddingOutput :=
  ((strictObject <|
    member "model" meaningfulTextSchema <|
    member "dimensions" positiveIntegerSchema <|
    member "vectors" (numberSchema.array.array.refine fun vectors => 1 ≤ vectors.length) none)
    |>.convert (fun read => EmbeddingOutput.mk read.1 read.2.1 read.2.2.1)
      fun output => (output.model, output.dimensions, output.vectors, ())).refine
    fun output => output.vectors.all fun vector => vector.length = output.dimensions

open Members in
def rankingSchema : Schema JsNumber Ranking :=
  (strictObject <| member "documentId" meaningfulTextSchema <| member "score" numberSchema none)
    |>.convert (fun read => ⟨read.1, read.2.1⟩) fun ranking => (ranking.documentId, ranking.score, ())

open Members in
def outputSchema : (port : LocalServicePort) → Schema JsNumber (Output port)
  | .modelProvider =>
    (strictObject <| member "model" meaningfulTextSchema <| member "text" meaningfulTextSchema none)
      |>.convert (fun read => ModelOutput.mk read.1 read.2.1)
        fun output : ModelOutput => (output.model, output.text, ())
  | .embeddingProvider => embeddingOutputSchema
  | .reranker =>
    (strictObject <| member "model" meaningfulTextSchema <| member "rankings" rankingSchema.array none)
      |>.convert (fun read => RerankerOutput.mk read.1 read.2.1)
        fun output : RerankerOutput => (output.model, output.rankings, ())
  | .documentParser =>
    (strictObject <|
      member "parser" meaningfulTextSchema <|
      member "text" meaningfulTextSchema <|
      member "pageCount" positiveIntegerSchema none)
      |>.convert (fun read => DocumentOutput.mk read.1 read.2.1 read.2.2.1)
        fun output : DocumentOutput => (output.parser, output.text, output.pageCount, ())
  | .asr =>
    (strictObject <|
      member "model" meaningfulTextSchema <|
      member "text" meaningfulTextSchema <|
      member "language" meaningfulTextSchema.optional none)
      |>.convert (fun read => AsrOutput.mk read.1 read.2.1 read.2.2.1)
        fun output : AsrOutput => (output.model, output.text, output.language, ())

/-- The members of a result, up to `port`. -/
def resultHeader {α : Type} (rest : Members JsNumber α) :
    Members JsNumber (Unit × Unit × CodeUnits × LocalServicePort × α) :=
  .member "contractType" (.literal "local-service-result") <|
  .member "contractVersion" (.literal "1.0") <|
  .member "requestId" meaningfulTextSchema <|
  .member "port" portSchema rest

def successMembers (port : LocalServicePort) :
    Members JsNumber (Unit × Unit × CodeUnits × LocalServicePort × Unit × Output port × Unit) :=
  resultHeader <| .member "ok" (.flag true) <| .member "output" (outputSchema port) .none

def successOf (port : LocalServicePort) : Schema JsNumber (CodeUnits × Output port) :=
  ((strictObject (successMembers port)).refine fun read => read.2.2.2.1 = port)
    |>.convert (fun read => (read.2.2.1, read.2.2.2.2.2.1))
      fun result => ((), (), result.1, port, (), result.2, ())

def portKey : CodeUnits := ofString "port"

/-- `z.discriminatedUnion("port", …)` -/
def successfulResultSchema : Schema JsNumber SuccessfulLocalServiceResult where
  parse
    | .object entries =>
      (portSchema.parse (lookup entries portKey)).bind fun port =>
        ((successOf port).parse (.object entries)).map fun read => ⟨read.1, port, read.2⟩
    | _ => none
  value result := (successOf result.port).value (result.requestId, result.output)

def LocalServiceErrorCode.text : LocalServiceErrorCode → String
  | .timeout => "TIMEOUT"
  | .connectionFailed => "CONNECTION_FAILED"
  | .invalidResponse => "INVALID_RESPONSE"
  | .capabilityLimitExceeded => "CAPABILITY_LIMIT_EXCEEDED"

def LocalServiceErrorCategory.text : LocalServiceErrorCategory → String
  | .transport => "TRANSPORT"
  | .protocol => "PROTOCOL"
  | .capability => "CAPABILITY"

/-- The category and the flag that belong to a code. -/
def LocalServiceErrorCode.kind : LocalServiceErrorCode → LocalServiceErrorCategory × Bool
  | .timeout => (.transport, true)
  | .connectionFailed => (.transport, true)
  | .invalidResponse => (.protocol, false)
  | .capabilityLimitExceeded => (.capability, false)

def errorCodeSchema : Schema JsNumber LocalServiceErrorCode :=
  .choice [("TIMEOUT", .timeout), ("CONNECTION_FAILED", .connectionFailed),
    ("INVALID_RESPONSE", .invalidResponse),
    ("CAPABILITY_LIMIT_EXCEEDED", .capabilityLimitExceeded)] LocalServiceErrorCode.text

def errorCategorySchema : Schema JsNumber LocalServiceErrorCategory :=
  .choice [("TRANSPORT", .transport), ("PROTOCOL", .protocol), ("CAPABILITY", .capability)]
    LocalServiceErrorCategory.text

/-- The category and the flag are those of the code. -/
def localServiceErrorSchema : Schema JsNumber LocalServiceError :=
  ((strictObject <|
    .member "code" errorCodeSchema <|
    .member "category" errorCategorySchema <|
    .member "message" meaningfulTextSchema <|
    .member "retryable" .bool .none)
    |>.convert (fun read => ⟨read.1, read.2.1, read.2.2.1, read.2.2.2.1⟩)
      fun error => (error.code, error.category, error.message, error.retryable, ())).refine
    fun error => (error.category, error.retryable) = error.code.kind

def failedResultSchema : Schema JsNumber FailedLocalServiceResult :=
  (strictObject <| resultHeader <|
    .member "ok" (.flag false) <|
    .member "error" localServiceErrorSchema .none)
    |>.convert (fun read => ⟨read.2.2.1, read.2.2.2.1, read.2.2.2.2.2.1⟩)
      fun result => ((), (), result.requestId, result.port, (), result.error, ())

/-- `z.union([successfulResultSchema, failedResultSchema])` -/
def localServiceResultSchema : Schema JsNumber LocalServiceResult where
  parse input := ((successfulResultSchema.parse input).map .succeeded).or
    ((failedResultSchema.parse input).map .failed)
  value
    | .succeeded result => successfulResultSchema.value result
    | .failed result => failedResultSchema.value result

/-! ### Decoding -/

inductive DecodeErrorCode
  | contractInvalid
  | contractVersionUnsupported
  deriving DecidableEq, Repr

structure ContractIssue where
  path : CodeUnits
  message : String
  deriving DecidableEq

structure DecodeError where
  code : DecodeErrorCode
  issues : List ContractIssue
  deriving DecidableEq

def ContractIssue.publish (issue : ContractIssue) : ContractIssue where
  path := issue.path
  message :=
    if issue.message = "向量维度必须与 dimensions 一致" then issue.message else "字段不符合合同要求"

/-- `"contractVersion" in input && input.contractVersion !== "1.0"` -/
def otherVersion : Value → Bool
  | .object entries => (getMember entries contractVersionKey).any fun version => !isVersionOne version
  | _ => false

/-- The issues are those that the parser finds. -/
def decodeContract {α : Type} (issuesOf : Value → List ContractIssue) (input : Value)
    (schema : Schema JsNumber α) : Except DecodeError α :=
  if otherVersion input then
    .error ⟨.contractVersionUnsupported, [⟨contractVersionKey, "合同版本不受支持"⟩]⟩
  else
    match schema.parse input with
    | some value => .ok value
    | none => .error ⟨.contractInvalid, (issuesOf input).map ContractIssue.publish⟩

def decodeLocalServiceResultV1 (issuesOf : Value → List ContractIssue) (input : Value) :
    Except DecodeError LocalServiceResult :=
  decodeContract issuesOf input localServiceResultSchema

/-- The result as it is returned. -/
def LocalServiceResult.value (result : LocalServiceResult) : Value :=
  localServiceResultSchema.value result

/-! ### What is accepted is read back -/

section Stable

theorem stable_meaningfulText : meaningfulTextSchema.Stable := Schema.stable_text _

theorem stable_positiveInteger : positiveIntegerSchema.Stable := by
  apply Schema.stable_number
  intro number n hread
  obtain ⟨-, hadmits⟩ := Option.filter_eq_some_iff.mp hread
  rw [JsNumber.toNat_ofNat]
  exact Option.filter_eq_some_iff.mpr ⟨rfl, hadmits⟩

theorem stable_number : numberSchema.Stable := by
  apply Schema.stable_number
  intro number value _
  rfl

theorem stable_port : portSchema.Stable := Schema.stable_choice (by decide)

/-- A port is read from its text. -/
theorem stable_port_value (port : LocalServicePort) :
    portSchema.parse (portSchema.value port) = some port := by
  cases port <;> decide

theorem stable_ranking : rankingSchema.Stable := by
  apply Schema.Stable.convert
  · apply Members.Stable.strictObject
    apply Members.Stable.member _ stable_meaningfulText (by decide)
    exact Members.stable_none.member stable_number (by decide)
  · intro _
    rfl

theorem stable_embeddingOutput : embeddingOutputSchema.Stable := by
  apply Schema.Stable.refine
  apply Schema.Stable.convert
  · apply Members.Stable.strictObject
    apply Members.Stable.member _ stable_meaningfulText (by decide)
    apply Members.Stable.member _ stable_positiveInteger (by decide)
    exact Members.stable_none.member (stable_number.array.array.refine _) (by decide)
  · intro _
    rfl

theorem stable_output (port : LocalServicePort) : (outputSchema port).Stable := by
  cases port with
  | modelProvider =>
    apply Schema.Stable.convert
    · apply Members.Stable.strictObject
      apply Members.Stable.member _ stable_meaningfulText (by decide)
      exact Members.stable_none.member stable_meaningfulText (by decide)
    · intro _
      rfl
  | embeddingProvider => exact stable_embeddingOutput
  | reranker =>
    apply Schema.Stable.convert
    · apply Members.Stable.strictObject
      apply Members.Stable.member _ stable_meaningfulText (by decide)
      exact Members.stable_none.member stable_ranking.array (by decide)
    · intro _
      rfl
  | documentParser =>
    apply Schema.Stable.convert
    · apply Members.Stable.strictObject
      apply Members.Stable.member _ stable_meaningfulText (by decide)
      apply Members.Stable.member _ stable_meaningfulText (by decide)
      exact Members.stable_none.member stable_positiveInteger (by decide)
    · intro _
      rfl
  | asr =>
    apply Schema.Stable.convert
    · apply Members.Stable.strictObject
      apply Members.Stable.member _ stable_meaningfulText (by decide)
      apply Members.Stable.member _ stable_meaningfulText (by decide)
      refine Members.stable_none.member (stable_meaningfulText.optional ?_) (by decide)
      intro _ hundefined
      cases hundefined
    · intro _
      rfl

theorem stable_resultHeader {α : Type} {rest : Members JsNumber α} (h : rest.Stable)
    (hkeys : ∀ key ∈ ["contractType", "contractVersion", "requestId", "port"],
      ofString key ∉ rest.keys) : (resultHeader rest).Stable := by
  apply Members.Stable.member
  · apply Members.Stable.member
    · apply Members.Stable.member
      · exact h.member stable_port (hkeys "port" (by decide))
      · exact stable_meaningfulText
      · exact List.not_mem_cons_of_ne_of_not_mem (by decide) (hkeys "requestId" (by decide))
    · exact Schema.stable_literal _
    · refine List.not_mem_cons_of_ne_of_not_mem (by decide) ?_
      exact List.not_mem_cons_of_ne_of_not_mem (by decide) (hkeys "contractVersion" (by decide))
  · exact Schema.stable_literal _
  · refine List.not_mem_cons_of_ne_of_not_mem (by decide) ?_
    refine List.not_mem_cons_of_ne_of_not_mem (by decide) ?_
    exact List.not_mem_cons_of_ne_of_not_mem (by decide) (hkeys "contractType" (by decide))

theorem stable_successMembers (port : LocalServicePort) : (successMembers port).Stable := by
  refine stable_resultHeader ?_ (by cases port <;> decide)
  apply Members.Stable.member _ (Schema.stable_flag true) (by cases port <;> decide)
  exact Members.stable_none.member (stable_output port) (by decide)

theorem successOf_parse {port : LocalServicePort} {input : Value} {read : CodeUnits × Output port}
    (h : (successOf port).parse input = some read) : ∃ requestId output,
      (strictObject (successMembers port)).parse input =
        some ((), (), requestId, port, (), output, ()) ∧ read = (requestId, output) := by
  obtain ⟨fields, hfields, rfl⟩ := Option.map_eq_some_iff.mp h
  obtain ⟨_, _, requestId, port', _, output, _⟩ := fields
  obtain ⟨hread, hport⟩ := Option.filter_eq_some_iff.mp hfields
  have hsame : port' = port := of_decide_eq_true hport
  cases hsame
  exact ⟨requestId, output, hread, rfl⟩

theorem parse_successOf {port : LocalServicePort} {input : Value} {requestId : CodeUnits}
    {output : Output port} (h : (strictObject (successMembers port)).parse input =
      some ((), (), requestId, port, (), output, ())) :
    (successOf port).parse input = some (requestId, output) := by
  refine Option.map_eq_some_iff.mpr ⟨_, Option.filter_eq_some_iff.mpr ⟨h, ?_⟩, rfl⟩
  exact decide_eq_true rfl

theorem stable_successOf (port : LocalServicePort) : (successOf port).Stable := by
  intro input read hparse
  obtain ⟨requestId, output, hread, rfl⟩ := successOf_parse hparse
  exact parse_successOf ((stable_successMembers port).strictObject input _ hread)

theorem stable_successfulResult : successfulResultSchema.Stable := by
  intro input result hparse
  simp only [successfulResultSchema] at hparse
  split at hparse
  · obtain ⟨port, hport, hparse⟩ := Option.bind_eq_some_iff.mp hparse
    obtain ⟨read, hread, rfl⟩ := Option.map_eq_some_iff.mp hparse
    have hagain := stable_successOf port _ read hread
    have hlookup : portSchema.parse (portSchema.value port) = some port :=
      stable_port _ port hport
    show ((portSchema.parse (portSchema.value port)).bind _) = _
    rw [hlookup, Option.bind_some]
    exact Option.map_eq_some_iff.mpr ⟨read, hagain, rfl⟩
  · cases hparse

theorem stable_localServiceError : localServiceErrorSchema.Stable := by
  apply Schema.Stable.refine
  apply Schema.Stable.convert
  · apply Members.Stable.strictObject
    apply Members.Stable.member _ (Schema.stable_choice (by decide)) (by decide)
    apply Members.Stable.member _ (Schema.stable_choice (by decide)) (by decide)
    apply Members.Stable.member _ stable_meaningfulText (by decide)
    exact Members.stable_none.member Schema.stable_bool (by decide)
  · intro _
    rfl

theorem stable_failedResult : failedResultSchema.Stable := by
  apply Schema.Stable.convert
  · apply Members.Stable.strictObject
    refine stable_resultHeader ?_ (by decide)
    apply Members.Stable.member _ (Schema.stable_flag false) (by decide)
    exact Members.stable_none.member stable_localServiceError (by decide)
  · intro _
    rfl

/-- A failed result is not read as a successful one. -/
theorem successfulResult_failed (result : FailedLocalServiceResult) :
    successfulResultSchema.parse (failedResultSchema.value result) = none := by
  by_contra hsome
  obtain ⟨success, hparse⟩ := Option.ne_none_iff_exists'.mp hsome
  obtain ⟨port, -, hparse⟩ := Option.bind_eq_some_iff.mp hparse
  obtain ⟨read, hread, -⟩ := Option.map_eq_some_iff.mp hparse
  obtain ⟨requestId, output, hfields, -⟩ := successOf_parse hread
  obtain ⟨entries, heq, hmembers⟩ := strictObject_parse hfields
  cases heq
  have hok := (Members.member_parse.mp (Members.member_parse.mp (Members.member_parse.mp
    (Members.member_parse.mp (Members.member_parse.mp hmembers).2).2).2).2).1
  cases hok

theorem stable_localServiceResult : localServiceResultSchema.Stable := by
  intro input result hparse
  rcases Option.or_eq_some_iff.mp hparse with hsuccess | ⟨-, hfailed⟩
  · obtain ⟨success, hread, rfl⟩ := Option.map_eq_some_iff.mp hsuccess
    apply Option.or_eq_some_iff.mpr
    exact .inl (Option.map_eq_some_iff.mpr ⟨success, stable_successfulResult _ _ hread, rfl⟩)
  · obtain ⟨failed, hread, rfl⟩ := Option.map_eq_some_iff.mp hfailed
    apply Option.or_eq_some_iff.mpr
    refine .inr ⟨?_, Option.map_eq_some_iff.mpr ⟨failed, stable_failedResult _ _ hread, rfl⟩⟩
    exact congrArg (Option.map _) (successfulResult_failed failed)

theorem otherVersion_value (result : LocalServiceResult) : otherVersion result.value = false := by
  cases result <;> rfl

theorem decodeLocalServiceResultV1_eq_ok {issuesOf : Value → List ContractIssue} {input : Value}
    {result : LocalServiceResult} :
    decodeLocalServiceResultV1 issuesOf input = .ok result ↔
      otherVersion input = false ∧ localServiceResultSchema.parse input = some result := by
  simp only [decodeLocalServiceResultV1, decodeContract]
  constructor
  · intro h
    split at h
    · cases h
    · rename_i hversion
      split at h
      · rename_i value hparse
        cases h
        exact ⟨Bool.not_eq_true _ ▸ hversion, hparse⟩
      · cases h
  · rintro ⟨hversion, hparse⟩
    rw [if_neg (by rw [hversion]; exact Bool.false_ne_true), hparse]

/-- What the decoder returns it accepts again. -/
theorem decode_value {issuesOf : Value → List ContractIssue} {input : Value}
    {result : LocalServiceResult} (h : decodeLocalServiceResultV1 issuesOf input = .ok result) :
    decodeLocalServiceResultV1 issuesOf result.value = .ok result := by
  obtain ⟨-, hparse⟩ := decodeLocalServiceResultV1_eq_ok.mp h
  apply decodeLocalServiceResultV1_eq_ok.mpr
  exact ⟨otherVersion_value result, stable_localServiceResult input result hparse⟩

end Stable

/-! ### Requests -/

inductive ChatRole
  | system
  | user
  | assistant
  deriving DecidableEq, Repr

def ChatRole.text : ChatRole → String
  | .system => "system"
  | .user => "user"
  | .assistant => "assistant"

structure ChatMessage where
  role : ChatRole
  content : CodeUnits
  deriving DecidableEq

structure RerankerDocument where
  documentId : CodeUnits
  text : CodeUnits
  deriving DecidableEq

inductive DocumentMediaType
  | pdf
  | png
  | jpeg
  | html
  deriving DecidableEq, Repr

def DocumentMediaType.text : DocumentMediaType → String
  | .pdf => "application/pdf"
  | .png => "image/png"
  | .jpeg => "image/jpeg"
  | .html => "text/html"

inductive LocalServiceInput
  | modelProvider (messages : List ChatMessage) (maxOutputTokens : Nat)
  | embeddingProvider (texts : List CodeUnits)
  | reranker (query : CodeUnits) (documents : List RerankerDocument) (topK : Nat)
  | documentParser (mediaType : DocumentMediaType) (dataBase64 : CodeUnits)
  | asr (dataBase64 : CodeUnits) (language : Option CodeUnits)
  deriving DecidableEq

def LocalServiceInput.port : LocalServiceInput → LocalServicePort
  | .modelProvider _ _ => .modelProvider
  | .embeddingProvider _ => .embeddingProvider
  | .reranker _ _ _ => .reranker
  | .documentParser _ _ => .documentParser
  | .asr _ _ => .asr

structure LocalServiceRequest where
  requestId : CodeUnits
  input : LocalServiceInput
  deriving DecidableEq

def LocalServiceRequest.port (request : LocalServiceRequest) : LocalServicePort :=
  request.input.port

/-- The refinements of `localServiceRequestSchema`. -/
def LocalServiceInput.schemaHolds : LocalServiceInput → Bool
  | .modelProvider messages maxOutputTokens =>
    1 ≤ messages.length && (messages.all fun message => isMeaningful message.content) &&
      isPositiveInteger maxOutputTokens
  | .embeddingProvider texts => 1 ≤ texts.length && texts.all isMeaningful
  | .reranker query documents topK =>
    isMeaningful query && 1 ≤ documents.length &&
      (documents.all fun document =>
        isMeaningful document.documentId && isMeaningful document.text) &&
      isPositiveInteger topK
  | .documentParser _ dataBase64 => isMeaningful dataBase64 && isBase64 dataBase64
  | .asr dataBase64 language =>
    isMeaningful dataBase64 && isBase64 dataBase64 && language.all isMeaningful

def LocalServiceRequest.schemaHolds (request : LocalServiceRequest) : Bool :=
  isMeaningful request.requestId && request.input.schemaHolds

end ChoiceMind.LocalServices
