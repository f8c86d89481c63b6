import ChoiceMind.LocalServices.Contract

/-!
# The client of local services

`executeLocalServiceRequest`: a request is sent in the protocol of its target, and what comes
back is mapped to a result of the contract.
-/

namespace ChoiceMind.LocalServices

set_option autoImplicit false

open CodeUnits Contracts

/-! ### Targets -/

inductive LocalServiceProtocol
  | openaiChatCompletions
  | openaiEmbeddings
  | rerank
  | paddleocrVl
  | mineru
  | choicemindDocumentParser
  deriving DecidableEq, Repr

structure LocalServiceTarget where
  port : LocalServicePort
  baseUrl : CodeUnits
  model : Option CodeUnits
  protocol : LocalServiceProtocol
  timeoutMs : Nat
  /-- `limits.maxInputBytes` -/
  maxInputBytes : Option Nat
  deriving DecidableEq

/-! ### Requests to the upstream -/

def text (units : CodeUnits) : Value := .scalar (.string units)

def string (value : String) : Value := text (ofString value)

def natural (n : Nat) : Value := .scalar (.number (.ofNat n))

def optionalText : Option CodeUnits → Value
  | some units => text units
  | none => .undefined

inductive UpstreamBody
  | json (body : Value)
  /-- the file, by its media type, its text and its name, and the other fields of a form -/
  | form (mediaType : String) (dataBase64 : CodeUnits) (fileName : String)
    (fields : List (String × String))

structure UpstreamRequest where
  url : CodeUnits
  body : UpstreamBody
  timeoutMs : Nat

/-- `${baseUrl.replace(/\/$/, "")}/${path}` -/
def joinUrl (baseUrl : CodeUnits) (path : String) : CodeUnits :=
  (if baseUrl.getLast? = some (unit '/') then baseUrl.dropLast else baseUrl) ++
    unit '/' :: ofString path

def messageValue (message : ChatMessage) : Value :=
  record [("role", string message.role.text), ("content", text message.content)]

/-- `request.input` -/
def LocalServiceInput.value : LocalServiceInput → Value
  | .modelProvider messages maxOutputTokens =>
    record [("messages", .array (messages.map messageValue)),
      ("maxOutputTokens", natural maxOutputTokens)]
  | .embeddingProvider texts => record [("texts", .array (texts.map text))]
  | .reranker query documents topK =>
    record [("query", text query),
      ("documents", .array (documents.map fun document =>
        record [("documentId", text document.documentId), ("text", text document.text)])),
      ("topK", natural topK)]
  | .documentParser mediaType dataBase64 =>
    record [("document",
      record [("mediaType", string mediaType.text), ("dataBase64", text dataBase64)])]
  | .asr dataBase64 language =>
    record (("audio", record [("mediaType", string "audio/wav"), ("dataBase64", text dataBase64)]) ::
      language.toList.map fun units => ("language", text units))

def LocalServiceRequest.value (request : LocalServiceRequest) : Value :=
  record [("contractType", string "local-service-request"), ("contractVersion", string "1.0"),
    ("requestId", text request.requestId), ("port", string request.port.text),
    ("input", request.input.value)]

/-- A protocol takes the requests of one port. -/
def buildUpstreamRequest (target : LocalServiceTarget) (request : LocalServiceRequest) :
    Except String UpstreamRequest :=
  let post (path : String) (body : Value) : Except String UpstreamRequest :=
    .ok ⟨joinUrl target.baseUrl path, .json body, target.timeoutMs⟩
  match target.protocol, request.input with
  | .openaiChatCompletions, .modelProvider messages maxOutputTokens =>
    post "chat/completions" (record [("model", optionalText target.model),
      ("messages", .array (messages.map messageValue)), ("max_tokens", natural maxOutputTokens),
      ("stream", .scalar (.bool false))])
  | .openaiChatCompletions, _ => .error "模型协议只接受 ModelProvider 请求"
  | .openaiEmbeddings, .embeddingProvider texts =>
    post "embeddings" (record [("model", optionalText target.model),
      ("input", .array (texts.map text))])
  | .openaiEmbeddings, _ => .error "嵌入协议只接受 EmbeddingProvider 请求"
  | .rerank, .reranker query documents topK =>
    post "rerank" (record [("model", optionalText target.model), ("query", text query),
      ("documents", .array (documents.map fun document => text document.text)),
      ("top_n", natural topK)])
  | .rerank, _ => .error "重排协议只接受 Reranker 请求"
  | .paddleocrVl, .documentParser mediaType dataBase64 =>
    post "chat/completions" (record [("model", optionalText target.model),
      ("messages", .array [record [("role", string "user"), ("content", .array
        [record [("type", string "text"), ("text", string "请识别图片中的全部文字。")],
          record [("type", string "image_url"), ("image_url", record [("url",
            text (ofString ("data:" ++ mediaType.text ++ ";base64,") ++ dataBase64))])]])]]),
      ("max_tokens", natural 256), ("stream", .scalar (.bool false))])
  | .paddleocrVl, _ => .error "PaddleOCR 协议只接受 DocumentParser 请求"
  | .mineru, .documentParser mediaType dataBase64 =>
    .ok ⟨joinUrl target.baseUrl "file_parse",
      .form mediaType.text dataBase64 (if mediaType = .pdf then "sample.pdf" else "sample.png")
        [("return_md", "true"), ("response_format_zip", "false"), ("backend", "pipeline")],
      target.timeoutMs⟩
  | .mineru, _ => .error "MinerU 协议只接受 DocumentParser 请求"
  | .choicemindDocumentParser, .documentParser _ _ => post "document/parse" request.value
  | .choicemindDocumentParser, _ => .error "ChoiceMind 解析协议只接受 DocumentParser 请求"

/-! ### Responses -/

/-- What the upstream does. -/
inductive Upstream
  /-- the call fails, by a timeout or otherwise -/
  | rejected (timeout : Bool)
  /-- a response; a body that is not JSON is none -/
  | answered (status : Nat) (payload : Option Value)

def isText (value : Value) (units : CodeUnits) : Bool :=
  match value with
  | .scalar (.string other) => other = units
  | _ => false

/-- `value === expected` where the expected text can be undefined -/
def isOptionalText (value : Value) (expected : Option CodeUnits) : Bool :=
  match value, expected with
  | .undefined, none => true
  | .scalar (.string other), some units => other = units
  | _, _ => false

def itemsOf : Value → Option (List Value)
  | .array items => some items
  | _ => none

def arrayOf : Option (List Value) → Value
  | some items => .array items
  | none => .undefined

def readChatText (payload : Value) : Value :=
  match itemsOf (memberOf payload "choices") with
  | some (choice :: _) => memberOf (memberOf choice "message") "content"
  | _ => .undefined

/-- `typeof result.md_content === "string"` -/
def markdownOf (result : Value) : Option Value :=
  match memberOf result "md_content" with
  | .scalar (.string units) => some (text units)
  | _ => none

def findMarkdown : Value → Value
  | .object fields => (fields.findSome? fun field => markdownOf field.2).getD .undefined
  | _ => .undefined

def embeddingOf (item : Value) : Value := memberOf item "embedding"

/-- `first?.length` -/
def dimensionsOf : Option (List Value) → Value
  | some (.array first :: _) => natural first.length
  | _ => .undefined

/-- `documents[index]?.documentId` -/
def documentIdAt (documents : List RerankerDocument) (index : JsNumber) : Value :=
  optionalText ((index.toNat.bind fun i => documents[i]?).map RerankerDocument.documentId)

def rankingOf (documents : List RerankerDocument) (item : Value) : Value :=
  match memberOf item "index" with
  | .scalar (.number index) =>
    record [("documentId", documentIdAt documents index),
      ("score", memberOf item "relevance_score")]
  | _ => .undefined

def LocalServiceRequest.documents (request : LocalServiceRequest) : List RerankerDocument :=
  match request.input with
  | .reranker _ documents _ => documents
  | _ => []

/-- The model without `MinerU-` before its version. -/
def mineruVersion (model : CodeUnits) : CodeUnits :=
  if (ofString "MinerU-").isPrefixOf model then model.drop 7 else model

def header (request : LocalServiceRequest) : List (String × Value) :=
  [("contractType", string "local-service-result"), ("contractVersion", string "1.0"),
    ("requestId", text request.requestId), ("port", string request.port.text),
    ("ok", .scalar (.bool true))]

/-- `{ ...header, output }` -/
def withOutput (request : LocalServiceRequest) (output : Value) : Value :=
  record (header request ++ [("output", output)])

def outputOf (target : LocalServiceTarget) (request : LocalServiceRequest) (payload : Value) :
    Value :=
  match target.protocol with
  | .openaiChatCompletions =>
    record [("model", memberOf payload "model"), ("text", readChatText payload)]
  | .openaiEmbeddings =>
    let vectors := (itemsOf (memberOf payload "data")).map fun items => items.map embeddingOf
    record [("model", memberOf payload "model"), ("dimensions", dimensionsOf vectors),
      ("vectors", arrayOf vectors)]
  | .rerank =>
    let rankings := (itemsOf (memberOf payload "results")).map fun items =>
      items.map (rankingOf request.documents)
    record [("model", memberOf payload "model"), ("rankings", arrayOf rankings)]
  | .paddleocrVl =>
    record [("parser", optionalText target.model), ("text", readChatText payload),
      ("pageCount", natural 1)]
  | .mineru =>
    record [("parser", optionalText target.model), ("text", findMarkdown (memberOf payload "results")),
      ("pageCount", natural 1)]
  | .choicemindDocumentParser => .undefined

/-- The payload says that it comes from the target's model. -/
def fromModel (target : LocalServiceTarget) (payload : Value) : Bool :=
  if target.protocol = .mineru then
    isText (memberOf payload "status") (ofString "completed") &&
      isOptionalText (memberOf payload "version") (target.model.map mineruVersion)
  else isOptionalText (memberOf payload "model") target.model

def isRecord : Value → Bool
  | .object _ => true
  | _ => false

def mapSuccessfulResponse (target : LocalServiceTarget) (request : LocalServiceRequest)
    (payload : Value) : Value :=
  if isRecord payload = false then withOutput request .undefined
  else if target.protocol = .choicemindDocumentParser then
    if isText (memberOf payload "requestId") request.requestId &&
      isText (memberOf payload "port") (ofString request.port.text) then payload
    else withOutput request .undefined
  else if fromModel target payload = false then withOutput request .undefined
  else withOutput request (outputOf target request payload)

/-! ### Execution -/

def failure (target : LocalServiceTarget) (requestId : CodeUnits) (code : LocalServiceErrorCode)
    (message : String) : LocalServiceResult :=
  let transport := code = .timeout || code = .connectionFailed
  .failed
    { requestId
      port := target.port
      error :=
        { code
          category :=
            if transport then .transport
            else if code = .invalidResponse then .protocol
            else .capability
          message := ofString message
          retryable := transport } }

/-- How many bytes a code unit takes in UTF-8; the units of a pair take two each. -/
def unitBytes (u : CodeUnit) : Nat :=
  if u.val < 0x80 then 1 else if u.val < 0x800 ∨ IsLead u ∨ IsTrail u then 2 else 3

structure Platform where
  fetch : UpstreamRequest → Upstream
  numeral : JsNumber → Numeral
  issuesOf : Value → List ContractIssue

/-- `Buffer.byteLength(JSON.stringify(input), "utf8")`; members stand in their own order. -/
def inputBytes (platform : Platform) (input : Value) : Nat :=
  (((canonicalizeBy platform.numeral (fun _ _ => 0) input).getD []).map unitBytes).sum

def overLimit (platform : Platform) (target : LocalServiceTarget) (request : LocalServiceRequest) :
    Option Nat :=
  target.maxInputBytes.filter fun limit => limit < inputBytes platform request.input.value

def executeLocalServiceRequest (platform : Platform) (target : LocalServiceTarget)
    (request : LocalServiceRequest) : LocalServiceResult :=
  if target.port ≠ request.port then
    failure target request.requestId .invalidResponse "目标服务与请求端口不匹配"
  else
    match overLimit platform target request with
    | some limit =>
      failure target request.requestId .capabilityLimitExceeded
        ("输入大小 " ++ toString (inputBytes platform request.input.value) ++ " 超过配置上限 " ++
          toString limit)
    | none =>
      match buildUpstreamRequest target request with
      | .error _ => failure target request.requestId .connectionFailed "无法连接本地服务"
      | .ok upstream =>
        match platform.fetch upstream with
        | .rejected true => failure target request.requestId .timeout "本地服务调用超时"
        | .rejected false => failure target request.requestId .connectionFailed "无法连接本地服务"
        | .answered status payload =>
          if ¬ (200 ≤ status ∧ status ≤ 299) then
            failure target request.requestId
              (if status = 408 ∨ status = 504 then .timeout else .invalidResponse)
              ("上游返回 HTTP " ++ toString status)
          else
            match payload with
            | none => failure target request.requestId .invalidResponse "上游返回的正文不是 JSON"
            | some payload =>
              match decodeLocalServiceResultV1 platform.issuesOf
                (mapSuccessfulResponse target request payload) with
              | .error _ =>
                failure target request.requestId .invalidResponse "上游返回结构不符合合同"
              | .ok result => result

end ChoiceMind.LocalServices
