import ChoiceMind.Security.Egress
import Mathlib.Data.String.Basic

/-!
# Evidence ingestion

`createEvidenceIngestionService`: an approved source is collected behind checks of its url and
its addresses and behind the egress guard.
-/

namespace ChoiceMind.EvidenceIngestion

set_option autoImplicit false

open Contracts Security

/-! ### Hosts and addresses -/

/-- `text.slice(count)` -/
def sliceFrom (count : Nat) (text : String) : String := .ofList (text.toList.drop count)

theorem length_sliceFrom (count : Nat) (text : String) :
    (sliceFrom count text).length = text.length - count := by
  unfold sliceFrom
  rw [String.length_ofList, List.length_drop, String.length_toList]

def normalizeHostname (hostname : String) : String :=
  if hostname.toList.head? = some '[' ∧ hostname.toList.getLast? = some ']' then
    .ofList (hostname.toList.drop 1).dropLast
  else hostname

theorem length_normalizeHostname (hostname : String) :
    (normalizeHostname hostname).length ≤ hostname.length := by
  unfold normalizeHostname
  split
  · rw [String.length_ofList, List.length_dropLast, List.length_drop, String.length_toList]
    omega
  · exact Nat.le_refl _

def isLocalHostname (hostname : String) : Bool :=
  hostname = "localhost" || ".localhost".toList.isSuffixOf hostname.toList

/-- `Number` of a text of decimal digits, `none` for another text. -/
def decimal (digits : List Char) : Option Nat :=
  if digits.all Char.isDigit then
    some (digits.foldl (fun number digit => 10 * number + (digit.toNat - '0'.toNat)) 0)
  else none

/-- A group of an address, 0 where there is none. -/
def octet (address : String) (index : Nat) : Option Nat :=
  match (address.toList.splitOn '.')[index]? with
  | none => some 0
  | some group => decimal group

/-- The private ranges of IPv4, by their first two groups. -/
def isPrivateV4 (address : String) : Bool :=
  let first := octet address 0
  let second := octet address 1
  first = some 0 || first = some 10 || first = some 127 ||
    (first = some 169 && second = some 254) ||
    (first = some 172 && second.any fun second => 16 ≤ second && second ≤ 31) ||
    (first = some 192 && second = some 168)

/-- `text.startsWith(start)` -/
def startsWith (start text : String) : Bool := start.toList.isPrefixOf text.toList

/-- `/^fe[89ab]/` -/
def isLinkLocal (address : String) : Bool :=
  startsWith "fe8" address || startsWith "fe9" address || startsWith "fea" address ||
    startsWith "feb" address

/-- A mapped address is judged by the address that it maps. -/
def isPrivateAddress (platform : NetworkPlatform) (address : String) : Bool :=
  if platform.isIP (platform.toLowerCase (normalizeHostname address)) = 4 then
    isPrivateV4 (platform.toLowerCase (normalizeHostname address))
  else if hsix : platform.isIP (platform.toLowerCase (normalizeHostname address)) ≠ 6 then true
  else
    let normalized := platform.toLowerCase (normalizeHostname address)
    if normalized = "::" ∨ normalized = "::1" then true
    else if startsWith "fc" normalized || startsWith "fd" normalized then true
    else if isLinkLocal normalized then true
    else if hmapped : startsWith "::ffff:" normalized = true then
      isPrivateAddress platform (sliceFrom 7 normalized)
    else false
termination_by address.length
decreasing_by
  have hlower := platform.toLowerCase_length (not_not.mp hsix)
  have hnormalized := length_normalizeHostname address
  have hprefix : 7 ≤ (platform.toLowerCase (normalizeHostname address)).length := by
    have hlength := (List.isPrefixOf_iff_prefix.mp hmapped).length_le
    rwa [String.length_toList] at hlength
  rw [length_sliceFrom]
  omega

/-! ### Collections -/

structure DataSourceArtifactRef where
  digest : String
  objectKey : String
  deriving DecidableEq

structure SourceFacts where
  capturedAt : String
  mediaType : String
  sourceId : String
  title : String
  url : String
  deriving DecidableEq

structure CollectionMetrics where
  bytesFetched : Int
  durationMs : Int
  deriving DecidableEq

inductive CollectionErrorCode
  | fetchFailed
  | mimeRejected
  | sizeExceeded
  | redirectRejected
  deriving DecidableEq, Repr

inductive DataSourceCollectionResult
  | ok (sourceFacts : SourceFacts) (rawArtifact : DataSourceArtifactRef)
    (metrics : CollectionMetrics)
  | error (code : CollectionErrorCode) (retryable : Bool) (metrics : CollectionMetrics)
  deriving DecidableEq

structure CollectionPolicy where
  allowedMediaTypes : List String
  maxBytes : Int
  deriving DecidableEq

structure SourceInput where
  sourceId : String
  title : String
  url : String
  deriving DecidableEq

structure IngestInput where
  correlationId : String
  decisionTaskId : String
  operationId : String
  source : SourceInput
  userId : String

inductive GapCode
  | sourceNotApproved
  | sourceSchemeRejected
  | sourceDnsFailed
  | sourceSsrfBlocked
  | collection (code : CollectionErrorCode)
  deriving DecidableEq, Repr

structure EvidenceGap where
  code : GapCode
  decisionTaskId : String
  gapId : String
  metrics : Option CollectionMetrics
  retryable : Bool
  sourceId : String
  deriving DecidableEq

inductive IngestResult
  | evidenceGap (gap : EvidenceGap)
  | collected (sourceFacts : SourceFacts) (rawArtifact : DataSourceArtifactRef)
    (metrics : CollectionMetrics)

/-! ### The service -/

/-- The options of the service over a world `σ`, whose ports may throw. -/
structure IngestOptions (σ ε : Type) where
  platform : NetworkPlatform
  /-- `approvedSourceUrls.has` -/
  isApproved : String → Bool
  collectionPolicy : CollectionPolicy
  collect : SourceInput → CollectionPolicy → ExceptT ε (StateM σ) DataSourceCollectionResult
  egress : EgressPorts σ ε
  nextGapId : ExceptT ε (StateM σ) String
  resolveHost : String → ExceptT ε (StateM σ) (List String)

inductive IngestError (ε : Type)
  | message (text : String)
  | egress (error : EgressError ε)
  deriving DecidableEq

section Service
variable {σ ε : Type}

abbrev IngestM (σ ε : Type) := ExceptT (IngestError ε) (StateM σ)

/-- A call whose error goes through. -/
def callIngest {α : Type} (call : ExceptT (EgressError ε) (StateM σ) α) : IngestM σ ε α :=
  fun world =>
    match call world with
    | (.ok value, world) => (.ok value, world)
    | (.error error, world) => (.error (.egress error), world)

/-- `try … catch` -/
def tryCall {α : Type} (call : ExceptT ε (StateM σ) α) : IngestM σ ε (Option α) := fun world =>
  match call world with
  | (.ok value, world) => (.ok (some value), world)
  | (.error _, world) => (.ok none, world)

def evidenceGap (options : IngestOptions σ ε) (input : IngestInput) (code : GapCode)
    (retryable : Bool) (metrics : Option CollectionMetrics) : IngestM σ ε IngestResult := do
  let gapId ← callIngest <| callEgress options.nextGapId
  return .evidenceGap
    ⟨code, input.decisionTaskId, gapId, metrics, retryable, input.source.sourceId⟩

/-- The addresses of a host: itself, or the answer of the resolver. -/
def resolveAddresses (options : IngestOptions σ ε) (hostname : String) :
    IngestM σ ε (Option (List String)) :=
  if options.platform.isIP hostname = 0 then tryCall (options.resolveHost hostname)
  else return some [hostname]

/-- The network action of a collection. -/
def IngestInput.egress (input : IngestInput) (sourceUrl : Url) : EgressInput where
  userId := input.userId
  operationId := input.operationId
  operation := .readPublicSource
  confirmation := none
  correlationId := input.correlationId
  destinationUrl := sourceUrl.href
  method := "GET"

/-- The collection behind the guard. -/
def collectGuarded (options : IngestOptions σ ε) (input : IngestInput) (sourceUrl : Url) :
    IngestM σ ε IngestResult := do
  let guarded ← callIngest <| executeEgress options.platform options.egress
    (input.egress sourceUrl) (options.collect input.source options.collectionPolicy)
  match guarded with
  | .completed (.ok sourceFacts rawArtifact metrics) =>
    return .collected sourceFacts rawArtifact metrics
  | .completed (.error code retryable metrics) =>
    evidenceGap options input (.collection code) retryable (some metrics)
  | .refused _ => throw (.message "未批准来源的失败语义尚未实现")

def ingest (options : IngestOptions σ ε) (input : IngestInput) : IngestM σ ε IngestResult := do
  match options.platform.parseUrl input.source.url with
  | none => throw (.egress .invalidUrl)
  | some sourceUrl =>
    if !options.isApproved sourceUrl.href then
      evidenceGap options input .sourceNotApproved false none
    else if sourceUrl.protocol ≠ "https:" then
      evidenceGap options input .sourceSchemeRejected false none
    else do
      let hostname := normalizeHostname sourceUrl.hostname
      match ← resolveAddresses options hostname with
      | none => evidenceGap options input .sourceDnsFailed true none
      | some resolvedAddresses =>
        if isLocalHostname hostname ∨ resolvedAddresses = [] ∨
            resolvedAddresses.any (isPrivateAddress options.platform) then
          evidenceGap options input .sourceSsrfBlocked false none
        else collectGuarded options input sourceUrl

end Service

end ChoiceMind.EvidenceIngestion
