import ChoiceMind.EvidenceIngestion.Ingestion
import ChoiceMind.Foundation.Trace

/-!
# What happens before a network call

The calls of an ingest run and of the guard in their order, with answers that may depend on all
calls before and may be errors.
-/

namespace ChoiceMind.EvidenceIngestion

set_option autoImplicit false

open Contracts Security Calls

/-! ### Traces -/

/-- A call of a port with its answer, `none` where it threw. -/
inductive GateEvent
  | record (record : EgressRecord) (persisted : Bool)
  | resolve (hostname : String) (answer : Option (List String))
  | collect (source : SourceInput) (policy : CollectionPolicy)
    (answer : Option DataSourceCollectionResult)
  | perform (answered : Bool)

/-- What the ports answer after the calls so far. -/
structure GateAnswers where
  appendRecord : List GateEvent → EgressRecord → Option Unit
  resolveHost : List GateEvent → String → Option (List String)
  collect : List GateEvent → SourceInput → CollectionPolicy → Option DataSourceCollectionResult
  perform : List GateEvent → Option Unit
  nextId : List GateEvent → Option String
  now : List GateEvent → Option Instant
  nextGapId : List GateEvent → Option String

section Ports
variable {α : Type}

abbrev GateM (α : Type) := ExceptT Unit (StateM (List GateEvent)) α

/-- A call that the trace shows. -/
def logged (event : Option α → GateEvent) (answer : List GateEvent → Option α) : GateM α :=
  fun events =>
    match answer events with
    | none => (.error (), events ++ [event none])
    | some value => (.ok value, events ++ [event (some value)])

/-- A call that the trace does not show. -/
def silent (answer : List GateEvent → Option α) : GateM α := fun events =>
  match answer events with
  | none => (.error (), events)
  | some value => (.ok value, events)

theorem run_silent (answer : List GateEvent → Option α) (events : List GateEvent) :
    ((silent answer).run events).2 = events := by
  simp only [ExceptT.run, silent]
  split <;> rfl

theorem run_logged (event : Option α → GateEvent) (answer : List GateEvent → Option α)
    (events : List GateEvent) :
    ((logged event answer).run events).2 = events ++ [event (answer events)] := by
  simp only [ExceptT.run, logged]
  split
  · rename_i hnone
    rw [hnone]
  · rename_i value hsome
    rw [hsome]

end Ports

def egressPorts (answers : GateAnswers) : EgressPorts (List GateEvent) Unit where
  appendRecord record := logged (fun answer => .record record answer.isSome)
    fun events => answers.appendRecord events record
  nextId := silent answers.nextId
  now := silent answers.now

def ingestOptions (platform : NetworkPlatform) (isApproved : String → Bool)
    (collectionPolicy : CollectionPolicy) (answers : GateAnswers) :
    IngestOptions (List GateEvent) Unit where
  platform
  isApproved
  collectionPolicy
  collect source policy := logged (.collect source policy)
    fun events => answers.collect events source policy
  egress := egressPorts answers
  nextGapId := silent answers.nextGapId
  resolveHost hostname := logged (.resolve hostname)
    fun events => answers.resolveHost events hostname

/-! ### Rules -/

def GateEvent.isCollect : GateEvent → Bool
  | .collect .. => true
  | _ => false

def GateEvent.isPerform : GateEvent → Bool
  | .perform _ => true
  | _ => false

/-- The addresses of a host: the literal itself, or an answer of the resolver. -/
def AddressesOf (platform : NetworkPlatform) (hostname : String) (events : List GateEvent)
    (addresses : List String) : Prop :=
  platform.isIP hostname ≠ 0 ∧ addresses = [hostname] ∨
    platform.isIP hostname = 0 ∧ .resolve hostname (some addresses) ∈ events

/-- What must be so before a source is collected. -/
structure SourceGate (platform : NetworkPlatform) (isApproved : String → Bool)
    (input : IngestInput) (before : List GateEvent) (sourceUrl : Url) : Prop where
  parsed : platform.parseUrl input.source.url = some sourceUrl
  approved : isApproved sourceUrl.href = true
  scheme : sourceUrl.protocol = "https:"
  isPublic : isLocalHostname (normalizeHostname sourceUrl.hostname) = false
  addresses : ∃ addresses, AddressesOf platform (normalizeHostname sourceUrl.hostname) before
    addresses ∧ addresses ≠ [] ∧ ∀ address ∈ addresses, isPrivateAddress platform address = false
  recorded : ∃ record, .record record true ∈ before ∧
    record.destinationOrigin = sourceUrl.origin

/-- A source is collected once, and behind the gate. -/
def CollectRule (platform : NetworkPlatform) (isApproved : String → Bool) (input : IngestInput)
    (before : List GateEvent) (event : GateEvent) : Prop :=
  event.isCollect = true → (∀ earlier ∈ before, earlier.isCollect = false) ∧
    ∃ sourceUrl, SourceGate platform isApproved input before sourceUrl

/-- An action is performed once, after its record, and only where the policy permits it. -/
def PerformRule (platform : NetworkPlatform) (input : EgressInput) (before : List GateEvent)
    (event : GateEvent) : Prop :=
  event.isPerform = true → (∀ earlier ∈ before, earlier.isPerform = false) ∧
    Permitted platform input ∧ ∃ record, .record record true ∈ before

/-! ### The guard -/

section Guard
variable {σ ε α β : Type} {platform : NetworkPlatform} {answers : GateAnswers}

theorem run_callEgress_snd (call : ExceptT ε (StateM σ) α) (s : σ) :
    ((callEgress call).run s).2 = (call.run s).2 := by
  simp only [ExceptT.run, callEgress]
  split <;> rename_i h <;> rw [h]

theorem run_callIngest_snd (call : ExceptT (EgressError ε) (StateM σ) α) (s : σ) :
    ((callIngest call).run s).2 = (call.run s).2 := by
  simp only [ExceptT.run, callIngest]
  split <;> rename_i h <;> rw [h]

/-- The calls of the guard: none, a record that is refused, or a record and the action. -/
inductive GuardCalls (platform : NetworkPlatform) (input : EgressInput)
    (event : Option α → GateEvent) : List GateEvent → Prop
  | none : GuardCalls platform input event []
  | refused (record : EgressRecord) : GuardCalls platform input event [.record record false]
  | performed (record : EgressRecord) (destination : Url) (answer : Option α)
    (hparsed : platform.parseUrl input.destinationUrl = some destination)
    (horigin : record.destinationOrigin = destination.origin)
    (hpermitted : Permitted platform input) :
    GuardCalls platform input event [.record record true, event answer]

theorem snd_of_silent {answer : List GateEvent → Option α} {events events' : List GateEvent}
    {result : Except (EgressError Unit) α}
    (h : (callEgress (silent answer)).run events = (result, events')) : events' = events := by
  have hsnd := congrArg Prod.snd h
  rw [run_callEgress_snd, run_silent] at hsnd
  exact hsnd.symm

/-- The last two calls of the guard. -/
theorem recordThenPerform (input : EgressInput) (event : Option α → GateEvent)
    (answer : List GateEvent → Option α) (events : List GateEvent) {record : EgressRecord}
    {destination : Url} (hparsed : platform.parseUrl input.destinationUrl = some destination)
    (horigin : record.destinationOrigin = destination.origin)
    (hpermitted : Permitted platform input) :
    ∃ calls, GuardCalls platform input event calls ∧
      ((do
        callEgress ((egressPorts answers).appendRecord record)
        let value ← callEgress (logged event answer)
        return EgressResult.completed value :
          ExceptT (EgressError Unit) (StateM (List GateEvent)) (EgressResult α)).run events).2 =
        events ++ calls := by
  cases happend : answers.appendRecord events record with
  | none =>
    have hfailed : (callEgress ((egressPorts answers).appendRecord record)).run events =
        (.error (.port ()), events ++ [.record record false]) := by
      apply run_callEgress_error
      simp only [ExceptT.run, egressPorts, logged, happend]
      rfl
    refine ⟨_, .refused record, ?_⟩
    rw [run_bind_error hfailed]
  | some _ =>
    have hdone : (callEgress ((egressPorts answers).appendRecord record)).run events =
        (.ok (), events ++ [.record record true]) := by
      apply run_callEgress_ok
      simp only [ExceptT.run, egressPorts, logged, happend]
      rfl
    refine ⟨_, .performed record destination (answer (events ++ [.record record true])) hparsed
      horigin hpermitted, ?_⟩
    rw [run_bind_ok hdone, run_bind_silent fun _ _ => rfl, run_callEgress_snd, run_logged,
      List.append_assoc]
    rfl

theorem executeEgress_calls (platform : NetworkPlatform) (answers : GateAnswers)
    (input : EgressInput) (event : Option α → GateEvent)
    (answer : List GateEvent → Option α) (events : List GateEvent) :
    ∃ calls, GuardCalls platform input event calls ∧
      ((executeEgress platform (egressPorts answers) input (logged event answer)).run events).2 =
        events ++ calls := by
  have hnone : GuardCalls platform input event [] := .none
  unfold executeEgress
  dsimp only
  split
  · exact ⟨[], hnone, (List.append_nil _).symm⟩
  · rename_i hallowed
    have hpermitted := permitted_of_allowed (not_not.mp hallowed)
    split
    · exact ⟨[], hnone, (List.append_nil _).symm⟩
    · rename_i destination hparsed
      -- neither the id nor the instant is a call that the trace shows
      rcases run_bind_cases (callEgress (egressPorts answers).nextId) _ events with
        ⟨egressId, s₁, hid, hrun⟩ | ⟨error, s₁, hid, hrun⟩
      · have hs₁ : s₁ = events := snd_of_silent hid
        rw [hrun, hs₁]
        rcases run_bind_cases (callEgress (egressPorts answers).now) _ events with
          ⟨occurredAt, s₂, hnow, hrun⟩ | ⟨error, s₂, hnow, hrun⟩
        · have hs₂ : s₂ = events := snd_of_silent hnow
          rw [hrun, hs₂]
          exact recordThenPerform input event answer events hparsed rfl hpermitted
        · have hs₂ : s₂ = events := snd_of_silent hnow
          rw [hrun, hs₂]
          exact ⟨[], hnone, (List.append_nil _).symm⟩
      · have hs₁ : s₁ = events := snd_of_silent hid
        rw [hrun, hs₁]
        exact ⟨[], hnone, (List.append_nil _).symm⟩

end Guard

/-! ### Ingest runs -/

section Ingest
variable {platform : NetworkPlatform} {isApproved : String → Bool}
  {collectionPolicy : CollectionPolicy} {answers : GateAnswers}

/-- The calls of the guard on its own. -/
def guardTrace (platform : NetworkPlatform) (answers : GateAnswers) (input : EgressInput) :
    List GateEvent :=
  ((executeEgress platform (egressPorts answers) input
    (logged (fun answer => .perform answer.isSome) answers.perform)).run []).2

/-- The calls of an ingest run. -/
def ingestTrace (platform : NetworkPlatform) (isApproved : String → Bool)
    (collectionPolicy : CollectionPolicy) (answers : GateAnswers) (input : IngestInput) :
    List GateEvent :=
  ((ingest (ingestOptions platform isApproved collectionPolicy answers) input).run []).2

theorem guard_keeps (input : EgressInput) :
    Trace.Keeps (PerformRule platform input) (guardTrace platform answers input) := by
  unfold guardTrace
  obtain ⟨calls, hcalls, hevents⟩ := executeEgress_calls platform answers input
    (fun answer => .perform answer.isSome) answers.perform []
  rw [hevents, List.nil_append]
  cases hcalls with
  | none => exact Trace.keeps_nil
  | refused record => exact Trace.keeps_singleton nofun
  | performed record destination answer hparsed horigin hpermitted =>
    rw [← List.singleton_append, Trace.keeps_concat]
    refine ⟨Trace.keeps_singleton nofun, fun _ => ?_⟩
    refine ⟨fun earlier hearlier => ?_, hpermitted, record, List.mem_singleton_self _⟩
    rw [List.mem_singleton.mp hearlier]
    rfl

theorem run_evidenceGap (input : IngestInput) (code : GapCode) (retryable : Bool)
    (metrics : Option CollectionMetrics) (events : List GateEvent) :
    ((evidenceGap (ingestOptions platform isApproved collectionPolicy answers) input code retryable
      metrics).run events).2 = events := by
  unfold evidenceGap
  rw [run_bind_silent fun _ _ => rfl, run_callIngest_snd, run_callEgress_snd]
  exact run_silent _ events

variable (platform isApproved collectionPolicy answers) in
theorem run_resolveAddresses (hostname : String) (events : List GateEvent) :
    ∃ resolved calls, (resolveAddresses (ingestOptions platform isApproved collectionPolicy answers)
        hostname).run events = (.ok resolved, events ++ calls) ∧
      (∀ event ∈ calls, event.isCollect = false) ∧
      ∀ addresses, resolved = some addresses →
        AddressesOf platform hostname (events ++ calls) addresses := by
  unfold resolveAddresses
  by_cases hip : platform.isIP hostname = 0
  · refine ⟨answers.resolveHost events hostname,
      [.resolve hostname (answers.resolveHost events hostname)], ?_, ?_, ?_⟩
    · change (if platform.isIP hostname = 0 then _ else _ : IngestM _ _ _).run events = _
      rw [if_pos hip]
      simp only [ExceptT.run, tryCall, ingestOptions, logged]
      cases answers.resolveHost events hostname <;> rfl
    · intro event hevent
      rw [List.mem_singleton.mp hevent]
      rfl
    · intro addresses hresolved
      rw [hresolved]
      exact .inr ⟨hip, List.mem_append_right _ (List.mem_singleton_self _)⟩
  · refine ⟨some [hostname], [], ?_, fun _ hevent => absurd hevent List.not_mem_nil, ?_⟩
    · change (if platform.isIP hostname = 0 then _ else _ : IngestM _ _ _).run events = _
      rw [if_neg hip, List.append_nil]
      rfl
    · intro addresses hresolved
      cases hresolved
      exact .inl ⟨hip, rfl⟩

variable (platform isApproved collectionPolicy answers) in
theorem collectGuarded_calls (input : IngestInput) (sourceUrl : Url) (events : List GateEvent) :
    ∃ calls, GuardCalls platform (input.egress sourceUrl)
        (.collect input.source collectionPolicy) calls ∧
      ((collectGuarded (ingestOptions platform isApproved collectionPolicy answers) input
        sourceUrl).run events).2 = events ++ calls := by
  unfold collectGuarded
  obtain ⟨calls, hcalls, hevents⟩ := executeEgress_calls platform answers (input.egress sourceUrl)
    (.collect input.source collectionPolicy)
    (fun events => answers.collect events input.source collectionPolicy) events
  refine ⟨calls, hcalls, ?_⟩
  rw [run_bind_silent, run_callIngest_snd]
  · exact hevents
  · intro guarded s
    split
    · rfl
    · exact run_evidenceGap input _ _ _ s
    · rfl

/-- The collection at the end of an ingest run keeps the rule. -/
theorem collected_keeps {input : IngestInput} {sourceUrl : Url} {before calls : List GateEvent}
    (hparsed : platform.parseUrl input.source.url = some sourceUrl)
    (happroved : isApproved sourceUrl.href = true) (hscheme : sourceUrl.protocol = "https:")
    (hpublic : isLocalHostname (normalizeHostname sourceUrl.hostname) = false)
    {addresses : List String}
    (haddresses : AddressesOf platform (normalizeHostname sourceUrl.hostname) before addresses)
    (hnonempty : addresses ≠ [])
    (hpublics : ∀ address ∈ addresses, isPrivateAddress platform address = false)
    (hbefore : ∀ event ∈ before, event.isCollect = false)
    (hkeeps : Trace.Keeps (CollectRule platform isApproved input) before)
    (hcalls : GuardCalls platform (input.egress sourceUrl) (.collect input.source collectionPolicy)
      calls) :
    Trace.Keeps (CollectRule platform isApproved input) (before ++ calls) := by
  cases hcalls with
  | none => rwa [List.append_nil]
  | refused record => exact Trace.keeps_concat.mpr ⟨hkeeps, nofun⟩
  | performed record destination answer hreparsed horigin =>
    rw [← List.singleton_append, ← List.append_assoc, Trace.keeps_concat]
    refine ⟨Trace.keeps_concat.mpr ⟨hkeeps, nofun⟩, fun _ => ⟨fun earlier hearlier => ?_, ?_⟩⟩
    · rcases List.mem_append.mp hearlier with hold | hrecord
      · exact hbefore earlier hold
      · rw [List.mem_singleton.mp hrecord]
        rfl
    · -- the href of the parsed url is parsed again for the record
      have hsame : destination = sourceUrl :=
        Option.some.inj (hreparsed.symm.trans (platform.parseUrl_href hparsed))
      refine ⟨sourceUrl, hparsed, happroved, hscheme, hpublic, ⟨addresses, ?_, hnonempty,
        hpublics⟩, record, List.mem_append_right _ (List.mem_singleton_self _), hsame ▸ horigin⟩
      exact haddresses.imp id fun hresolved => ⟨hresolved.1, List.mem_append_left _ hresolved.2⟩

theorem ingest_keeps (input : IngestInput) : Trace.Keeps (CollectRule platform isApproved input)
    (ingestTrace platform isApproved collectionPolicy answers input) := by
  -- a gap adds no call
  have hgap : ∀ code retryable metrics events,
      Trace.Keeps (CollectRule platform isApproved input) events →
      Trace.Keeps (CollectRule platform isApproved input)
        ((evidenceGap (ingestOptions platform isApproved collectionPolicy answers) input code
          retryable metrics).run events).2 := by
    intro code retryable metrics events hevents
    rwa [run_evidenceGap]
  unfold ingestTrace ingest
  cases hparsed : (ingestOptions platform isApproved collectionPolicy answers).platform.parseUrl
      input.source.url with
  | none => exact Trace.keeps_nil
  | some sourceUrl =>
    dsimp only
    split
    · exact hgap _ _ _ [] Trace.keeps_nil
    · rename_i happroved
      split
      · exact hgap _ _ _ [] Trace.keeps_nil
      · rename_i hscheme
        obtain ⟨resolved, calls, hresolve, hcalls, haddresses⟩ := run_resolveAddresses
          platform isApproved collectionPolicy answers (normalizeHostname sourceUrl.hostname) []
        rw [List.nil_append] at hresolve haddresses
        have hkeeps : Trace.Keeps (CollectRule platform isApproved input) calls := by
          intro pre event post hsplit hcollect
          rw [hcalls event (hsplit ▸ List.mem_append_right _ List.mem_cons_self)] at hcollect
          cases hcollect
        rw [run_bind_ok hresolve]
        split
        · exact hgap _ _ _ calls hkeeps
        · rename_i addresses
          split
          · exact hgap _ _ _ calls hkeeps
          · rename_i hopen
            obtain ⟨guardCalls, hguard, hevents⟩ := collectGuarded_calls platform isApproved
              collectionPolicy answers input sourceUrl calls
            rw [hevents]
            simp only [not_or, Bool.not_eq_true, List.any_eq_false] at hopen
            have happroved' : (ingestOptions platform isApproved collectionPolicy
                answers).isApproved sourceUrl.href = true := by simpa using happroved
            exact collected_keeps hparsed happroved' (not_not.mp hscheme) hopen.1
              (haddresses addresses rfl) hopen.2.1 hopen.2.2 hcalls hkeeps hguard

end Ingest

/-- Whatever the ports answer, an ingest run collects its source at most once and behind the gate,
and the guard performs an action at most once, after its record, and only where the policy
permits it. -/
theorem network_gated (platform : NetworkPlatform) (answers : GateAnswers) :
    (∀ (isApproved : String → Bool) (collectionPolicy : CollectionPolicy) (input : IngestInput),
      Trace.Keeps (CollectRule platform isApproved input)
        (ingestTrace platform isApproved collectionPolicy answers input)) ∧
    ∀ input : EgressInput,
      Trace.Keeps (PerformRule platform input) (guardTrace platform answers input) :=
  ⟨fun _ _ input => ingest_keeps input, guard_keeps⟩

/-! ### A source that is collected -/

def sampleUrl : Url := ⟨"https://shop.test/", "https:", "shop.test", "https://shop.test"⟩

/-- One url and one address. -/
def samplePlatform : NetworkPlatform where
  parseUrl text := if text = sampleUrl.href then some sampleUrl else none
  parseUrl_href := by
    intro text url h
    split at h
    · cases h
      exact if_pos rfl
    · cases h
  toUpperCase text := text
  toLowerCase text := text
  isIP text := if text = "93.184.216.34" then 4 else 0
  toLowerCase_length := fun _ => Nat.le_refl _

/-- Ports that answer. -/
def sampleAnswers : GateAnswers where
  appendRecord _ _ := some ()
  resolveHost _ _ := some ["93.184.216.34"]
  collect _ _ _ := some (.error .fetchFailed true ⟨0, 0⟩)
  perform _ := some ()
  nextId _ := some "id"
  now _ := some 0
  nextGapId _ := some "gap"

example : (ingestTrace samplePlatform (· == sampleUrl.href) ⟨[], 0⟩ sampleAnswers
    ⟨"correlation", "task", "operation", ⟨"source", "title", sampleUrl.href⟩, "user"⟩).map
      GateEvent.isCollect = [false, false, true] := by
  decide +kernel

end ChoiceMind.EvidenceIngestion
