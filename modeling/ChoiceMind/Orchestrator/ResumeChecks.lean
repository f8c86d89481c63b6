import ChoiceMind.Foundation.JsonMembers
import ChoiceMind.Foundation.OrderedMap
import ChoiceMind.Orchestrator.PauseFacts
import ChoiceMind.TaskPersistence.KeptFacts

/-!
# Resuming from stored facts

What `resume` reads from the recovery store before it claims the run, and how a process that
resumes continues the journal and the draft of the one that paused.
-/

namespace ChoiceMind.Orchestrator.Resuming

set_option autoImplicit false

open Contracts TaskPersistence Transition

/-- `jsonb` columns as the driver reads them. -/
structure JsonReader where
  read : String → Json Rat
  distinct : ∀ text, (read text).Distinct

/-! ### Drafts -/

def draftArrays : List String := ["candidates", "claims", "evidence", "claimEvidenceLinks"]

/-- `assertDecisionDraftEnvelope` does not throw. -/
def isDecisionDraft (value : Json Rat) : Bool :=
  value.isObject && (value.keys.all fun key => key ∈ draftArrays || key = "decision") &&
    (draftArrays.all fun key => (value.member key).any fun items => items.items?.isSome) &&
    (value.member "decision").any Json.isObject

/-- The capture after `execute` of `submit_decision_draft`, which throws on a second call. -/
def submitDecisionDraft (capture : DraftCapture) (args : Json Rat) : DraftCapture :=
  if capture.calls > 0 then capture
  else if isDecisionDraft args then ⟨capture.calls + 1, some args⟩
  else capture

def startCapture : Option (Json Rat) → DraftCapture
  | none => ⟨0, none⟩
  | some reusedDraft => ⟨1, some reusedDraft⟩

def decodeCoreMindEffectResult (value : Json Rat) : Option (Json Rat) :=
  if (value.member "effectResultType").bind Json.text? = some "choicemind-decision-draft" ∧
      (value.member "effectResultVersion").bind Json.number? = some 1 ∧
      (value.member "tool").bind Json.text? = some "submit_decision_draft" then
    (value.member "draft").filter isDecisionDraft
  else none

/-! ### The journal -/

def runStateKinds : List String :=
  ["start", "resume", "event", "checkpoint", "loop", "operation", "pause", "finish"]

def isRunState (runId : String) (sequence : Nat) (record : Json Rat) : Bool :=
  (record.member "version").bind Json.number? = some 1 &&
    (record.member "runId").bind Json.text? = some runId &&
    (record.member "sequence").bind Json.number? = some (sequence : Rat) &&
    (((record.member "timestamp").bind Json.text?).isSome) &&
    ((record.member "kind").bind Json.text?).any fun kind => kind ∈ runStateKinds

/-- A record of CoreMind's type. -/
structure RunState where
  value : Json Rat
  runId : String
  sequence : Nat
  typed : isRunState runId sequence value = true

/-- `createMemoryRunStore`, a map of the records of each run -/
abbrev RunStore := List (String × List RunState)

namespace RunStore

def read (runStore : RunStore) (runId : String) : List RunState := (runStore.lookup runId).getD []

def push (runStore : RunStore) (record : RunState) : RunStore :=
  OrderedMap.set record.runId (runStore.read record.runId ++ [record]) runStore

def create (initialRecords : List RunState) : RunStore := initialRecords.foldl push []

/-- `append`, which throws at a conflict or a gap and leaves the records then -/
def append (runStore : RunStore) (record : RunState) : RunStore :=
  let items := runStore.read record.runId
  match items.find? fun item => item.sequence = record.sequence with
  | some _ => runStore
  | none =>
    if record.sequence ≠ (items.getLast?.map RunState.sequence).getD 0 + 1 then runStore
    else runStore.push record

end RunStore

/-! ### The recovery envelope -/

structure RecoveryEnvelope where
  nativeSnapshot : NativeSnapshot
  runStateRecords : List RunState

def envelopeJson (nativeSnapshot : Json Rat) (runStateRecords : List (Json Rat)) : Json Rat :=
  .object
    [("envelopeType", .string "coremind-runtime-recovery"), ("envelopeVersion", .number 1),
     ("nativeSnapshot", nativeSnapshot), ("runStateRecords", .array runStateRecords)]

def RecoveryEnvelope.toJson (envelope : RecoveryEnvelope) : Json Rat :=
  envelopeJson envelope.nativeSnapshot.value (envelope.runStateRecords.map RunState.value)

/-- `value.runStateRecords.map`, `none` where a record is refused -/
def parseRunStates (runId : String) : Nat → List (Json Rat) → Option (List RunState)
  | _, [] => some []
  | index, record :: records =>
    if typed : isRunState runId (index + 1) record = true then
      (parseRunStates runId (index + 1) records).map fun runStates =>
        ⟨record, runId, index + 1, typed⟩ :: runStates
    else none

def parseCoreMindRecoveryEnvelopeV1 (parseRunSnapshot : Json Rat → Option NativeSnapshot)
    (value : Json Rat) : Option RecoveryEnvelope :=
  if (value.member "envelopeType").bind Json.text? = some "coremind-runtime-recovery" ∧
      (value.member "envelopeVersion").bind Json.number? = some 1 then
    match (value.member "nativeSnapshot").bind parseRunSnapshot,
      (value.member "runStateRecords").bind Json.items? with
    | some nativeSnapshot, some records =>
      match parseRunStates nativeSnapshot.runId 0 records with
      | none | some [] => none
      | some runStateRecords => some ⟨nativeSnapshot, runStateRecords⟩
    | _, _ => none
  else none

/-- Another version of the envelope or of the snapshot in it. -/
def isUnsupported (rawEnvelope : Json Rat) : Bool :=
  rawEnvelope.isObject &&
    ((rawEnvelope.member "envelopeVersion").bind Json.number? ≠ some 1 ||
      (rawEnvelope.member "nativeSnapshot").any fun nativeSnapshot =>
        nativeSnapshot.isObject &&
          (nativeSnapshot.member "schemaVersion").bind Json.number? ≠ some 1)

/-! ### The checks -/

inductive DenialCode
  | runtimeSnapshotInvalid
  | runtimeProtocolUnsupported
  | runtimeResumeDenied
  deriving DecidableEq, Repr

/-- The reasons of an evaluated permission, and those of `buildEffectResultRecoveryDenial`. -/
inductive DenialReason
  | evaluated (reason : RecoveryReason)
  | effectResultUnavailable
  | effectResultInvalid
  deriving DecidableEq, Repr

structure DeniedPermission where
  decisionTaskId : String
  agentRunId : String
  snapshotId : String
  decision : RecoveryDecision
  reason : DenialReason
  deriving DecidableEq, Repr

structure Denial where
  code : DenialCode
  message : String
  recoveryPermission : Option DeniedPermission
  deriving DecidableEq, Repr

inductive CheckError
  | denied (denial : Denial)
  | persistence (error : PersistenceError)
  deriving DecidableEq

def invalidSnapshot (message : String) : CheckError :=
  .denied ⟨.runtimeSnapshotInvalid, message, none⟩

def permissionDenial (permission : RuntimeRecoveryPermission) : CheckError :=
  .denied
    ⟨.runtimeResumeDenied,
      if permission.decision = .manualVerificationRequired then "副作用状态需要人工核验"
      else "Runtime 快照不允许原位恢复",
      some ⟨permission.decisionTaskId, permission.agentRunId, permission.snapshotId,
        permission.decision, .evaluated permission.reason⟩⟩

def buildEffectResultRecoveryDenial (snapshot : RuntimeSnapshot) (reason : DenialReason)
    (message : String) : CheckError :=
  .denied
    ⟨.runtimeResumeDenied, message,
      some ⟨snapshot.decisionTaskId, snapshot.agentRunId, snapshot.snapshotId,
        .manualVerificationRequired, reason⟩⟩

section Checks
variable (env : Environment) (reader : JsonReader)
  (parseRunSnapshot : Json Rat → Option NativeSnapshot) (db : Store)

/-- The draft of a committed effect. -/
def committedDraft (snapshot : RuntimeSnapshot) (result : EffectResultRef) :
    Except CheckError (Json Rat) :=
  match loadEffectResult env result db with
  | .error .effectResultInvalid =>
    .error (buildEffectResultRecoveryDenial snapshot .effectResultInvalid
      "已提交副作用的结果完整性校验失败")
  | .error error => .error (.persistence error)
  | .ok none =>
    .error (buildEffectResultRecoveryDenial snapshot .effectResultUnavailable
      "已提交副作用的权威结果不可用")
  | .ok (some text) =>
    if env.sha256 (env.payloadText (reader.read text)) ≠ result.digest then
      .error (buildEffectResultRecoveryDenial snapshot .effectResultInvalid
        "已提交副作用的结果完整性校验失败")
    else match decodeCoreMindEffectResult (reader.read text) with
      | none =>
        .error (buildEffectResultRecoveryDenial snapshot .effectResultInvalid
          "已提交副作用的结果合同无效")
      | some draft => .ok draft

/-- The loop over the receipts. -/
def reuseDraft (snapshot : RuntimeSnapshot) :
    List EffectReceipt → Option (Json Rat) → Except CheckError (Option (Json Rat))
  | [], reusedDraft => .ok reusedDraft
  | receipt :: receipts, reusedDraft =>
    match receipt.state with
    | .committed result =>
      match committedDraft env reader db snapshot result with
      | .error error => .error error
      | .ok draft =>
        if reusedDraft.any fun other => env.payloadText other ≠ env.payloadText draft then
          .error (buildEffectResultRecoveryDenial snapshot .effectResultInvalid
            "恢复事实包含冲突的 Decision 草稿结果")
        else reuseDraft snapshot receipts (some draft)
    | _ => reuseDraft snapshot receipts reusedDraft

def loadEnvelope (snapshot : RuntimeSnapshot) : Except CheckError RecoveryEnvelope :=
  match loadRawSnapshot env snapshot.rawSnapshot db with
  | .error error => .error (.persistence error)
  | .ok none => .error (invalidSnapshot "Runtime 原始快照不可用")
  | .ok (some text) =>
    match parseCoreMindRecoveryEnvelopeV1 parseRunSnapshot (reader.read text) with
    | none =>
      if isUnsupported (reader.read text) then
        .error (.denied
          ⟨.runtimeProtocolUnsupported, "Runtime Snapshot Protocol 版本不受支持", none⟩)
      else .error (invalidSnapshot "Runtime 原始快照未通过 Protocol v1 校验")
    | some envelope =>
      if env.sha256 (env.payloadText envelope.toJson) ≠ snapshot.rawSnapshot.digest then
        .error (invalidSnapshot "Runtime 原始快照 SHA-256 不一致")
      else .ok envelope

/-- `resume` with a recovery store, up to the claim of the run -/
def checkResume (command : RunCommand) (snapshot : RuntimeSnapshot) :
    Except CheckError (RecoveryEnvelope × Option (Json Rat)) :=
  match loadRecoveryFacts env snapshot.snapshotId db with
  | .error error => .error (.persistence error)
  | .ok none => .error (invalidSnapshot "调用参数与权威 Runtime 恢复事实不一致")
  | .ok (some (authoritative, effectReceipts)) =>
    if authoritative ≠ snapshot ∨ authoritative.decisionTaskId ≠ command.decisionTaskId ∨
        authoritative.agentRunId ≠ command.agentRunId then
      .error (invalidSnapshot "调用参数与权威 Runtime 恢复事实不一致")
    else
      let permission := evaluateRuntimeRecoveryPermissionV1 authoritative effectReceipts
      if permission.decision ≠ .resumeAllowed then .error (permissionDenial permission)
      else match reuseDraft env reader db authoritative effectReceipts none with
        | .error error => .error error
        | .ok reusedDraft =>
          match loadEnvelope env reader parseRunSnapshot db authoritative with
          | .error error => .error error
          | .ok envelope => .ok (envelope, reusedDraft)

end Checks

/-! ### The journal of a run -/

/-- The records of one run, numbered from `index + 1` on. -/
def Numbered (runId : String) : Nat → List RunState → Prop
  | _, [] => True
  | index, record :: records =>
    record.runId = runId ∧ record.sequence = index + 1 ∧ Numbered runId (index + 1) records

attribute [grind =] Numbered

section Journal
variable {runId : String} {index : Nat} {record : RunState} {records : List RunState}
  {runStore : RunStore}

theorem numbered_concat : Numbered runId index (records ++ [record]) ↔
    Numbered runId index records ∧ record.runId = runId ∧
      record.sequence = index + records.length + 1 := by
  induction records generalizing index with
  | nil => simp [Numbered]
  | cons first records ih =>
    rw [List.cons_append, Numbered, Numbered, ih, List.length_cons]
    have hlength : index + 1 + records.length + 1 = index + (records.length + 1) + 1 := by omega
    rw [hlength, and_assoc, and_assoc]

/-- The last record has the number of all of them. -/
theorem Numbered.last (h : Numbered runId 0 records) :
    (records.getLast?.map RunState.sequence).getD 0 = records.length := by
  rcases List.eq_nil_or_concat records with rfl | ⟨front, record, rfl⟩
  · rfl
  · rw [List.concat_eq_append] at h ⊢
    rw [numbered_concat] at h
    rw [List.getLast?_concat, Option.map_some, Option.getD_some, h.2.2, List.length_append,
      List.length_singleton]
    omega

/-- Every run of the store has numbered records, of which `P` holds. -/
structure RunStore.Sound (P : Json Rat → Prop) (runStore : RunStore) : Prop where
  numbered : ∀ runId, Numbered runId 0 (runStore.read runId)
  values : ∀ runId, ∀ record ∈ runStore.read runId, P record.value

namespace RunStore
variable {P : Json Rat → Prop}

theorem read_push (runStore : RunStore) (record : RunState) (runId : String) :
    (runStore.push record).read runId =
      if runId = record.runId then runStore.read runId ++ [record]
      else runStore.read runId := by
  unfold push
  rw [read, OrderedMap.lookup_set]
  by_cases hrun : runId = record.runId
  · rw [if_pos hrun, if_pos hrun, hrun, Option.getD_some]
  · rw [if_neg hrun, if_neg hrun, read]

theorem Sound.push (h : runStore.Sound P) (hvalue : P record.value)
    (hsequence : record.sequence = (runStore.read record.runId).length + 1) :
    (runStore.push record).Sound P := by
  constructor
  · intro runId
    rw [read_push]
    by_cases hrun : runId = record.runId
    · rw [if_pos hrun, numbered_concat, hrun]
      refine ⟨h.numbered record.runId, rfl, ?_⟩
      rw [hsequence, Nat.zero_add]
    · rw [if_neg hrun]
      exact h.numbered runId
  · intro runId
    rw [read_push]
    by_cases hrun : runId = record.runId
    · rw [if_pos hrun]
      intro other hother
      rcases List.mem_append.mp hother with hold | hnew
      · exact h.values runId other hold
      · rw [List.mem_singleton.mp hnew]
        exact hvalue
    · rw [if_neg hrun]
      exact h.values runId

theorem sound_nil : Sound P [] where
  numbered := fun _ => trivial
  values := fun _ _ hrecord => absurd hrecord List.not_mem_nil

/-- Numbered records of one run are restored one after another. -/
theorem Sound.foldl_push (h : runStore.Sound P)
    (hnumbered : Numbered runId (runStore.read runId).length records)
    (hvalues : ∀ record ∈ records, P record.value) :
    (records.foldl RunStore.push runStore).Sound P := by
  induction records generalizing runStore with
  | nil => exact h
  | cons record records ih =>
    obtain ⟨hrun, hsequence, hrest⟩ := hnumbered
    rw [List.foldl_cons]
    apply ih
    · apply h.push (hvalues record List.mem_cons_self)
      rw [hrun]
      exact hsequence
    · rw [read_push, if_pos hrun.symm, List.length_append, List.length_singleton]
      exact hrest
    · intro other hother
      exact hvalues other (List.mem_cons_of_mem _ hother)

theorem Sound.append (h : runStore.Sound P) (hvalue : P record.value) :
    (runStore.append record).Sound P := by
  unfold RunStore.append
  dsimp only
  split
  · exact h
  · rw [(h.numbered record.runId).last]
    split
    · exact h
    · rename_i hsequence
      exact h.push hvalue (not_not.mp hsequence)

theorem Sound.foldl_append (h : runStore.Sound P) (hvalues : ∀ record ∈ records, P record.value) :
    (records.foldl RunStore.append runStore).Sound P := by
  induction records generalizing runStore with
  | nil => exact h
  | cons record records ih =>
    rw [List.foldl_cons]
    apply ih
    · exact h.append (hvalues record List.mem_cons_self)
    · intro other hother
      exact hvalues other (List.mem_cons_of_mem _ hother)

end RunStore

end Journal

/-! ### Values that are read again -/

section Values
variable {value j k : Json Rat} {runId : String} {sequence : Nat}

theorem isDecisionDraft_same (h : j.Same k) (hj : j.Distinct) (hk : k.Distinct) :
    isDecisionDraft j = isDecisionDraft k := by
  have hkeys : ∀ p : String → Bool, j.keys.all p = k.keys.all p := by
    intro p
    rw [Bool.eq_iff_iff, List.all_eq_true, List.all_eq_true]
    constructor
    · intro hall key hkey
      exact hall key ((h.mem_keys hj).mpr hkey)
    · intro hall key hkey
      exact hall key ((h.mem_keys hj).mp hkey)
  have harrays : ∀ key, ((j.member key).any fun items => items.items?.isSome) =
      (k.member key).any fun items => items.items?.isSome :=
    h.any_member (fun hsame => hsame.isSome_items?) hj hk
  unfold isDecisionDraft
  rw [h.isObject, hkeys, funext harrays, h.any_member (fun hsame => hsame.isObject) hj hk]

theorem isRunState_same (h : j.Same k) (hj : j.Distinct) (hk : k.Distinct) :
    isRunState runId sequence j = isRunState runId sequence k := by
  have htext : ∀ key, (j.member key).bind Json.text? = (k.member key).bind Json.text? :=
    h.bind_member (fun hsame => hsame.text?) hj hk
  have hnumber : ∀ key, (j.member key).bind Json.number? = (k.member key).bind Json.number? :=
    h.bind_member (fun hsame => hsame.number?) hj hk
  unfold isRunState
  rw [hnumber, hnumber, htext, htext, htext]

def effectResultJson (draft : Json Rat) : Json Rat :=
  .object
    [("effectResultType", .string "choicemind-decision-draft"), ("effectResultVersion", .number 1),
     ("tool", .string "submit_decision_draft"), ("draft", draft)]

theorem effectResultText_eq (env : Environment) (draft : Json Rat) :
    effectResultText env draft = env.payloadText (effectResultJson draft) := rfl

theorem distinct_effectResultJson {draft : Json Rat} (h : draft.Distinct) :
    (effectResultJson draft).Distinct := by
  simp [effectResultJson, Json.Distinct, Json.DistinctFields, h]

/-- The draft of an effect result is decoded. -/
theorem exists_decodeCoreMindEffectResult {draft : Json Rat}
    (h : value.Same (effectResultJson draft)) (hvalue : value.Distinct) (hdraft : draft.Distinct)
    (hvalid : isDecisionDraft draft = true) :
    ∃ decoded, decodeCoreMindEffectResult value = some decoded ∧ decoded.Same draft := by
  have hjson := distinct_effectResultJson hdraft
  have htext : ∀ key, (value.member key).bind Json.text? =
      ((effectResultJson draft).member key).bind Json.text? :=
    h.bind_member (fun hsame => hsame.text?) hvalue hjson
  have hversion : (value.member "effectResultVersion").bind Json.number? =
      ((effectResultJson draft).member "effectResultVersion").bind Json.number? :=
    h.bind_member (fun hsame => hsame.number?) hvalue hjson _
  have hmember : (effectResultJson draft).member "draft" = some draft := rfl
  obtain ⟨decoded, hfound, hsame, hdistinct⟩ := h.exists_member hvalue hjson hmember
  refine ⟨decoded, ?_, hsame⟩
  unfold decodeCoreMindEffectResult
  rw [if_pos ⟨(htext _).trans rfl, hversion.trans rfl, (htext _).trans rfl⟩, hfound,
    Option.filter_some, if_pos]
  rw [isDecisionDraft_same hsame hdistinct hdraft]
  exact hvalid

theorem decodeCoreMindEffectResult_valid {decoded : Json Rat} (hvalue : value.Distinct)
    (h : decodeCoreMindEffectResult value = some decoded) :
    isDecisionDraft decoded = true ∧ decoded.Distinct := by
  unfold decodeCoreMindEffectResult at h
  split at h
  · rw [Option.filter_eq_some_iff] at h
    exact ⟨h.2, hvalue.member h.1⟩
  · cases h

end Values

/-! ### Envelopes that are parsed again -/

section Envelopes
variable {parseRunSnapshot : Json Rat → Option NativeSnapshot} {value native : Json Rat}
  {values : List (Json Rat)} {runId : String} {index : Nat} {records : List RunState}
  {nativeSnapshot : NativeSnapshot} {envelope : RecoveryEnvelope}

/-- What the adapter relies on: the contents of a parsed snapshot are a snapshot of the same run. -/
def Reparses (parseRunSnapshot : Json Rat → Option NativeSnapshot)
    (nativeSnapshot : NativeSnapshot) : Prop :=
  ∀ value : Json Rat, value.Distinct → value.Same nativeSnapshot.value →
    ∃ again, parseRunSnapshot value = some again ∧ again.runId = nativeSnapshot.runId ∧
      again.value.Same nativeSnapshot.value ∧ again.value.Distinct

theorem exists_parseRunStates
    (hsame : List.Forall₂ Json.Same values (records.map RunState.value))
    (hvalues : ∀ value ∈ values, value.Distinct)
    (hrecords : ∀ record ∈ records, record.value.Distinct)
    (hnumbered : Numbered runId index records) :
    ∃ parsed, parseRunStates runId index values = some parsed ∧
      parsed.map RunState.value = values := by
  induction records generalizing index values with
  | nil =>
    cases hsame
    exact ⟨[], rfl, rfl⟩
  | cons record records ih =>
    rw [List.map_cons, List.forall₂_cons_right_iff] at hsame
    obtain ⟨value, rest, hhead, htail, rfl⟩ := hsame
    obtain ⟨hrun, hsequence, hrest⟩ := hnumbered
    rw [List.forall_mem_cons] at hvalues hrecords
    have htyped : isRunState runId (index + 1) value = true := by
      rw [isRunState_same hhead hvalues.1 hrecords.1, ← hrun, ← hsequence]
      exact record.typed
    obtain ⟨parsed, hparsed, hmap⟩ := ih htail hvalues.2 hrecords.2 hrest
    refine ⟨⟨value, runId, index + 1, htyped⟩ :: parsed, ?_, ?_⟩
    · rw [parseRunStates, dif_pos htyped, hparsed, Option.map_some]
    · rw [List.map_cons, hmap]

theorem parseRunStates_numbered {parsed : List RunState}
    (h : parseRunStates runId index values = some parsed) :
    Numbered runId index parsed ∧ parsed.map RunState.value = values := by
  induction values generalizing index parsed with
  | nil =>
    cases h
    exact ⟨trivial, rfl⟩
  | cons value values ih =>
    rw [parseRunStates] at h
    split at h
    · rename_i htyped
      rw [Option.map_eq_some_iff] at h
      obtain ⟨rest, hrest, rfl⟩ := h
      obtain ⟨hnumbered, hmap⟩ := ih hrest
      refine ⟨⟨rfl, rfl, hnumbered⟩, ?_⟩
      rw [List.map_cons, hmap]
    · cases h

theorem distinct_envelopeJson (hnative : native.Distinct)
    (hvalues : ∀ value ∈ values, value.Distinct) : (envelopeJson native values).Distinct := by
  have hitems : Json.DistinctItems values := Json.distinctItems_iff.mpr hvalues
  simp [envelopeJson, Json.Distinct, Json.DistinctFields, hnative, hitems]

/-- The envelope of a pause is parsed from every value of its contents, and it has them again. -/
theorem exists_parseCoreMindRecoveryEnvelopeV1
    (h : value.Same (envelopeJson nativeSnapshot.value (records.map RunState.value)))
    (hvalue : value.Distinct) (hnative : nativeSnapshot.value.Distinct)
    (hrecords : ∀ record ∈ records, record.value.Distinct)
    (hnumbered : Numbered nativeSnapshot.runId 0 records) (hnonempty : records ≠ [])
    (hreparses : Reparses parseRunSnapshot nativeSnapshot) :
    ∃ envelope, parseCoreMindRecoveryEnvelopeV1 parseRunSnapshot value = some envelope ∧
      envelope.toJson.Distinct ∧
      envelope.toJson.Same (envelopeJson nativeSnapshot.value (records.map RunState.value)) := by
  have hjson : (envelopeJson nativeSnapshot.value (records.map RunState.value)).Distinct := by
    apply distinct_envelopeJson hnative
    intro item hitem
    obtain ⟨record, hrecord, rfl⟩ := List.mem_map.mp hitem
    exact hrecords record hrecord
  have htype : (value.member "envelopeType").bind Json.text? =
      some "coremind-runtime-recovery" :=
    h.bind_member (fun hsame => hsame.text?) hvalue hjson _
  have hversion : (value.member "envelopeVersion").bind Json.number? = some 1 :=
    h.bind_member (fun hsame => hsame.number?) hvalue hjson _
  have hnativeMember : (envelopeJson nativeSnapshot.value
      (records.map RunState.value)).member "nativeSnapshot" = some nativeSnapshot.value := rfl
  have hrecordsMember : (envelopeJson nativeSnapshot.value
      (records.map RunState.value)).member "runStateRecords" =
        some (.array (records.map RunState.value)) := rfl
  obtain ⟨read, hfound, hreadSame, hreadDistinct⟩ :=
    h.exists_member hvalue hjson hnativeMember
  obtain ⟨again, hagain, hrun, hagainSame, hagainDistinct⟩ :=
    hreparses read hreadDistinct hreadSame
  obtain ⟨journal, hjournal, hjournalSame, hjournalDistinct⟩ :=
    h.exists_member hvalue hjson hrecordsMember
  obtain ⟨items, hitems, hitemsSame⟩ := hjournalSame.exists_items
  have hdistinct := hjournalDistinct.items hitems
  rw [← hrun] at hnumbered
  obtain ⟨parsed, hparsed, hmap⟩ :=
    exists_parseRunStates hitemsSame hdistinct hrecords hnumbered
  cases parsed with
  | nil =>
    rw [List.map_nil] at hmap
    rw [← hmap, List.forall₂_nil_left_iff, List.map_eq_nil_iff] at hitemsSame
    exact absurd hitemsSame hnonempty
  | cons first rest =>
    refine ⟨⟨again, first :: rest⟩, ?_, ?_, ?_⟩
    · unfold parseCoreMindRecoveryEnvelopeV1
      rw [if_pos ⟨htype, hversion⟩, hfound, hjournal, Option.bind_some, Option.bind_some, hagain,
        hitems]
      dsimp only
      rw [hparsed]
    · unfold RecoveryEnvelope.toJson
      rw [hmap]
      exact distinct_envelopeJson hagainDistinct hdistinct
    · unfold RecoveryEnvelope.toJson
      rw [hmap]
      have hsameItems := Json.sameItems_iff.mpr hitemsSame
      simp [envelopeJson, hagainSame, hsameItems]

/-- The journal of a parsed envelope continues as the one of its run. -/
theorem parseCoreMindRecoveryEnvelopeV1_numbered (hvalue : value.Distinct)
    (h : parseCoreMindRecoveryEnvelopeV1 parseRunSnapshot value = some envelope) :
    Numbered envelope.nativeSnapshot.runId 0 envelope.runStateRecords ∧
      ∀ record ∈ envelope.runStateRecords, record.value.Distinct := by
  unfold parseCoreMindRecoveryEnvelopeV1 at h
  split at h
  · split at h
    · rename_i nativeSnapshot items hnative hitems
      split at h
      · cases h
      · cases h
      · rename_i parsed hparsed
        cases h
        obtain ⟨hnumbered, hmap⟩ := parseRunStates_numbered hparsed
        refine ⟨hnumbered, ?_⟩
        intro record hrecord
        obtain ⟨journal, hjournal, hread⟩ := Option.bind_eq_some_iff.mp hitems
        apply (hvalue.member hjournal).items hread
        rw [← hmap]
        exact List.mem_map_of_mem hrecord
    · cases h
  · cases h

end Envelopes

/-! ### Executions -/

section Executions
variable {env : Environment} {reader : JsonReader}
  {parseRunSnapshot : Json Rat → Option NativeSnapshot} {db : Store}
  {snapshot : RuntimeSnapshot} {accepted : RecoveryEnvelope × Option (Json Rat)}
  {resumed : Option (RecoveryEnvelope × Option (Json Rat))} {pause : Pause}

/-- The execution of a pause, started afresh or with what a check has accepted: its journal is
what CoreMind has appended, and its capture what the tool has been called with. -/
structure Executed (parseRunSnapshot : Json Rat → Option NativeSnapshot)
    (resumed : Option (RecoveryEnvelope × Option (Json Rat))) (pause : Pause) : Prop where
  journal : ∃ appended : List RunState, (∀ record ∈ appended, record.value.Distinct) ∧
    pause.execution.runStateRecords.map RunStateRecord.value =
      ((appended.foldl RunStore.append
        (RunStore.create (resumed.elim [] fun accepted => accepted.1.runStateRecords))).read
          pause.nativeSnapshot.runId).map RunState.value
  capture : ∃ submitted : List (Json Rat), (∀ args ∈ submitted, args.Distinct) ∧
    pause.execution.capture =
      submitted.foldl submitDecisionDraft (startCapture (resumed.bind Prod.snd))
  native : pause.nativeSnapshot.value.Distinct
  reparses : Reparses parseRunSnapshot pause.nativeSnapshot

def Accepted (accepted : RecoveryEnvelope × Option (Json Rat)) : Prop :=
  Numbered accepted.1.nativeSnapshot.runId 0 accepted.1.runStateRecords ∧
    (∀ record ∈ accepted.1.runStateRecords, record.value.Distinct) ∧
      ∀ draft ∈ accepted.2, isDecisionDraft draft = true ∧ draft.Distinct

theorem committedDraft_valid {result : EffectResultRef} {draft : Json Rat}
    (h : committedDraft env reader db snapshot result = .ok draft) :
    isDecisionDraft draft = true ∧ draft.Distinct := by
  unfold committedDraft at h
  split at h
  · cases h
  · cases h
  · cases h
  · split at h
    · cases h
    · split at h
      · cases h
      · rename_i hdecoded
        cases h
        exact decodeCoreMindEffectResult_valid (reader.distinct _) hdecoded

theorem reuseDraft_valid {receipts : List EffectReceipt} {reused draft : Option (Json Rat)}
    (h : reuseDraft env reader db snapshot receipts reused = .ok draft)
    (hreused : ∀ own ∈ reused, isDecisionDraft own = true ∧ own.Distinct) :
    ∀ own ∈ draft, isDecisionDraft own = true ∧ own.Distinct := by
  induction receipts generalizing reused with
  | nil =>
    cases h
    exact hreused
  | cons receipt receipts ih =>
    rw [reuseDraft] at h
    split at h
    · split at h
      · cases h
      · rename_i hcommitted
        split at h
        · cases h
        · apply ih h
          intro own hown
          cases hown
          exact committedDraft_valid hcommitted
    · exact ih h hreused

theorem loadEnvelope_numbered {envelope : RecoveryEnvelope}
    (h : loadEnvelope env reader parseRunSnapshot db snapshot = .ok envelope) :
    Numbered envelope.nativeSnapshot.runId 0 envelope.runStateRecords ∧
      ∀ record ∈ envelope.runStateRecords, record.value.Distinct := by
  unfold loadEnvelope at h
  split at h
  · cases h
  · cases h
  split at h
  · split at h
    · cases h
    · cases h
  · rename_i hparsed
    split at h
    · cases h
    · cases h
      exact parseCoreMindRecoveryEnvelopeV1_numbered (reader.distinct _) hparsed

/-- What a check accepts can be continued. -/
theorem accepted_of_checkResume {command : RunCommand}
    (h : checkResume env reader parseRunSnapshot db command snapshot = .ok accepted) :
    Accepted accepted := by
  unfold checkResume at h
  split at h
  · cases h
  · cases h
  split at h
  · cases h
  dsimp only at h
  split at h
  · cases h
  split at h
  · cases h
  rename_i reused hreused
  split at h
  · cases h
  rename_i envelope hloaded
  cases h
  obtain ⟨hnumbered, hdistinct⟩ := loadEnvelope_numbered hloaded
  refine ⟨hnumbered, hdistinct, reuseDraft_valid hreused ?_⟩
  intro own hnone
  cases hnone

theorem startCapture_draft (reused : Option (Json Rat)) : (startCapture reused).draft = reused := by
  cases reused with
  | none => rfl
  | some draft => rfl

/-- The tool captures only what it has checked. -/
theorem captured_valid {submitted : List (Json Rat)} {capture : DraftCapture}
    (hcapture : ∀ draft ∈ capture.draft, isDecisionDraft draft = true ∧ draft.Distinct)
    (hsubmitted : ∀ args ∈ submitted, args.Distinct) :
    ∀ draft ∈ (submitted.foldl submitDecisionDraft capture).draft,
      isDecisionDraft draft = true ∧ draft.Distinct := by
  induction submitted generalizing capture with
  | nil => exact hcapture
  | cons args submitted ih =>
    rw [List.forall_mem_cons] at hsubmitted
    rw [List.foldl_cons]
    apply ih ?_ hsubmitted.2
    unfold submitDecisionDraft
    split
    · exact hcapture
    · split
      · rename_i hvalid
        intro draft hdraft
        cases hdraft
        exact ⟨hvalid, hsubmitted.1⟩
      · exact hcapture

namespace Executed

theorem draft_valid (h : Executed parseRunSnapshot resumed pause)
    (hresumed : ∀ accepted ∈ resumed, Accepted accepted) :
    ∀ draft ∈ pause.execution.capture.draft, isDecisionDraft draft = true ∧ draft.Distinct := by
  obtain ⟨submitted, hsubmitted, hcapture⟩ := h.capture
  rw [hcapture]
  apply captured_valid ?_ hsubmitted
  rw [startCapture_draft]
  intro draft hdraft
  obtain ⟨accepted, haccepted, hreused⟩ := Option.bind_eq_some_iff.mp hdraft
  exact (hresumed accepted haccepted).2.2 draft hreused

/-- The journal of a pause is numbered, however often its run was resumed. -/
theorem exists_records (h : Executed parseRunSnapshot resumed pause)
    (hresumed : ∀ accepted ∈ resumed, Accepted accepted) :
    ∃ records : List RunState, Numbered pause.nativeSnapshot.runId 0 records ∧
      (∀ record ∈ records, record.value.Distinct) ∧
      pause.execution.runStateRecords.map RunStateRecord.value = records.map RunState.value := by
  obtain ⟨appended, happended, hrecords⟩ := h.journal
  have hcreated : (RunStore.create
      (resumed.elim [] fun accepted => accepted.1.runStateRecords)).Sound Json.Distinct := by
    cases resumed with
    | none => exact RunStore.sound_nil
    | some accepted =>
      obtain ⟨hnumbered, hdistinct, -⟩ := hresumed accepted rfl
      exact RunStore.sound_nil.foldl_push hnumbered hdistinct
  have hsound := hcreated.foldl_append happended
  exact ⟨_, hsound.numbered _, hsound.values _, hrecords⟩

end Executed

end Executions

/-! ### What the store holds -/

section Stored
variable {env : Environment} {db db₁ db₂ : Store} {now : Instant} {pause : Pause}

/-- No other text has the digest of this one. -/
def Unshared (env : Environment) (text : String) : Prop :=
  ∀ other, env.sha256 other = env.sha256 text → other = text

/-- The facts of a pause with the contents that they refer to. -/
structure Holds (env : Environment) (pause : Pause) (db : Store) : Prop where
  kept : FactsKept (pause.snapshot env) (pause.receipts env) db
  raw : loadRawSnapshot env (pause.snapshot env).rawSnapshot db =
    .ok (some (pause.envelope env))
  results : ∀ receipt ∈ pause.receipts env, ∀ result, receipt.state = .committed result →
    ∃ draft ∈ pause.execution.capture.draft,
      result.digest = env.sha256 (effectResultText env draft) ∧
        loadEffectResult env result db = .ok (some (effectResultText env draft))

/-- A receipt is committed only with the draft that was captured. -/
theorem committed_receipt {receipt : EffectReceipt} (h : receipt ∈ pause.receipts env)
    {result : EffectResultRef} (hstate : receipt.state = .committed result) :
    ∃ draft ∈ pause.execution.capture.draft, ∃ effectId,
      result = ⟨env.sha256 (effectResultText env draft),
        effectResultObjectKey (env.sha256 (effectResultText env draft)),
        pause.active.decisionTaskId, pause.active.agentRunId, pause.checkpoint.checkpointId,
        effectId⟩ := by
  obtain ⟨effect, -, rfl⟩ := List.mem_map.mp h
  change recordedState env _ _ _ effect.2 = _ at hstate
  unfold recordedState at hstate
  split at hstate
  · cases hstate
  · cases hstate
  · cases hstate
  · cases hstate
  · rename_i draft _ hcaptured
    split at hstate
    · cases hstate
      exact ⟨draft, hcaptured, _, rfl⟩
    · cases hstate

theorem insertReceipts_bound {snapshotId : String} {receipts : List EffectReceipt} {db' : Store}
    (h : insertReceipts snapshotId now receipts db = .ok db') :
    ∀ receipt ∈ receipts, db.resultBound receipt = true := by
  induction receipts generalizing db with
  | nil => exact fun _ hreceipt => absurd hreceipt List.not_mem_nil
  | cons receipt receipts ih =>
    rw [insertReceipts] at h
    split at h
    · cases h
    · rename_i hbound
      rw [Bool.not_eq_true', Bool.not_eq_false] at hbound
      rw [List.forall_mem_cons]
      split at h
      · exact ⟨hbound, ih h⟩
      · rw [bind_eq_ok] at h
        obtain ⟨rows, -, h⟩ := h
        have hrest := ih h
        exact ⟨hbound, hrest⟩

/-- The effect results that a saved pause refers to. -/
theorem exists_bound (hsound : ContentsSound env db₁)
    (hsave : saveRecoveryFacts env (pause.snapshot env) (pause.receipts env) now db = .ok db₁)
    {receipt : EffectReceipt} (hreceipt : receipt ∈ pause.receipts env) {result : EffectResultRef}
    (hstate : receipt.state = .committed result) :
    ∃ binding object, Bound binding object db₁ ∧ binding.identity = bindingIdentity result ∧
      binding.digest = result.digest ∧ binding.objectKey = result.objectKey ∧
      object.objectKey = binding.objectKey ∧ env.sha256 object.payload = result.digest := by
  obtain ⟨-, -, facts, -, db', hinserted, -, -⟩ := saveRecoveryFacts_eq_ok.mp hsave
  have hbound := insertReceipts_bound hinserted receipt hreceipt
  rw [Store.resultBound, hstate] at hbound
  change db.hasBinding result = true at hbound
  rw [Store.hasBinding, Option.any_eq_true] at hbound
  obtain ⟨binding, hfound, hsame⟩ := hbound
  rw [Bool.and_eq_true, decide_eq_true_eq, decide_eq_true_eq] at hsame
  obtain ⟨hmem, hidentity⟩ := Table.find?_eq_some.mp hfound
  have hkept : binding ∈ db₁.effectResultBindings := by
    obtain ⟨-, -, _, _, _, rfl, -⟩ := saveRecoveryFacts_ok hsave
    exact hmem
  obtain ⟨object, hobject, hdigest, hkey⟩ := hsound.bindings binding hkept
  refine ⟨binding, object, ⟨hkept, hobject, hdigest⟩, hidentity, hsame.1, hsame.2, hkey, ?_⟩
  rw [← hsound.results.digest object hobject, hdigest, hsame.1]

/-- Saved facts are held until their run is purged. -/
theorem holds_of_run (hformat : ∀ text, isSha256Digest (env.sha256 text) = true)
    {es fs : List (Entry Store (Instant × Action) TaskPersistence.Reply)}
    (hrun : Run (TaskPersistence.step env) Store.empty es db)
    (hsave : TaskPersistence.step env db
      (now, .saveRecoveryFacts (pause.snapshot env) (pause.receipts env)) = some (.done, db₁))
    (hlater : Run (TaskPersistence.step env) db₁ fs db₂)
    (hspares : Guarded (Spares pause.active.agentRunId) fs)
    (hown : Guarded (SavesOwn (pause.snapshot env) (pause.receipts env)) fs)
    (henvelope : Unshared env (pause.envelope env))
    (hdrafts : ∀ draft ∈ pause.execution.capture.draft,
      Unshared env (effectResultText env draft)) : Holds env pause db₂ := by
  have hrun₁ := hrun.append (.single hsave)
  have hregistered := registered_of_run hrun₁
  have hsound := contentsSound_of_run hrun₁
  have hsaved := step_save_ok.mp hsave
  have hkept := factsKept_of_save hsaved
  refine ⟨hkept.run hregistered hlater hspares hown, ?_, ?_⟩
  · obtain ⟨fact, hfact, hsnapshot⟩ := hkept.fact
    obtain ⟨object, hobject, hdigest⟩ := hsound.facts fact hfact
    have hguard : Guarded (Spares fact.agentRunId) fs := by
      rw [RecoveryFact.agentRunId, hsnapshot]
      exact hspares
    have hcaptured : Captured fact object db₂ :=
      Captured.run ⟨hfact, hobject, hdigest⟩ hregistered hlater hguard
    rw [RecoveryFact.rawSnapshotDigest, hsnapshot] at hdigest
    have hpayload : object.payload = pause.envelope env :=
      henvelope _ ((hsound.snapshots.digest object hobject).symm.trans hdigest)
    have hkey := hsound.snapshots.keyed object hobject
    rw [hdigest] at hkey
    have hloaded := loadRawSnapshot_of_captured hcaptured.stored hdigest hkey
      (by rw [hpayload]; rfl) (hformat (pause.envelope env))
    rw [hpayload] at hloaded
    exact hloaded
  · intro receipt hreceipt result hstate
    obtain ⟨draft, hdraft, effectId, hresult⟩ := committed_receipt hreceipt hstate
    obtain ⟨binding, object, hbound, hidentity, hdigest, hkey, hobject, hhash⟩ :=
      exists_bound hsound hsaved hreceipt hstate
    have hrunId : binding.identity.agentRunId = pause.active.agentRunId := by
      rw [hidentity, hresult]
      rfl
    have hlast : Bound binding object db₂ := hbound.run hregistered hlater (hrunId ▸ hspares)
    have hsha : result.digest = env.sha256 (effectResultText env draft) := by rw [hresult]
    have hreference : result.objectKey = effectResultObjectKey result.digest := by rw [hresult]
    have hpayload : object.payload = effectResultText env draft :=
      hdrafts draft hdraft _ (hhash.trans hsha)
    refine ⟨draft, hdraft, hsha, ?_⟩
    rw [loadEffectResult_of_bound hlast hidentity hdigest (hkey.trans hreference) hobject hreference
      hhash (hsha ▸ hformat _), hpayload]

end Stored

/-! ### The checks of saved facts -/

section Resume
variable {env : Environment} {reader : JsonReader}
  {parseRunSnapshot : Json Rat → Option NativeSnapshot} {db : Store} {snapshot : RuntimeSnapshot}
  {receipts : List EffectReceipt} {pause : Pause}
  {resumed : Option (RecoveryEnvelope × Option (Json Rat))}

/-- The text of a value is read as a value of the same contents. -/
structure ReadsBack (env : Environment) (reader : JsonReader) (value : Json Rat) : Prop where
  same : (reader.read (env.payloadText value)).Same value

def pauseJson (pause : Pause) : Json Rat :=
  envelopeJson pause.nativeSnapshot.value
    (pause.execution.runStateRecords.map RunStateRecord.value)

theorem envelope_eq (env : Environment) (pause : Pause) :
    pause.envelope env = env.payloadText (pauseJson pause) := rfl

def isCommitted (receipt : EffectReceipt) : Bool :=
  match receipt.state with
  | .committed _ => true
  | _ => false

/-- The order of the receipts does not matter. -/
theorem evaluate_congr {others : List EffectReceipt} (h : ∀ receipt, receipt ∈ receipts ↔
    receipt ∈ others) : evaluateRuntimeRecoveryPermissionV1 snapshot receipts =
      evaluateRuntimeRecoveryPermissionV1 snapshot others := by
  have hany : ∀ p : EffectReceipt → Bool, receipts.any p = others.any p := by
    intro p
    rw [Bool.eq_iff_iff, List.any_eq_true, List.any_eq_true]
    exact exists_congr fun receipt => and_congr_left fun _ => h receipt
  unfold evaluateRuntimeRecoveryPermissionV1
  rw [hany, hany, hany]

theorem reuseDraft_eq {decoded : Json Rat} {reused : Option (Json Rat)}
    (hall : ∀ receipt ∈ receipts, ∀ result, receipt.state = .committed result →
      committedDraft env reader db snapshot result = .ok decoded)
    (hreused : ∀ draft ∈ reused, draft = decoded) :
    reuseDraft env reader db snapshot receipts reused =
      .ok (if receipts.any isCommitted then some decoded else reused) := by
  induction receipts generalizing reused with
  | nil => rfl
  | cons receipt receipts ih =>
    rw [List.forall_mem_cons] at hall
    rw [reuseDraft, List.any_cons]
    split
    · rename_i result hstate
      have hcommitted : isCommitted receipt = true := by
        unfold isCommitted
        rw [hstate]
      have hsame : (reused.any fun other =>
          env.payloadText other ≠ env.payloadText decoded) = false := by
        cases reused with
        | none => rfl
        | some draft => simp [hreused draft rfl]
      rw [hall.1 result hstate]
      dsimp only
      rw [hsame, if_neg Bool.false_ne_true, ih hall.2 fun _ hdraft => (Option.some.inj hdraft).symm,
        hcommitted, Bool.true_or, if_pos rfl, ite_self]
    · rename_i hstate
      have hother : isCommitted receipt = false := by
        unfold isCommitted
        split
        · rename_i result hcommitted
          exact absurd hcommitted (hstate result)
        · rfl
      rw [ih hall.2 hreused, hother, Bool.false_or]

namespace Holds

/-- Every committed receipt gives the draft that was captured. -/
theorem committedDraft_eq (h : Holds env pause db) {draft : Json Rat}
    (hdraft : pause.execution.capture.draft = some draft) (hvalid : isDecisionDraft draft = true)
    (hdistinct : draft.Distinct) (hreads : ReadsBack env reader (effectResultJson draft)) :
    ∃ decoded : Json Rat, decoded.Same draft ∧ ∀ receipt ∈ pause.receipts env, ∀ result,
      receipt.state = .committed result →
        committedDraft env reader db (pause.snapshot env) result = .ok decoded := by
  have hread := reader.distinct (env.payloadText (effectResultJson draft))
  obtain ⟨decoded, hdecoded, hsame⟩ :=
    exists_decodeCoreMindEffectResult hreads.same hread hdistinct hvalid
  refine ⟨decoded, hsame, ?_⟩
  intro receipt hreceipt result hstate
  obtain ⟨other, hother, hdigest, hloaded⟩ := h.results receipt hreceipt result hstate
  rw [hdraft] at hother
  cases hother
  have htext : env.payloadText (reader.read (env.payloadText (effectResultJson draft))) =
      env.payloadText (effectResultJson draft) :=
    (canonicalize_eq_iff hread (distinct_effectResultJson hdistinct)).mpr hreads.same
  rw [effectResultText_eq] at hdigest hloaded
  unfold committedDraft
  rw [hloaded]
  dsimp only
  rw [htext, if_neg (not_not.mpr hdigest.symm), hdecoded]

theorem exists_reuseDraft (h : Holds env pause db)
    (hvalid : ∀ draft ∈ pause.execution.capture.draft,
      isDecisionDraft draft = true ∧ draft.Distinct)
    (hreads : ∀ draft ∈ pause.execution.capture.draft,
      ReadsBack env reader (effectResultJson draft)) :
    ∃ reused, reuseDraft env reader db (pause.snapshot env)
        (db.receiptsOf env (pause.snapshot env).snapshotId) none = .ok reused ∧
      (reused.isSome = (pause.receipts env).any isCommitted) ∧
      ∀ draft ∈ reused, ∃ own ∈ pause.execution.capture.draft, draft.Same own := by
  have hmem : ∀ receipt, receipt ∈ db.receiptsOf env (pause.snapshot env).snapshotId ↔
      receipt ∈ pause.receipts env := fun receipt => h.kept.mem_receiptsOf
  have hany : (db.receiptsOf env (pause.snapshot env).snapshotId).any isCommitted =
      (pause.receipts env).any isCommitted := by
    rw [Bool.eq_iff_iff, List.any_eq_true, List.any_eq_true]
    exact exists_congr fun receipt => and_congr_left fun _ => hmem receipt
  cases hdraft : pause.execution.capture.draft with
  | none =>
    have hnever : ∀ receipt ∈ pause.receipts env, ∀ result,
        receipt.state ≠ .committed result := by
      intro receipt hreceipt result hstate
      obtain ⟨draft, hcaptured, -⟩ := committed_receipt hreceipt hstate
      rw [hdraft] at hcaptured
      cases hcaptured
    have hnone : (pause.receipts env).any isCommitted = false := by
      rw [List.any_eq_false]
      intro receipt hreceipt
      unfold isCommitted
      split
      · rename_i result hstate
        exact absurd hstate (hnever receipt hreceipt result)
      · exact Bool.false_ne_true
    refine ⟨none, ?_, hnone.symm, fun _ hreused => by cases hreused⟩
    rw [@reuseDraft_eq env reader db (pause.snapshot env) _ .null none
      (fun receipt hreceipt result hstate =>
        absurd hstate (hnever receipt ((hmem receipt).mp hreceipt) result))
      fun _ hreused => by cases hreused]
    rw [hany, hnone, if_neg Bool.false_ne_true]
  | some draft =>
    obtain ⟨hdecision, hdistinct⟩ := hvalid draft hdraft
    obtain ⟨decoded, hsame, hall⟩ :=
      h.committedDraft_eq hdraft hdecision hdistinct (hreads draft hdraft)
    refine ⟨_, reuseDraft_eq (fun receipt hreceipt => hall receipt ((hmem receipt).mp hreceipt))
      (fun _ hreused => by cases hreused), ?_, ?_⟩
    · rw [hany]
      split
      · rename_i hcommitted
        exact hcommitted.symm
      · rename_i hcommitted
        rw [Bool.not_eq_true] at hcommitted
        exact hcommitted.symm
    · intro reused hreused
      split at hreused
      · cases hreused
        exact ⟨draft, rfl, hsame⟩
      · cases hreused

/-- The envelope of a pause passes its checks again. -/
theorem exists_loadEnvelope (h : Holds env pause db)
    (hexecuted : Executed parseRunSnapshot resumed pause)
    (hresumed : ∀ accepted ∈ resumed, Accepted accepted)
    (hreads : ReadsBack env reader (pauseJson pause)) :
    ∃ envelope, loadEnvelope env reader parseRunSnapshot db (pause.snapshot env) = .ok envelope ∧
      envelope.toJson.Same (pauseJson pause) := by
  obtain ⟨records, hnumbered, hdistinct, hvalues⟩ := hexecuted.exists_records hresumed
  have hjson : pauseJson pause =
      envelopeJson pause.nativeSnapshot.value (records.map RunState.value) :=
    congrArg (envelopeJson pause.nativeSnapshot.value) hvalues
  have hnonempty : records ≠ [] := by
    rintro rfl
    rw [List.map_nil, List.map_eq_nil_iff] at hvalues
    have hjournaled := pause.journaled
    rw [hvalues] at hjournaled
    cases hjournaled
  have hread := reader.distinct (env.payloadText (pauseJson pause))
  have hsame : (reader.read (env.payloadText (pauseJson pause))).Same
      (envelopeJson pause.nativeSnapshot.value (records.map RunState.value)) := hjson ▸ hreads.same
  obtain ⟨envelope, hparsed, henvelope, hkept⟩ := exists_parseCoreMindRecoveryEnvelopeV1 hsame
    hread hexecuted.native hdistinct hnumbered hnonempty hexecuted.reparses
  rw [← hjson] at hkept
  have hpause : (pauseJson pause).Distinct := by
    rw [hjson]
    apply distinct_envelopeJson hexecuted.native
    intro value hvalue
    obtain ⟨record, hrecord, rfl⟩ := List.mem_map.mp hvalue
    exact hdistinct record hrecord
  have htext : env.payloadText envelope.toJson = env.payloadText (pauseJson pause) :=
    (canonicalize_eq_iff henvelope hpause).mpr hkept
  have hdigest : (pause.snapshot env).rawSnapshot.digest =
      env.sha256 (env.payloadText (pauseJson pause)) := rfl
  have hraw := h.raw
  rw [envelope_eq] at hraw
  refine ⟨envelope, ?_, hkept⟩
  unfold loadEnvelope
  rw [hraw]
  dsimp only
  rw [hparsed]
  dsimp only
  rw [htext, hdigest, if_neg (not_not.mpr rfl)]

/-- The checks of the snapshot of a pause in terms of its own receipts. -/
theorem checkResume_eq (h : Holds env pause db)
    (hvalid : validRecoveryFacts (pause.snapshot env) (pause.receipts env) = true) :
    checkResume env reader parseRunSnapshot db pause.active.command (pause.snapshot env) =
      if (evaluateRuntimeRecoveryPermissionV1 (pause.snapshot env)
          (pause.receipts env)).decision ≠ .resumeAllowed then
        .error (permissionDenial
          (evaluateRuntimeRecoveryPermissionV1 (pause.snapshot env) (pause.receipts env)))
      else match reuseDraft env reader db (pause.snapshot env)
          (db.receiptsOf env (pause.snapshot env).snapshotId) none with
        | .error error => .error error
        | .ok reusedDraft =>
          match loadEnvelope env reader parseRunSnapshot db (pause.snapshot env) with
          | .error error => .error error
          | .ok envelope => .ok (envelope, reusedDraft) := by
  have hpermission := @evaluate_congr (pause.snapshot env)
    (db.receiptsOf env (pause.snapshot env).snapshotId) (pause.receipts env)
    fun receipt => h.kept.mem_receiptsOf
  have hown : ¬(pause.snapshot env ≠ pause.snapshot env ∨
      (pause.snapshot env).decisionTaskId ≠ pause.active.command.decisionTaskId ∨
      (pause.snapshot env).agentRunId ≠ pause.active.command.agentRunId) := by
    rintro (hsnapshot | htask | hrun)
    · exact hsnapshot rfl
    · exact htask rfl
    · exact hrun rfl
  unfold checkResume
  rw [h.kept.loads hvalid]
  dsimp only
  rw [if_neg hown, hpermission]

end Holds

/-- The facts that a pause has saved pass the checks of every later resume, in whatever process,
until they are purged: a resume is refused only by the permission that the receipts give it.
Otherwise it gets the journal and the snapshot of the pause, and the captured draft exactly when
an effect was committed. This holds again for the pause of an execution that was resumed so. -/
theorem saved_pause_resumes (hformat : ∀ text, isSha256Digest (env.sha256 text) = true)
    (hexecuted : Executed parseRunSnapshot resumed pause)
    (hresumed : ∀ accepted ∈ resumed, ∃ command snapshot db,
      checkResume env reader parseRunSnapshot db command snapshot = .ok accepted)
    (henvelope : ReadsBack env reader (pauseJson pause) ∧ Unshared env (pause.envelope env))
    (hdrafts : ∀ draft ∈ pause.execution.capture.draft,
      ReadsBack env reader (effectResultJson draft) ∧ Unshared env (effectResultText env draft))
    {db₁ db₂ : Store} {now : Instant}
    {es fs : List (Entry Store (Instant × Action) TaskPersistence.Reply)}
    (hrun : Run (TaskPersistence.step env) Store.empty es db)
    (hsave : TaskPersistence.step env db
      (now, .saveRecoveryFacts (pause.snapshot env) (pause.receipts env)) = some (.done, db₁))
    (hlater : Run (TaskPersistence.step env) db₁ fs db₂)
    (hspares : Guarded (Spares pause.active.agentRunId) fs)
    (hown : Guarded (SavesOwn (pause.snapshot env) (pause.receipts env)) fs)
    {permission : RuntimeRecoveryPermission} (hpermission :
      evaluateRuntimeRecoveryPermissionV1 (pause.snapshot env) (pause.receipts env) = permission) :
    (permission.decision ≠ .resumeAllowed →
      checkResume env reader parseRunSnapshot db₂ pause.active.command (pause.snapshot env) =
        .error (permissionDenial permission)) ∧
    (permission.decision = .resumeAllowed → ∃ envelope reusedDraft,
      checkResume env reader parseRunSnapshot db₂ pause.active.command (pause.snapshot env) =
        .ok (envelope, reusedDraft) ∧
      envelope.toJson.Same (pauseJson pause) ∧
      reusedDraft.isSome = (pause.receipts env).any isCommitted ∧
      ∀ draft ∈ reusedDraft, ∃ own ∈ pause.execution.capture.draft, draft.Same own) := by
  have haccepted : ∀ accepted ∈ resumed, Accepted accepted := by
    intro accepted hin
    obtain ⟨command, snapshot, before, hchecked⟩ := hresumed accepted hin
    exact accepted_of_checkResume hchecked
  have hholds : Holds env pause db₂ := holds_of_run hformat hrun hsave hlater hspares hown
    henvelope.2 fun draft hdraft => (hdrafts draft hdraft).2
  have hvalid := (saveRecoveryFacts_eq_ok.mp (step_save_ok.mp hsave)).1
  rw [hholds.checkResume_eq hvalid, hpermission]
  refine ⟨fun hdenied => if_pos hdenied, fun hallowed => ?_⟩
  obtain ⟨reused, hreused, hcommitted, hsame⟩ := hholds.exists_reuseDraft
    (hexecuted.draft_valid haccepted) fun draft hdraft => (hdrafts draft hdraft).1
  obtain ⟨envelope, hloaded, hkept⟩ :=
    hholds.exists_loadEnvelope hexecuted haccepted henvelope.1
  refine ⟨envelope, reused, ?_, hkept, hcommitted, hsame⟩
  rw [if_neg (not_not.mpr hallowed), hreused]
  dsimp only
  rw [hloaded]

end Resume

/-! ### A pause with a committed draft -/

def sampleDraft : Json Rat :=
  .object
    [("candidates", .array []), ("claims", .array []), ("evidence", .array []),
     ("claimEvidenceLinks", .array []), ("decision", .object [])]

def sampleRecord : Json Rat :=
  .object
    [("version", .number 1), ("runId", .string "run"), ("sequence", .number 1),
     ("timestamp", .string "1970-01-01T00:00:00.000Z"), ("kind", .string "pause")]

def sampleNative : NativeSnapshot where
  value := .object [("runId", .string "run"), ("schemaVersion", .number 1)]
  runId := "run"
  resumable := true
  checkpoints := []
  transitionSequence := 1
  updatedAt := .toISOString 0
  trace := [⟨"event", .toISOString 0, some ⟨"effect", "submit_decision_draft", .committed⟩⟩]

def samplePause : Pause where
  active := ⟨"run", "task", "controller", none⟩
  execution :=
    { finishReason := ""
      snapshot := some sampleNative
      capture := ⟨1, some sampleDraft⟩
      runStateRecords := [⟨sampleRecord, 1, .toISOString 0⟩]
      approvals := [] }
  nativeSnapshot := sampleNative
  journalCheckpoint := ⟨sampleRecord, 1, .toISOString 0⟩
  parsed := rfl
  journaled := rfl

section Texts
variable {a b text : String} {j k : Json Rat}

/-- Two texts have digests of their own. -/
def threeDigests (a b text : String) : String :=
  if text = a then zeroDigest
  else if text = b then oneDigest
  else String.ofList (List.replicate 64 '2')

theorem threeDigests_format : isSha256Digest (threeDigests a b text) = true := by
  unfold threeDigests
  split
  · decide
  · split <;> decide

theorem eq_of_threeDigests_left (h : threeDigests a b text = threeDigests a b a) : text = a := by
  have hown : threeDigests a b a = zeroDigest := if_pos rfl
  by_contra htext
  rw [hown, threeDigests, if_neg htext] at h
  split at h
  · exact absurd h (by decide)
  · exact absurd h (by decide)

theorem eq_of_threeDigests_right (hne : b ≠ a)
    (h : threeDigests a b text = threeDigests a b b) : text = b := by
  have hown : threeDigests a b b = oneDigest := by
    rw [threeDigests, if_neg hne, if_pos rfl]
  by_contra htext
  rw [hown, threeDigests, if_neg htext] at h
  split at h
  · exact absurd h (by decide)
  · exact absurd h (by decide)

def threeDigestsEnv (j k : Json Rat) : Environment :=
  { sampleEnv with sha256 := threeDigests (sampleEnv.payloadText j) (sampleEnv.payloadText k) }

theorem threeDigestsEnv_format (text : String) :
    isSha256Digest ((threeDigestsEnv j k).sha256 text) = true := threeDigests_format

theorem unshared_left : Unshared (threeDigestsEnv j k) ((threeDigestsEnv j k).payloadText j) :=
  fun _ h => eq_of_threeDigests_left h

theorem unshared_right (hne : sampleEnv.payloadText k ≠ sampleEnv.payloadText j) :
    Unshared (threeDigestsEnv j k) ((threeDigestsEnv j k).payloadText k) :=
  fun _ h => eq_of_threeDigests_right hne h

/-- A reader of the texts of two values. -/
def readTwo (j k : Json Rat) (text : String) : Json Rat :=
  if text = sampleEnv.payloadText j then j
  else if text = sampleEnv.payloadText k then k
  else .null

theorem distinct_readTwo (hj : j.Distinct) (hk : k.Distinct) : (readTwo j k text).Distinct := by
  unfold readTwo
  split
  · exact hj
  · split
    · exact hk
    · trivial

def twoReader (hj : j.Distinct) (hk : k.Distinct) : JsonReader where
  read := readTwo j k
  distinct _ := distinct_readTwo hj hk

theorem readsBack_left (hj : j.Distinct) (hk : k.Distinct) :
    ReadsBack (threeDigestsEnv j k) (twoReader hj hk) j := by
  have hread : (twoReader hj hk).read ((threeDigestsEnv j k).payloadText j) = j := if_pos rfl
  constructor
  rw [hread]
  exact (canonicalize_eq_iff hj hj).mp (Eq.refl (sampleEnv.payloadText j))

theorem readsBack_right (hj : j.Distinct) (hk : k.Distinct)
    (hne : sampleEnv.payloadText k ≠ sampleEnv.payloadText j) :
    ReadsBack (threeDigestsEnv j k) (twoReader hj hk) k := by
  have hread : (twoReader hj hk).read ((threeDigestsEnv j k).payloadText k) = k :=
    (if_neg hne).trans (if_pos rfl)
  constructor
  rw [hread]
  exact (canonicalize_eq_iff hk hk).mp (Eq.refl (sampleEnv.payloadText k))

end Texts

def resumeEnv : Environment :=
  threeDigestsEnv (pauseJson samplePause) (effectResultJson sampleDraft)

def sampleParse (value : Json Rat) : Option NativeSnapshot :=
  if (value.member "runId").bind Json.text? = some "run" then some { sampleNative with value }
  else none

def sampleCalls : List (Instant × Action) :=
  [(0, .putRawSnapshot (resumeEnv.payloadText (pauseJson samplePause))),
   (0, .putEffectResult ⟨"task", "run", samplePause.checkpoint.checkpointId, "effect"⟩
    (resumeEnv.payloadText (effectResultJson sampleDraft)))]

theorem sampleTexts_ne : sampleEnv.payloadText (effectResultJson sampleDraft) ≠
    sampleEnv.payloadText (pauseJson samplePause) := by
  decide +kernel

theorem distinct_sampleNative : sampleNative.value.Distinct := by
  simp [sampleNative, Json.Distinct, Json.DistinctFields]

theorem distinct_sampleDraft : sampleDraft.Distinct := by
  simp [sampleDraft, Json.Distinct, Json.DistinctFields, Json.DistinctItems]

theorem distinct_sampleRecord : sampleRecord.Distinct := by
  simp [sampleRecord, Json.Distinct, Json.DistinctFields]

theorem distinct_sampleEnvelope : (pauseJson samplePause).Distinct := by
  apply distinct_envelopeJson distinct_sampleNative
  intro value hvalue
  cases List.mem_singleton.mp hvalue
  exact distinct_sampleRecord

theorem distinct_sampleResult : (effectResultJson sampleDraft).Distinct :=
  distinct_effectResultJson distinct_sampleDraft

def sampleReader : JsonReader := twoReader distinct_sampleEnvelope distinct_sampleResult

theorem sampleParse_reparses : Reparses sampleParse sampleNative := by
  intro value hvalue hsame
  have hrunId : (value.member "runId").bind Json.text? = some "run" :=
    hsame.bind_member (fun h => h.text?) hvalue distinct_sampleNative "runId"
  exact ⟨{ sampleNative with value }, if_pos hrunId, rfl, hsame, hvalue⟩

theorem samplePause_executed : Executed sampleParse none samplePause where
  journal := by
    have htyped : isRunState "run" 1 sampleRecord = true := by decide +kernel
    refine ⟨[⟨sampleRecord, "run", 1, htyped⟩], ?_, rfl⟩
    intro record hrecord
    cases List.mem_singleton.mp hrecord
    exact distinct_sampleRecord
  capture := by
    refine ⟨[sampleDraft], ?_, rfl⟩
    intro args hargs
    cases List.mem_singleton.mp hargs
    exact distinct_sampleDraft
  native := distinct_sampleNative
  reparses := sampleParse_reparses

theorem resumeEnv_format (text : String) : isSha256Digest (resumeEnv.sha256 text) = true := by
  rw [resumeEnv]
  exact threeDigestsEnv_format text

theorem samplePause_envelope : ReadsBack resumeEnv sampleReader (pauseJson samplePause) ∧
    Unshared resumeEnv (samplePause.envelope resumeEnv) := by
  rw [envelope_eq, resumeEnv, sampleReader]
  exact ⟨readsBack_left distinct_sampleEnvelope distinct_sampleResult, unshared_left⟩

theorem samplePause_drafts : ∀ draft ∈ samplePause.execution.capture.draft,
    ReadsBack resumeEnv sampleReader (effectResultJson draft) ∧
      Unshared resumeEnv (effectResultText resumeEnv draft) := by
  intro draft hdraft
  cases hdraft
  rw [effectResultText_eq, resumeEnv, sampleReader]
  exact ⟨readsBack_right distinct_sampleEnvelope distinct_sampleResult sampleTexts_ne,
    unshared_right sampleTexts_ne⟩

theorem samplePause_allowed :
    (evaluateRuntimeRecoveryPermissionV1 (samplePause.snapshot resumeEnv)
      (samplePause.receipts resumeEnv)).decision = .resumeAllowed := by
  decide +kernel

theorem samplePause_committed : (samplePause.receipts resumeEnv).any isCommitted = true := by
  decide +kernel

/-- The draft of a committed effect is in the store still after a purge of another owner. -/
theorem saved_pause_resumes_sample : ∃ db₂ envelope draft,
    checkResume resumeEnv sampleReader sampleParse db₂ ⟨"task", "run"⟩
      (samplePause.snapshot resumeEnv) = .ok (envelope, some draft) ∧
    envelope.toJson.Same (pauseJson samplePause) ∧ draft.Same sampleDraft := by
  have hexec : (exec (TaskPersistence.step resumeEnv) Store.empty sampleCalls).any (fun run =>
      (saveRecoveryFacts resumeEnv (samplePause.snapshot resumeEnv)
        (samplePause.receipts resumeEnv) 0 run.2).toOption.any fun db =>
          db.runOwner "run" = none ∧ (TaskPersistence.step resumeEnv db
            (1, .purgePrivateDataForOwner "owner")).isSome) = true := by
    decide +kernel
  obtain ⟨es, db, hrun, -, hcheck⟩ := exists_labelled_run_of_exec hexec
  obtain ⟨db₁, hsaved, howner, hpurged⟩ : ∃ db₁, saveRecoveryFacts resumeEnv
      (samplePause.snapshot resumeEnv) (samplePause.receipts resumeEnv) 0 db = .ok db₁ ∧
        db₁.runOwner "run" = none ∧
          (TaskPersistence.step resumeEnv db₁ (1, .purgePrivateDataForOwner "owner")).isSome := by
    cases hsaved : saveRecoveryFacts resumeEnv (samplePause.snapshot resumeEnv)
        (samplePause.receipts resumeEnv) 0 db with
    | error error =>
      rw [hsaved] at hcheck
      cases hcheck
    | ok db₁ =>
      rw [hsaved] at hcheck
      exact ⟨db₁, rfl, of_decide_eq_true hcheck⟩
  obtain ⟨⟨reply, db₂⟩, hpurge⟩ := Option.isSome_iff_exists.mp hpurged
  have hspares : Spares samplePause.active.agentRunId db₁
      (1, .purgePrivateDataForOwner "owner") := by
    intro ownerUserId _ hrunOwner
    rw [show samplePause.active.agentRunId = "run" from rfl, howner] at hrunOwner
    cases hrunOwner
  have hown : SavesOwn (samplePause.snapshot resumeEnv)
      (samplePause.receipts resumeEnv) db₁ (1, .purgePrivateDataForOwner "owner") := by
    intro other others hlabel
    cases hlabel
  obtain ⟨envelope, reused, hchecked, henvelope, hsome, hdraft⟩ :=
    (saved_pause_resumes resumeEnv_format samplePause_executed
      (fun _ haccepted => by cases haccepted) samplePause_envelope samplePause_drafts
      hrun (step_save_ok.mpr hsaved) (.single hpurge)
      (Guarded.cons_iff.mpr ⟨hspares, Guarded.nil⟩) (Guarded.cons_iff.mpr ⟨hown, Guarded.nil⟩)
      rfl).2 samplePause_allowed
  rw [samplePause_committed] at hsome
  obtain ⟨draft, rfl⟩ := Option.isSome_iff_exists.mp hsome
  obtain ⟨own, hcaptured, hsame⟩ := hdraft draft rfl
  cases hcaptured
  exact ⟨_, envelope, draft, hchecked, henvelope, hsame⟩

end ChoiceMind.Orchestrator.Resuming
