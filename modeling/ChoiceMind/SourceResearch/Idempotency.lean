import ChoiceMind.Foundation.Json
import ChoiceMind.Foundation.StableSort
import ChoiceMind.SourceResearch.Batches
import ChoiceMind.SourceResearch.System

/-!
# Replayed batches

`CREATE_BATCH` with its outbox and the read after its commit. A request is known by its owner and
idempotency key, and a replay by the fingerprint of its sorted sources.
-/

namespace ChoiceMind.SourceResearch

set_option autoImplicit false

open Contracts SourceAccess Transition

/-! ### The call -/

/-- A row of `source_research_outbox`. -/
structure OutboxRow where
  jobId : String
  eventType : String
  createdAt : Instant
  deriving DecidableEq

structure OutboxStore where
  tables : ResearchStore
  outbox : List OutboxRow

section Call
variable (env : ResearchEnvironment)

/-- The job of a source and its outbox row. -/
def queueJob (command : CreateBatchCommand) (timestamp : Instant) (store : OutboxStore)
    (source : SourceRef) : Except ResearchError OutboxStore :=
  match insertJob env command timestamp store.tables source with
  | .error error => .error error
  | .ok tables => .ok ⟨tables, store.outbox ++
      [⟨env.randomUUID store.tables.uuidsDrawn, "SOURCE_RESEARCH_QUEUED", timestamp⟩]⟩

/-- What the transaction commits, and the batch that is read after it. -/
def commitBatch (command : CreateBatchCommand) (timestamp : Instant) (store : OutboxStore) :
    Except ResearchError (String × OutboxStore) :=
  if command.isInvalid then .error (.message "SOURCE_RESEARCH_BATCH_INVALID")
  else
    let fingerprint := requestFingerprint env command
    match store.tables.batches.rows.find? fun batch =>
        batch.ownerUserId = command.ownerUserId &&
          batch.idempotencyKey = command.idempotencyKey with
    | some batch =>
      if batch.requestFingerprint ≠ fingerprint then
        .error (.message "SOURCE_RESEARCH_IDEMPOTENCY_CONFLICT")
      else .ok (batch.batchId, store)
    | none =>
      match store.tables.batches.insert? ⟨command.batchId, command.ownerUserId,
          command.decisionTaskId, command.idempotencyKey, fingerprint, trim command.query,
          timestamp, timestamp⟩ with
      | none => .error .constraint
      | some batches =>
        match (normalizedSources env command).foldlM (queueJob env command timestamp)
            { store with tables := { store.tables with batches } } with
        | .error error => .error error
        | .ok store => .ok (command.batchId, store)

def requireBatch (batch : Option BatchView) : Except ResearchError BatchView :=
  match batch with
  | none => .error (.message "SOURCE_RESEARCH_BATCH_NOT_FOUND")
  | some batch => .ok batch

/-- `execute` of a `CREATE_BATCH` command. -/
def executeCreateBatch (command : CreateBatchCommand) (timestamp : Instant)
    (store : OutboxStore) : Except ResearchError BatchView × OutboxStore :=
  match commitBatch env command timestamp store with
  | .error error => (.error error, store)
  | .ok (batchId, store) =>
    (requireBatch (store.tables.view batchId command.ownerUserId), store)

/-- The order of the sources in a request. -/
def sourceLe (left right : SourceRef) : Bool :=
  env.localeLe (left.sourceId ++ "\x00" ++ left.sourceAccountId)
    (right.sourceId ++ "\x00" ++ right.sourceAccountId)

theorem normalizedSources_eq (command : CreateBatchCommand) :
    normalizedSources env command = command.sources.mergeSort (sourceLe env) := rfl

end Call

section Tables
variable {env : ResearchEnvironment} {command : CreateBatchCommand} {now : Instant}

theorem queueJobs_tables (sources : List SourceRef) (store : OutboxStore) :
    (sources.foldlM (queueJob env command now) store).map OutboxStore.tables =
      sources.foldlM (insertJob env command now) store.tables := by
  induction sources generalizing store with
  | nil => rfl
  | cons source sources ih =>
    rw [List.foldlM_cons, List.foldlM_cons]
    unfold queueJob
    cases insertJob env command now store.tables source with
    | error error => rfl
    | ok tables => exact ih _

/-- The tables without the outbox change as in `createBatch`. -/
theorem commitBatch_tables (store : OutboxStore) :
    (commitBatch env command now store).map (fun result => result.2.tables) =
      createBatch env command now store.tables := by
  unfold commitBatch createBatch
  split
  · rfl
  · dsimp only
    cases store.tables.batches.rows.find? fun batch =>
        decide (batch.ownerUserId = command.ownerUserId) &&
          decide (batch.idempotencyKey = command.idempotencyKey) with
    | some batch =>
      dsimp only
      split <;> rfl
    | none =>
      dsimp only
      cases store.tables.batches.insert? ⟨command.batchId, command.ownerUserId,
          command.decisionTaskId, command.idempotencyKey, requestFingerprint env command,
          trim command.query, now, now⟩ with
      | none => rfl
      | some batches =>
        have hqueued : _ = (normalizedSources env command).foldlM (insertJob env command now)
            { store.tables with batches } :=
          queueJobs_tables _ ⟨{ store.tables with batches }, store.outbox⟩
        dsimp only
        rw [← hqueued]
        cases (normalizedSources env command).foldlM (queueJob env command now)
            ⟨{ store.tables with batches }, store.outbox⟩ with
        | error error => rfl
        | ok store => rfl

end Tables

/-! ### The text of a request -/

/-- A request has no numbers. -/
def noNumbers : Json.NumberText Empty where
  text number := number.elim
  injective number := number.elim
  nonempty number := number.elim
  chars number := number.elim

def SourceRef.json (source : SourceRef) : Json Empty :=
  .object [("sourceId", .string source.sourceId),
    ("sourceAccountId", .string source.sourceAccountId)]

def requestJson (decisionTaskId query : String) (sources : List SourceRef) : Json Empty :=
  .object [("decisionTaskId", .string decisionTaskId), ("query", .string query),
    ("sources", .array (sources.map SourceRef.json))]

/-- `JSON.stringify` of a request. -/
def requestText (decisionTaskId query : String) (sources : List SourceRef) : String :=
  .ofList (Json.print noNumbers (requestJson decisionTaskId query sources))

theorem SourceRef.json_injective : Function.Injective SourceRef.json := by
  intro a b h
  cases a
  cases b
  simp only [SourceRef.json, Json.object.injEq, List.cons.injEq, Prod.mk.injEq,
    Json.string.injEq, true_and, and_true] at h
  obtain ⟨rfl, rfl⟩ := h
  rfl

theorem requestText_inj {decisionTaskId decisionTaskId' query query' : String}
    {sources sources' : List SourceRef}
    (h : requestText decisionTaskId query sources =
      requestText decisionTaskId' query' sources') :
    decisionTaskId = decisionTaskId' ∧ query = query' ∧ sources = sources' := by
  have htext := congrArg (· ++ []) (String.ofList_injective h)
  have hends : Json.Ends [] := by
    intro c hc
    cases hc
  have hjson := (Json.print_injective _ _ hends hends htext).1
  simp only [requestJson, Json.object.injEq, List.cons.injEq, Prod.mk.injEq, Json.string.injEq,
    Json.array.injEq, true_and, and_true] at hjson
  obtain ⟨htask, hquery, hsources⟩ := hjson
  exact ⟨htask, hquery, List.map_injective_iff.mpr SourceRef.json_injective hsources⟩

/-! ### The stored batch of a request -/

/-- `WHERE owner_user_id = $1 AND idempotency_key = $2` -/
def Batch.isFor (command : CreateBatchCommand) (batch : Batch) : Bool :=
  batch.ownerUserId = command.ownerUserId && batch.idempotencyKey = command.idempotencyKey

/-- The row that a command inserts. -/
def batchRow (env : ResearchEnvironment) (command : CreateBatchCommand) (now : Instant) : Batch :=
  ⟨command.batchId, command.ownerUserId, command.decisionTaskId, command.idempotencyKey,
    requestFingerprint env command, trim command.query, now, now⟩

/-- How a step changes the batches. -/
inductive BatchStep (env : ResearchEnvironment) (s t : ResearchStore) (label : ResearchLabel) :
    Prop
  | same (h : t.batches = s.batches)
  | created (command : CreateBatchCommand) (now : Instant)
    (hlabel : label = .createBatch command now)
    (hfresh : ∀ batch ∈ s.batches, batch.isFor command = false)
    (hinsert : s.batches.insert? (batchRow env command now) = some t.batches)
  | touched (batchId : String) (timestamp : Instant)
    (hkey : ∀ batch : Batch, { batch with updatedAt := timestamp }.batchId = batch.batchId)
    (h : t.batches =
      s.batches.update batchId (fun batch => { batch with updatedAt := timestamp }) hkey)
  | purged (ownerUserId : String) (hlabel : label = .purge ownerUserId)
    (h : t.batches = s.batches.deleteWhere fun batch => batch.ownerUserId = ownerUserId)

section Batches
variable {env : ResearchEnvironment} {command : CreateBatchCommand} {now : Instant}
  {world world' : ResearchWorld} {label : ResearchLabel} {reply : ResearchReply}

/-- A request that is carried out is a replay, or its batch is inserted. -/
theorem createBatch_cases {db db' : ResearchStore} (h : createBatch env command now db = .ok db') :
    command.isInvalid = false ∧
      ((db' = db ∧ ∃ batch ∈ db.batches, batch.isFor command = true) ∨
        (∀ batch ∈ db.batches, batch.isFor command = false) ∧
          db.batches.insert? (batchRow env command now) = some db'.batches) := by
  unfold createBatch at h
  split at h
  · cases h
  · rename_i hvalid
    refine ⟨Bool.eq_false_iff.mpr hvalid, ?_⟩
    dsimp only at h
    split at h
    · rename_i batch hfind
      split at h
      · cases h
      · cases h
        exact Or.inl ⟨rfl, batch, List.mem_of_find?_eq_some hfind, List.find?_some hfind⟩
    · rename_i hfind
      split at h
      · cases h
      · rename_i batches hinsert
        refine Or.inr ⟨fun batch hbatch => ?_, ?_⟩
        · have hother := List.find?_eq_none.mp hfind batch hbatch
          exact Bool.eq_false_iff.mpr hother
        · rw [(insertJobs_added h).batches]
          exact hinsert

theorem createBatch_step {db db' : ResearchStore} (h : createBatch env command now db = .ok db') :
    BatchStep env db db' (.createBatch command now) := by
  rcases (createBatch_cases h).2 with ⟨rfl, -⟩ | ⟨hfresh, hinsert⟩
  · exact .same rfl
  · exact .created command now rfl hfresh hinsert

theorem researchStep_batches (h : researchStep env world label = some (reply, world')) :
    BatchStep env world.db world'.db label := by
  unfold researchStep at h
  cases label with
  | createBatch command now =>
    dsimp only at h
    split at h
    · cases h
      exact .same rfl
    · rename_i hcreate
      cases h
      exact createBatch_step hcreate
  | resumeSource scope now =>
    cases h
    exact .same rfl
  | claimNext workerId leaseDurationMs now locked =>
    dsimp only at h
    split at h
    · cases h
      exact .same rfl
    · rename_i hclaim
      cases h
      rcases claimNext_ok hclaim with ⟨-, rfl⟩ | ⟨_, -, -, -, hsome, -⟩
      · exact .same rfl
      · cases hsome
    · rename_i hclaim
      cases h
      rcases claimNext_ok hclaim with ⟨hnone, -⟩ | ⟨_, -, -, -, -, rfl⟩
      · cases hnone
      · exact .same rfl
  | renewLease claim leaseDurationMs now =>
    dsimp only at h
    split at h
    · cases h
    · unfold renewLease at h
      split at h
      · cases h
        exact .same rfl
      · rename_i hrenew
        cases h
        split at hrenew
        · cases hrenew
        · split at hrenew <;> cases hrenew <;> exact .same rfl
  | saveCheckpoint claim checkpoint now =>
    dsimp only at h
    split at h
    · cases h
    · unfold saveCheckpoint at h
      cases hheld : world.db.held claim now with
      | none =>
        rw [hheld] at h
        cases h
        exact .same rfl
      | some job =>
        rw [hheld] at h
        cases h
        exact .same rfl
  | beginComplete claim outcome =>
    dsimp only at h
    split at h
    · cases h
    · split at h <;> cases h <;> exact .same rfl
  | settle claim outcome lockedAt timestamp =>
    dsimp only at h
    split at h
    · cases h
    · split at h
      · cases h
        exact .same rfl
      · rename_i hsettle
        cases h
        unfold settleJob at hsettle
        split at hsettle
        · cases hsettle
          exact .same rfl
        · split at hsettle
          · cases hsettle
          · split at hsettle
            · cases hsettle
            · cases hsettle
              exact .touched claim.batchId timestamp (fun _ => rfl) rfl
  | rollback claim outcome =>
    dsimp only at h
    split at h
    · cases h
    · cases h
      exact .same rfl
  | purge ownerUserId =>
    cases h
    exact .purged ownerUserId rfl rfl

/-- The stored batches of a request are the one that its command created. -/
structure Stored (env : ResearchEnvironment) (command : CreateBatchCommand)
    (db : ResearchStore) : Prop where
  exists_batch : ∃ batch ∈ db.batches, batch.isFor command = true
  created : ∀ batch ∈ db.batches, batch.isFor command = true →
    batch.batchId = command.batchId ∧ batch.requestFingerprint = requestFingerprint env command

theorem isFor_iff {batch : Batch} : batch.isFor command = true ↔
    batch.ownerUserId = command.ownerUserId ∧ batch.idempotencyKey = command.idempotencyKey := by
  unfold Batch.isFor
  rw [Bool.and_eq_true, decide_eq_true_eq, decide_eq_true_eq]

theorem isFor_congr {other : CreateBatchCommand} (howner : other.ownerUserId = command.ownerUserId)
    (hkey : other.idempotencyKey = command.idempotencyKey) (batch : Batch) :
    batch.isFor other = batch.isFor command := by
  unfold Batch.isFor
  rw [howner, hkey]

/-- The step that creates the batch of a request. -/
structure Creates (env : ResearchEnvironment) (command : CreateBatchCommand) (now : Instant)
    (before created : ResearchWorld) : Prop where
  fresh : ∀ batch ∈ before.db.batches, batch.isFor command = false
  step : researchStep env before (.createBatch command now) = some (.done, created)

theorem Creates.createBatch {before created : ResearchWorld}
    (h : Creates env command now before created) :
    createBatch env command now before.db = .ok created.db := by
  have hstep := h.step
  unfold researchStep at hstep
  dsimp only at hstep
  split at hstep
  · cases hstep
  · rename_i db hcreate
    cases hstep
    exact hcreate

theorem Creates.valid {before created : ResearchWorld}
    (h : Creates env command now before created) : command.isInvalid = false :=
  (createBatch_cases h.createBatch).1

theorem Creates.stored {before created : ResearchWorld}
    (h : Creates env command now before created) : Stored env command created.db := by
  rcases (createBatch_cases h.createBatch).2 with ⟨-, batch, hbatch, hfor⟩ | ⟨-, hinsert⟩
  · rw [h.fresh batch hbatch] at hfor
    cases hfor
  · constructor
    · refine ⟨batchRow env command now, (Table.mem_insert? hinsert).mpr (.inr rfl), ?_⟩
      exact isFor_iff.mpr ⟨rfl, rfl⟩
    · intro batch hbatch hfor
      rcases (Table.mem_insert? hinsert).mp hbatch with hold | rfl
      · rw [h.fresh batch hold] at hfor
        cases hfor
      · exact ⟨rfl, rfl⟩

/-- The batch stays until its owner's data are purged. -/
theorem Stored.step (h : Stored env command world.db)
    (hkept : label ≠ .purge command.ownerUserId)
    (hstep : researchStep env world label = some (reply, world')) :
    Stored env command world'.db := by
  obtain ⟨stored, hstored, hfor⟩ := h.exists_batch
  cases researchStep_batches hstep with
  | same hsame =>
    constructor
    · rw [hsame]
      exact h.exists_batch
    · rw [hsame]
      exact h.created
  | created other now hlabel hfresh hinsert =>
    constructor
    · exact ⟨stored, (Table.mem_insert? hinsert).mpr (.inl hstored), hfor⟩
    · intro batch hbatch hbatchFor
      rcases (Table.mem_insert? hinsert).mp hbatch with hold | rfl
      · exact h.created batch hold hbatchFor
      · -- another command of this owner and key would have found the batch
        have hfound : stored.isFor other = true := by
          rw [isFor_iff] at hbatchFor hfor ⊢
          exact ⟨hfor.1.trans hbatchFor.1.symm, hfor.2.trans hbatchFor.2.symm⟩
        rw [hfresh stored hstored] at hfound
        cases hfound
  | touched batchId timestamp _ htouched =>
    constructor
    · rw [htouched]
      refine ⟨_, Table.mem_update.mpr ⟨stored, hstored, rfl⟩, ?_⟩
      split <;> exact hfor
    · rw [htouched]
      intro batch hbatch hbatchFor
      obtain ⟨old, hold, rfl⟩ := Table.mem_update.mp hbatch
      have hsame := h.created old hold
      split at hbatchFor <;> split <;> exact hsame hbatchFor
  | purged ownerUserId hlabel hpurged =>
    have hother : ownerUserId ≠ command.ownerUserId := by
      rintro rfl
      exact hkept hlabel
    constructor
    · rw [hpurged]
      refine ⟨stored, Table.mem_deleteWhere.mpr ⟨hstored, ?_⟩, hfor⟩
      rw [(isFor_iff.mp hfor).1]
      exact decide_eq_false hother.symm
    · rw [hpurged]
      intro batch hbatch
      exact h.created batch (Table.mem_deleteWhere.mp hbatch).1

theorem stored_of_run {es : List (Entry ResearchWorld ResearchLabel ResearchReply)}
    (h : Stored env command world.db) (hrun : Run (researchStep env) world es world')
    (hkept : ∀ e ∈ es, e.label ≠ .purge command.ownerUserId) : Stored env command world'.db := by
  induction hrun with
  | nil => exact h
  | cons hstep _ ih =>
    rw [List.forall_mem_cons] at hkept
    exact ih (h.step hkept.1 hstep) hkept.2

end Batches

/-! ### Replays -/

/-- A request of the same owner under the same key that passes the checks of a request. -/
structure Replays (command replay : CreateBatchCommand) : Prop where
  owner : replay.ownerUserId = command.ownerUserId
  key : replay.idempotencyKey = command.idempotencyKey
  valid : replay.isInvalid = false

/-- It asks for the same: the order of the sources does not matter. -/
structure SameRequest (command replay : CreateBatchCommand) : Prop where
  decisionTaskId : replay.decisionTaskId = command.decisionTaskId
  query : trim replay.query = trim command.query
  sources : replay.sources.Perm command.sources

/-- A replay answers with the existing batch or with a conflict, and changes nothing. -/
def AnswersReplays (env : ResearchEnvironment) (command : CreateBatchCommand)
    (db : ResearchStore) : Prop :=
  ∀ (outbox : List OutboxRow) (replay : CreateBatchCommand) (now : Instant),
    Replays command replay →
      (SameRequest command replay → ∃ view,
        db.view command.batchId command.ownerUserId = some view ∧
          executeCreateBatch env replay now ⟨db, outbox⟩ = (.ok view, ⟨db, outbox⟩)) ∧
      (¬ SameRequest command replay → executeCreateBatch env replay now ⟨db, outbox⟩ =
        (.error (.message "SOURCE_RESEARCH_IDEMPOTENCY_CONFLICT"), ⟨db, outbox⟩))

/-- What the fingerprint rests on: an order of all texts, the JSON text of a request, and a
digest without collisions. -/
structure Platform (env : ResearchEnvironment) : Prop where
  locale : StableSort.IsPreorder env.localeLe
  json : env.stringify = requestText
  sha256 : Function.Injective env.sha256

section Replays
variable {env : ResearchEnvironment} {command replay : CreateBatchCommand} {now : Instant}
  {db : ResearchStore} {outbox : List OutboxRow}

theorem Platform.sources (h : Platform env) : StableSort.IsPreorder (sourceLe env) where
  trans _ _ _ := h.locale.trans _ _ _
  total _ _ := h.locale.total _ _

/-- The fingerprint says which task, query and sorted sources were asked for. -/
theorem requestFingerprint_eq_iff (h : Platform env) :
    requestFingerprint env replay = requestFingerprint env command ↔
      replay.decisionTaskId = command.decisionTaskId ∧
        trim replay.query = trim command.query ∧
        normalizedSources env replay = normalizedSources env command := by
  unfold requestFingerprint
  rw [h.json]
  constructor
  · intro hsame
    exact requestText_inj (h.sha256 hsame)
  · rintro ⟨htask, hquery, hsources⟩
    rw [htask, hquery, hsources]

theorem sameRequest_of_fingerprint (h : Platform env)
    (hsame : requestFingerprint env replay = requestFingerprint env command) :
    SameRequest command replay := by
  obtain ⟨htask, hquery, hsources⟩ := (requestFingerprint_eq_iff h).mp hsame
  refine ⟨htask, hquery, ?_⟩
  rw [normalizedSources_eq, normalizedSources_eq] at hsources
  have hsorted := List.mergeSort_perm command.sources (sourceLe env)
  rw [← hsources] at hsorted
  exact (List.mergeSort_perm replay.sources (sourceLe env)).symm.trans hsorted

/-- A replay is decided by its fingerprint. -/
theorem commitBatch_replay (h : Stored env command db) (hreplay : Replays command replay) :
    commitBatch env replay now ⟨db, outbox⟩ =
      if requestFingerprint env replay = requestFingerprint env command then
        .ok (command.batchId, ⟨db, outbox⟩)
      else .error (.message "SOURCE_RESEARCH_IDEMPOTENCY_CONFLICT") := by
  obtain ⟨stored, hstored, hfor⟩ := h.exists_batch
  unfold commitBatch
  rw [if_neg (Bool.eq_false_iff.mp hreplay.valid)]
  dsimp only
  split
  · rename_i batch hfind
    have hbatchFor : batch.isFor command = true := by
      rw [← isFor_congr hreplay.owner hreplay.key]
      exact List.find?_some hfind
    obtain ⟨hid, hfingerprint⟩ :=
      h.created batch (List.mem_of_find?_eq_some hfind) hbatchFor
    rw [hid, hfingerprint]
    by_cases hsame : requestFingerprint env replay = requestFingerprint env command
    · rw [if_neg (not_not.mpr hsame.symm), if_pos hsame]
    · rw [if_pos (Ne.symm hsame), if_neg hsame]
  · rename_i hfind
    have hother := List.find?_eq_none.mp hfind stored hstored
    rw [← isFor_congr hreplay.owner hreplay.key] at hfor
    exact absurd hfor hother

/-- The existing batch can be read. -/
theorem Stored.exists_view (h : Stored env command db) :
    ∃ view, db.view command.batchId command.ownerUserId = some view := by
  obtain ⟨stored, hstored, hfor⟩ := h.exists_batch
  have hid := (h.created stored hstored hfor).1
  have hfound : db.queryBatch command.batchId command.ownerUserId = some stored := by
    unfold ResearchStore.queryBatch
    rw [Option.filter_eq_some_iff, ← hid]
    exact ⟨Table.find?_of_mem hstored, decide_eq_true (isFor_iff.mp hfor).1⟩
  refine ⟨batchView stored (db.queryJobs command.batchId) (db.queryResults command.batchId), ?_⟩
  unfold ResearchStore.view
  rw [hfound]
  rfl

theorem answersReplays_of_tieFree (h : Platform env) (hstored : Stored env command db)
    (hfree : StableSort.TieFree (sourceLe env) command.sources) :
    AnswersReplays env command db := by
  intro outbox replay now hreplay
  have hcommit := @commitBatch_replay env command replay now db outbox hstored hreplay
  constructor
  · intro hsame
    obtain ⟨view, hview⟩ := hstored.exists_view
    refine ⟨view, hview, ?_⟩
    have hsources := StableSort.mergeSort_eq_of_perm h.sources hfree hsame.sources
    rw [if_pos ((requestFingerprint_eq_iff h).mpr ⟨hsame.decisionTaskId, hsame.query, hsources⟩)]
      at hcommit
    unfold executeCreateBatch
    rw [hcommit]
    dsimp only
    rw [hreplay.owner, hview]
    rfl
  · intro hother
    rw [if_neg fun hsame => hother (sameRequest_of_fingerprint h hsame)] at hcommit
    unfold executeCreateBatch
    rw [hcommit]

theorem isInvalid_reverse : CreateBatchCommand.isInvalid
    { command with sources := command.sources.reverse } = command.isInvalid := by
  unfold CreateBatchCommand.isInvalid
  simp

/-- The request with its sources in the reverse order. -/
theorem tieFree_of_answersReplays (h : Platform env) (hdistinct : command.sources.Nodup)
    (hvalid : command.isInvalid = false) (hstored : Stored env command db)
    (hanswers : AnswersReplays env command db) :
    StableSort.TieFree (sourceLe env) command.sources := by
  intro a ha b hb hab hba
  by_contra hne
  have hreplay : Replays command { command with sources := command.sources.reverse } :=
    ⟨rfl, rfl, isInvalid_reverse.trans hvalid⟩
  obtain ⟨view, -, hexecuted⟩ :=
    (hanswers [] _ 0 hreplay).1 ⟨rfl, rfl, command.sources.reverse_perm⟩
  have hcommit := @commitBatch_replay env command _ 0 db [] hstored hreplay
  rw [if_neg] at hcommit
  · unfold executeCreateBatch at hexecuted
    rw [hcommit] at hexecuted
    cases hexecuted
  · intro hsame
    exact StableSort.mergeSort_reverse_ne h.sources hdistinct ha hb hab hba hne
      ((requestFingerprint_eq_iff h).mp hsame).2.2

end Replays

/-! ### A platform whose order ignores control characters -/

/-- Known digests; other texts have digests of another form. -/
def knownDigest (known : List (String × String)) (text : String) : String :=
  match known.find? fun entry => entry.1 = text with
  | some entry => entry.2
  | none => "-" ++ text

theorem knownDigest_injective {known : List (String × String)}
    (hdistinct : (known.map Prod.snd).Nodup)
    (hform : ∀ entry ∈ known, entry.2.toList.head? ≠ some '-') :
    Function.Injective (knownDigest known) := by
  have hother : ∀ entry ∈ known, ∀ text, entry.2 ≠ "-" ++ text := by
    intro entry hentry text hsame
    apply hform entry hentry
    rw [hsame, String.toList_append]
    rfl
  intro a b h
  unfold knownDigest at h
  split at h
  · rename_i first hfirst
    have ha := List.find?_some hfirst
    rw [decide_eq_true_eq] at ha
    split at h
    · rename_i second hsecond
      have hb := List.find?_some hsecond
      rw [decide_eq_true_eq] at hb
      have hsame := List.inj_on_of_nodup_map hdistinct (List.mem_of_find?_eq_some hfirst)
        (List.mem_of_find?_eq_some hsecond) h
      rw [← ha, ← hb, hsame]
    · exact absurd h (hother first (List.mem_of_find?_eq_some hfirst) _)
  · split at h
    · rename_i second hsecond
      exact absurd h.symm (hother second (List.mem_of_find?_eq_some hsecond) _)
    · have hchars := congrArg String.toList h
      rw [String.toList_append, String.toList_append, List.append_cancel_left_eq] at hchars
      exact String.toList_inj.mp hchars

/-- The characters that count in a collation: U+0000 to U+0008 are ignored. -/
def collated (text : String) : String := .ofList (text.toList.filter fun c => 8 < c.toNat)

def sampleSourceDigests : List (String × String) :=
  [(requestText "task" "query" [⟨"fixture", "a"⟩, ⟨"fixture", "b"⟩],
      "e90485ddf599406fa9968c1ac3bdb8df596fbc4b30fbfa3fb25a735440cba470"),
    (requestText "task" "query" [⟨"fixture", "a"⟩, ⟨"fixture", "a\x01"⟩],
      "b486ee8ee96e4b4b81e56ccd321951f1d7805dbe4a12757c34d2affb4d78271f"),
    (requestText "task" "query" [⟨"fixture", "a\x01"⟩, ⟨"fixture", "a"⟩],
      "aab82784e02386c439940ea3cd4838e0eab26dbea5eff51418f664a4faf5c7cf")]

/-- The elaborator is not to run it. -/
@[irreducible] def sampleSourceDigest (text : String) : String :=
  knownDigest sampleSourceDigests text

theorem sampleSourceDigest_injective : Function.Injective sampleSourceDigest := by
  intro a b h
  unfold sampleSourceDigest at h
  refine knownDigest_injective ?_ ?_ h
  · decide +kernel
  · decide +kernel

def sampleSourceEnv : ResearchEnvironment :=
  { sampleResearch with
    sha256 := sampleSourceDigest
    stringify := requestText
    localeLe := fun a b => decide (collated a ≤ collated b) }

theorem collated_preorder :
    StableSort.IsPreorder fun a b => decide (collated a ≤ collated b) where
  trans a b c hab hbc := by
    rw [decide_eq_true_eq] at hab hbc ⊢
    exact hab.trans hbc
  total a b := by
    rw [Bool.or_eq_true, decide_eq_true_eq, decide_eq_true_eq]
    exact le_total (collated a) (collated b)

theorem sampleSourceEnv_platform : Platform sampleSourceEnv :=
  ⟨collated_preorder, rfl, sampleSourceDigest_injective⟩

/-- A request of the sample task for some accounts of one source. -/
def sampleSources (sourceAccountIds : List String) : CreateBatchCommand :=
  { sampleBatch with
    sources := sourceAccountIds.map fun sourceAccountId => ⟨"fixture", sourceAccountId⟩ }

theorem normalizedSources_of_sorted {env : ResearchEnvironment} {command : CreateBatchCommand}
    (h : command.sources.Pairwise fun a b => sourceLe env a b = true) :
    normalizedSources env command = command.sources := by
  rw [normalizedSources_eq, List.mergeSort_of_pairwise h]

theorem creates_of_isOk {env : ResearchEnvironment} {command : CreateBatchCommand}
    (h : (createBatch env command 0 .empty).isOk = true) :
    ∃ created, Creates env command 0 .initial created := by
  cases hcreate : createBatch env command 0 .empty with
  | error error =>
    rw [hcreate] at h
    cases h
  | ok db =>
    refine ⟨{ ResearchWorld.initial with db }, ?_, ?_⟩
    · intro batch hbatch
      exact absurd hbatch (Table.not_mem_empty batch)
    · unfold researchStep ResearchWorld.initial
      dsimp only
      rw [hcreate]

end ChoiceMind.SourceResearch
