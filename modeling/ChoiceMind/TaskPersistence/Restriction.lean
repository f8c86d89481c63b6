import Mathlib.Data.List.Dedup
import ChoiceMind.TaskPersistence.Isolation
import ChoiceMind.TaskPersistence.Terminal

/-!
# Restricting an owner

`cancelActiveTasksForOwner` selects the newest operation of each task and cancels task by
task, in a transaction each, while other calls go on. Which operation is the newest of a
task does not change meanwhile, so an older one that is unfinished stays unfinished.
-/

namespace ChoiceMind.TaskPersistence

set_option autoImplicit false

open Contracts Transition

/-- The largest element of a mapped list is the image of the largest. -/
theorem argmax_map {α β γ : Type*} [LinearOrder γ] (g : α → β) (f : β → γ) (l : List α) :
    (l.map g).argmax f = (l.argmax fun a => f (g a)).map g := by
  induction l using List.reverseRecOn with
  | nil => rfl
  | append_singleton l a ih =>
    rw [List.map_append, List.map_singleton, List.argmax_concat, List.argmax_concat, ih]
    cases l.argmax fun a => f (g a) with
    | none => rfl
    | some b =>
      simp only [Option.map_some]
      split <;> rfl

variable {env : Environment} {db db' : Store} {now : Instant} {action : Action} {reply : Reply}
  {ownerUserId : String}

section Places

/-- What tells an operation from the others of its owner and orders it among them. -/
def Operation.place (row : Operation) : String × String × Instant :=
  (row.operationId, row.decisionTaskId, row.createdAt)

def Store.placesOwned (db : Store) (ownerUserId : String) : List (String × String × Instant) :=
  (db.operationsOwned ownerUserId).map Operation.place

/-- The id of the newest operation of a task. -/
def Store.latestId (db : Store) (ownerUserId decisionTaskId : String) : Option String :=
  (db.latestOperation decisionTaskId ownerUserId).map Operation.operationId

theorem latestId_eq (decisionTaskId : String) : db.latestId ownerUserId decisionTaskId =
    (((db.placesOwned ownerUserId).filter fun place => place.2.1 = decisionTaskId).argmax
      fun place => place.2.2).map Prod.fst := by
  have hof : db.operationsOf decisionTaskId ownerUserId =
      (db.operationsOwned ownerUserId).filter fun row => row.place.2.1 = decisionTaskId := by
    unfold Store.operationsOf Store.operationsOwned Table.select
    rw [List.filter_filter]
    rfl
  rw [Store.latestId, Store.latestOperation, hof, Store.placesOwned, List.filter_map, argmax_map,
    Option.map_map]
  rfl

theorem latestId_congr (h : db'.placesOwned ownerUserId = db.placesOwned ownerUserId)
    (decisionTaskId : String) :
    db'.latestId ownerUserId decisionTaskId = db.latestId ownerUserId decisionTaskId := by
  rw [latestId_eq, latestId_eq, h]

theorem placesOwned_congr (h : db'.operationsOwned ownerUserId = db.operationsOwned ownerUserId) :
    db'.placesOwned ownerUserId = db.placesOwned ownerUserId := by
  rw [Store.placesOwned, Store.placesOwned, h]

theorem ownerOf_congr (h : db'.submissions = db.submissions) {row row' : Operation}
    (hrequest : row'.executionRequestId = row.executionRequestId) :
    db'.ownerOf row' = db.ownerOf row := by
  rw [Store.ownerOf, Store.ownerOf, Store.submissionOf, Store.submissionOf, h, hrequest]

/-- An update that moves no operation to another request, task or time. -/
structure KeepsPlace (f : Operation → Operation) : Prop where
  executionRequestId : ∀ row, (f row).executionRequestId = row.executionRequestId
  decisionTaskId : ∀ row, (f row).decisionTaskId = row.decisionTaskId
  createdAt : ∀ row, (f row).createdAt = row.createdAt

theorem placesOwned_of_update {operationId : String} {f : Operation → Operation}
    {hf : ∀ row, (f row).operationId = row.operationId}
    (hsubmissions : db'.submissions = db.submissions)
    (hops : db'.operations = db.operations.update operationId f hf) (hkeeps : KeepsPlace f) :
    db'.placesOwned ownerUserId = db.placesOwned ownerUserId := by
  have howner : ∀ row, db'.ownerOf row = db.ownerOf row :=
    fun row => ownerOf_congr hsubmissions rfl
  simp only [Store.placesOwned, Store.operationsOwned, hops, howner]
  refine Table.map_select_update (fun row => ?_) fun row => ?_
  · rw [ownerOf_congr rfl (hkeeps.executionRequestId row)]
  · rw [Operation.place, hf, hkeeps.decisionTaskId, hkeeps.createdAt]
    rfl

theorem placesOwned_of_same (hsubmissions : db'.submissions = db.submissions)
    (hops : db'.operations = db.operations) :
    db'.placesOwned ownerUserId = db.placesOwned ownerUserId := by
  have howner : ∀ row, db'.ownerOf row = db.ownerOf row :=
    fun row => ownerOf_congr hsubmissions rfl
  simp only [Store.placesOwned, Store.operationsOwned, hops, howner]

/-- Only a submission or a purge of the owner changes where the owner's operations stand. -/
theorem Change.placesOwned (h : Change env db now action reply db')
    (hsubmit : ∀ command, action ≠ .submit command ownerUserId) :
    db'.placesOwned ownerUserId = db.placesOwned ownerUserId ∨
      ∀ row ∈ db'.operations, db'.ownerOf row ≠ some ownerUserId := by
  cases h with
  | frame hsame hreply => exact .inl (placesOwned_of_same hsame.submissions hsame.operations)
  | @submitted command other snapshot _ hops hreqs hdrawn hruns hsubmissions =>
    have hother : other ≠ ownerUserId := by
      rintro rfl
      exact hsubmit command rfl
    refine .inl (placesOwned_congr ?_)
    -- the new submission is another owner's
    have howner : ∀ row, (db'.ownerOf row = some ownerUserId ↔
        db.ownerOf row = some ownerUserId) := by
      intro row
      simp only [ownerOf_eq_some, Table.mem_insert? hsubmissions]
      constructor
      · rintro ⟨submission, hmem | rfl, hof, hkey⟩
        · exact ⟨submission, hmem, hof, hkey⟩
        · exact absurd hof hother
      · rintro ⟨submission, hmem, hof, hkey⟩
        exact ⟨submission, .inl hmem, hof, hkey⟩
    simp only [Store.operationsOwned, howner]
    refine Table.select_insert? hops (decide_eq_false ?_)
    rw [ownerOf_eq_some]
    rintro ⟨submission, hmem, -, hkey⟩
    exact Table.key_fresh_of_insert? hsubmissions submission hmem hkey
  | claimed hrow hclaimable hops hreqs hrun =>
    have hsubmissions : db'.submissions = db.submissions := by
      cases hrun with
      | current _ _ _ hruns => exact hruns.submissions
      | retried _ _ _ _ hsubmissions => exact hsubmissions
    exact .inl (placesOwned_of_update hsubmissions hops ⟨fun _ => rfl, fun _ => rfl, fun _ => rfl⟩)
  | controlRejected hrequest hclaimable hops hreqs hdrawn hruns =>
    exact .inl (placesOwned_of_same hruns.submissions hops)
  | controlClaimed hrequest hclaimable hoperation hconsistent hops hreqs hclaim hrun hdrawn
      hruns =>
    exact .inl (placesOwned_of_update hruns.submissions hops
      ⟨fun _ => rfl, fun _ => rfl, fun _ => rfl⟩)
  | completed hrow hdecoded hcompletable hsettle hcommitted hops hreqs hdrawn hruns =>
    exact .inl (placesOwned_of_update hruns.submissions hops
      ⟨hsettle.executionRequestId, hsettle.decisionTaskId, hsettle.createdAt⟩)
  | resumeRequested hoperation hpaused hops hreqs hdrawn hruns =>
    exact .inl (placesOwned_of_same hruns.submissions hops)
  | cancelled hoperation hops hreqs hdrawn hruns =>
    exact .inl (placesOwned_of_update hruns.submissions hops
      ⟨fun _ => rfl, fun _ => rfl, fun _ => rfl⟩)
  | @purged purged result _ hops hreqs hruns hevents hdrawn hsubmissions =>
    by_cases hsame : purged = ownerUserId
    · refine .inr fun row _ howner => ?_
      obtain ⟨submission, hmem, hof, -⟩ := ownerOf_eq_some.mp howner
      rw [hsubmissions, Table.mem_deleteWhere, decide_eq_false_iff_not] at hmem
      exact hmem.2 (hof.trans hsame.symm)
    · have howner : ∀ row, (db'.ownerOf row = some ownerUserId ↔
          db.ownerOf row = some ownerUserId) := by
        intro row
        simp only [ownerOf_eq_some, hsubmissions, Table.mem_deleteWhere, decide_eq_false_iff_not]
        constructor
        · rintro ⟨submission, ⟨hmem, -⟩, hof, hkey⟩
          exact ⟨submission, hmem, hof, hkey⟩
        · rintro ⟨submission, hmem, hof, hkey⟩
          exact ⟨submission, ⟨hmem, fun hpurged => hsame (hpurged.symm.trans hof)⟩, hof, hkey⟩
      refine .inl (placesOwned_congr ?_)
      simp only [Store.operationsOwned, howner, hops]
      refine Table.select_deleteWhere fun row hrow hof => decide_eq_false ?_
      rw [mem_scope_operationIds, operationOwner_of_mem hrow, of_decide_eq_true hof]
      exact fun heq => hsame (Option.some.inj heq).symm

end Places

section Open
variable {operationId : String}

/-- An unfinished operation of the owner. -/
def Store.isOpen (db : Store) (ownerUserId operationId : String) : Prop :=
  ∃ row ∈ db.operations, row.operationId = operationId ∧ db.ownerOf row = some ownerUserId ∧
    row.state.isFinal = false

/-- A step beside the loop: the owner submits nothing, and no operation of the owner
finishes by itself. -/
def quiet (ownerUserId : String) (db : Store) (action : Action) (db' : Store) : Prop :=
  (∀ command, action ≠ .submit command ownerUserId) ∧
    ∀ operationId, db.isOpen ownerUserId operationId → db'.isOpen ownerUserId operationId

/-- An operation of the owner after a step was one before, unless it was just submitted. -/
theorem Change.operation_origin (h : Change env db now action reply db')
    (hsubmit : ∀ command, action ≠ .submit command ownerUserId) {row : Operation}
    (hrow : row ∈ db'.operations) (howner : db'.ownerOf row = some ownerUserId) :
    ∃ old ∈ db.operations, old.operationId = row.operationId ∧
      db.ownerOf old = some ownerUserId := by
  rcases h.placesOwned hsubmit with hsame | hgone
  · have hplace : row.place ∈ db'.placesOwned ownerUserId :=
      List.mem_map_of_mem (Table.mem_select.mpr ⟨hrow, decide_eq_true howner⟩)
    rw [hsame] at hplace
    obtain ⟨old, hold, heq⟩ := List.mem_map.mp hplace
    obtain ⟨hmem, hof⟩ := Table.mem_select.mp hold
    exact ⟨old, hmem, congrArg Prod.fst heq, of_decide_eq_true hof⟩
  · exact absurd howner (hgone row hrow)

theorem quiet_isOpen (hregistered : Registered db)
    (hstep : step env db (now, action) = some (reply, db')) (hquiet : quiet ownerUserId db action db') :
    db'.isOpen ownerUserId operationId ↔ db.isOpen ownerUserId operationId := by
  refine ⟨?_, hquiet.2 operationId⟩
  rintro ⟨row, hrow, rfl, howner, hopen⟩
  have hchange := step_change hstep
  obtain ⟨old, hold, hkey, hof⟩ := hchange.operation_origin hquiet.1 hrow howner
  refine ⟨old, hold, hkey, hof, ?_⟩
  -- a finished operation would have been kept
  cases hfinal : old.state.isFinal with
  | false => rfl
  | true =>
    have hkept : FinalKept old db db' := by
      refine hchange.final_kept hregistered hold hfinal fun other hother => ?_
      obtain rfl : other = ownerUserId := by
        rw [hof] at hother
        exact (Option.some.inj hother).symm
      cases hpurge : commitsPurge other (now, action) reply with
      | false => rfl
      | true =>
        obtain ⟨result, hcommit⟩ := purge_of_commits hpurge hstep
        obtain rfl := purgePrivateDataForOwner_ok hcommit
        obtain ⟨submission, hmem, hsubmission, -⟩ := ownerOf_eq_some.mp howner
        have hdeleted : submission ∈ db.submissions ∧
            decide (submission.ownerUserId = other) = false := Table.mem_deleteWhere.mp hmem
        exact absurd hsubmission (of_decide_eq_false hdeleted.2)
    rw [Table.eq_of_key_eq hrow hkept.operation hkey.symm, hfinal] at hopen
    cases hopen

theorem quiet_latestId (hstep : step env db (now, action) = some (reply, db'))
    (hquiet : quiet ownerUserId db action db') :
    (∀ decisionTaskId, db'.latestId ownerUserId decisionTaskId =
        db.latestId ownerUserId decisionTaskId) ∨
      ∀ operationId, ¬ db'.isOpen ownerUserId operationId := by
  rcases (step_change hstep).placesOwned hquiet.1 with hsame | hgone
  · exact .inl (latestId_congr hsame)
  · refine .inr ?_
    rintro operationId ⟨row, hrow, -, howner, -⟩
    exact hgone row hrow howner

end Open

section Call
variable {input : RuntimeCancelRequestInput} {status : Option RuntimeControlStatus}

/-- What a call under a new request id does. -/
theorem requestRuntimeCancel_new (hnew : db.controlRequests.find? input.controlRequestId = none)
    (h : requestRuntimeCancel env input now db = .ok (status, db')) :
    (db.latestOperation input.decisionTaskId input.ownerUserId = none ∧ status = none ∧
        db' = db) ∨
      ∃ operation, db.latestOperation input.decisionTaskId input.ownerUserId = some operation ∧
        operation.state.isFinal = false ∧ status.isSome = true ∧
        db'.submissions = db.submissions ∧
        db'.operations = db.operations.update operation.operationId (cancelledOperation now)
          (cancelledOperation_operationId now) := by
  unfold requestRuntimeCancel at h
  split at h
  · rename_i hnone
    cases h
    exact .inl ⟨hnone, rfl, rfl⟩
  rename_i operation hlatest
  simp only [hnew] at h
  split at h
  · cases h
  rename_i hopen
  simp only [bind_eq_ok] at h
  obtain ⟨_, -, db₁, hinsert, db₂, hcontrol, db₃, hevent, _, -, h⟩ := h
  cases h
  obtain ⟨-, _, -, rfl⟩ := insertControlRequest_ok hinsert
  obtain ⟨_, rfl, -⟩ := cancelControlState_ok hcontrol
  have happends := insertTaskEvent_appends hevent
  exact .inr ⟨operation, hlatest, by simpa using hopen, rfl, happends.submissions,
    happends.operations⟩

/-- A call whose only error is `PersistenceUnavailableError`. -/
def OnlyUnavailable {α : Type} (x : Except PersistenceError α) : Prop :=
  ∀ error, x = .error error → error = .persistenceUnavailable

theorem onlyUnavailable_ok {α : Type} (a : α) : OnlyUnavailable (.ok a) := by
  intro error h
  cases h

theorem onlyUnavailable_unavailable {α : Type} : OnlyUnavailable (unavailable (α := α)) := by
  intro error h
  cases h
  rfl

theorem OnlyUnavailable.bind {α β : Type} {x : Except PersistenceError α}
    {f : α → Except PersistenceError β} (hx : OnlyUnavailable x)
    (hf : ∀ a, OnlyUnavailable (f a)) : OnlyUnavailable (x >>= f) := by
  intro error h
  cases x with
  | error first =>
    cases h
    exact hx _ rfl
  | ok a => exact hf a error h

theorem orUnavailable_only {α : Type} (value : Option α) : OnlyUnavailable (orUnavailable value) := by
  cases value with
  | none => exact onlyUnavailable_unavailable
  | some a => exact onlyUnavailable_ok a

theorem loadRunEvents_only (decisionTaskId agentRunId : String) :
    OnlyUnavailable (loadRunEvents decisionTaskId agentRunId db) := by
  simp only [loadRunEvents]
  split
  · exact onlyUnavailable_ok _
  · exact onlyUnavailable_unavailable

theorem insertControlRequest_only (request : ControlRequest) :
    OnlyUnavailable (insertControlRequest request db) := by
  unfold insertControlRequest
  split
  · exact onlyUnavailable_unavailable
  · exact (orUnavailable_only _).bind fun _ => onlyUnavailable_ok _

theorem cancelControlState_only (agentRunId cancellationId : String) (event : RunEvent) :
    OnlyUnavailable (cancelControlState agentRunId cancellationId event now db) := by
  unfold cancelControlState
  simp only
  split
  · exact (orUnavailable_only _).bind fun _ => onlyUnavailable_ok _
  · exact onlyUnavailable_ok _

theorem insertRunEvent_only (event : RunEvent) : OnlyUnavailable (insertRunEvent event now db) := by
  unfold insertRunEvent
  split
  · exact onlyUnavailable_unavailable
  split
  · exact onlyUnavailable_unavailable
  · exact (orUnavailable_only _).bind fun _ => (orUnavailable_only _).bind fun _ =>
      onlyUnavailable_ok _

theorem toRuntimeControlStatus_only (request : ControlRequest) :
    OnlyUnavailable (toRuntimeControlStatus request) := by
  unfold toRuntimeControlStatus
  simp only
  split_ifs <;> first | exact onlyUnavailable_unavailable | exact onlyUnavailable_ok _

/-- The rejection that the loop swallows says that the newest operation has finished. -/
theorem requestRuntimeCancel_race
    (h : requestRuntimeCancel env input now db = .error .runtimeCancelRace) :
    ∃ operation, db.latestOperation input.decisionTaskId input.ownerUserId = some operation ∧
      operation.state.isFinal = true := by
  unfold requestRuntimeCancel at h
  split at h
  · cases h
  rename_i operation hlatest
  simp only at h
  split at h
  · split at h
    · have herror := (toRuntimeControlStatus_only _).bind (fun _ => onlyUnavailable_ok _) _ h
      cases herror
    · cases h
  · split at h
    · rename_i hfinal
      exact ⟨operation, hlatest, hfinal⟩
    · have herror := (loadRunEvents_only _ _).bind (fun _ =>
        (insertControlRequest_only _).bind fun _ => (cancelControlState_only _ _ _).bind fun _ =>
        (insertRunEvent_only _).bind fun _ => (toRuntimeControlStatus_only _).bind fun _ =>
        onlyUnavailable_ok _) _ h
      cases herror

end Call

section Loop
variable {correlationId operationId : String}

/-- The store after two UUIDs are drawn. -/
def Store.drawTwo (db : Store) : Store := { db with uuidsDrawn := db.uuidsDrawn + 2 }

/-- An execution of the loop over the tasks that are left, with quiet steps of others in
between: the stores around each call, the count that is returned and the last store. -/
inductive CancelRun (env : Environment) (ownerUserId correlationId : String) :
    Store → List String → List (Store × Store) → Nat → Store → Prop where
  | returned (db : Store) : CancelRun env ownerUserId correlationId db [] [] 0 db
  | meanwhile {db db₁ db' : Store} {now : Instant} {action : Action} {reply : Reply}
      {tasks : List String} {calls : List (Store × Store)} {cancelled : Nat}
      (hstep : step env db (now, action) = some (reply, db₁))
      (hquiet : quiet ownerUserId db action db₁)
      (hrest : CancelRun env ownerUserId correlationId db₁ tasks calls cancelled db') :
      CancelRun env ownerUserId correlationId db tasks calls cancelled db'
  | called {db db₁ db' : Store} {now : Instant} {status : Option RuntimeControlStatus}
      {task : String} {tasks : List String} {calls : List (Store × Store)} {cancelled : Nat}
      (hnew : db.controlRequests.find?
        (lifecycleInput env ownerUserId correlationId task db).controlRequestId = none)
      (hcall : requestRuntimeCancel env (lifecycleInput env ownerUserId correlationId task db) now
        db.drawTwo = .ok (status, db₁))
      (hrest : CancelRun env ownerUserId correlationId db₁ tasks calls cancelled db') :
      CancelRun env ownerUserId correlationId db (task :: tasks) ((db, db₁) :: calls)
        (cancelled + if status.isSome then 1 else 0) db'
  | finished {db db' : Store} {now : Instant} {task : String} {tasks : List String}
      {calls : List (Store × Store)} {cancelled : Nat}
      (hcall : requestRuntimeCancel env (lifecycleInput env ownerUserId correlationId task db) now
        db.drawTwo = .error .runtimeCancelRace)
      (hrest : CancelRun env ownerUserId correlationId db.drawTwo tasks calls cancelled db') :
      CancelRun env ownerUserId correlationId db (task :: tasks) calls cancelled db'

/-- The operations that a call finished. -/
def cancelledBy (call : Store × Store) : List Operation :=
  call.1.operations.select fun row => !row.state.isFinal &&
    (call.2.operations.find? row.operationId).any fun later => later.state.isFinal

/-- The call touches no other owner's operation. -/
def sparesOthers (ownerUserId : String) (call : Store × Store) : Prop :=
  ∀ row, call.1.ownerOf row ≠ some ownerUserId →
    (row ∈ call.2.operations ↔ row ∈ call.1.operations)

/-- What one call of the loop does. -/
theorem called_effect {task : String} {status : Option RuntimeControlStatus} {db₁ : Store}
    (hnew : db.controlRequests.find?
      (lifecycleInput env ownerUserId correlationId task db).controlRequestId = none)
    (hcall : requestRuntimeCancel env (lifecycleInput env ownerUserId correlationId task db) now
      db.drawTwo = .ok (status, db₁)) :
    db₁.placesOwned ownerUserId = db.placesOwned ownerUserId ∧
      (∀ operationId, db₁.isOpen ownerUserId operationId ↔
        db.isOpen ownerUserId operationId ∧ db.latestId ownerUserId task ≠ some operationId) ∧
      sparesOthers ownerUserId (db, db₁) ∧
      (cancelledBy (db, db₁)).length = if status.isSome then 1 else 0 := by
  have hdrawn : db.drawTwo.controlRequests.find?
    (lifecycleInput env ownerUserId correlationId task db).controlRequestId = none := hnew
  rcases requestRuntimeCancel_new hdrawn hcall with
    ⟨hlatest, rfl, rfl⟩ | ⟨operation, hlatest, hopen, hstatus, hsubmissions, hops⟩
  · have hnone : db.latestId ownerUserId task = none :=
      congrArg (Option.map Operation.operationId) hlatest
    refine ⟨placesOwned_of_same rfl rfl, fun operationId => ?_, fun _ _ => Iff.rfl, ?_⟩
    · rw [hnone]
      exact ⟨fun hid => ⟨hid, nofun⟩, fun hid => hid.1⟩
    · change (cancelledBy (db, db.drawTwo)).length = 0
      rw [List.length_eq_zero_iff, cancelledBy, Table.select, List.filter_eq_nil_iff]
      intro row hrow
      have hfound : db.drawTwo.operations.find? row.operationId = some row :=
        Table.find?_of_mem hrow
      simp [hfound]
  · have hlatestId : db.latestId ownerUserId task = some operation.operationId :=
      congrArg (Option.map Operation.operationId) hlatest
    have hlatest' : db.latestOperation _ _ = some operation := hlatest
    obtain ⟨hmem, -, hof⟩ := latestOperation_mem hlatest'
    have howner : ∀ row, db₁.ownerOf row = db.ownerOf row :=
      fun row => ownerOf_congr hsubmissions rfl
    have hops' : db₁.operations = db.operations.update operation.operationId
      (cancelledOperation now) (cancelledOperation_operationId now) := hops
    have hother : ∀ row : Operation, row.operationId ≠ operation.operationId →
        (row ∈ db₁.operations ↔ row ∈ db.operations) := by
      intro row hne
      rw [hops']
      exact Table.mem_update_of_ne hne
    have hcancelled : db₁.operations.find? operation.operationId =
        some (cancelledOperation now operation) := by
      rw [hops', Table.find?_update_self, Table.find?_of_mem hmem]
      rfl
    have hsame : ∀ row ∈ db.operations, row.operationId = operation.operationId →
        row = operation := fun row hrow heq => Table.eq_of_key_eq hrow hmem heq
    refine ⟨placesOwned_of_update hsubmissions hops'
      ⟨fun _ => rfl, fun _ => rfl, fun _ => rfl⟩, fun operationId => ?_, fun row hrow => ?_, ?_⟩
    · rw [hlatestId]
      constructor
      · rintro ⟨row, hrow, rfl, hrowner, hrowopen⟩
        have hne : row.operationId ≠ operation.operationId := by
          intro heq
          have hfound := Table.find?_of_mem hrow
          rw [heq, hcancelled] at hfound
          cases hfound
          cases hrowopen
        refine ⟨⟨row, (hother row hne).mp hrow, rfl, (howner row).symm.trans hrowner, hrowopen⟩, ?_⟩
        rintro heq
        exact hne (Option.some.inj heq).symm
      · rintro ⟨⟨row, hrow, rfl, hrowner, hrowopen⟩, hne⟩
        have hdiffers : row.operationId ≠ operation.operationId :=
          fun heq => hne (congrArg some heq.symm)
        exact ⟨row, (hother row hdiffers).mpr hrow, rfl, (howner row).trans hrowner, hrowopen⟩
    · -- the cancelled operation is the owner's before and after
      by_cases hkey : row.operationId = operation.operationId
      · constructor
        · intro hafter
          have hfound := Table.find?_of_mem hafter
          rw [hkey, hcancelled] at hfound
          cases hfound
          exact absurd ((ownerOf_congr rfl rfl).trans hof) hrow
        · intro hbefore
          rw [hsame row hbefore hkey] at hrow
          exact absurd hof hrow
      · exact hother row hkey
    · have hselect : cancelledBy (db, db₁) =
          db.operations.select fun row => row.operationId = operation.operationId := by
        refine Table.select_congr fun row hrow => ?_
        by_cases hkey : row.operationId = operation.operationId
        · have hfinal : (cancelledOperation now operation).state.isFinal = true := rfl
          rw [hsame row hrow hkey]
          simp only [hcancelled, hopen, hfinal, Option.any_some, Bool.not_false, Bool.and_true,
            decide_true]
        · have hlater : db₁.operations.find? row.operationId = some row :=
            Table.find?_eq_some.mpr ⟨(hother row hkey).mpr hrow, rfl⟩
          simp [hlater, hkey]
      rw [hselect, Table.length_select_key hmem, hstatus]
      rfl

/-- A task that the loop passes over has no unfinished newest operation. -/
theorem finished_latest {task : String}
    (hcall : requestRuntimeCancel env (lifecycleInput env ownerUserId correlationId task db) now
      db.drawTwo = .error .runtimeCancelRace) (hopen : db.isOpen ownerUserId operationId) :
    db.latestId ownerUserId task ≠ some operationId := by
  obtain ⟨operation, hlatest, hfinal⟩ := requestRuntimeCancel_race hcall
  obtain ⟨row, hrow, rfl, -, hrowopen⟩ := hopen
  have hlatest' : db.latestOperation _ _ = some operation := hlatest
  have hmem : operation ∈ db.operations := (latestOperation_mem hlatest').1
  have hlatestId : db.latestId ownerUserId task = some operation.operationId :=
    congrArg (Option.map Operation.operationId) hlatest
  rw [hlatestId]
  intro heq
  rw [Table.eq_of_key_eq hrow hmem (Option.some.inj heq).symm, hfinal] at hrowopen
  cases hrowopen

theorem Registered.drawTwo (h : Registered db) : Registered db.drawTwo where
  operations := h.operations
  logged := h.logged
  requests := h.requests

/-- A call of the loop is a step of the store in which the two UUIDs are drawn. -/
theorem called_step {input : RuntimeCancelRequestInput} {status : Option RuntimeControlStatus}
    (hcall : requestRuntimeCancel env input now db.drawTwo = .ok (status, db')) :
    step env db.drawTwo (now, .requestRuntimeCancel input) =
      some (.controlStatus status, db') := by
  simp only [step, perform, hcall]
  rfl

theorem registered_called (hregistered : Registered db) {input : RuntimeCancelRequestInput}
    {status : Option RuntimeControlStatus}
    (hcall : requestRuntimeCancel env input now db.drawTwo = .ok (status, db')) :
    Registered db' :=
  hregistered.drawTwo.change (step_change (called_step hcall))

/-- What the whole loop does, by induction over its execution. -/
theorem cancelRun_effect {tasks : List String} {calls : List (Store × Store)} {cancelled : Nat}
    (h : CancelRun env ownerUserId correlationId db tasks calls cancelled db')
    (hregistered : Registered db) :
    (∀ operationId, db'.isOpen ownerUserId operationId ↔ db.isOpen ownerUserId operationId ∧
        ∀ task ∈ tasks, db.latestId ownerUserId task ≠ some operationId) ∧
      (∀ call ∈ calls, sparesOthers ownerUserId call) ∧
      cancelled = (calls.map fun call => (cancelledBy call).length).sum := by
  induction h with
  | returned db =>
    refine ⟨fun operationId => ?_, ?_, rfl⟩
    · simp
    · intro call hcall
      cases hcall
  | @meanwhile db db₁ db' now action reply tasks calls cancelled hstep hquiet hrest ih =>
    obtain ⟨hopen, hspares, hcount⟩ := ih (hregistered.change (step_change hstep))
    refine ⟨fun operationId => ?_, hspares, hcount⟩
    rw [hopen operationId, ← quiet_isOpen hregistered hstep hquiet]
    rcases quiet_latestId hstep hquiet with hsame | hnone
    · simp only [hsame]
    · constructor
      · intro hboth
        exact absurd hboth.1 (hnone operationId)
      · intro hboth
        exact absurd hboth.1 (hnone operationId)
  | @called db db₁ db' now status task tasks calls cancelled hnew hcall hrest ih =>
    obtain ⟨hplaces, hcalled, hspare, hlength⟩ := called_effect hnew hcall
    obtain ⟨hopen, hspares, hcount⟩ := ih (registered_called hregistered hcall)
    refine ⟨fun operationId => ?_, ?_, ?_⟩
    · rw [hopen operationId, hcalled operationId]
      simp only [latestId_congr hplaces, List.forall_mem_cons, and_assoc]
    · intro call hmem
      rcases List.mem_cons.mp hmem with rfl | hlater
      · exact hspare
      · exact hspares call hlater
    · rw [List.map_cons, List.sum_cons, hlength, hcount]
      omega
  | @finished db db' now task tasks calls cancelled hcall hrest ih =>
    obtain ⟨hopen, hspares, hcount⟩ := ih hregistered.drawTwo
    refine ⟨fun operationId => ?_, hspares, hcount⟩
    rw [hopen operationId, List.forall_mem_cons]
    constructor
    · intro hboth
      exact ⟨hboth.1, finished_latest hcall hboth.1, hboth.2⟩
    · intro hboth
      exact ⟨hboth.1, hboth.2.2⟩

theorem registered_of_cancelRun {tasks : List String} {calls : List (Store × Store)}
    {cancelled : Nat} (h : CancelRun env ownerUserId correlationId db tasks calls cancelled db')
    (hregistered : Registered db) : Registered db' := by
  induction h with
  | returned db => exact hregistered
  | meanwhile hstep hquiet hrest ih => exact ih (hregistered.change (step_change hstep))
  | called hnew hcall hrest ih => exact ih (registered_called hregistered hcall)
  | finished hcall hrest ih => exact ih hregistered.drawTwo

/-- No stored request has an id that the loop may draw. -/
def FreshIds (env : Environment) (db : Store) : Prop :=
  ∀ request ∈ db.controlRequests, ∀ n, db.uuidsDrawn ≤ n →
    request.controlRequestId ≠ "account-lifecycle-" ++ env.randomUUID n

theorem FreshIds.drawTwo (h : FreshIds env db) : FreshIds env db.drawTwo := by
  intro request hrequest n hdrawn
  refine h request hrequest n ?_
  have hle : db.uuidsDrawn + 2 ≤ n := hdrawn
  omega

theorem FreshIds.called (h : FreshIds env db) {task : String}
    {status : Option RuntimeControlStatus}
    (hcall : requestRuntimeCancel env (lifecycleInput env ownerUserId correlationId task db) now
      db.drawTwo = .ok (status, db')) : FreshIds env db' := by
  have hchange := step_change (called_step hcall)
  have hdrawn : db.uuidsDrawn + 2 ≤ db'.uuidsDrawn := hchange.drawn_le
  generalize haction : Action.requestRuntimeCancel _ = action at hchange
  cases hchange with
  | frame hsame hreply =>
    intro request hrequest n hn
    rw [hsame.controlRequests] at hrequest
    exact h request hrequest n (by omega)
  | cancelled hoperation hops hreqs =>
    cases haction
    intro request hrequest n hn
    rcases (Table.mem_insert? hreqs).mp hrequest with hold | rfl
    · exact h request hold n (by omega)
    · intro heq
      have hsame : env.randomUUID db.uuidsDrawn = env.randomUUID n :=
        String.append_right_inj _ |>.mp heq
      have hindex := env.randomUUID_injective hsame
      omega
  | _ => cases haction

/-- The loop of the source, without other steps in between, is an execution. -/
theorem cancelRun_of_cancelTasks {tasks : List String} {returned before : Nat}
    (hfresh : FreshIds env db)
    (h : cancelTasks env ownerUserId correlationId now tasks before db = (.ok returned, db')) :
    ∃ calls cancelled, returned = before + cancelled ∧
      CancelRun env ownerUserId correlationId db tasks calls cancelled db' := by
  induction tasks generalizing before db with
  | nil =>
    cases h
    exact ⟨[], 0, rfl, .returned _⟩
  | cons task tasks ih =>
    have hnew : db.controlRequests.find?
        (lifecycleInput env ownerUserId correlationId task db).controlRequestId = none :=
      Table.find?_eq_none.mpr fun request hrequest => hfresh request hrequest _ (le_refl _)
    simp only [cancelTasks] at h
    split at h
    · rename_i status db₁ hcall
      obtain ⟨calls, cancelled, hcount, hrest⟩ := ih (hfresh.called hcall) h
      refine ⟨_, _, ?_, .called hnew hcall hrest⟩
      simp only [Option.isSome_some, if_true]
      omega
    · rename_i db₁ hcall
      obtain ⟨calls, cancelled, hcount, hrest⟩ := ih (hfresh.called hcall) h
      exact ⟨_, _, hcount, .called hnew hcall hrest⟩
    · rename_i hcall
      obtain ⟨calls, cancelled, hcount, hrest⟩ := ih hfresh.drawTwo h
      exact ⟨_, _, hcount, .finished hcall hrest⟩
    · cases h

theorem cancelRun_of_cancelActiveTasks {returned : Nat} (hfresh : FreshIds env db)
    (h : cancelActiveTasksForOwner env ownerUserId correlationId now db = (.ok returned, db')) :
    ∃ calls, CancelRun env ownerUserId correlationId db (db.activeTasks env ownerUserId) calls
      returned db' := by
  obtain ⟨calls, cancelled, hcount, hrun⟩ := cancelRun_of_cancelTasks hfresh h
  rw [Nat.zero_add] at hcount
  exact ⟨calls, hcount ▸ hrun⟩

end Loop

section Restricted
variable {correlationId : String}

/-- The step hands the operation to a worker, or commits a completion of it. -/
def usesOperation (operationId : String) (label : Instant × Action) (reply : Reply) : Bool :=
  reply.handsOut = some operationId ||
    match label.2, reply with
    | .complete id _ _ _, .completion completion =>
      id = operationId && completion ≠ .notCompletable
    | _, _ => false

theorem usesOperation_of_isInert {operationId : String} (h : reply.isInert = true) :
    usesOperation operationId (now, action) reply = false := by
  unfold usesOperation
  rw [Reply.handsOut_of_isInert h]
  cases reply with
  | completion completion =>
    obtain rfl : completion = .notCompletable := of_decide_eq_true h
    cases action <;> simp
  | _ => cases action <;> rfl

/-- A finished operation is neither handed out nor completed. -/
theorem Change.final_unused (h : Change env db now action reply db') {row : Operation}
    (hrow : row ∈ db.operations) (hfinal : row.state.isFinal = true) :
    usesOperation row.operationId (now, action) reply = false := by
  have hapart : ∀ {other : Operation} {id : String}, db.operations.find? id = some other →
      other.state.isFinal = false → id ≠ row.operationId := by
    intro other id hfound hopen hsame
    rw [hsame, Table.find?_of_mem hrow] at hfound
    cases hfound
    rw [hfinal] at hopen
    cases hopen
  cases h with
  | frame hsame hreply => exact usesOperation_of_isInert hreply
  | claimed hfound hclaimable hops hreqs hclaimed =>
    have hne := hapart hfound (Operation.open_of_claimable hclaimable)
    simp [usesOperation, Reply.handsOut, hne]
  | controlClaimed hrequest hclaimable hfound hconsistent hops hreqs hclaim hof hdrawn hruns =>
    have hne := hapart hfound (RuntimeControlClaimRow.open_of_consistent hconsistent)
    simp [usesOperation, Reply.handsOut, hclaim, hne]
  | completed hfound hdecoded hcompletable hsettle hcommitted hops hreqs hdrawn hruns =>
    have hne := hapart hfound (Operation.open_of_completable hcompletable)
    simp [usesOperation, Reply.handsOut, hne]
  | _ => rfl

/-- What a restriction of an owner is for, of the calls of its loop, the count that it
returns and the store in which it returns. -/
structure Restricted (env : Environment) (ownerUserId : String) (calls : List (Store × Store))
    (cancelled : Nat) (db : Store) : Prop where
  finished : ∀ row ∈ db.operations, db.ownerOf row = some ownerUserId →
    row.state.isFinal = true
  unused : ∀ row ∈ db.operations, db.ownerOf row = some ownerUserId → ∀ es db',
    Run (step env) db es db' →
    (∀ e ∈ es, ∀ owner, e.before.ownerOf row = some owner →
      commitsPurge owner e.label e.reply = false) →
    ∀ e ∈ es, usesOperation row.operationId e.label e.reply = false
  spares : ∀ call ∈ calls, sparesOthers ownerUserId call
  counted : cancelled = (calls.map fun call => (cancelledBy call).length).sum

/-- A finished operation is not used in any further step until its owner is purged. -/
theorem final_unused_along (hregistered : Registered db)
    {es : List (Entry Store (Instant × Action) Reply)} (h : Run (step env) db es db')
    {row : Operation} (hrow : row ∈ db.operations) (hfinal : row.state.isFinal = true)
    (hunpurged : ∀ e ∈ es, ∀ owner, e.before.ownerOf row = some owner →
      commitsPurge owner e.label e.reply = false) :
    ∀ e ∈ es, usesOperation row.operationId e.label e.reply = false := by
  induction h with
  | nil =>
    intro e he
    cases he
  | @cons s t u a r fs hstep hrest ih =>
    have hchange := step_change hstep
    have hkept : FinalKept row s t :=
      hchange.final_kept hregistered hrow hfinal (hunpurged _ List.mem_cons_self)
    intro e he
    rcases List.mem_cons.mp he with rfl | hlater
    · exact hchange.final_unused hrow hfinal
    · exact ih (hregistered.change hchange) hkept.operation
        (fun f hf => hunpurged f (List.mem_cons_of_mem _ hf)) e hlater

/-- Every unfinished operation of the owner is the newest one of its task. -/
def newestOnly (ownerUserId : String) (db : Store) : Prop :=
  ∀ row ∈ db.operations, db.ownerOf row = some ownerUserId →
    row.state.isFinal = true ∨
      db.latestId ownerUserId row.decisionTaskId = some row.operationId

theorem mem_activeTasks {decisionTaskId : String} :
    decisionTaskId ∈ db.activeTasks env ownerUserId ↔
      ∃ operation, db.latestOperation decisionTaskId ownerUserId = some operation ∧
        operation.state.isFinal = false := by
  unfold Store.activeTasks
  simp only [List.mem_insertionSort, List.mem_filter, List.mem_dedup, List.mem_map,
    Table.mem_select, decide_eq_true_eq, Option.any_eq_true, Bool.not_eq_true']
  constructor
  · intro hactive
    exact hactive.2
  · rintro ⟨operation, hlatest, hopen⟩
    obtain ⟨hmem, htask, howner⟩ := latestOperation_mem hlatest
    exact ⟨⟨operation, ⟨hmem, howner⟩, htask⟩, operation, hlatest, hopen⟩

/-- The loop is over the tasks of which an unfinished operation is the newest. -/
theorem isOpen_passed_over :
    (∃ operationId, db.isOpen ownerUserId operationId ∧
        ∀ task ∈ db.activeTasks env ownerUserId,
          db.latestId ownerUserId task ≠ some operationId) ↔
      ¬ newestOnly ownerUserId db := by
  unfold newestOnly
  push Not
  constructor
  · rintro ⟨_, ⟨row, hrow, rfl, howner, hopen⟩, hpassed⟩
    refine ⟨row, hrow, howner, by simp [hopen], fun hlatestId => ?_⟩
    obtain ⟨operation, hlatest, hkey⟩ := Option.map_eq_some_iff.mp hlatestId
    have hmem := (latestOperation_mem hlatest).1
    rw [Table.eq_of_key_eq hmem hrow hkey] at hlatest
    exact hpassed row.decisionTaskId (mem_activeTasks.mpr ⟨row, hlatest, hopen⟩) hlatestId
  · rintro ⟨row, hrow, howner, hopen, hnewer⟩
    refine ⟨row.operationId, ⟨row, hrow, rfl, howner, by simpa using hopen⟩, ?_⟩
    intro task _ hlatestId
    obtain ⟨operation, hlatest, hkey⟩ := Option.map_eq_some_iff.mp hlatestId
    obtain ⟨hmem, htask, -⟩ := latestOperation_mem hlatest
    rw [Table.eq_of_key_eq hmem hrow hkey] at htask
    rw [htask] at hnewer
    exact hnewer hlatestId

/-- A restriction stops all of the owner's work exactly when no unfinished operation of the
owner has a newer one of the same task. -/
theorem restriction_stops_iff {es : List (Entry Store (Instant × Action) Reply)}
    {calls : List (Store × Store)} {cancelled : Nat} (hrun : Run (step env) Store.empty es db)
    (h : CancelRun env ownerUserId correlationId db (db.activeTasks env ownerUserId) calls
      cancelled db') :
    Restricted env ownerUserId calls cancelled db' ↔ newestOnly ownerUserId db := by
  have hregistered := registered_of_run hrun
  obtain ⟨hopen, hspares, hcount⟩ := cancelRun_effect h hregistered
  have hnone : (∀ row ∈ db'.operations, db'.ownerOf row = some ownerUserId →
      row.state.isFinal = true) ↔ ¬ ∃ operationId, db'.isOpen ownerUserId operationId := by
    constructor
    · rintro hfinal ⟨_, row, hrow, rfl, howner, hrowopen⟩
      rw [hfinal row hrow howner] at hrowopen
      cases hrowopen
    · intro hnone row hrow howner
      cases hfinal : row.state.isFinal with
      | true => rfl
      | false => exact absurd ⟨row.operationId, row, hrow, rfl, howner, hfinal⟩ hnone
  have hiff : (¬ ∃ operationId, db'.isOpen ownerUserId operationId) ↔
      newestOnly ownerUserId db := by
    simp only [hopen]
    rw [isOpen_passed_over, not_not]
  constructor
  · intro hrestricted
    exact hiff.mp (hnone.mp hrestricted.finished)
  · intro hnewest
    have hfinished := hnone.mpr (hiff.mpr hnewest)
    refine ⟨hfinished, fun row hrow howner fs _ hlater hunpurged => ?_, hspares, hcount⟩
    exact final_unused_along (registered_of_cancelRun h hregistered) hlater hrow
      (hfinished row hrow howner) hunpurged

/-- Two submissions under one task id. -/
def submittedTwice : List (Instant × Action) :=
  [(0, .submit (sampleCommand "first") "owner"),
   (1, .submit (sampleCommand "second") "owner")]

/-- The same, with the first operation cancelled before the second submission. -/
def submittedAgain : List (Instant × Action) :=
  [(0, .submit (sampleCommand "first") "owner"),
   (1, .requestRuntimeCancel ⟨"control", "task", "owner", "cancellation", "correlation"⟩),
   (2, .submit (sampleCommand "second") "owner")]

/-- What the loop returns and the store in which it does. -/
def restrict (db : Store) : Option (Nat × Store) :=
  match cancelActiveTasksForOwner sampleEnv "owner" "restriction" 3 db with
  | (.ok cancelled, db') => some (cancelled, db')
  | _ => none

theorem restrict_run {cancelled : Nat} (hfresh : FreshIds sampleEnv db)
    (h : restrict db = some (cancelled, db')) :
    ∃ calls, CancelRun sampleEnv "owner" "restriction" db (db.activeTasks sampleEnv "owner")
      calls cancelled db' := by
  unfold restrict at h
  split at h
  · rename_i hrun
    cases h
    exact cancelRun_of_cancelActiveTasks hfresh hrun
  · cases h

/-- The ids of stored requests do not start as those of the loop do. -/
theorem freshIds_of_head (h : ∀ request ∈ db.controlRequests,
    request.controlRequestId.toList.head? ≠ some 'a') : FreshIds env db := by
  intro request hrequest n _ heq
  have hhead := h request hrequest
  rw [heq, String.toList_append] at hhead
  exact hhead rfl

set_option maxRecDepth 4000 in
/-- The older of two operations of a task stays accepted, and is handed to a worker after the
restriction has returned. -/
theorem older_submission_survives :
    ∃ es db calls cancelled db', Run (step sampleEnv) Store.empty es db ∧
      clockAdvances es = true ∧
      CancelRun sampleEnv "owner" "restriction" db (db.activeTasks sampleEnv "owner") calls
        cancelled db' ∧
      (∃ row ∈ db'.operations, db'.ownerOf row = some "owner" ∧ row.state = .accepted ∧
        ∃ later db'', Run (step sampleEnv) db' later db'' ∧
          ∃ e ∈ later, e.reply.handsOut = some row.operationId) ∧
      ¬ Restricted sampleEnv "owner" calls cancelled db' := by
  have hexec : (exec (step sampleEnv) Store.empty submittedTwice).any (fun result =>
      clockAdvances result.1 && (decide (result.2.controlRequests.rows = []) &&
        (restrict result.2).any fun restricted =>
          restricted.2.operations.rows.any fun row =>
            decide (restricted.2.ownerOf row = some "owner") && (decide (row.state = .accepted) &&
              (exec (step sampleEnv) restricted.2 [(4, .claimNext row.operationId "worker" 10)]).any
                fun later => later.1.any fun e =>
                  decide (e.reply.handsOut = some row.operationId)))) = true := by
    decide +kernel
  obtain ⟨es, db, hrun, hcheck⟩ := exists_run_of_exec hexec
  simp only [Bool.and_eq_true, decide_eq_true_eq, Option.any_eq_true, List.any_eq_true] at hcheck
  obtain ⟨hclock, hrequests, ⟨cancelled, db'⟩, hrestrict, row, hrow, howner, hstate,
    ⟨later, db''⟩, hlater, e, he, hclaimed⟩ := hcheck
  have hfresh : FreshIds sampleEnv db := by
    intro request hrequest
    rw [← Table.mem_rows, hrequests] at hrequest
    cases hrequest
  obtain ⟨calls, hcancel⟩ := restrict_run hfresh hrestrict
  refine ⟨es, db, calls, cancelled, db', hrun, hclock, hcancel,
    ⟨row, hrow, howner, hstate, later, db'', run_of_exec hlater, e, he, hclaimed⟩, ?_⟩
  intro hrestricted
  have hfinal := hrestricted.finished row hrow howner
  rw [hstate] at hfinal
  cases hfinal

set_option maxRecDepth 4000 in
theorem restriction_stops_iff_again :
    ∃ es db calls db', Run (step sampleEnv) Store.empty es db ∧ db.operations.rows.length = 2 ∧
      CancelRun sampleEnv "owner" "restriction" db (db.activeTasks sampleEnv "owner") calls 1
        db' ∧ Restricted sampleEnv "owner" calls 1 db' := by
  have hexec : (exec (step sampleEnv) Store.empty submittedAgain).any (fun result =>
      decide (result.2.operations.rows.length = 2) &&
        (decide (∀ request ∈ result.2.controlRequests,
            request.controlRequestId.toList.head? ≠ some 'a') &&
          (decide (∀ row ∈ result.2.operations, result.2.ownerOf row = some "owner" →
              row.state.isFinal = true ∨
                result.2.latestId "owner" row.decisionTaskId = some row.operationId) &&
            (restrict result.2).any fun restricted => decide (restricted.1 = 1)))) = true := by
    decide +kernel
  obtain ⟨es, db, hrun, hcheck⟩ := exists_run_of_exec hexec
  simp only [Bool.and_eq_true, decide_eq_true_eq, Option.any_eq_true] at hcheck
  obtain ⟨hlength, hhead, hnewest, ⟨cancelled, db'⟩, hrestrict, rfl⟩ := hcheck
  obtain ⟨calls, hcancel⟩ := restrict_run (freshIds_of_head hhead) hrestrict
  exact ⟨es, db, calls, db', hrun, hlength, hcancel,
    (restriction_stops_iff hrun hcancel).mpr hnewest⟩

end Restricted

end ChoiceMind.TaskPersistence
