import ChoiceMind.Orchestrator.Invocations

/-!
# The results of `execute`

Which results that the executor assembles the contract's decoder accepts: all of them but
those of attempts that ended retryably.
-/

namespace ChoiceMind.Orchestrator

set_option autoImplicit false

open Contracts TaskPersistence Transition

variable {options : ExecutorOptions}

/-- `decodeDecisionTaskResultV1(result).ok` -/
def ContractValid (result : DecisionTaskResult) : Prop :=
  decodeDecisionTaskResultV1 result = .ok result

/-- The answers that make an attempt end with `FAILED_RETRYABLE`. -/
def RuntimeAnswer.AsksForRetry (forPersistence : Bool) : RuntimeAnswer → Prop
  | .output value =>
    (value.paused.bind fun outcome => (decodeRuntimePausedOutcomeV1 outcome).toOption) = none ∧
    ∃ outcome, value.explicit = some outcome ∧ isExplicitRuntimeOutcome outcome = true ∧
      outcome.state = .failedRetryable
  | .error code => forPersistence = true ∧ code = some "PERSISTENCE_UNAVAILABLE"

theorem createRuntimeFailedResult_schemaHolds {decisionTaskId agentRunId : String}
    {retryMode : RetryMode} (htask : decisionTaskId ≠ "") :
    (createRuntimeFailedResult decisionTaskId agentRunId retryMode).schemaHolds = true ↔
      agentRunId ≠ "" := by
  have hfirst : isMeaningful "已创建合成决策任务" = true := rfl
  have hsecond : isMeaningful "合成 Runtime 执行失败" = true := rfl
  have hmessage : isMeaningful "决策任务失败" = true := rfl
  simp [createRuntimeFailedResult, DecisionTaskResult.schemaHolds, FailedTaskStatus.schemaHolds,
    eventsSchemaHolds, RunEvent.fieldChecks, ChoiceMindError.schemaHolds, nonEmpty, isSafeInteger,
    htask, hfirst, hsecond, hmessage]

theorem createRuntimeFailedResult_invariants {decisionTaskId agentRunId : String}
    {retryMode : RetryMode} :
    checkDecisionTaskResultInvariants
      (createRuntimeFailedResult decisionTaskId agentRunId retryMode) = [] ↔
      retryMode = .newExecutionAllowed := by
  cases retryMode <;> simp [createRuntimeFailedResult, checkDecisionTaskResultInvariants, runEventIssues,
    errorSemanticsIssues, errorSemanticsByCode, failedResultIssues, forEachIssue]

theorem createRuntimeFailedResult_valid_iff {decisionTaskId agentRunId : String}
    {retryMode : RetryMode} (htask : decisionTaskId ≠ "") :
    ContractValid (createRuntimeFailedResult decisionTaskId agentRunId retryMode) ↔
      agentRunId ≠ "" ∧ retryMode = .newExecutionAllowed := by
  rw [ContractValid, decodeDecisionTaskResultV1_eq_ok,
    createRuntimeFailedResult_schemaHolds htask, createRuntimeFailedResult_invariants]
  exact and_iff_right rfl

theorem conflictingAttempt_valid : ContractValid conflictingAttempt.result := by
  unfold ContractValid
  decide +kernel

theorem createFailedExecutionAttempt_valid_iff {decisionTaskId agentRunId : String}
    (htask : decisionTaskId ≠ "") :
    ContractValid (createFailedExecutionAttempt decisionTaskId agentRunId).result ↔
      agentRunId ≠ "" := by
  rw [createFailedExecutionAttempt, createRuntimeFailedResult_valid_iff htask]
  exact and_iff_left rfl

/-- A finalized output is a checked result, or the attempt failed. -/
theorem finalizeRuntimeOutput_cases (call : Call) (output : Option RuntimeRunOutput) :
    finalizeRuntimeOutput call output =
        createFailedExecutionAttempt call.decisionTaskId call.agentRunId ∨
      ∃ value : SuccessfulDecisionTaskResult,
        finalizeRuntimeOutput call output = ⟨.succeeded value, .result (.succeeded value)⟩ ∧
        value.taskStatus.agentRunId = call.agentRunId ∧
        value.taskStatus.decisionTaskId = call.decisionTaskId ∧
        ContractValid (.succeeded value) := by
  unfold finalizeRuntimeOutput
  split
  · exact .inl rfl
  split
  · exact .inl rfl
  split
  · rename_i value hfinalized
    obtain ⟨hdraft, hvalid⟩ := finalize_eq_ok.mp hfinalized
    have hstatus := congrArg SuccessfulDecisionTaskResultDraft.taskStatus hdraft
    refine .inr ⟨value, rfl, ?_, ?_, hvalid⟩
    · exact (congrArg CompletedTaskStatus.agentRunId hstatus).symm
    · exact (congrArg CompletedTaskStatus.decisionTaskId hstatus).symm
  · exact .inl rfl

/-- An accepted result names a run. -/
theorem agentRunId_of_valid {value : SuccessfulDecisionTaskResult}
    (h : ContractValid (.succeeded value)) : value.taskStatus.agentRunId ≠ "" := by
  obtain ⟨-, hschema, -⟩ := decodeDecisionTaskResultV1_eq_ok.mp h
  simp only [DecisionTaskResult.schemaHolds, CompletedTaskStatus.schemaHolds, Bool.and_eq_true]
    at hschema
  obtain ⟨⟨⟨⟨⟨⟨⟨-, hrun⟩, -⟩, -⟩, -⟩, -⟩, -⟩, -⟩ := hschema
  exact of_decide_eq_true hrun

theorem finalizeRuntimeOutput_valid_iff {call : Call} {output : Option RuntimeRunOutput}
    (htask : call.decisionTaskId ≠ "") :
    ContractValid (finalizeRuntimeOutput call output).result ↔ call.agentRunId ≠ "" := by
  rcases finalizeRuntimeOutput_cases call output with hfailed | ⟨value, hvalue, hrun, -, hvalid⟩
  · rw [hfailed]
    exact createFailedExecutionAttempt_valid_iff htask
  · rw [hvalue, ← hrun]
    exact iff_of_true hvalid (agentRunId_of_valid hvalid)

/-- The result of an attempt, from the context of its call and the runtime's answer. -/
theorem executeOnce_valid_iff {call : Call} {answer : RuntimeAnswer}
    (htask : call.decisionTaskId ≠ "") :
    ContractValid (executeOnce call answer).result ↔
      call.agentRunId ≠ "" ∧ ¬ answer.AsksForRetry call.forPersistence := by
  cases answer with
  | output value =>
    simp only [executeOnce]
    split
    · rename_i hpaused
      rw [createRuntimeFailedResult_valid_iff htask]
      simp [RuntimeAnswer.AsksForRetry, hpaused]
    · rename_i hpaused
      split
      · rename_i outcome hexplicit
        obtain ⟨hsome, hmeaningful⟩ := Option.filter_eq_some_iff.mp hexplicit
        rw [createRuntimeFailedResult_valid_iff htask]
        simp [RuntimeAnswer.AsksForRetry, hpaused, hsome, hmeaningful]
      · rename_i hexplicit
        rw [finalizeRuntimeOutput_valid_iff htask]
        rw [Option.filter_eq_none_iff] at hexplicit
        have hasks : ¬ RuntimeAnswer.AsksForRetry call.forPersistence (.output value) := by
          rintro ⟨-, outcome, hsome, hmeaningful, -⟩
          exact hexplicit outcome hsome hmeaningful
        exact (and_iff_left hasks).symm
  | error code =>
    simp only [executeOnce, RuntimeAnswer.AsksForRetry, Bool.and_eq_true, decide_eq_true_eq]
    split
    · rename_i hunavailable
      rw [createRuntimeFailedResult_valid_iff htask]
      simp [hunavailable]
    · rename_i hother
      rw [createFailedExecutionAttempt_valid_iff htask]
      simp [hother]

/-! ### Runs -/

/-- Every call is made with a command that decodes. -/
def CallsValid (es : List (Entry Executor Event Reply)) : Prop :=
  ∀ e ∈ es, ∀ call, e.label = .call call →
    decodeExecuteDecisionTaskCommandV1 call.command.command = .ok call.command.command

theorem decisionTaskId_of_valid {command : ExecuteDecisionTaskCommand}
    (h : decodeExecuteDecisionTaskCommandV1 command = .ok command) :
    command.requirementRevision.decisionTaskId ≠ "" := by
  unfold decodeExecuteDecisionTaskCommandV1 at h
  split at h
  · rename_i hfields
    simp only [ExecuteDecisionTaskCommand.fieldChecks, RequirementRevision.fieldChecks,
      fieldChecksHold_cons, fieldChecksHold_below, fieldChecksHold_append, Bool.and_eq_true]
      at hfields
    obtain ⟨-, ⟨⟨⟨⟨⟨⟨⟨⟨-, htask, -⟩, -⟩, -⟩, -⟩, -⟩, -⟩, -⟩, -⟩⟩ := hfields
    exact of_decide_eq_true htask
  · cases h

/-- What all calls have in common, the calls of the attempts have. -/
theorem attempts_of_calls {P : Call → Prop} {executor : Executor}
    {es : List (Entry Executor Event Reply)}
    (hrun : Run (step options) Executor.empty es executor)
    (hcalls : ∀ e ∈ es, ∀ call, e.label = .call call → P call) :
    ∀ attempt ∈ executor.attempts, P attempt.call := by
  have hstep : ∀ {before event reply after},
      (∀ attempt ∈ before.attempts, P attempt.call) → (∀ call, event = .call call → P call) →
      step options before event = some (reply, after) →
      ∀ attempt ∈ after.attempts, P attempt.call := by
    intro before event reply after hbefore hcall h attempt hin
    by_cases hevent : ∃ call, event = .call call
    · obtain ⟨call, rfl⟩ := hevent
      cases h
      have hcases := executeAttempt_cases options call before
      generalize executeAttempt options call before = result at hcases hin
      cases hcases with
      | started =>
        rcases List.mem_append.mp hin with hold | hnew
        · exact hbefore attempt hold
        · rw [List.mem_singleton.mp hnew]
          exact hcall call rfl
      | joined => exact hbefore attempt hin
      | conflict => exact hbefore attempt hin
    · have hkept := calls_kept h fun call heq => hevent ⟨call, heq⟩
      have hold := List.mem_map_of_mem (f := Attempt.call) hin
      rw [hkept, List.mem_map] at hold
      obtain ⟨old, hold, hsame⟩ := hold
      exact hsame ▸ hbefore old hold
  exact hrun.invariant (G := fun _ event => ∀ call, event = .call call → P call) hstep
    (fun e he call hlabel => hcalls e he call hlabel) (List.forall_mem_nil _)

/-- What `execute` resolves to for the promise that it got. -/
def Executor.executed (executor : Executor) (promise : AttemptPromise) :
    Option DecisionTaskResult :=
  (executor.await promise).map DecisionTaskExecutionAttempt.result

/-- The attempt behind a promise was made for a run, and the runtime asked for no retry. -/
def EndedFinally (executor : Executor) : AttemptPromise → Prop
  | .attempt index => ∀ attempt answer, executor.attempts[index]? = some attempt →
    attempt.answer = some answer →
      attempt.call.agentRunId ≠ "" ∧ ¬ answer.AsksForRetry attempt.call.forPersistence
  | .resolved _ => True

theorem execute_valid_iff {es : List (Entry Executor Event Reply)} {executor : Executor}
    (hrun : Run (step options) Executor.empty es executor) (hvalid : CallsValid es)
    {e : Entry Executor Event Reply} (he : e ∈ es) {promise : AttemptPromise}
    (hreply : e.reply = .promise promise) {result : DecisionTaskResult}
    (hresult : executor.executed promise = some result) :
    ContractValid result ↔ EndedFinally executor promise := by
  rw [Executor.executed, Option.map_eq_some_iff] at hresult
  obtain ⟨completed, hawait, rfl⟩ := hresult
  cases promise with
  | attempt index =>
    simp only [Executor.await, Option.bind_eq_some_iff, Attempt.completed,
      Option.map_eq_some_iff] at hawait
    obtain ⟨attempt, hfound, answer, hanswer, rfl⟩ := hawait
    have htask : attempt.call.decisionTaskId ≠ "" :=
      attempts_of_calls (P := fun call => call.decisionTaskId ≠ "") hrun
        (fun e he call hlabel => decisionTaskId_of_valid (hvalid e he call hlabel)) attempt
        (List.mem_of_getElem? hfound)
    rw [executeOnce_valid_iff htask, EndedFinally]
    constructor
    · intro hended other found hother hfoundAnswer
      rw [hfound] at hother
      cases hother
      rw [hanswer] at hfoundAnswer
      cases hfoundAnswer
      exact hended
    · intro hended
      exact hended attempt answer hfound hanswer
  | resolved attempt =>
    -- only a conflict is answered without an attempt
    have hattempt : attempt = conflictingAttempt := by
      have hentry := hrun.entry_step he
      obtain ⟨before, label, reply, after⟩ := e
      cases hreply
      cases label with
      | call call =>
        have hcases := executeAttempt_cases options call before
        simp only [step, Option.some.injEq, Prod.mk.injEq, Reply.promise.injEq] at hentry
        generalize executeAttempt options call before = answered at hcases hentry
        cases hcases with
        | started => cases hentry.1
        | joined => cases hentry.1
        | conflict => exact (AttemptPromise.resolved.inj hentry.1).symm
      | answer index answer => simp [step] at hentry
      | continuation index => simp [step] at hentry
    cases hawait
    rw [hattempt]
    exact iff_of_true conflictingAttempt_valid trivial

/-- A call of `execute`. -/
def sampleExecute : Call := { sampleCall "run-1" with forPersistence := false }

/-- The executor after one call of `execute` and the runtime's answer to it. -/
def executedOnce (answer : RuntimeAnswer) : Executor :=
  { (startAttempt sampleOptions sampleExecute .empty).2 with
    attempts := [⟨sampleExecute, some answer⟩] }

theorem run_executedOnce (answer : RuntimeAnswer) : ∃ e f,
    Run (step sampleOptions) Executor.empty [e, f] (executedOnce answer) ∧
      CallsValid [e, f] ∧ e.label = .call sampleExecute ∧ e.reply = .promise (.attempt 0) := by
  have hstarted : step sampleOptions Executor.empty (.call sampleExecute) =
      some (.promise (.attempt 0), (startAttempt sampleOptions sampleExecute .empty).2) := by
    apply step_started
    intro receipt hfound
    cases hfound
  have hanswered : step sampleOptions (startAttempt sampleOptions sampleExecute .empty).2
      (.answer 0 answer) = some (.done, executedOnce answer) := rfl
  refine ⟨_, _, .cons hstarted (.cons hanswered (.nil _)), ?_, rfl, rfl⟩
  intro e he call hlabel
  rcases List.mem_cons.mp he with rfl | he
  · cases hlabel
    decide +kernel
  · cases List.mem_singleton.mp he
    cases hlabel

/-- `execute` returns a result that the contract rejects when the runtime asks for a retry. -/
theorem retryable_result_rejected : ∃ es executor,
    Run (step sampleOptions) Executor.empty es executor ∧ CallsValid es ∧
      ∃ e ∈ es, e.label = .call sampleExecute ∧ e.reply = .promise (.attempt 0) ∧
        ∃ result, executor.executed (.attempt 0) = some result ∧ ¬ ContractValid result := by
  obtain ⟨e, f, hrun, hvalid, hlabel, hreply⟩ := run_executedOnce retryableAnswer
  refine ⟨_, _, hrun, hvalid, e, List.mem_cons_self, hlabel, hreply, _, rfl, ?_⟩
  unfold ContractValid
  decide +kernel

/-- A thrown error is returned as a valid failure. -/
theorem thrown_error_result_valid : ∃ (executor : Executor) (result : DecisionTaskResult),
    executor.executed (.attempt 0) = some result ∧ ContractValid result := by
  obtain ⟨e, f, hrun, hvalid, -, hreply⟩ := run_executedOnce (.error none)
  refine ⟨executedOnce (.error none), (executeOnce sampleExecute (.error none)).result, rfl, ?_⟩
  apply (execute_valid_iff hrun hvalid List.mem_cons_self hreply rfl).mpr
  intro attempt answer hattempt hanswer
  cases hattempt
  cases hanswer
  refine ⟨by decide, ?_⟩
  rintro ⟨hpersistence, -⟩
  cases hpersistence

end ChoiceMind.Orchestrator
