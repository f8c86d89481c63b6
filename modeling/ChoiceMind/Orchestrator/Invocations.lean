import ChoiceMind.Contracts.Canonical
import ChoiceMind.Orchestrator.Executor
import ChoiceMind.TaskPersistence.System

/-!
# At most one invocation at a time

The receipts of an executor against its attempts and its history: an id has the receipt of
the first command that came under it, the receipt holds the last attempt of the id, and it
holds none only when every attempt of the id ended retryably.
-/

namespace ChoiceMind.Orchestrator

set_option autoImplicit false

open Contracts TaskPersistence Transition

variable {options : ExecutorOptions}

/-! ### Fingerprints -/

theorem CommandValue.same_iff {value other : CommandValue} :
    value.value.Same other.value ↔ value.command = other.command := by
  have htyped : ∀ v : CommandValue, canonicalize naturalText v.value =
      canonicalize naturalText v.command.toJson := fun v =>
    (canonicalize_eq_iff v.distinct (distinct_command v.command)).mpr v.reads
  have hvalues : canonicalize naturalText value.value = canonicalize naturalText other.value ↔
      value.value.Same other.value := canonicalize_eq_iff value.distinct other.distinct
  rw [← hvalues, htyped, htyped, canonicalize_eq_iff (distinct_command _) (distinct_command _),
    command_same_iff]

/-- The fingerprint tells commands apart up to the order of their keys. -/
theorem fingerprint_eq_iff {value other : CommandValue} :
    options.fingerprint value = options.fingerprint other ↔ value.value.Same other.value :=
  canonicalize_eq_iff value.distinct other.distinct

/-! ### What a history says -/

def Attempt.executionRequestId (attempt : Attempt) : String := attempt.call.executionRequestId

/-- The runtime ended the attempt with `FAILED_RETRYABLE`. -/
def Attempt.EndedRetryably (attempt : Attempt) : Prop :=
  ∃ completed, attempt.completed = some completed ∧
    isRetryableOutcome completed.persistentOutcome = true

/-- The command of a call for an id. -/
def commandFor (executionRequestId : String) : Event → Option CommandValue
  | .call call =>
    if call.executionRequestId = executionRequestId then some call.command else none
  | _ => none

/-- The command of the first call for an id. -/
def firstCommand (executionRequestId : String) (es : List (Entry Executor Event Reply)) :
    Option CommandValue :=
  es.findSome? fun e => commandFor executionRequestId e.label

/-- The attempt of an id that was started last. -/
structure IsLast (attempts : List Attempt) (executionRequestId : String) (index : Nat) : Prop where
  here : ∃ attempt, attempts[index]? = some attempt ∧
    attempt.executionRequestId = executionRequestId
  later : ∀ j attempt, attempts[j]? = some attempt →
    attempt.executionRequestId = executionRequestId → j ≤ index

/-- How a call is answered when `first` was the first command under its id. -/
inductive Answered (first : CommandValue) (call : Call) (before : Executor) :
    Reply → Executor → Prop
  /-- no attempt of the id runs, and those there were ended retryably -/
  | started (after : Executor) :
    call.command.value.Same first.value →
    (∀ attempt ∈ before.attempts, attempt.executionRequestId = call.executionRequestId →
      attempt.EndedRetryably) →
    after.attempts = before.attempts ++ [⟨call, none⟩] →
    Answered first call before (.promise (.attempt before.attempts.length)) after
  | joined (index : Nat) :
    call.command.value.Same first.value →
    IsLast before.attempts call.executionRequestId index →
    Answered first call before (.promise (.attempt index)) before
  | conflict :
    ¬ call.command.value.Same first.value →
    Answered first call before (.promise (.resolved conflictingAttempt)) before

/-! ### Single steps -/

/-- The three ways through `executeAttempt`. -/
inductive Executed (options : ExecutorOptions) (call : Call) (executor : Executor) :
    AttemptPromise × Executor → Prop
  | started : (∀ receipt, executor.receipts.find? call.executionRequestId = some receipt →
      receipt.fingerprint = options.fingerprint call.command ∧ receipt.attempt = none) →
    Executed options call executor (startAttempt options call executor)
  | joined (receipt : Receipt) (index : Nat) :
    executor.receipts.find? call.executionRequestId = some receipt →
    receipt.fingerprint = options.fingerprint call.command → receipt.attempt = some index →
    Executed options call executor (.attempt index, executor)
  | conflict (receipt : Receipt) :
    executor.receipts.find? call.executionRequestId = some receipt →
    receipt.fingerprint ≠ options.fingerprint call.command →
    Executed options call executor (.resolved conflictingAttempt, executor)

theorem executeAttempt_cases (options : ExecutorOptions) (call : Call) (executor : Executor) :
    Executed options call executor (executeAttempt options call executor) := by
  unfold executeAttempt
  cases hfound : executor.receipts.find? call.executionRequestId with
  | none =>
    apply Executed.started
    intro receipt hreceipt
    rw [hfound] at hreceipt
    cases hreceipt
  | some receipt =>
    by_cases hfingerprint : receipt.fingerprint = options.fingerprint call.command
    · simp only [hfingerprint, if_true]
      cases hattempt : receipt.attempt with
      | none =>
        apply Executed.started
        intro other hother
        rw [hfound] at hother
        cases hother
        exact ⟨hfingerprint, hattempt⟩
      | some index => exact .joined receipt index hfound hfingerprint hattempt
    · simp only [hfingerprint, if_false]
      exact .conflict receipt hfound hfingerprint

/-- An answer is recorded for an attempt that had none. -/
theorem answerAttempt_eq_some {index : Nat} {answer : RuntimeAnswer} {executor next : Executor}
    (h : answerAttempt index answer executor = some next) :
    ∃ call, executor.attempts[index]? = some ⟨call, none⟩ ∧
      next = { executor with attempts := executor.attempts.set index ⟨call, some answer⟩ } := by
  unfold answerAttempt at h
  split at h
  · rename_i call hfound
    cases h
    exact ⟨call, hfound, rfl⟩
  · cases h

/-- A continuation forgets an attempt that ended retryably, or it changes nothing. -/
theorem continueAttempt_eq_some {index : Nat} {executor next : Executor}
    (h : continueAttempt options index executor = some next) :
    next = executor ∨ ∃ attempt receipt, executor.attempts[index]? = some attempt ∧
      attempt.EndedRetryably ∧
      executor.receipts.find? attempt.executionRequestId = some receipt ∧
      receipt.attempt = some index ∧
      next = { executor with receipts := (executor.receipts.set
        ⟨attempt.executionRequestId, options.fingerprint attempt.call.command, none⟩) } := by
  unfold continueAttempt at h
  split at h
  · rename_i call answer hfound
    split at h
    · rename_i hforget
      cases h
      rw [Bool.and_eq_true, decide_eq_true_eq, Option.bind_eq_some_iff] at hforget
      obtain ⟨hretryable, receipt, hreceipt, hindex⟩ := hforget
      exact .inr ⟨_, receipt, hfound, ⟨_, rfl, hretryable⟩, hreceipt, hindex, rfl⟩
    · cases h
      exact .inl rfl
  · cases h

/-! ### Attempts keep their calls and answers -/

/-- Attempts are only added, and an answer stays. -/
structure Extends (before after : Executor) : Prop where
  kept : ∀ (index : Nat) (attempt : Attempt), before.attempts[index]? = some attempt →
    ∃ later : Attempt, after.attempts[index]? = some later ∧ later.call = attempt.call ∧
      ∀ answer, attempt.answer = some answer → later.answer = some answer

namespace Extends
variable {before middle after : Executor}

theorem of_attempts_eq (h : after.attempts = before.attempts) : Extends before after where
  kept := by
    intro index attempt hfound
    rw [h]
    exact ⟨attempt, hfound, rfl, fun answer hanswer => hanswer⟩

theorem trans (h : Extends before middle) (h' : Extends middle after) : Extends before after where
  kept := by
    intro index attempt hfound
    obtain ⟨next, hnext, hcall, hanswer⟩ := h.kept index attempt hfound
    obtain ⟨later, hlater, hcall', hanswer'⟩ := h'.kept index next hnext
    refine ⟨later, hlater, hcall'.trans hcall, ?_⟩
    intro answer hold
    exact hanswer' answer (hanswer answer hold)

/-- An awaited value is awaited again later. -/
theorem await_eq (h : Extends before after) {promise : AttemptPromise}
    {completed : DecisionTaskExecutionAttempt} (hawait : before.await promise = some completed) :
    after.await promise = some completed := by
  cases promise with
  | resolved attempt => exact hawait
  | attempt index =>
    simp only [Executor.await, Option.bind_eq_some_iff] at hawait ⊢
    obtain ⟨attempt, hfound, hcompleted⟩ := hawait
    obtain ⟨later, hlater, hcall, hanswer⟩ := h.kept index attempt hfound
    refine ⟨later, hlater, ?_⟩
    rw [Attempt.completed, Option.map_eq_some_iff] at hcompleted ⊢
    obtain ⟨answer, hold, hvalue⟩ := hcompleted
    exact ⟨answer, hanswer answer hold, by rw [hcall, hvalue]⟩

end Extends

theorem extends_startAttempt (call : Call) (executor : Executor) :
    Extends executor (startAttempt options call executor).2 where
  kept := by
    intro index attempt hfound
    have hlt := (List.getElem?_eq_some_iff.mp hfound).1
    refine ⟨attempt, ?_, rfl, fun answer hanswer => hanswer⟩
    rw [← hfound]
    exact List.getElem?_append_left hlt

theorem extends_answered {executor : Executor} {index : Nat} {call : Call}
    {answer : RuntimeAnswer} (hfound : executor.attempts[index]? = some ⟨call, none⟩) :
    Extends executor
      { executor with attempts := executor.attempts.set index ⟨call, some answer⟩ } where
  kept := by
    intro k attempt hk
    by_cases heq : index = k
    · subst heq
      rw [hfound] at hk
      cases hk
      refine ⟨⟨call, some answer⟩, ?_, rfl, fun other hother => ?_⟩
      · exact List.getElem?_set_self (List.getElem?_eq_some_iff.mp hfound).1
      · cases hother
    · refine ⟨attempt, ?_, rfl, fun other hother => hother⟩
      rw [← hk]
      exact List.getElem?_set_ne heq

theorem extends_step {executor next : Executor} {event : Event} {reply : Reply}
    (h : step options executor event = some (reply, next)) : Extends executor next := by
  cases event with
  | call call =>
    cases h
    have hcases := executeAttempt_cases options call executor
    generalize executeAttempt options call executor = result at hcases
    cases hcases with
    | started => exact extends_startAttempt call executor
    | joined => exact .of_attempts_eq rfl
    | conflict => exact .of_attempts_eq rfl
  | answer index answer =>
    simp only [step, Option.map_eq_some_iff] at h
    obtain ⟨_, hanswer, heq⟩ := h
    obtain ⟨call, hfound, rfl⟩ := answerAttempt_eq_some hanswer
    cases heq
    exact extends_answered hfound
  | continuation index =>
    simp only [step, Option.map_eq_some_iff] at h
    obtain ⟨_, hcontinue, heq⟩ := h
    cases heq
    obtain rfl | ⟨_, _, -, -, -, -, rfl⟩ := continueAttempt_eq_some hcontinue
    · exact .of_attempts_eq rfl
    · exact .of_attempts_eq rfl

theorem extends_run {executor final : Executor} {es : List (Entry Executor Event Reply)}
    (hrun : Run (step options) executor es final) : Extends executor final := by
  induction hrun with
  | nil => exact .of_attempts_eq rfl
  | cons hstep _ ih => exact (extends_step hstep).trans ih

/-! ### The receipts know the attempts -/

theorem Attempt.EndedRetryably.answered {attempt : Attempt} (h : attempt.EndedRetryably) :
    attempt.answer ≠ none := by
  obtain ⟨completed, hcompleted, -⟩ := h
  intro hnone
  simp [Attempt.completed, hnone] at hcompleted

/-- Of two attempts of one id, the earlier one ended retryably. -/
def Serial (attempts : List Attempt) : Prop :=
  ∀ (i j : Nat) (first second : Attempt), i < j → attempts[i]? = some first →
    attempts[j]? = some second → first.executionRequestId = second.executionRequestId →
    first.EndedRetryably

structure Coherent (options : ExecutorOptions) (executor : Executor) : Prop where
  recorded : ∀ attempt ∈ executor.attempts, ∃ receipt,
    executor.receipts.find? attempt.executionRequestId = some receipt ∧
    receipt.fingerprint = options.fingerprint attempt.call.command
  held : ∀ id receipt index, executor.receipts.find? id = some receipt →
    receipt.attempt = some index → IsLast executor.attempts id index
  forgotten : ∀ id receipt, executor.receipts.find? id = some receipt →
    receipt.attempt = none → ∀ attempt ∈ executor.attempts,
      attempt.executionRequestId = id → attempt.EndedRetryably
  serial : Serial executor.attempts

theorem coherent_empty : Coherent options Executor.empty where
  recorded := List.forall_mem_nil _
  held := by
    intro id receipt index hfound
    cases hfound
  forgotten := by
    intro id receipt hfound
    cases hfound
  serial := by
    intro i j first second _ hfirst
    cases hfirst

/-- An appended attempt, or an earlier one. -/
theorem getElem?_append_attempt {attempts : List Attempt} {added attempt : Attempt} {k : Nat}
    (h : (attempts ++ [added])[k]? = some attempt) :
    attempts[k]? = some attempt ∨ k = attempts.length ∧ attempt = added := by
  by_cases hlt : k < attempts.length
  · rw [List.getElem?_append_left hlt] at h
    exact .inl h
  · rw [List.getElem?_append_right (Nat.le_of_not_lt hlt), List.getElem?_singleton] at h
    split at h
    · cases h
      exact .inr ⟨by omega, rfl⟩
    · cases h

namespace IsLast
variable {attempts : List Attempt} {id : String} {index : Nat} {added : Attempt}

theorem append (h : IsLast attempts id index) (hadded : added.executionRequestId ≠ id) :
    IsLast (attempts ++ [added]) id index where
  here := by
    obtain ⟨attempt, hfound, hid⟩ := h.here
    refine ⟨attempt, ?_, hid⟩
    rw [List.getElem?_append_left (List.getElem?_eq_some_iff.mp hfound).1]
    exact hfound
  later := by
    intro j attempt hj hid
    rcases getElem?_append_attempt hj with hold | ⟨-, rfl⟩
    · exact h.later j attempt hold hid
    · exact absurd hid hadded

theorem appended : IsLast (attempts ++ [added]) added.executionRequestId attempts.length where
  here := ⟨added, by simp, rfl⟩
  later := by
    intro j attempt hj _
    rcases getElem?_append_attempt hj with hold | ⟨rfl, -⟩
    · exact Nat.le_of_lt (List.getElem?_eq_some_iff.mp hold).1
    · exact Nat.le_refl _

end IsLast

namespace Coherent
variable {executor : Executor}

/-- No attempt runs under an id whose receipt holds none. -/
theorem idle (h : Coherent options executor) {id : String}
    (hnone : ∀ receipt, executor.receipts.find? id = some receipt → receipt.attempt = none) :
    ∀ attempt ∈ executor.attempts, attempt.executionRequestId = id →
      attempt.EndedRetryably := by
  intro attempt hin hid
  obtain ⟨receipt, hfound, -⟩ := h.recorded attempt hin
  rw [hid] at hfound
  exact h.forgotten id receipt hfound (hnone receipt hfound) attempt hin hid

theorem startAttempt (h : Coherent options executor) {call : Call}
    (hstart : ∀ receipt, executor.receipts.find? call.executionRequestId = some receipt →
      receipt.fingerprint = options.fingerprint call.command ∧ receipt.attempt = none) :
    Coherent options (startAttempt options call executor).2 where
  recorded := by
    intro attempt hin
    simp only [Orchestrator.startAttempt, Table.find?_set]
    by_cases hid : attempt.executionRequestId = call.executionRequestId
    · rw [if_pos hid]
      refine ⟨_, rfl, ?_⟩
      rcases List.mem_append.mp hin with hold | hnew
      · obtain ⟨receipt, hfound, hfingerprint⟩ := h.recorded attempt hold
        rw [hid] at hfound
        rw [← hfingerprint, (hstart receipt hfound).1]
      · rw [List.mem_singleton.mp hnew]
    · rw [if_neg hid]
      rcases List.mem_append.mp hin with hold | hnew
      · exact h.recorded attempt hold
      · rw [List.mem_singleton.mp hnew] at hid
        exact absurd rfl hid
  held := by
    intro id receipt index hfound hindex
    simp only [Orchestrator.startAttempt, Table.find?_set] at hfound
    split at hfound
    · rename_i hid
      cases hfound
      cases hindex
      rw [hid]
      exact .appended
    · rename_i hid
      exact (h.held id receipt index hfound hindex).append fun heq => hid heq.symm
  forgotten := by
    intro id receipt hfound hnone attempt hin hid
    simp only [Orchestrator.startAttempt, Table.find?_set] at hfound
    split at hfound
    · cases hfound
      cases hnone
    · rename_i hother
      rcases List.mem_append.mp hin with hold | hnew
      · exact h.forgotten id receipt hfound hnone attempt hold hid
      · rw [List.mem_singleton.mp hnew] at hid
        exact absurd hid.symm hother
  serial := by
    intro i j first second hij hfirst hsecond hid
    rcases getElem?_append_attempt hfirst with hfirst | ⟨rfl, -⟩
    · rcases getElem?_append_attempt hsecond with hsecond | ⟨-, rfl⟩
      · exact h.serial i j first second hij hfirst hsecond hid
      · exact h.idle (fun receipt hfound => (hstart receipt hfound).2) first
          (List.mem_of_getElem? hfirst) hid
    · have hlt := (List.getElem?_eq_some_iff.mp hsecond).1
      simp only [Orchestrator.startAttempt, List.length_append, List.length_singleton] at hlt
      omega

/-- An answered attempt is the old one with its answer; attempts that had one are as before. -/
theorem answered_cases {attempts : List Attempt} {index k : Nat} {call : Call}
    {answer : RuntimeAnswer} {attempt : Attempt} (hfound : attempts[index]? = some ⟨call, none⟩)
    (hk : (attempts.set index ⟨call, some answer⟩)[k]? = some attempt) :
    ∃ old, attempts[k]? = some old ∧ old.call = attempt.call ∧
      (old.EndedRetryably → attempt = old) := by
  by_cases heq : index = k
  · subst heq
    rw [List.getElem?_set_self (List.getElem?_eq_some_iff.mp hfound).1] at hk
    cases hk
    exact ⟨_, hfound, rfl, fun hended => absurd rfl hended.answered⟩
  · rw [List.getElem?_set_ne heq] at hk
    exact ⟨attempt, hk, rfl, fun _ => rfl⟩

theorem answerAttempt (h : Coherent options executor) {index : Nat} {call : Call}
    {answer : RuntimeAnswer} (hfound : executor.attempts[index]? = some ⟨call, none⟩) :
    Coherent options
      { executor with attempts := executor.attempts.set index ⟨call, some answer⟩ } where
  recorded := by
    intro attempt hin
    obtain ⟨k, hk⟩ := List.mem_iff_getElem?.mp hin
    obtain ⟨old, hold, hcall, -⟩ := answered_cases hfound hk
    have hrecorded := h.recorded old (List.mem_of_getElem? hold)
    rwa [Attempt.executionRequestId, hcall] at hrecorded
  held := by
    intro id receipt k hreceipt hk
    have hlast := h.held id receipt k hreceipt hk
    constructor
    · obtain ⟨attempt, hattempt, hid⟩ := hlast.here
      obtain ⟨later, hlater, hcall, -⟩ := (extends_answered hfound).kept k attempt hattempt
      exact ⟨later, hlater, by rw [← hid, Attempt.executionRequestId, hcall]; rfl⟩
    · intro j attempt hj hid
      obtain ⟨old, hold, hcall, -⟩ := answered_cases hfound hj
      apply hlast.later j old hold
      rw [← hid, Attempt.executionRequestId, hcall]
      rfl
  forgotten := by
    intro id receipt hreceipt hnone attempt hin hid
    obtain ⟨k, hk⟩ := List.mem_iff_getElem?.mp hin
    obtain ⟨old, hold, hcall, hended⟩ := answered_cases hfound hk
    have hretryable : old.EndedRetryably := by
      apply h.forgotten id receipt hreceipt hnone old (List.mem_of_getElem? hold)
      rw [← hid, Attempt.executionRequestId, hcall]
      rfl
    rwa [hended hretryable]
  serial := by
    intro i j first second hij hfirst hsecond hid
    obtain ⟨old, hold, hcall, hended⟩ := answered_cases hfound hfirst
    obtain ⟨oldSecond, holdSecond, hcallSecond, -⟩ := answered_cases hfound hsecond
    have hretryable : old.EndedRetryably := by
      apply h.serial i j old oldSecond hij hold holdSecond
      rw [Attempt.executionRequestId, Attempt.executionRequestId, hcall, hcallSecond]
      exact hid
    rwa [hended hretryable]

theorem forget (h : Coherent options executor) {index : Nat} {attempt : Attempt}
    {receipt : Receipt} (hattempt : executor.attempts[index]? = some attempt)
    (hended : attempt.EndedRetryably)
    (hreceipt : executor.receipts.find? attempt.executionRequestId = some receipt)
    (hindex : receipt.attempt = some index) :
    Coherent options { executor with receipts := (executor.receipts.set
      ⟨attempt.executionRequestId, options.fingerprint attempt.call.command, none⟩) } where
  recorded := by
    intro other hin
    obtain ⟨found, hfound, hfingerprint⟩ := h.recorded other hin
    simp only [Table.find?_set]
    split
    · rename_i hid
      obtain ⟨own, hown, hownFingerprint⟩ := h.recorded attempt (List.mem_of_getElem? hattempt)
      rw [hid, hown] at hfound
      cases hfound
      exact ⟨_, rfl, hownFingerprint.symm.trans hfingerprint⟩
    · exact ⟨found, hfound, hfingerprint⟩
  held := by
    intro id other k hfound hk
    simp only [Table.find?_set] at hfound
    split at hfound
    · cases hfound
      cases hk
    · exact h.held id other k hfound hk
  forgotten := by
    intro id other hfound hnone old hin hid
    simp only [Table.find?_set] at hfound
    split at hfound
    · rename_i hsame
      subst hsame
      -- the forgotten attempt is the last of its id, and the earlier ones ended before it
      obtain ⟨k, hk⟩ := List.mem_iff_getElem?.mp hin
      have hle := (h.held _ receipt index hreceipt hindex).later k old hk hid
      rcases Nat.lt_or_eq_of_le hle with hlt | rfl
      · exact h.serial k index old attempt hlt hk hattempt hid
      · rw [hattempt] at hk
        cases hk
        exact hended
    · exact h.forgotten id other hfound hnone old hin hid
  serial := h.serial

theorem step (h : Coherent options executor) {next : Executor} {event : Event} {reply : Reply}
    (hstep : step options executor event = some (reply, next)) : Coherent options next := by
  cases event with
  | call call =>
    cases hstep
    have hcases := executeAttempt_cases options call executor
    generalize executeAttempt options call executor = result at hcases
    cases hcases with
    | started hstart => exact h.startAttempt hstart
    | joined => exact h
    | conflict => exact h
  | answer index answer =>
    simp only [Orchestrator.step, Option.map_eq_some_iff] at hstep
    obtain ⟨_, hanswer, heq⟩ := hstep
    obtain ⟨call, hfound, rfl⟩ := answerAttempt_eq_some hanswer
    cases heq
    exact h.answerAttempt hfound
  | continuation index =>
    simp only [Orchestrator.step, Option.map_eq_some_iff] at hstep
    obtain ⟨_, hcontinue, heq⟩ := hstep
    cases heq
    obtain rfl | ⟨attempt, receipt, hattempt, hended, hreceipt, hindex, rfl⟩ :=
      continueAttempt_eq_some hcontinue
    · exact h
    · exact h.forget hattempt hended hreceipt hindex

end Coherent

theorem coherent_run {executor final : Executor} {es : List (Entry Executor Event Reply)}
    (hrun : Run (step options) executor es final) (h : Coherent options executor) :
    Coherent options final := by
  induction hrun with
  | nil => exact h
  | cons hstep _ ih => exact ih (h.step hstep)

/-! ### The first command of an id -/

/-- The fingerprint that an executor keeps for an id. -/
def Executor.fingerprintOf (executor : Executor) (executionRequestId : String) : Option String :=
  (executor.receipts.find? executionRequestId).map Receipt.fingerprint

theorem fingerprintOf_set {executor : Executor} {receipt : Receipt} {attempts : List Attempt}
    {id : String} : Executor.fingerprintOf ⟨executor.receipts.set receipt, attempts⟩ id =
      if id = receipt.executionRequestId then some receipt.fingerprint
      else executor.fingerprintOf id := by
  simp only [Executor.fingerprintOf, Table.find?_set]
  split <;> rfl

/-- A step keeps the fingerprint of an id, or enters the one of its first command. -/
theorem fingerprintOf_step {executor next : Executor} {event : Event} {reply : Reply}
    (hcoherent : Coherent options executor)
    (h : step options executor event = some (reply, next)) (id : String) :
    next.fingerprintOf id =
      (executor.fingerprintOf id).or ((commandFor id event).map options.fingerprint) := by
  cases event with
  | call call =>
    cases h
    have hcases := executeAttempt_cases options call executor
    generalize executeAttempt options call executor = result at hcases
    by_cases hid : call.executionRequestId = id
    · subst hid
      cases hcases with
      | started hstart =>
        simp only [startAttempt, fingerprintOf_set, commandFor, if_true, Option.map_some]
        cases hfound : executor.receipts.find? call.executionRequestId with
        | none => simp [Executor.fingerprintOf, hfound]
        | some receipt => simp [Executor.fingerprintOf, hfound, (hstart receipt hfound).1]
      | joined receipt index hfound => simp [Executor.fingerprintOf, hfound]
      | conflict receipt hfound => simp [Executor.fingerprintOf, hfound]
    · cases hcases with
      | started =>
        simp [startAttempt, fingerprintOf_set, commandFor, hid, Ne.symm hid]
      | joined => simp [commandFor, hid]
      | conflict => simp [commandFor, hid]
  | answer index answer =>
    simp only [step, Option.map_eq_some_iff] at h
    obtain ⟨_, hanswer, heq⟩ := h
    obtain ⟨call, hfound, rfl⟩ := answerAttempt_eq_some hanswer
    cases heq
    simp [commandFor, Executor.fingerprintOf]
  | continuation index =>
    simp only [step, Option.map_eq_some_iff] at h
    obtain ⟨_, hcontinue, heq⟩ := h
    cases heq
    obtain rfl | ⟨attempt, receipt, hattempt, -, hreceipt, -, rfl⟩ :=
      continueAttempt_eq_some hcontinue
    · simp [commandFor]
    · simp only [fingerprintOf_set, commandFor, Option.map_none, Option.or_none]
      split
      · rename_i hid
        obtain ⟨own, hown, hfingerprint⟩ := hcoherent.recorded attempt
          (List.mem_of_getElem? hattempt)
        rw [hid, Executor.fingerprintOf, hown, Option.map_some, hfingerprint]
      · rfl

theorem fingerprintOf_run {executor final : Executor} {es : List (Entry Executor Event Reply)}
    (hrun : Run (step options) executor es final) (hcoherent : Coherent options executor)
    (id : String) : final.fingerprintOf id =
      (executor.fingerprintOf id).or ((firstCommand id es).map options.fingerprint) := by
  induction hrun with
  | nil => simp [firstCommand]
  | @cons s t u event reply es hstep _ ih =>
    rw [ih (hcoherent.step hstep), fingerprintOf_step hcoherent hstep, Option.or_assoc]
    congr 1
    simp only [firstCommand, List.findSome?_cons]
    cases commandFor id event <;> rfl

/-- The fingerprint under an id is the one of the first command that came under it. -/
theorem fingerprint_first {executor : Executor} {es : List (Entry Executor Event Reply)}
    (hrun : Run (step options) Executor.empty es executor) {id : String} {receipt : Receipt}
    (hfound : executor.receipts.find? id = some receipt) :
    ∃ first, firstCommand id es = some first ∧
      receipt.fingerprint = options.fingerprint first := by
  have hkept := fingerprintOf_run hrun coherent_empty id
  simp only [Executor.fingerprintOf, hfound, Option.map_some] at hkept
  have hfirst : (firstCommand id es).map options.fingerprint = some receipt.fingerprint :=
    hkept.symm
  obtain ⟨first, hfirst, hfingerprint⟩ := Option.map_eq_some_iff.mp hfirst
  exact ⟨first, hfirst, hfingerprint.symm⟩

/-! ### Runs -/

/-- What the attempts of an executor say about its calls. -/
structure AtMostOnce (es : List (Entry Executor Event Reply)) (executor : Executor) : Prop where
  /-- an invocation ended retryably before the next one of its id -/
  serial : Serial executor.attempts
  /-- only calls invoke the runtime -/
  invoked : ∀ e ∈ es, (∀ call, e.label ≠ .call call) →
    e.after.attempts.map Attempt.call = e.before.attempts.map Attempt.call
  answered : ∀ pre e post call, es = pre ++ e :: post → e.label = .call call →
    Answered ((firstCommand call.executionRequestId pre).getD call.command) call e.before e.reply
      e.after
  /-- all who await an attempt receive one outcome -/
  awaited : ∀ e ∈ es, ∀ promise completed, e.after.await promise = some completed →
    executor.await promise = some completed

theorem calls_kept {executor next : Executor} {event : Event} {reply : Reply}
    (h : step options executor event = some (reply, next)) (hcall : ∀ call, event ≠ .call call) :
    next.attempts.map Attempt.call = executor.attempts.map Attempt.call := by
  cases event with
  | call call => exact absurd rfl (hcall call)
  | answer index answer =>
    simp only [step, Option.map_eq_some_iff] at h
    obtain ⟨_, hanswer, heq⟩ := h
    obtain ⟨call, hfound, rfl⟩ := answerAttempt_eq_some hanswer
    cases heq
    simp only [List.map_set]
    have hcall : (executor.attempts.map Attempt.call)[index]? = some call := by
      rw [List.getElem?_map, hfound, Option.map_some]
    obtain ⟨hlt, hvalue⟩ := List.getElem?_eq_some_iff.mp hcall
    rw [← hvalue, List.set_getElem_self]
  | continuation index =>
    simp only [step, Option.map_eq_some_iff] at h
    obtain ⟨_, hcontinue, heq⟩ := h
    cases heq
    obtain rfl | ⟨_, _, -, -, -, -, rfl⟩ := continueAttempt_eq_some hcontinue
    · rfl
    · rfl

/-- A call after a history is answered by what the history says of its id. -/
theorem call_answered {executor : Executor} {es : List (Entry Executor Event Reply)}
    (hrun : Run (step options) Executor.empty es executor) (call : Call) :
    Answered ((firstCommand call.executionRequestId es).getD call.command) call executor
      (.promise (executeAttempt options call executor).1)
      (executeAttempt options call executor).2 := by
  have hcoherent := coherent_run hrun coherent_empty
  have hsame : ∀ receipt, executor.receipts.find? call.executionRequestId = some receipt →
      (receipt.fingerprint = options.fingerprint call.command ↔ call.command.value.Same
        ((firstCommand call.executionRequestId es).getD call.command).value) := by
    intro receipt hfound
    obtain ⟨first, hfirst, hfingerprint⟩ := fingerprint_first hrun hfound
    rw [hfirst, Option.getD_some, ← fingerprint_eq_iff, hfingerprint, eq_comm]
  have hcases := executeAttempt_cases options call executor
  generalize executeAttempt options call executor = result at hcases
  cases hcases with
  | started hstart =>
    refine .started _ ?_ ?_ rfl
    · cases hfound : executor.receipts.find? call.executionRequestId with
      | some receipt => exact (hsame receipt hfound).mp (hstart receipt hfound).1
      | none =>
        have hkept := fingerprintOf_run hrun coherent_empty call.executionRequestId
        rw [Executor.fingerprintOf, hfound] at hkept
        have hnone : firstCommand call.executionRequestId es = none :=
          Option.map_eq_none_iff.mp hkept.symm
        rw [hnone, Option.getD_none]
        exact fingerprint_eq_iff.mp (Eq.refl (options.fingerprint call.command))
    · exact hcoherent.idle fun receipt hfound => (hstart receipt hfound).2
  | joined receipt index hfound hfingerprint hindex =>
    exact .joined index ((hsame receipt hfound).mp hfingerprint)
      (hcoherent.held _ receipt index hfound hindex)
  | conflict receipt hfound hfingerprint =>
    exact .conflict fun hcommand => hfingerprint ((hsame receipt hfound).mpr hcommand)

theorem invoked_at_most_once {es : List (Entry Executor Event Reply)} {executor : Executor}
    (hrun : Run (step options) Executor.empty es executor) : AtMostOnce es executor where
  serial := (coherent_run hrun coherent_empty).serial
  invoked := by
    intro e he hcall
    exact calls_kept (hrun.entry_step he) hcall
  answered := by
    intro pre e post call hes hlabel
    subst hes
    obtain ⟨_, hpre, hpost⟩ := hrun.split
    cases hpost with
    | cons hstep _ =>
      cases hlabel
      cases hstep
      exact call_answered hpre call
  awaited := by
    intro e he promise completed hawait
    obtain ⟨pre, post, rfl⟩ := List.append_of_mem he
    obtain ⟨_, -, hpost⟩ := hrun.split
    cases hpost with
    | cons _ hrest => exact (extends_run hrest).await_eq hawait

/-! ### A retried command -/

def sampleOptions : ExecutorOptions where
  hasRunPersistent := false
  numberText := naturalText

/-- The value that a typed command is sent as. -/
def commandValue (command : ExecuteDecisionTaskCommand) : CommandValue where
  value := command.toJson
  command
  distinct := distinct_command command
  reads := command_same_iff.mpr rfl

def sampleValue : CommandValue := commandValue (sampleCommand "request")

def sampleCall (agentRunId : String) : Call where
  command := sampleValue
  context := some { agentRunId }
  forPersistence := true

/-- The runtime asks for a retry. -/
def retryableAnswer : RuntimeAnswer :=
  .output { explicit := some ⟨.failedRetryable, "retry", none⟩ }

/-- A call that finds no attempt starts one. -/
theorem step_started {executor : Executor} {call : Call}
    (h : ∀ receipt, executor.receipts.find? call.executionRequestId = some receipt →
      receipt.fingerprint = options.fingerprint call.command ∧ receipt.attempt = none) :
    step options executor (.call call) =
      some (.promise (.attempt executor.attempts.length),
        (startAttempt options call executor).2) := by
  have hexecuted : executeAttempt options call executor = startAttempt options call executor := by
    unfold executeAttempt
    cases hfound : executor.receipts.find? call.executionRequestId with
    | none => rfl
    | some receipt =>
      obtain ⟨hfingerprint, hnone⟩ := h receipt hfound
      simp [hfingerprint, hnone]
  rw [step, hexecuted]
  rfl

/-- A call that finds an attempt of its command joins it. -/
theorem step_joined {executor : Executor} {call : Call} {receipt : Receipt} {index : Nat}
    (hfound : executor.receipts.find? call.executionRequestId = some receipt)
    (hfingerprint : receipt.fingerprint = options.fingerprint call.command)
    (hindex : receipt.attempt = some index) :
    step options executor (.call call) = some (.promise (.attempt index), executor) := by
  have hexecuted : executeAttempt options call executor = (.attempt index, executor) := by
    unfold executeAttempt
    rw [hfound]
    simp [hfingerprint, hindex]
  rw [step, hexecuted]

theorem retried_at_most_once : ∃ es executor,
    Run (step sampleOptions) Executor.empty es executor ∧ executor.attempts.length = 2 ∧
      AtMostOnce es executor := by
  let first := (startAttempt sampleOptions (sampleCall "run-1") .empty).2
  let answered : Executor :=
    { first with attempts := [⟨sampleCall "run-1", some retryableAnswer⟩] }
  let forgotten : Executor :=
    { answered with receipts := (answered.receipts.set
      ⟨"request", sampleOptions.fingerprint sampleValue, none⟩) }
  have hfirst : step sampleOptions Executor.empty (.call (sampleCall "run-1")) =
      some (.promise (.attempt 0), first) := by
    apply step_started
    intro receipt hfound
    cases hfound
  have hanswered : step sampleOptions first (.answer 0 retryableAnswer) =
      some (.done, answered) := rfl
  have hforgotten : step sampleOptions answered (.continuation 0) = some (.done, forgotten) := rfl
  have hsecond : step sampleOptions forgotten (.call (sampleCall "run-2")) =
      some (.promise (.attempt 1),
        (startAttempt sampleOptions (sampleCall "run-2") forgotten).2) := by
    apply step_started
    intro receipt hfound
    have hsame : (sampleCall "run-2").executionRequestId = "request" := rfl
    rw [Table.find?_set, if_pos hsame] at hfound
    cases hfound
    exact ⟨rfl, rfl⟩
  have hrun := Run.cons hfirst (.cons hanswered (.cons hforgotten (.cons hsecond (.nil _))))
  exact ⟨_, _, hrun, rfl, invoked_at_most_once hrun⟩

end ChoiceMind.Orchestrator
