import Mathlib.Data.List.Chain
import ChoiceMind.Conversation.Calls

/-!
# What the rows of a session record

The messages and revisions of a session are those of a history of turns: an opening question,
then for each turn the message of the user, an answer, and a revision if the turn changed the
requirement.
-/

namespace ChoiceMind.Conversation

set_option autoImplicit false

variable {env : Environment}

/-! ### Histories -/

/-- The requirement that the latest revision holds. -/
def current (revisions : List RevisionRow) : Requirement :=
  (revisions.getLast?.map RevisionRow.toRequirement).getD .empty

/-- The requirement that turns lead to from the given one. -/
def Requirement.after (requirement : Requirement) (turns : List Turn) : Requirement :=
  turns.foldl (fun requirement turn => requirement.merge turn.update) requirement

/-- The row of what the user said. -/
structure Speaks (env : Environment) (turn : Turn) (ordinal : Nat) (message : MessageRow) :
    Prop where
  role : message.role = .user
  ordinal : message.ordinal = ordinal
  clientTurnId : message.clientTurnId = some turn.clientTurnId
  fingerprint : message.commandFingerprint = some (turn.fingerprint env)
  text : message.text = turn.text

/-- The row of a question of the assistant. -/
structure Asks (ordinal : Nat) (message : MessageRow) : Prop where
  role : message.role = .assistant
  ordinal : message.ordinal = ordinal
  clientTurnId : message.clientTurnId = none

/-- A revision that follows the given ones. -/
structure Follows (revisions : List RevisionRow) (turn : Turn) (sourceMessageId : String)
    (revision : RevisionRow) : Prop where
  requirement : revision.toRequirement = (current revisions).merge turn.update
  changed : (current revisions).merge turn.update ≠ current revisions
  sourceMessageId : revision.sourceMessageId = sourceMessageId
  previousRevisionId : revision.previousRevisionId =
    revisions.getLast?.map RevisionRow.revisionId
  revisionNumber : revision.revisionNumber = revisions.length + 1
  missingKeys : revision.missingKeys = revision.toRequirement.missingKeys
  readiness : revision.readiness = revision.toRequirement.readiness

/-- What a turn adds to the revisions: nothing if it changes nothing. -/
inductive Revises (revisions : List RevisionRow) (turn : Turn) (sourceMessageId : String) :
    Option RevisionRow → Prop
  | unchanged (hsame : (current revisions).merge turn.update = current revisions) :
    Revises revisions turn sourceMessageId none
  | changed {revision : RevisionRow} (h : Follows revisions turn sourceMessageId revision) :
    Revises revisions turn sourceMessageId (some revision)

/-- The messages and the revisions that turns leave. -/
inductive Recorded (env : Environment) : List Turn → List MessageRow → List RevisionRow → Prop
  | opened {message : MessageRow} (hmessage : Asks 1 message) : Recorded env [] [message] []
  | turn {turns : List Turn} {messages : List MessageRow} {revisions : List RevisionRow}
    {turn : Turn} {message answer : MessageRow} {revision : Option RevisionRow}
    (h : Recorded env turns messages revisions)
    (hnew : turn.clientTurnId ∉ turns.map Turn.clientTurnId)
    (hmessage : Speaks env turn (messages.length + 1) message)
    (hrevision : Revises revisions turn message.messageId revision)
    (hanswer : Asks (messages.length + 2) answer) :
    Recorded env (turns ++ [turn]) (messages ++ [message, answer])
      (revisions ++ revision.toList)

namespace Recorded
variable {turns : List Turn} {messages : List MessageRow} {revisions : List RevisionRow}

theorem length (h : Recorded env turns messages revisions) :
    messages.length = 2 * turns.length + 1 := by
  induction h with
  | opened => rfl
  | turn h _ _ _ _ ih =>
    simp only [List.length_append, List.length_cons, List.length_nil]
    omega

theorem ordinals (h : Recorded env turns messages revisions) :
    messages.map MessageRow.ordinal = List.range' 1 (2 * turns.length + 1) := by
  rw [← h.length]
  induction h with
  | opened hmessage => simp [hmessage.ordinal]
  | turn h _ hmessage _ hanswer ih =>
    rw [List.map_append, ih, List.length_append, List.range'_append_1.symm]
    simp only [List.map_cons, List.map_nil, hmessage.ordinal, hanswer.ordinal, List.length_cons,
      List.length_nil, List.append_cancel_left_eq]
    simp only [List.range', Nat.add_comm 1]

/-- The assistant has the odd ordinals. -/
theorem roles (h : Recorded env turns messages revisions) :
    ∀ message ∈ messages, message.role = .assistant ↔ message.ordinal % 2 = 1 := by
  induction h with
  | opened hmessage =>
    intro message hin
    rw [List.mem_singleton.mp hin, hmessage.role, hmessage.ordinal]
    simp
  | turn h _ hmessage _ hanswer ih =>
    have hlength := h.length
    intro message hin
    simp only [List.mem_append, List.mem_cons, List.not_mem_nil, or_false] at hin
    rcases hin with hin | rfl | rfl
    · exact ih message hin
    · rw [hmessage.role, hmessage.ordinal]
      refine iff_of_false (by simp) ?_
      omega
    · rw [hanswer.role, hanswer.ordinal]
      refine iff_of_true rfl ?_
      omega

/-- The turn ids of the messages are those of the turns. -/
theorem clientTurnIds (h : Recorded env turns messages revisions) :
    messages.filterMap MessageRow.clientTurnId = turns.map Turn.clientTurnId := by
  induction h with
  | opened hmessage => simp [hmessage.clientTurnId]
  | turn h _ hmessage _ hanswer ih =>
    rw [List.filterMap_append, ih, List.map_append]
    simp [hmessage.clientTurnId, hanswer.clientTurnId]

theorem nodup (h : Recorded env turns messages revisions) :
    (turns.map Turn.clientTurnId).Nodup := by
  induction h with
  | opened => exact List.nodup_nil
  | turn h hnew _ _ _ ih =>
    rw [List.map_append, List.nodup_append]
    refine ⟨ih, List.nodup_singleton _, ?_⟩
    intro id hid other hother hsame
    rw [List.map_singleton, List.mem_singleton] at hother
    exact hnew (by rwa [← hother, ← hsame])

/-- A message with a turn id is the user's message of the turn. -/
theorem exists_turn (h : Recorded env turns messages revisions) {message : MessageRow}
    {clientTurnId : String} (hin : message ∈ messages)
    (hid : message.clientTurnId = some clientTurnId) :
    ∃ turn ∈ turns, turn.clientTurnId = clientTurnId ∧
      message.commandFingerprint = some (turn.fingerprint env) := by
  induction h with
  | opened hmessage =>
    rw [List.mem_singleton.mp hin, hmessage.clientTurnId] at hid
    cases hid
  | @turn _ _ _ turn _ _ _ h _ hmessage _ hanswer ih =>
    simp only [List.mem_append, List.mem_cons, List.not_mem_nil, or_false] at hin
    rcases hin with hin | rfl | rfl
    · obtain ⟨other, hother, hsame⟩ := ih hin
      exact ⟨other, List.mem_append_left _ hother, hsame⟩
    · rw [hmessage.clientTurnId] at hid
      exact ⟨turn, List.mem_append_right _ List.mem_cons_self, Option.some.inj hid,
        hmessage.fingerprint⟩
    · rw [hanswer.clientTurnId] at hid
      cases hid

theorem exists_message (h : Recorded env turns messages revisions) {turn : Turn}
    (hturn : turn ∈ turns) : ∃ message ∈ messages,
      message.clientTurnId = some turn.clientTurnId ∧
      message.commandFingerprint = some (turn.fingerprint env) := by
  induction h with
  | opened => cases hturn
  | @turn _ _ _ _ message _ _ h _ hmessage _ hanswer ih =>
    rcases List.mem_append.mp hturn with hold | hlast
    · obtain ⟨other, hother, hsame⟩ := ih hold
      exact ⟨other, List.mem_append_left _ hother, hsame⟩
    · rw [List.mem_singleton.mp hlast]
      exact ⟨message, List.mem_append_right _ List.mem_cons_self, hmessage.clientTurnId,
        hmessage.fingerprint⟩

/-! #### Revisions -/

theorem revisionNumbers (h : Recorded env turns messages revisions) :
    revisions.map RevisionRow.revisionNumber = List.range' 1 revisions.length := by
  induction h with
  | opened => rfl
  | turn h _ _ hrevision _ ih =>
    cases hrevision with
    | unchanged hsame => simpa using ih
    | changed hfollows =>
      rw [Option.toList_some, List.map_append, ih, List.length_append, List.range'_append_1.symm]
      simp [hfollows.revisionNumber, Nat.add_comm 1]

/-- Each revision names the one before it. -/
theorem chained (h : Recorded env turns messages revisions) :
    (∀ revision ∈ revisions.head?, revision.previousRevisionId = none) ∧
      revisions.IsChain fun a b => b.previousRevisionId = some a.revisionId := by
  induction h with
  | opened =>
    refine ⟨?_, .nil⟩
    intro revision hin
    cases hin
  | @turn _ _ revisions _ _ _ _ h _ _ hrevision _ ih =>
    cases hrevision with
    | unchanged hsame => simpa using ih
    | changed hfollows =>
      have hprevious := hfollows.previousRevisionId
      rw [Option.toList_some, List.isChain_append]
      refine ⟨?_, ih.2, .singleton _, ?_⟩
      · intro revision hin
        cases revisions with
        | nil =>
          rw [List.nil_append, List.head?_cons, Option.mem_some_iff] at hin
          rw [← hin, hprevious]
          rfl
        | cons first revisions => exact ih.1 revision hin
      · intro last hlast revision hin
        rw [List.head?_cons, Option.mem_some_iff] at hin
        rw [← hin, hprevious, Option.mem_def.mp hlast]
        rfl

/-- The latest revision holds what all turns said. -/
theorem current_eq (h : Recorded env turns messages revisions) :
    current revisions = Requirement.empty.after turns := by
  induction h with
  | opened => rfl
  | @turn turns _ revisions turn _ _ _ h _ _ hrevision _ ih =>
    have hafter : Requirement.empty.after (turns ++ [turn]) =
        (current revisions).merge turn.update := by
      rw [ih, Requirement.after, List.foldl_append]
      rfl
    rw [hafter]
    cases hrevision with
    | unchanged hsame => rw [Option.toList_none, List.append_nil, hsame]
    | changed hfollows =>
      rw [Option.toList_some, current, List.getLast?_concat]
      exact hfollows.requirement

/-- A revision states which of its parts are missing, and is ready when none is. -/
theorem readiness (h : Recorded env turns messages revisions) : ∀ revision ∈ revisions,
    revision.missingKeys = revision.toRequirement.missingKeys ∧
      (revision.readiness = .readyForResearch ↔ revision.missingKeys = []) := by
  induction h with
  | opened =>
    intro revision hin
    cases hin
  | turn h _ _ hrevision _ ih =>
    cases hrevision with
    | unchanged hsame => simpa using ih
    | changed hfollows =>
      intro revision hin
      rcases List.mem_append.mp hin with hold | hlast
      · exact ih revision hold
      · rw [List.mem_singleton.mp hlast]
        refine ⟨hfollows.missingKeys, ?_⟩
        rw [hfollows.readiness, hfollows.missingKeys]
        exact Requirement.readiness_eq_ready_iff _

theorem ready_current (h : Recorded env turns messages revisions) : ∀ revision ∈ revisions,
    revision.readiness = .readyForResearch → (current revisions).readiness = .readyForResearch := by
  induction h with
  | opened =>
    intro revision hin
    cases hin
  | turn h _ _ hrevision _ ih =>
    cases hrevision with
    | unchanged hsame => simpa using ih
    | changed hfollows =>
      intro revision hin hready
      rw [Option.toList_some, current, List.getLast?_concat, Option.map_some, Option.getD_some]
      rcases List.mem_append.mp hin with hold | hlast
      · rw [hfollows.requirement]
        exact Requirement.readiness_merge (ih revision hold hready) _
      · rwa [List.mem_singleton.mp hlast, hfollows.readiness] at hready

end Recorded

/-- The turns that change the requirement, with what they make of it. -/
def Requirement.changes (requirement : Requirement) : List Turn → List (Turn × Requirement)
  | [] => []
  | turn :: turns =>
    if requirement.merge turn.update = requirement then requirement.changes turns
    else (turn, requirement.merge turn.update) :: (requirement.merge turn.update).changes turns

theorem Requirement.changes_concat (requirement : Requirement) (turns : List Turn) (turn : Turn) :
    requirement.changes (turns ++ [turn]) = requirement.changes turns ++
      if (requirement.after turns).merge turn.update = requirement.after turns then []
      else [(turn, (requirement.after turns).merge turn.update)] := by
  induction turns generalizing requirement with
  | nil => rfl
  | cons first turns ih =>
    simp only [List.cons_append, changes]
    by_cases hsame : requirement.merge first.update = requirement
    · have hafter : requirement.after (first :: turns) = requirement.after turns := by
        simp only [after, List.foldl_cons, hsame]
      rw [if_pos hsame, if_pos hsame, hafter, ih]
    · rw [if_neg hsame, if_neg hsame, ih, List.cons_append]
      rfl

/-- The revision holds what the turn made of the requirement, and names its message. -/
def Records (messages : List MessageRow) (revision : RevisionRow) (change : Turn × Requirement) :
    Prop :=
  revision.toRequirement = change.2 ∧ ∃ message ∈ messages,
    message.messageId = revision.sourceMessageId ∧
      message.clientTurnId = some change.1.clientTurnId

/-- There is one revision for each turn that changed the requirement. -/
theorem Recorded.changes {turns : List Turn} {messages : List MessageRow}
    {revisions : List RevisionRow} (h : Recorded env turns messages revisions) :
    List.Forall₂ (Records messages) revisions (Requirement.empty.changes turns) := by
  induction h with
  | opened => exact .nil
  | @turn turns messages revisions turn message answer _ h _ hmessage hrevision _ ih =>
    have hkept : List.Forall₂ (Records (messages ++ [message, answer])) revisions
        (Requirement.empty.changes turns) := by
      apply ih.imp
      rintro revision change ⟨hholds, other, hother, hnames⟩
      exact ⟨hholds, other, List.mem_append_left _ hother, hnames⟩
    rw [Requirement.changes_concat, ← h.current_eq]
    cases hrevision with
    | unchanged hsame =>
      rw [if_pos hsame, List.append_nil, Option.toList_none, List.append_nil]
      exact hkept
    | changed hfollows =>
      rw [if_neg hfollows.changed, Option.toList_some]
      refine List.rel_append hkept (.cons ⟨hfollows.requirement, message, ?_, ?_⟩ .nil)
      · exact List.mem_append_right _ List.mem_cons_self
      · exact ⟨hfollows.sourceMessageId.symm, hmessage.clientTurnId⟩

end ChoiceMind.Conversation
