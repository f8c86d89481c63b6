import ChoiceMind.Conversation.History

/-!
# What a transaction prepares

The phases of a transaction over committed tables, and what its statements make of them.
-/

namespace ChoiceMind.Conversation

set_option autoImplicit false

variable {env : Environment}

/-! ### Reads of recorded sessions -/

section Reads
variable {turns : List Turn} {messages : List MessageRow} {revisions : List RevisionRow}
  {db : Store} {sessionId ownerUserId : String}

theorem argmax_of_numbered {rows : List RevisionRow}
    (h : rows.map RevisionRow.revisionNumber = List.range' 1 rows.length) :
    rows.argmax RevisionRow.revisionNumber = rows.getLast? := by
  rcases List.eq_nil_or_concat rows with rfl | ⟨front, last, rfl⟩
  · rfl
  · rw [List.concat_eq_append] at h ⊢
    rw [List.map_append, List.length_append, ← List.range'_append_1] at h
    obtain ⟨hfront, hlast⟩ := List.append_inj h (by simp)
    have hnumber : last.revisionNumber = 1 + front.length := by simpa using hlast
    rw [List.getLast?_concat, List.argmax_concat]
    cases hmax : front.argmax RevisionRow.revisionNumber with
    | none => rfl
    | some greatest =>
      have hin : greatest.revisionNumber ∈ front.map RevisionRow.revisionNumber :=
        List.mem_map_of_mem (List.argmax_mem hmax)
      rw [hfront, List.mem_range'_1] at hin
      exact if_pos (by omega)

theorem Recorded.latestOrdinal (h : Recorded env turns (db.messagesOf sessionId) revisions) :
    db.latestOrdinal sessionId = (db.messagesOf sessionId).length := by
  have hmax : (List.range' 1 (2 * turns.length + 1)).max? = some (2 * turns.length + 1) := by
    rw [List.max?_eq_some_iff]
    constructor
    · rw [List.mem_range'_1]
      omega
    · intro ordinal hin
      rw [List.mem_range'_1] at hin
      omega
  rw [Store.latestOrdinal, h.ordinals, hmax, h.length]
  rfl

theorem Recorded.latestRequirement
    (h : Recorded env turns messages (db.revisionsOf sessionId)) :
    db.loadLatestRequirement sessionId = (db.revisionsOf sessionId).getLast? :=
  argmax_of_numbered h.revisionNumbers

/-- The session is committed and belongs to the user. -/
def Store.Owned (db : Store) (sessionId ownerUserId : String) : Prop :=
  ∃ row ∈ db.sessions, row.sessionId = sessionId ∧ row.ownerUserId = ownerUserId

theorem ownedSession_isSome :
    (db.ownedSession sessionId ownerUserId).isSome = true ↔ db.Owned sessionId ownerUserId := by
  simp only [Store.ownedSession, List.find?_isSome, Bool.and_eq_true, decide_eq_true_eq,
    Store.Owned]

theorem owned_of_ownedSession {row : SessionRow}
    (h : db.ownedSession sessionId ownerUserId = some row) : db.Owned sessionId ownerUserId := by
  rw [← ownedSession_isSome, h]
  rfl

end Reads

/-! ### Turns in preparation -/

/-- No message of the session has the turn's id. -/
def NewIn (db : Store) (sessionId : String) (turn : Turn) : Prop :=
  ∀ message ∈ db.messagesOf sessionId, message.clientTurnId ≠ some turn.clientTurnId

/-- The turn is there, with what it says. -/
def KnownIn (env : Environment) (db : Store) (sessionId : String) (turn : Turn) : Prop :=
  ∃ message ∈ db.messagesOf sessionId, message.clientTurnId = some turn.clientTurnId ∧
    message.commandFingerprint = some (turn.fingerprint env)

/-- A user message that is written and not committed. -/
structure Drafted (env : Environment) (db : Store) (ownerUserId : String) (turn : Turn)
    (message : MessageRow) : Prop where
  owned : db.Owned message.sessionId ownerUserId
  new : NewIn db message.sessionId turn
  speaks : Speaks env turn ((db.messagesOf message.sessionId).length + 1) message

/-- With the revision that is due after the message. -/
structure Reviewed (env : Environment) (db : Store) (ownerUserId : String) (turn : Turn)
    (message : MessageRow) (revision : Option RevisionRow) : Prop
    extends Drafted env db ownerUserId turn message where
  revises : Revises (db.revisionsOf message.sessionId) turn message.messageId revision
  placed : ∀ row ∈ revision, row.sessionId = message.sessionId

/-- With the answer to the message. -/
structure Answered (env : Environment) (db : Store) (ownerUserId : String) (turn : Turn)
    (message : MessageRow) (revision : Option RevisionRow) (answer : MessageRow) : Prop
    extends Reviewed env db ownerUserId turn message revision where
  asks : Asks ((db.messagesOf message.sessionId).length + 2) answer
  answers : answer.sessionId = message.sessionId

/-- What the statements of a transaction have read and written. -/
def AppendPhase.Sound (env : Environment) (db : Store) (ownerUserId : String) (turn : Turn) :
    AppendPhase → Prop
  | .started => True
  | .locked sessionId => db.Owned sessionId ownerUserId
  | .known sessionId => db.Owned sessionId ownerUserId ∧ KnownIn env db sessionId turn
  | .fresh sessionId => db.Owned sessionId ownerUserId ∧ NewIn db sessionId turn
  | .numbered sessionId userOrdinal => db.Owned sessionId ownerUserId ∧ NewIn db sessionId turn ∧
      userOrdinal = (db.messagesOf sessionId).length + 1
  | .spoken message => Drafted env db ownerUserId turn message
  | .merged message previous => Drafted env db ownerUserId turn message ∧
      previous = (db.revisionsOf message.sessionId).getLast?
  | .revised message revision _ => Reviewed env db ownerUserId turn message revision
  | .answered message revision answer | .titled message revision answer =>
    Answered env db ownerUserId turn message revision answer

theorem AppendPhase.Sound.owned {db : Store} {ownerUserId sessionId : String} {turn : Turn}
    {phase : AppendPhase} (h : phase.Sound env db ownerUserId turn)
    (hlocked : phase.sessionId = some sessionId) : db.Owned sessionId ownerUserId := by
  cases phase with
  | started => cases hlocked
  | locked =>
    cases hlocked
    exact h
  | known | fresh | numbered =>
    cases hlocked
    exact h.1
  | spoken =>
    cases hlocked
    exact Drafted.owned h
  | merged =>
    cases hlocked
    exact h.1.owned
  | revised =>
    cases hlocked
    exact (Reviewed.toDrafted h).owned
  | answered | titled =>
    cases hlocked
    exact (Answered.toReviewed h).owned

/-- The rows of the session do not change, and it stays with its owner. -/
structure SameTurns (sessionId : String) (db db' : Store) : Prop where
  messages : db'.messagesOf sessionId = db.messagesOf sessionId
  revisions : db'.revisionsOf sessionId = db.revisionsOf sessionId
  owned : ∀ ownerUserId, db.Owned sessionId ownerUserId → db'.Owned sessionId ownerUserId

section Frame
variable {db db' : Store} {ownerUserId sessionId : String} {turn : Turn}
  {message answer : MessageRow} {revision : Option RevisionRow}

theorem NewIn.frame (h : NewIn db sessionId turn) (hsame : SameTurns sessionId db db') :
    NewIn db' sessionId turn := by
  rw [NewIn, hsame.messages]
  exact h

theorem KnownIn.frame (h : KnownIn env db sessionId turn) (hsame : SameTurns sessionId db db') :
    KnownIn env db' sessionId turn := by
  rw [KnownIn, hsame.messages]
  exact h

theorem Drafted.frame (h : Drafted env db ownerUserId turn message)
    (hsame : SameTurns message.sessionId db db') : Drafted env db' ownerUserId turn message := by
  refine ⟨hsame.owned _ h.owned, h.new.frame hsame, ?_⟩
  rw [hsame.messages]
  exact h.speaks

theorem Reviewed.frame (h : Reviewed env db ownerUserId turn message revision)
    (hsame : SameTurns message.sessionId db db') :
    Reviewed env db' ownerUserId turn message revision := by
  refine ⟨h.toDrafted.frame hsame, ?_, h.placed⟩
  rw [hsame.revisions]
  exact h.revises

theorem Answered.frame (h : Answered env db ownerUserId turn message revision answer)
    (hsame : SameTurns message.sessionId db db') :
    Answered env db' ownerUserId turn message revision answer := by
  refine ⟨h.toReviewed.frame hsame, ?_, h.answers⟩
  rw [hsame.messages]
  exact h.asks

/-- What others do leaves a transaction as it is, as long as they leave its session. -/
theorem AppendPhase.Sound.frame {phase : AppendPhase} (h : phase.Sound env db ownerUserId turn)
    (hsame : ∀ sessionId, phase.sessionId = some sessionId → SameTurns sessionId db db') :
    phase.Sound env db' ownerUserId turn := by
  cases phase with
  | started => trivial
  | locked sessionId => exact (hsame _ rfl).owned _ h
  | known sessionId => exact ⟨(hsame _ rfl).owned _ h.1, h.2.frame (hsame _ rfl)⟩
  | fresh sessionId => exact ⟨(hsame _ rfl).owned _ h.1, h.2.frame (hsame _ rfl)⟩
  | numbered sessionId userOrdinal =>
    refine ⟨(hsame _ rfl).owned _ h.1, h.2.1.frame (hsame _ rfl), ?_⟩
    rw [(hsame _ rfl).messages]
    exact h.2.2
  | spoken message => exact Drafted.frame h (hsame _ rfl)
  | merged message previous =>
    refine ⟨h.1.frame (hsame _ rfl), ?_⟩
    rw [(hsame _ rfl).revisions]
    exact h.2
  | revised message revision missingKeys => exact Reviewed.frame h (hsame _ rfl)
  | answered message revision answer => exact Answered.frame h (hsame _ rfl)
  | titled message revision answer => exact Answered.frame h (hsame _ rfl)

end Frame

/-! ### The statements -/

section Statements
variable {around : Surroundings} {turn : Turn} {progress : Progress} {draws : Nat} {db' : Store}

/-- What comes after a statement of `appendUserTurn`: a next phase of the same session, which
the first one locks. -/
structure Proceeds (env : Environment) (around : Surroundings) (command : AppendUserTurnCommand)
    (turn : Turn) (phase phase' : AppendPhase) : Prop where
  sound : phase'.Sound env around.db command.ownerUserId turn
  session : phase'.sessionId = phase.sessionId ∨
    phase = .started ∧ ∃ sessionId, phase'.sessionId = some sessionId ∧
      env.readUuid command.sessionId = some sessionId ∧ around.locked sessionId = false

theorem existingTurn_eq_some {db : Store} {sessionId clientTurnId : String} {message : MessageRow}
    (h : db.existingTurn sessionId clientTurnId = some message) :
    message ∈ db.messagesOf sessionId ∧ message.clientTurnId = some clientTurnId := by
  have hid := List.find?_some h
  exact ⟨List.mem_of_find?_eq_some h, of_decide_eq_true hid⟩

theorem newIn_of_existingTurn {db : Store} {sessionId : String}
    (h : db.existingTurn sessionId turn.clientTurnId = none) : NewIn db sessionId turn := by
  intro message hin hid
  exact absurd (decide_eq_true hid) (List.find?_eq_none.mp h message hin)

/-- The merge and the revision that it makes due. -/
theorem reviewed_of_merge {command : AppendUserTurnCommand} {message : MessageRow}
    {previous : Option RevisionRow} {next : Requirement}
    (h : Drafted env around.db command.ownerUserId turn message)
    (hprevious : previous = (around.db.revisionsOf message.sessionId).getLast?)
    (hnumbered : (around.db.revisionsOf message.sessionId).map RevisionRow.revisionNumber =
      List.range' 1 (around.db.revisionsOf message.sessionId).length)
    (hnext : mergeRequirement (previous.map RevisionRow.toRequirement) turn.update = .ok next) :
    Reviewed env around.db command.ownerUserId turn message
      (if hasKeys turn.update && requirementChanged (previous.map RevisionRow.toRequirement) next
        then some (newRevision env around message previous next) else none) := by
  have hmerge := mergeRequirement_eq turn.normalized (previous.map RevisionRow.toRequirement)
  rw [hmerge] at hnext
  cases hnext
  have hdue := revision_due_iff turn.update (previous.map RevisionRow.toRequirement)
  have hcurrent : (previous.map RevisionRow.toRequirement).getD .empty =
      current (around.db.revisionsOf message.sessionId) := by rw [hprevious, current]
  split
  · rename_i hchanged
    rw [hdue, hcurrent] at hchanged
    refine ⟨h, .changed ⟨?_, hchanged, rfl, ?_, ?_, rfl, rfl⟩, ?_⟩
    · rw [← hcurrent]
      rfl
    · rw [← hprevious]
      rfl
    · -- the numbers so far are 1, 2, …
      show (previous.map RevisionRow.revisionNumber).getD 0 + 1 = _
      rw [hprevious, ← List.getLast?_map, hnumbered, List.getLast?_range']
      split
      · rename_i hnone
        rw [hnone]
        rfl
      · rename_i hsome
        rw [Option.getD_some]
        omega
    · intro row hrow
      rw [← Option.mem_some_iff.mp hrow]
      rfl
  · rename_i hsame
    rw [hdue, hcurrent, not_not] at hsame
    exact ⟨h, .unchanged hsame, fun row hrow => by cases hrow⟩

theorem appendUserTurn_continues {command : AppendUserTurnCommand} {phase : AppendPhase}
    (hsound : phase.Sound env around.db command.ownerUserId turn)
    (hrecorded : ∀ sessionId, phase.sessionId = some sessionId → ∃ turns,
      Recorded env turns (around.db.messagesOf sessionId) (around.db.revisionsOf sessionId))
    (h : appendUserTurn env around command turn phase = .continues progress draws) :
    ∃ phase', progress = .appending command turn phase' ∧
      Proceeds env around command turn phase phase' := by
  cases phase with
  | started =>
    simp only [appendUserTurn] at h
    split at h
    · cases h
    · split at h
      · cases h
      · rename_i sessionId hread _ row howned
        split at h
        · cases h
        · rename_i hfree
          cases h
          exact ⟨_, rfl, owned_of_ownedSession howned,
            .inr ⟨rfl, sessionId, rfl, hread, Bool.not_eq_true _ ▸ hfree⟩⟩
  | locked sessionId =>
    simp only [appendUserTurn] at h
    split at h
    · rename_i existing hexisting
      obtain ⟨hin, hid⟩ := existingTurn_eq_some hexisting
      split at h
      · cases h
      · rename_i hfingerprint
        cases h
        exact ⟨_, rfl, ⟨hsound, existing, hin, hid, not_not.mp hfingerprint⟩, .inl rfl⟩
    · rename_i hnone
      cases h
      exact ⟨_, rfl, ⟨hsound, newIn_of_existingTurn hnone⟩, .inl rfl⟩
  | known sessionId => cases h
  | fresh sessionId =>
    cases h
    obtain ⟨turns, hrows⟩ := hrecorded sessionId rfl
    refine ⟨_, rfl, ⟨hsound.1, hsound.2, ?_⟩, .inl rfl⟩
    rw [hrows.latestOrdinal]
  | numbered sessionId userOrdinal =>
    simp only [appendUserTurn] at h
    split at h
    · cases h
      obtain ⟨howned, hnew, hordinal⟩ := hsound
      exact ⟨_, rfl, ⟨howned, hnew, rfl, hordinal, rfl, rfl, rfl⟩, .inl rfl⟩
    · cases h
  | spoken message =>
    cases h
    obtain ⟨turns, hrows⟩ := hrecorded message.sessionId rfl
    exact ⟨_, rfl, ⟨hsound, hrows.latestRequirement⟩, .inl rfl⟩
  | merged message previous =>
    simp only [appendUserTurn] at h
    split at h
    · cases h
    · rename_i next hnext
      obtain ⟨turns, hrows⟩ := hrecorded message.sessionId rfl
      have hreviewed := reviewed_of_merge hsound.1 hsound.2 hrows.revisionNumbers hnext
      split at h
      · rename_i hdue
        rw [if_pos hdue] at hreviewed
        split at h
        · cases h
          exact ⟨_, rfl, hreviewed, .inl rfl⟩
        · cases h
      · rename_i hdue
        rw [if_neg hdue] at hreviewed
        cases h
        exact ⟨_, rfl, hreviewed, .inl rfl⟩
  | revised message revision missingKeys =>
    simp only [appendUserTurn] at h
    split at h
    · cases h
      have hordinal := hsound.speaks.ordinal
      refine ⟨_, rfl, ⟨hsound, ⟨rfl, ?_, rfl⟩, rfl⟩, .inl rfl⟩
      show message.ordinal + 1 = _
      rw [hordinal]
    · cases h
  | answered message revision answer =>
    cases h
    exact ⟨_, rfl, hsound, .inl rfl⟩
  | titled message revision answer => cases h

/-- A `COMMIT` publishes a whole turn, or nothing. -/
theorem appendUserTurn_commits {command : AppendUserTurnCommand} {phase : AppendPhase}
    (h : appendUserTurn env around command turn phase = .commits progress db') :
    ∃ sessionId missing, progress = .loading command.ownerUserId sessionId missing ∧
      (phase = .known sessionId ∧ db' = around.db ∨
        ∃ message revision answer, phase = .titled message revision answer ∧
          sessionId = message.sessionId ∧
          db' = (around.db.addTurn message revision answer).touchSession message.sessionId
            command.ownerUserId turn.update.consumptionGoal around.calledAt) := by
  cases phase with
  | known sessionId =>
    cases h
    exact ⟨_, _, rfl, .inl ⟨rfl, rfl⟩⟩
  | titled message revision answer =>
    cases h
    exact ⟨_, _, rfl, .inr ⟨message, revision, answer, rfl, rfl, rfl⟩⟩
  | started =>
    simp only [appendUserTurn] at h
    repeat' split at h
    all_goals cases h
  | locked sessionId =>
    simp only [appendUserTurn] at h
    repeat' split at h
    all_goals cases h
  | fresh sessionId => cases h
  | numbered sessionId userOrdinal =>
    simp only [appendUserTurn] at h
    split at h <;> cases h
  | spoken message => cases h
  | merged message previous =>
    simp only [appendUserTurn] at h
    repeat' split at h
    all_goals cases h
  | revised message revision missingKeys =>
    simp only [appendUserTurn] at h
    split at h <;> cases h
  | answered message revision answer => cases h

end Statements

end ChoiceMind.Conversation
