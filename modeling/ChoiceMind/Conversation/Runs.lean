import ChoiceMind.Conversation.Reachable

/-!
# The history of a conversation

In every reachable state, the rows of a session are those of the turns that were committed to
it, and a session that is ready stays ready.
-/

namespace ChoiceMind.Conversation

set_option autoImplicit false

open Contracts Transition

variable {env : Environment}

/-! ### Reachable states -/

theorem sound_start (env : Environment) : Sound env (acceptedTurns []) .start := by
  refine ⟨⟨.nil, ?_, ?_, ?_, ?_, ?_⟩, ?_, ?_⟩
  · intro row hrow
    cases hrow
  · intro message hmessage
    cases hmessage
  · intro revision hrevision
    cases hrevision
  · intro row hrow
    cases hrow
  · intro sessionId hturns
    exact absurd rfl hturns
  · intro call hcall
    cases hcall
  · intro call hcall
    cases hcall

section Runs
variable {es fs : List (Entry World Label Reply)} {w w' : World}

/-- The rows record the turns of the trace. -/
def Faithful (env : Environment) (es : List (Entry World Label Reply)) (w : World) : Prop :=
  Sound env (acceptedTurns es) w

theorem faithful_step {label : Label} {reply : Reply} (h : Faithful env es w)
    (hstep : w.step env label = some (reply, w')) :
    Faithful env (es ++ [⟨w, label, reply, w'⟩]) w' := by
  rw [Faithful, acceptedTurns_concat]
  exact Sound.step h hstep

theorem faithful_of_run (hrun : Run (World.step env) .start es w) : Faithful env es w := by
  have hstart : Faithful env [] .start := sound_start env
  exact hrun.history faithful_step hstart

/-- The turns of a longer trace go on from those of a shorter one. -/
theorem acceptedTurns_append (es fs : List (Entry World Label Reply)) (sessionId : String) :
    acceptedTurns (es ++ fs) sessionId =
      acceptedTurns es sessionId ++ acceptedTurns fs sessionId := by
  rw [acceptedTurns, List.filterMap_append, List.filterMap_append]
  rfl

end Runs

/-! ### The history of a session -/

/-- The rows of a session after the given turns. -/
structure History (turns : List Turn) (db : Store) (sessionId : String) : Prop where
  ordinals : (db.messagesOf sessionId).map MessageRow.ordinal =
    List.range' 1 (2 * turns.length + 1)
  roles : ∀ message ∈ db.messagesOf sessionId,
    message.role = .assistant ↔ message.ordinal % 2 = 1
  clientTurnIds : (db.messagesOf sessionId).filterMap MessageRow.clientTurnId =
    turns.map Turn.clientTurnId
  distinct : (turns.map Turn.clientTurnId).Nodup
  revisionNumbers : (db.revisionsOf sessionId).map RevisionRow.revisionNumber =
    List.range' 1 (db.revisionsOf sessionId).length
  first : ∀ revision ∈ (db.revisionsOf sessionId).head?, revision.previousRevisionId = none
  chained : (db.revisionsOf sessionId).IsChain fun a b => b.previousRevisionId = some a.revisionId
  requirement : ((db.loadLatestRequirement sessionId).map RevisionRow.toRequirement).getD .empty =
    Requirement.empty.after turns
  missing : ∀ revision ∈ db.revisionsOf sessionId,
    revision.missingKeys = revision.toRequirement.missingKeys
  readiness : ∀ revision ∈ db.revisionsOf sessionId,
    revision.readiness = .readyForResearch ↔ revision.missingKeys = []
  changes : List.Forall₂ (Records (db.messagesOf sessionId)) (db.revisionsOf sessionId)
    (Requirement.empty.changes turns)

/-- The latest revision is ready. -/
def Ready (db : Store) (sessionId : String) : Prop :=
  ∃ revision ∈ db.loadLatestRequirement sessionId, revision.readiness = .readyForResearch

section Recorded
variable {turns turns' : List Turn} {db : Store} {sessionId : String}

theorem Recorded.history
    (h : Recorded env turns (db.messagesOf sessionId) (db.revisionsOf sessionId)) :
    History turns db sessionId where
  ordinals := h.ordinals
  roles := h.roles
  clientTurnIds := h.clientTurnIds
  distinct := h.nodup
  revisionNumbers := h.revisionNumbers
  first := h.chained.1
  chained := h.chained.2
  requirement := by
    rw [h.latestRequirement]
    exact h.current_eq
  missing revision hin := (h.readiness revision hin).1
  readiness revision hin := (h.readiness revision hin).2
  changes := h.changes

/-- A session is ready when its turns said all parts. -/
theorem Recorded.ready_iff
    (h : Recorded env turns (db.messagesOf sessionId) (db.revisionsOf sessionId)) :
    Ready db sessionId ↔ (Requirement.empty.after turns).readiness = .readyForResearch := by
  rw [Ready, h.latestRequirement, ← h.current_eq, current]
  cases hlast : (db.revisionsOf sessionId).getLast? with
  | none =>
    refine iff_of_false ?_ (by decide)
    rintro ⟨revision, hin, -⟩
    cases hin
  | some last =>
    obtain ⟨hmissing, hready⟩ := h.readiness last (List.mem_of_getLast? hlast)
    rw [Option.map_some, Option.getD_some, Requirement.readiness_eq_ready_iff, ← hmissing,
      ← hready]
    constructor
    · rintro ⟨revision, hin, hrevision⟩
      rwa [Option.mem_some_iff.mp hin]
    · intro hrevision
      exact ⟨last, rfl, hrevision⟩

theorem Requirement.readiness_after {requirement : Requirement}
    (h : requirement.readiness = .readyForResearch) (turns : List Turn) :
    (requirement.after turns).readiness = .readyForResearch := by
  induction turns generalizing requirement with
  | nil => exact h
  | cons turn turns ih => exact ih (Requirement.readiness_merge h turn.update)

end Recorded

def firstTurn : AppendUserTurnCommand :=
  ⟨"turn", "owner", "0", " hi", ⟨some "a", some "b ", none⟩⟩

def secondTurn : AppendUserTurnCommand := ⟨"more", "owner", "0", "yo", ⟨none, none, some []⟩⟩

def firstText : String :=
  .ofList ((turnJson "hi" ⟨some "a", some "b", none⟩).print naturalText)

def secondText : String := .ofList ((turnJson "yo" ⟨none, none, some []⟩).print naturalText)

/-- The digests of two turns; the other texts stand for their own digests. -/
def sampleSha256 (text : String) : String :=
  if text = firstText then "f51190045c26acd7f6deaa41b273d0cf27b0c1e081fe936158d943a90c42a80b"
  else if text = secondText then
    "d8406f893478c716decba18f4b5fc6388e4f77f7ee694844155420490c483abf"
  else "-" ++ text

/-- Uuids count in unary. -/
def unaryUuid (n : Nat) : String := .ofList (List.replicate (n + 1) '0')

theorem unaryUuid_injective : Function.Injective unaryUuid := by
  intro m n h
  have hlength := congrArg List.length (String.ofList_injective h)
  rw [List.length_replicate, List.length_replicate] at hlength
  omega

def sampleEnv : Environment where
  randomUUID := unaryUuid
  randomUUID_injective := unaryUuid_injective
  readUuid := some
  collate := codeUnitsLe
  sha256 := sampleSha256
  numberText := naturalText

/-- A session of two turns, the first one sent twice. -/
def sampleSchedule : List Label :=
  .call 0 (.createSession ⟨"request", "owner"⟩) 0 :: List.replicate 5 (.next 0) ++
  .call 1 (.appendUserTurn firstTurn) 1 :: List.replicate 10 (.next 1) ++
  .call 2 (.appendUserTurn firstTurn) 2 :: List.replicate 4 (.next 2) ++
  .call 3 (.appendUserTurn secondTurn) 3 :: List.replicate 10 (.next 3)

end ChoiceMind.Conversation
