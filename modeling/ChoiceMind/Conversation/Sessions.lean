import ChoiceMind.Conversation.Transactions

/-!
# Sessions under overlapping commands

A locked session is changed by the transaction that holds the lock only, and a session that is
inserted and not committed has an id and a request of its own. So the rows of every committed
session record the turns that were committed to it, in their order.
-/

namespace ChoiceMind.Conversation

set_option autoImplicit false

open Contracts Transition

variable {env : Environment}

/-! ### The turns of a trace -/

/-- The turn that a `COMMIT` of the call publishes, and its session. -/
def Progress.publishes : Progress → Option (String × Turn)
  | .appending _ turn (.titled message _ _) => some (message.sessionId, turn)
  | _ => none

/-- The turn that a step publishes. -/
def publishedTurn (e : Entry World Label Reply) : Option (String × Turn) :=
  match e.label with
  | .next callId => (e.before.calls.find? callId).bind fun call => call.progress.publishes
  | _ => none

/-- The turns of a session that a trace commits. -/
def acceptedTurns (es : List (Entry World Label Reply)) (sessionId : String) : List Turn :=
  (es.filterMap publishedTurn).filterMap fun published =>
    if published.1 = sessionId then some published.2 else none

/-- The turns of the sessions after one more was published. -/
def hear (turns : String → List Turn) (published : Option (String × Turn)) (sessionId : String) :
    List Turn :=
  turns sessionId ++ published.toList.filterMap fun published =>
    if published.1 = sessionId then some published.2 else none

theorem acceptedTurns_concat (es : List (Entry World Label Reply)) (e : Entry World Label Reply) :
    acceptedTurns (es ++ [e]) = hear (acceptedTurns es) (publishedTurn e) := by
  funext sessionId
  rw [acceptedTurns, List.filterMap_append, List.filterMap_append, hear]
  cases hpublished : publishedTurn e with
  | none => simp [acceptedTurns, hpublished]
  | some published => simp [acceptedTurns, hpublished]

@[simp] theorem hear_none (turns : String → List Turn) : hear turns none = turns := by
  funext sessionId
  simp [hear]

theorem hear_self (turns : String → List Turn) (sessionId : String) (turn : Turn) :
    hear turns (some (sessionId, turn)) sessionId = turns sessionId ++ [turn] := by
  simp [hear]

theorem hear_of_ne {turns : String → List Turn} {sessionId other : String} {turn : Turn}
    (h : sessionId ≠ other) : hear turns (some (sessionId, turn)) other = turns other := by
  simp [hear, h]

/-! ### The invariant -/

/-- The uuid was drawn already. -/
def Drawn (env : Environment) (drawn : Nat) (id : String) : Prop :=
  ∃ n < drawn, id = env.randomUUID n

theorem Drawn.mono {drawn drawn' : Nat} {id : String} (h : Drawn env drawn id)
    (hle : drawn ≤ drawn') : Drawn env drawn' id := by
  obtain ⟨n, hn, hid⟩ := h
  exact ⟨n, lt_of_lt_of_le hn hle, hid⟩

theorem not_drawn (env : Environment) (drawn : Nat) : ¬ Drawn env drawn (env.randomUUID drawn) := by
  rintro ⟨n, hn, hid⟩
  have hsame := env.randomUUID_injective hid
  omega

/-- Two sessions with ids of their own and for requests of their own. -/
structure Apart (a b : SessionRow) : Prop where
  sessionId : a.sessionId ≠ b.sessionId
  request : ¬ (a.ownerUserId = b.ownerUserId ∧ a.clientRequestId = b.clientRequestId)

theorem Apart.symm {a b : SessionRow} (h : Apart a b) : Apart b a :=
  ⟨h.sessionId.symm, fun hsame => h.request ⟨hsame.1.symm, hsame.2.symm⟩⟩

instance : Std.Symm Apart := ⟨fun _ _ => Apart.symm⟩

/-- The committed rows belong to committed sessions and record their turns. -/
structure TablesSound (env : Environment) (turns : String → List Turn) (db : Store)
    (drawn : Nat) : Prop where
  apart : db.sessions.Pairwise Apart
  ids : ∀ row ∈ db.sessions, Drawn env drawn row.sessionId
  messages : ∀ message ∈ db.messages, ∃ row ∈ db.sessions, row.sessionId = message.sessionId
  revisions : ∀ revision ∈ db.revisions, ∃ row ∈ db.sessions, row.sessionId = revision.sessionId
  recorded : ∀ row ∈ db.sessions, Recorded env (turns row.sessionId)
    (db.messagesOf row.sessionId) (db.revisionsOf row.sessionId)
  heard : ∀ sessionId, turns sessionId ≠ [] → Drawn env drawn sessionId

/-- A session that is inserted and not committed. -/
structure Pending (env : Environment) (turns : String → List Turn) (db : Store) (drawn : Nat)
    (session : SessionRow) : Prop where
  id : Drawn env drawn session.sessionId
  apart : ∀ row ∈ db.sessions, Apart row session
  unheard : turns session.sessionId = []

/-- What a call has read and written. -/
structure CallSound (env : Environment) (turns : String → List Turn) (db : Store) (drawn : Nat)
    (progress : Progress) : Prop where
  appending : ∀ command turn phase, progress = .appending command turn phase →
    phase.Sound env db command.ownerUserId turn
  opening : ∀ command session message, progress = .creating command (.opened session message) →
    message.sessionId = session.sessionId ∧ Asks 1 message
  pending : ∀ session, progress.pendingSession = some session →
    Pending env turns db drawn session

/-- Two calls do not hold one session, nor insert sessions of one id or for one request. -/
structure Disjoint (a b : Progress) : Prop where
  locked : ∀ sessionId, a.lockedSession = some sessionId → b.lockedSession ≠ some sessionId
  pending : ∀ p q, a.pendingSession = some p → b.pendingSession = some q → Apart p q

theorem Disjoint.symm {a b : Progress} (h : Disjoint a b) : Disjoint b a :=
  ⟨fun sessionId hb ha => h.locked sessionId ha hb, fun p q hp hq => (h.pending q p hq hp).symm⟩

structure Sound (env : Environment) (turns : String → List Turn) (w : World) : Prop where
  tables : TablesSound env turns w.db w.drawn
  calls : ∀ call ∈ w.calls, CallSound env turns w.db w.drawn call.progress
  disjoint : ∀ a ∈ w.calls, ∀ b ∈ w.calls, a.callId ≠ b.callId → Disjoint a.progress b.progress

/-- A call that holds nothing and has written nothing. -/
structure Idle (progress : Progress) : Prop where
  locked : progress.lockedSession = none
  pending : progress.pendingSession = none

theorem Idle.disjoint {a b : Progress} (h : Idle a) : Disjoint a b := by
  constructor
  · intro sessionId ha
    rw [h.locked] at ha
    cases ha
  · intro p q hp
    rw [h.pending] at hp
    cases hp

theorem Idle.callSound {turns : String → List Turn} {db : Store} {drawn : Nat} {progress : Progress}
    (h : Idle progress) (hidle : ∀ command turn phase, progress = .appending command turn phase →
      phase = .started) : CallSound env turns db drawn progress := by
  constructor
  · intro command turn phase heq
    rw [hidle command turn phase heq]
    trivial
  · intro command session message heq
    have hpending := h.pending
    rw [heq] at hpending
    cases hpending
  · intro session hsession
    rw [h.pending] at hsession
    cases hsession

section Progress
variable {turns : String → List Turn} {db : Store} {drawn : Nat}

theorem CallSound.of_creating {command : CreateSessionCommand} {phase : CreatePhase}
    (hopening : ∀ session message, phase = .opened session message →
      message.sessionId = session.sessionId ∧ Asks 1 message)
    (hpending : ∀ session, (Progress.creating command phase).pendingSession = some session →
      Pending env turns db drawn session) :
    CallSound env turns db drawn (.creating command phase) := by
  refine ⟨?_, ?_, hpending⟩
  · intro _ _ _ heq
    cases heq
  · intro _ session message heq
    injection heq with _ hphase
    exact hopening session message hphase

theorem CallSound.of_appending {command : AppendUserTurnCommand} {turn : Turn}
    {phase : AppendPhase} (h : phase.Sound env db command.ownerUserId turn) :
    CallSound env turns db drawn (.appending command turn phase) := by
  refine ⟨?_, ?_, ?_⟩
  · intro _ _ _ heq
    cases heq
    exact h
  · intro _ _ _ heq
    cases heq
  · intro _ hsession
    cases hsession

/-- A call that creates a session holds no row lock. -/
theorem disjoint_creating {command : CreateSessionCommand} {phase : CreatePhase} {b : Progress}
    (h : ∀ p q, (Progress.creating command phase).pendingSession = some p →
      b.pendingSession = some q → Apart p q) : Disjoint (.creating command phase) b := by
  refine ⟨?_, h⟩
  intro _ hlocked
  cases hlocked

/-- A call that appends a turn inserts no session. -/
theorem disjoint_appending {command : AppendUserTurnCommand} {turn : Turn} {phase : AppendPhase}
    {b : Progress} (h : ∀ sessionId, phase.sessionId = some sessionId →
      b.lockedSession ≠ some sessionId) : Disjoint (.appending command turn phase) b := by
  refine ⟨h, ?_⟩
  intro _ _ hp
  cases hp

end Progress

/-! ### Frames -/

section Frame
variable {turns turns' : String → List Turn} {db db' : Store} {drawn drawn' : Nat}
  {progress : Progress}

theorem SameTurns.refl (sessionId : String) (db : Store) : SameTurns sessionId db db :=
  ⟨rfl, rfl, fun _ h => h⟩

theorem CallSound.frame (h : CallSound env turns db drawn progress)
    (hsame : ∀ sessionId, progress.lockedSession = some sessionId → SameTurns sessionId db db')
    (hpending : ∀ session, progress.pendingSession = some session →
      Pending env turns' db' drawn' session) : CallSound env turns' db' drawn' progress := by
  refine ⟨?_, h.opening, hpending⟩
  intro command turn phase heq
  apply (h.appending command turn phase heq).frame
  intro sessionId hlocked
  apply hsame
  rw [heq]
  exact hlocked

theorem Pending.mono {session : SessionRow} (h : Pending env turns db drawn session)
    (hle : drawn ≤ drawn') : Pending env turns db drawn' session :=
  ⟨h.id.mono hle, h.apart, h.unheard⟩

theorem CallSound.mono (h : CallSound env turns db drawn progress) (hle : drawn ≤ drawn') :
    CallSound env turns db drawn' progress :=
  h.frame (fun sessionId _ => .refl sessionId db) fun session hsession =>
    (h.pending session hsession).mono hle

theorem TablesSound.mono (h : TablesSound env turns db drawn) (hle : drawn ≤ drawn') :
    TablesSound env turns db drawn' :=
  ⟨h.apart, fun row hrow => (h.ids row hrow).mono hle, h.messages, h.revisions, h.recorded,
    fun sessionId hturns => (h.heard sessionId hturns).mono hle⟩

end Frame

section Calls
variable {turns turns' : String → List Turn} {w w' : World} {call : Call} {progress : Progress}

theorem mem_goOn (hcall : call ∈ w.calls) {other : Call} :
    other ∈ (w.goOn call.callId progress).calls ↔
      other = call.goOn progress ∨ other ∈ w.calls ∧ other.callId ≠ call.callId := by
  rw [World.goOn, Table.mem_update]
  constructor
  · rintro ⟨old, hold, rfl⟩
    by_cases hid : old.callId = call.callId
    · rw [if_pos hid, Table.eq_of_key_eq hold hcall hid]
      exact .inl rfl
    · rw [if_neg hid]
      exact .inr ⟨hold, hid⟩
  · rintro (rfl | ⟨hold, hid⟩)
    · exact ⟨call, hcall, if_pos rfl⟩
    · exact ⟨other, hold, if_neg hid⟩

/-- One call goes on, and the others are still sound beside it. -/
theorem Sound.replaced (h : Sound env turns w) (hcall : call ∈ w.calls)
    (hcalls : w'.calls = (w.goOn call.callId progress).calls)
    (htables : TablesSound env turns' w'.db w'.drawn)
    (hkept : ∀ other ∈ w.calls, other.callId ≠ call.callId →
      CallSound env turns' w'.db w'.drawn other.progress)
    (hsound : CallSound env turns' w'.db w'.drawn progress)
    (hdisjoint : ∀ other ∈ w.calls, other.callId ≠ call.callId →
      Disjoint progress other.progress) : Sound env turns' w' := by
  refine ⟨htables, ?_, ?_⟩
  · intro other hother
    rw [hcalls] at hother
    rcases (mem_goOn hcall).mp hother with rfl | ⟨hold, hid⟩
    · exact hsound
    · exact hkept other hold hid
  · intro a ha b hb hne
    rw [hcalls] at ha hb
    rcases (mem_goOn hcall).mp ha with rfl | ⟨hold, hid⟩
    · rcases (mem_goOn hcall).mp hb with rfl | ⟨hold', hid'⟩
      · exact absurd rfl hne
      · exact hdisjoint b hold' hid'
    · rcases (mem_goOn hcall).mp hb with rfl | ⟨hold', hid'⟩
      · exact (hdisjoint a hold hid).symm
      · exact h.disjoint a hold b hold' hne

/-- The same tables, with fewer calls. -/
theorem Sound.of_subset (h : Sound env turns w) (hdb : w'.db = w.db) (hdrawn : w'.drawn = w.drawn)
    (hcalls : ∀ call ∈ w'.calls, call ∈ w.calls) : Sound env turns w' := by
  refine ⟨?_, ?_, ?_⟩
  · rw [hdb, hdrawn]
    exact h.tables
  · intro call hcall
    rw [hdb, hdrawn]
    exact h.calls call (hcalls call hcall)
  · intro a ha b hb
    exact h.disjoint a (hcalls a ha) b (hcalls b hb)

end Calls

/-! ### What is published -/

section Published
variable {turns : String → List Turn} {db : Store} {drawn : Nat} {sessionId ownerUserId : String}

/-- The row that an update of the title leaves names the same session. -/
theorem mem_touchSession {title : Option String} {updatedAt : Instant} {row : SessionRow}
    (h : row ∈ (db.touchSession sessionId ownerUserId title updatedAt).sessions) :
    ∃ old ∈ db.sessions, row.sessionId = old.sessionId ∧ row.ownerUserId = old.ownerUserId ∧
      row.clientRequestId = old.clientRequestId := by
  obtain ⟨old, hold, rfl⟩ := List.mem_map.mp h
  refine ⟨old, hold, ?_⟩
  split <;> exact ⟨rfl, rfl, rfl⟩

theorem owned_touchSession {title : Option String} {updatedAt : Instant} {other owner : String}
    (h : db.Owned other owner) :
    (db.touchSession sessionId ownerUserId title updatedAt).Owned other owner := by
  obtain ⟨row, hrow, hid, howner⟩ := h
  refine ⟨_, List.mem_map.mpr ⟨row, hrow, rfl⟩, ?_⟩
  split <;> exact ⟨hid, howner⟩

/-- An update of the title changes none of the facts about the tables. -/
theorem TablesSound.touchSession (h : TablesSound env turns db drawn) (title : Option String)
    (updatedAt : Instant) :
    TablesSound env turns (db.touchSession sessionId ownerUserId title updatedAt) drawn := by
  refine ⟨?_, ?_, ?_, ?_, ?_, h.heard⟩
  · refine List.pairwise_map.mpr (h.apart.imp ?_)
    intro a b hapart
    constructor
    · split <;> split <;> exact hapart.sessionId
    · split <;> split <;> exact hapart.request
  · intro row hrow
    obtain ⟨old, hold, hid, -⟩ := mem_touchSession hrow
    rw [hid]
    exact h.ids old hold
  · intro message hmessage
    obtain ⟨row, hrow, hid⟩ := h.messages message hmessage
    have howned : (db.touchSession sessionId ownerUserId title updatedAt).Owned
        message.sessionId row.ownerUserId := owned_touchSession ⟨row, hrow, hid, rfl⟩
    obtain ⟨row', hrow', hid', -⟩ := howned
    exact ⟨row', hrow', hid'⟩
  · intro revision hrevision
    obtain ⟨row, hrow, hid⟩ := h.revisions revision hrevision
    have howned : (db.touchSession sessionId ownerUserId title updatedAt).Owned
        revision.sessionId row.ownerUserId := owned_touchSession ⟨row, hrow, hid, rfl⟩
    obtain ⟨row', hrow', hid', -⟩ := howned
    exact ⟨row', hrow', hid'⟩
  · intro row hrow
    obtain ⟨old, hold, hid, -⟩ := mem_touchSession hrow
    rw [hid]
    exact h.recorded old hold

section Turn
variable {turn : Turn} {message answer : MessageRow} {revision : Option RevisionRow}

theorem sessions_addTurn : (db.addTurn message revision answer).sessions = db.sessions := by
  cases revision <;> rfl

theorem messages_addTurn :
    (db.addTurn message revision answer).messages = db.messages ++ [message, answer] := by
  cases revision <;> simp [Store.addTurn, addRevision?, Store.addMessage, Store.addRevision]

theorem revisions_addTurn :
    (db.addTurn message revision answer).revisions = db.revisions ++ revision.toList := by
  cases revision <;> simp [Store.addTurn, addRevision?, Store.addMessage, Store.addRevision]

theorem messagesOf_addTurn (hanswer : answer.sessionId = message.sessionId) (other : String) :
    (db.addTurn message revision answer).messagesOf other = db.messagesOf other ++
      if message.sessionId = other then [message, answer] else [] := by
  rw [Store.messagesOf, messages_addTurn, List.filter_append, Store.messagesOf]
  split <;> simp [*]

theorem revisionsOf_addTurn (hplaced : ∀ row ∈ revision, row.sessionId = message.sessionId)
    (other : String) :
    (db.addTurn message revision answer).revisionsOf other = db.revisionsOf other ++
      if message.sessionId = other then revision.toList else [] := by
  rw [Store.revisionsOf, revisions_addTurn, List.filter_append, Store.revisionsOf]
  cases revision with
  | none => simp
  | some row =>
    have hrow := hplaced row rfl
    split <;> simp [*]

/-- A published turn is recorded in its session, and nowhere else. -/
theorem TablesSound.addTurn (h : TablesSound env turns db drawn)
    (hturn : Answered env db ownerUserId turn message revision answer) :
    TablesSound env (hear turns (some (message.sessionId, turn)))
      (db.addTurn message revision answer) drawn := by
  obtain ⟨row, hrow, hid, -⟩ := hturn.owned
  refine ⟨?_, ?_, ?_, ?_, ?_, ?_⟩
  · rw [sessions_addTurn]
    exact h.apart
  · rw [sessions_addTurn]
    exact h.ids
  · rw [sessions_addTurn, messages_addTurn]
    intro other hother
    simp only [List.mem_append, List.mem_cons, List.not_mem_nil, or_false] at hother
    rcases hother with hold | rfl | rfl
    · exact h.messages other hold
    · exact ⟨row, hrow, hid⟩
    · exact ⟨row, hrow, hid.trans hturn.answers.symm⟩
  · rw [sessions_addTurn, revisions_addTurn]
    intro other hother
    rcases List.mem_append.mp hother with hold | hnew
    · exact h.revisions other hold
    · exact ⟨row, hrow, hid.trans (hturn.placed other (Option.mem_toList.mp hnew)).symm⟩
  · rw [sessions_addTurn]
    intro other hother
    rw [messagesOf_addTurn hturn.answers, revisionsOf_addTurn hturn.placed]
    by_cases hsame : message.sessionId = other.sessionId
    · rw [if_pos hsame, if_pos hsame, ← hsame, hear_self]
      have hrecorded := h.recorded other hother
      rw [← hsame] at hrecorded
      refine .turn hrecorded ?_ hturn.speaks hturn.revises hturn.asks
      intro hin
      rw [← hrecorded.clientTurnIds] at hin
      obtain ⟨old, hold, hturnId⟩ := List.mem_filterMap.mp hin
      exact hturn.new old hold hturnId
    · rw [if_neg hsame, if_neg hsame, List.append_nil, List.append_nil, hear_of_ne hsame]
      exact h.recorded other hother
  · intro other hturns
    by_cases hsame : message.sessionId = other
    · rw [← hsame, ← hid]
      exact h.ids row hrow
    · rw [hear_of_ne hsame] at hturns
      exact h.heard other hturns

theorem sameTurns_addTurn (hturn : Answered env db ownerUserId turn message revision answer)
    {other : String} (hother : message.sessionId ≠ other) {title : Option String}
    {updatedAt : Instant} :
    SameTurns other db ((db.addTurn message revision answer).touchSession message.sessionId
      ownerUserId title updatedAt) := by
  refine ⟨?_, ?_, ?_⟩
  · show (db.addTurn message revision answer).messagesOf other = _
    rw [messagesOf_addTurn hturn.answers, if_neg hother, List.append_nil]
  · show (db.addTurn message revision answer).revisionsOf other = _
    rw [revisionsOf_addTurn hturn.placed, if_neg hother, List.append_nil]
  · intro owner howned
    apply owned_touchSession
    obtain ⟨row, hrow, hid⟩ := howned
    exact ⟨row, by rwa [sessions_addTurn], hid⟩

end Turn

section Session
variable {session : SessionRow} {message : MessageRow}

/-- Nothing belongs to a session that is not committed. -/
theorem TablesSound.nothing_of (h : TablesSound env turns db drawn)
    (hfresh : ∀ row ∈ db.sessions, row.sessionId ≠ sessionId) :
    db.messagesOf sessionId = [] ∧ db.revisionsOf sessionId = [] := by
  constructor
  · apply List.filter_eq_nil_iff.mpr
    intro message hmessage hid
    obtain ⟨row, hrow, hof⟩ := h.messages message hmessage
    exact hfresh row hrow (hof.trans (of_decide_eq_true hid))
  · apply List.filter_eq_nil_iff.mpr
    intro revision hrevision hid
    obtain ⟨row, hrow, hof⟩ := h.revisions revision hrevision
    exact hfresh row hrow (hof.trans (of_decide_eq_true hid))

theorem messagesOf_addMessage (db : Store) (message : MessageRow) (other : String) :
    (db.addMessage message).messagesOf other = db.messagesOf other ++
      if message.sessionId = other then [message] else [] := by
  simp only [Store.messagesOf, Store.addMessage, List.filter_append]
  split <;> simp [*]

/-- A published session records no turn yet. -/
theorem TablesSound.addSession (h : TablesSound env turns db drawn)
    (hpending : Pending env turns db drawn session)
    (hmessage : message.sessionId = session.sessionId) (hasks : Asks 1 message) :
    TablesSound env turns ((db.addSession session).addMessage message) drawn := by
  refine ⟨?_, ?_, ?_, ?_, ?_, h.heard⟩
  · refine List.pairwise_append.mpr ⟨h.apart, List.pairwise_singleton _ _, ?_⟩
    intro row hrow other hother
    rw [List.mem_singleton.mp hother]
    exact hpending.apart row hrow
  · intro row hrow
    rcases List.mem_append.mp hrow with hold | hnew
    · exact h.ids row hold
    · rw [List.mem_singleton.mp hnew]
      exact hpending.id
  · intro other hother
    rcases List.mem_append.mp hother with hold | hnew
    · obtain ⟨row, hrow, hid⟩ := h.messages other hold
      exact ⟨row, List.mem_append_left _ hrow, hid⟩
    · rw [List.mem_singleton.mp hnew]
      exact ⟨session, List.mem_append_right _ List.mem_cons_self, hmessage.symm⟩
  · intro other hother
    obtain ⟨row, hrow, hid⟩ := h.revisions other hother
    exact ⟨row, List.mem_append_left _ hrow, hid⟩
  · intro row hrow
    rw [messagesOf_addMessage]
    show Recorded env _ (db.messagesOf row.sessionId ++ _) (db.revisionsOf row.sessionId)
    rcases List.mem_append.mp hrow with hold | hnew
    · have hne : message.sessionId ≠ row.sessionId := by
        rw [hmessage]
        exact (hpending.apart row hold).sessionId.symm
      rw [if_neg hne, List.append_nil]
      exact h.recorded row hold
    · rw [List.mem_singleton.mp hnew, if_pos hmessage, hpending.unheard]
      obtain ⟨hmessages, hrevisions⟩ :=
        h.nothing_of fun other hother => (hpending.apart other hother).sessionId
      rw [hmessages, hrevisions]
      exact .opened hasks

theorem sameTurns_addSession (hmessage : message.sessionId = session.sessionId)
    (hother : session.sessionId ≠ sessionId) :
    SameTurns sessionId db ((db.addSession session).addMessage message) := by
  refine ⟨?_, rfl, ?_⟩
  · rw [messagesOf_addMessage, hmessage, if_neg hother, List.append_nil]
    rfl
  · rintro owner ⟨row, hrow, hid⟩
    exact ⟨row, List.mem_append_left _ hrow, hid⟩

end Session

section Purge

/-- Ids tell committed sessions apart. -/
theorem TablesSound.eq_of_id (h : TablesSound env turns db drawn) {a b : SessionRow}
    (ha : a ∈ db.sessions) (hb : b ∈ db.sessions) (hid : a.sessionId = b.sessionId) : a = b := by
  by_contra hne
  exact (h.apart.forall ha hb hne).sessionId hid

theorem mem_purge_sessions {row : SessionRow} :
    row ∈ (db.purgePrivateDataForOwner ownerUserId).sessions ↔
      row ∈ db.sessions ∧ row.ownerUserId ≠ ownerUserId := by
  simp only [Store.purgePrivateDataForOwner, List.mem_filter, decide_eq_true_eq]

/-- The rows of a session that the owner does not have are kept. -/
theorem sameTurns_purge (h : ¬ db.Owned sessionId ownerUserId) :
    SameTurns sessionId db (db.purgePrivateDataForOwner ownerUserId) := by
  have hkept : (!db.sessions.any fun row =>
      row.sessionId = sessionId && row.ownerUserId = ownerUserId) = true := by
    rw [Bool.not_eq_true', List.any_eq_false]
    intro row hrow hboth
    rw [Bool.and_eq_true, decide_eq_true_eq, decide_eq_true_eq] at hboth
    exact h ⟨row, hrow, hboth⟩
  refine ⟨?_, ?_, ?_⟩
  · simp only [Store.messagesOf, Store.purgePrivateDataForOwner, List.filter_filter]
    apply List.filter_congr
    intro message hmessage
    by_cases hid : message.sessionId = sessionId
    · rw [hid, hkept, Bool.and_true]
    · rw [decide_eq_false hid, Bool.false_and]
  · simp only [Store.revisionsOf, Store.purgePrivateDataForOwner, List.filter_filter]
    apply List.filter_congr
    intro revision hrevision
    by_cases hid : revision.sessionId = sessionId
    · rw [hid, hkept, Bool.and_true]
    · rw [decide_eq_false hid, Bool.false_and]
  · rintro owner ⟨row, hrow, hid, howner⟩
    refine ⟨row, mem_purge_sessions.mpr ⟨hrow, ?_⟩, hid, howner⟩
    intro hsame
    exact h ⟨row, hrow, hid, hsame⟩

/-- A purge deletes sessions with all their rows. -/
theorem TablesSound.purge (h : TablesSound env turns db drawn) (ownerUserId : String) :
    TablesSound env turns (db.purgePrivateDataForOwner ownerUserId) drawn := by
  have hsame : ∀ row ∈ (db.purgePrivateDataForOwner ownerUserId).sessions,
      SameTurns row.sessionId db (db.purgePrivateDataForOwner ownerUserId) := by
    intro row hrow
    obtain ⟨hold, howner⟩ := mem_purge_sessions.mp hrow
    apply sameTurns_purge
    rintro ⟨other, hother, hid, hof⟩
    -- ids tell sessions apart, so the other row is this one
    rw [h.eq_of_id hother hold hid] at hof
    exact howner hof
  have hkept : ∀ sessionId, (∃ row ∈ db.sessions, row.sessionId = sessionId) →
      (!db.sessions.any fun row => row.sessionId = sessionId && row.ownerUserId = ownerUserId) =
        true → ∃ row ∈ (db.purgePrivateDataForOwner ownerUserId).sessions,
          row.sessionId = sessionId := by
    rintro sessionId ⟨row, hrow, hid⟩ hany
    refine ⟨row, mem_purge_sessions.mpr ⟨hrow, ?_⟩, hid⟩
    intro howner
    rw [Bool.not_eq_true', List.any_eq_false] at hany
    exact hany row hrow (by rw [hid, howner]; simp)
  refine ⟨h.apart.filter _, ?_, ?_, ?_, ?_, h.heard⟩
  · intro row hrow
    exact h.ids row (mem_purge_sessions.mp hrow).1
  · intro message hmessage
    obtain ⟨hold, hany⟩ := List.mem_filter.mp hmessage
    exact hkept _ (h.messages message hold) hany
  · intro revision hrevision
    obtain ⟨hold, hany⟩ := List.mem_filter.mp hrevision
    exact hkept _ (h.revisions revision hold) hany
  · intro row hrow
    rw [(hsame row hrow).messages, (hsame row hrow).revisions]
    exact h.recorded row (mem_purge_sessions.mp hrow).1

end Purge

end Published

end ChoiceMind.Conversation
