import ChoiceMind.Foundation.Tally
import ChoiceMind.Foundation.Transition
import ChoiceMind.TaskPersistence.Store

/-!
# Publishing event notifications

Publishers in several processes call `publishNext` side by side. A call locks one due row, tries
to send its message on the channel and commits a mark or another attempt; it may break off at
every point, and its lock goes with it.
-/

namespace ChoiceMind.TaskPersistence.EventPublisher

set_option autoImplicit false

open Contracts Transition

/-! ### Calls -/

/-- The message of a row. -/
structure Message where
  decisionTaskId : String
  cursor : Nat
  deriving DecidableEq

def message (row : EventNotification) : Message := ⟨row.decisionTaskId, row.eventCursor⟩

inductive Stage
  | selected
  | sent
  | failed
  | published
  | retried
  | thrown
  deriving DecidableEq, Repr

/-- The transaction is open, and the row is locked. -/
def Stage.isOpen : Stage → Bool
  | selected | sent | failed => true
  | _ => false

/-- A call of `publishNext` that has found a row, and whether its message is on the channel. -/
structure Call where
  pending : EventNotification
  attemptedAt : Instant
  stage : Stage
  delivered : Bool
  deriving DecidableEq

/-- What becomes of a message: Redis answers, never gets it, or gets it without an answer. -/
inductive Delivery
  | answered
  | lost
  | unanswered
  deriving DecidableEq, Repr

/-- `WHERE published_at IS NULL AND next_attempt_at <= $1` -/
def isDue (attemptedAt : Instant) (row : EventNotification) : Bool :=
  row.publishedAt.isNone && row.nextAttemptAt ≤ attemptedAt

def publish (attemptedAt : Instant) (row : EventNotification) : EventNotification :=
  { row with publishedAt := some attemptedAt }

theorem publish_key (attemptedAt : Instant) :
    ∀ row : EventNotification, (publish attemptedAt row).eventCursor = row.eventCursor :=
  fun _ => rfl

def retry (retryDelayMs : Int) (attemptedAt : Instant) (row : EventNotification) :
    EventNotification :=
  { row with attempts := row.attempts + 1, nextAttemptAt := attemptedAt + retryDelayMs }

theorem retry_key (retryDelayMs : Int) (attemptedAt : Instant) :
    ∀ row : EventNotification,
      (retry retryDelayMs attemptedAt row).eventCursor = row.eventCursor :=
  fun _ => rfl

/-! ### Steps -/

/-- The rows, the cursors given out so far, the calls and the messages on the channel. -/
structure World where
  notifications : Table EventNotification.eventCursor
  drawn : List Nat
  calls : List Call
  channel : List Message

namespace World

def initial : World := ⟨.empty, [], [], []⟩

/-- A transaction holds the row. -/
def isLocked (world : World) (cursor : Nat) : Bool :=
  world.calls.any fun call => call.stage.isOpen && call.pending.eventCursor = cursor

/-- `ORDER BY event_cursor FOR UPDATE SKIP LOCKED LIMIT 1` -/
def next (world : World) (attemptedAt : Instant) : Option EventNotification :=
  ((world.notifications.select fun row =>
    isDue attemptedAt row && !world.isLocked row.eventCursor).insertionSort
      fun a b => a.eventCursor ≤ b.eventCursor).head?

/-- The call of this number at this stage. -/
def at? (world : World) (index : Nat) (stage : Stage) : Option Call :=
  world.calls[index]?.filter fun call => call.stage = stage

end World

inductive Label
  | insert (row : EventNotification)
  | delete (cursor : Nat)
  | runOnce (attemptedAt : Instant)
  | publish (index : Nat) (delivery : Delivery)
  | commitPublished (index : Nat) (acknowledged : Bool)
  | commitRetried (index : Nat) (acknowledged : Bool)
  | rollback (index : Nat)
  deriving DecidableEq

inductive Reply
  | done
  | batch (attempted failed published : Nat)
  | thrown
  deriving DecidableEq

/-- A statement that deletes a locked row waits, and a commit ends its transaction even when its
answer is lost. -/
def step (retryDelayMs : Int) (world : World) : Label → Option (Reply × World)
  | .insert row =>
    if row.eventCursor ∈ world.drawn || row.publishedAt.isSome || row.attempts ≠ 0 then none
    else
      match world.notifications.insert? row with
      | none => none
      | some notifications =>
        some (.done, { world with notifications, drawn := row.eventCursor :: world.drawn })
  | .delete cursor =>
    if world.isLocked cursor then none
    else some (.done, { world with notifications := world.notifications.erase cursor })
  | .runOnce attemptedAt =>
    match world.next attemptedAt with
    | none => some (.batch 0 0 0, world)
    | some pending =>
      some (.done,
        { world with calls := world.calls ++ [⟨pending, attemptedAt, .selected, false⟩] })
  | .publish index delivery =>
    match world.at? index .selected with
    | none => none
    | some call =>
      match delivery with
      | .answered => some (.done,
        { world with
          calls := world.calls.set index { call with stage := .sent, delivered := true }
          channel := world.channel ++ [message call.pending] })
      | .lost => some (.done,
        { world with calls := world.calls.set index { call with stage := .failed } })
      | .unanswered => some (.done,
        { world with
          calls := world.calls.set index { call with stage := .failed, delivered := true }
          channel := world.channel ++ [message call.pending] })
  | .commitPublished index acknowledged =>
    match world.at? index .sent with
    | none => none
    | some call =>
      some (if acknowledged then .batch 1 0 1 else .thrown,
        { world with
          notifications := world.notifications.update call.pending.eventCursor
            (EventPublisher.publish call.attemptedAt) (publish_key call.attemptedAt)
          calls := world.calls.set index { call with stage := .published } })
  | .commitRetried index acknowledged =>
    match world.at? index .failed with
    | none => none
    | some call =>
      some (if acknowledged then .batch 1 1 0 else .thrown,
        { world with
          notifications := world.notifications.update call.pending.eventCursor
            (retry retryDelayMs call.attemptedAt) (retry_key retryDelayMs call.attemptedAt)
          calls := world.calls.set index { call with stage := .retried } })
  | .rollback index =>
    match world.calls[index]?.filter fun call => call.stage.isOpen with
    | none => none
    | some call =>
      some (.thrown, { world with calls := world.calls.set index { call with stage := .thrown } })

abbrev PublisherEntry := Entry World Label Reply

/-! ### What every run keeps to -/

def messagesOf (cursor : Nat) (world : World) : Nat :=
  world.channel.countP fun message => message.cursor = cursor

/-- The calls for a row that ended in a stage. -/
def endedAs (stage : Stage) (cursor : Nat) (world : World) : Nat :=
  Tally.total (fun call : Call =>
    if call.stage = stage ∧ call.pending.eventCursor = cursor then 1 else 0) world.calls

/-- No two open transactions hold one row, a published row was sent before, and a row is sent
again only after a call for it has failed or broken off, where the failed ones are its
attempts. -/
structure Kept (world : World) : Prop where
  exclusive : ∀ (i j : Nat) (a b : Call), world.calls[i]? = some a → world.calls[j]? = some b →
    a.stage.isOpen = true → b.stage.isOpen = true →
      a.pending.eventCursor = b.pending.eventCursor → i = j
  published : ∀ row ∈ world.notifications, row.publishedAt.isSome = true →
    message row ∈ world.channel
  repeated : ∀ cursor, messagesOf cursor world ≤
    endedAs .retried cursor world + endedAs .thrown cursor world + 1
  attempts : ∀ row ∈ world.notifications, row.attempts = endedAs .retried row.eventCursor world

/-! ### The invariant -/

/-- The transaction is open, or it has published its row. -/
def Stage.isLive (stage : Stage) : Bool := stage.isOpen || stage = .published

def deliveredFor (cursor : Nat) (call : Call) : Nat :=
  if call.delivered = true ∧ call.pending.eventCursor = cursor then 1 else 0

def Exclusive (calls : List Call) : Prop :=
  ∀ (i j : Nat) (a b : Call), calls[i]? = some a → calls[j]? = some b →
    a.stage.isLive = true → b.stage.isLive = true →
      a.pending.eventCursor = b.pending.eventCursor → i = j

/-- An open transaction holds its row as it selected it. -/
structure Sound (world : World) : Prop where
  drawn : ∀ row ∈ world.notifications, row.eventCursor ∈ world.drawn
  issued : ∀ call ∈ world.calls, call.pending.eventCursor ∈ world.drawn
  held : ∀ call ∈ world.calls, call.stage.isOpen = true →
    call.pending ∈ world.notifications ∧ call.pending.publishedAt = none
  exclusive : Exclusive world.calls
  done : ∀ call ∈ world.calls, call.stage = .published → ∀ row ∈ world.notifications,
    row.eventCursor = call.pending.eventCursor → row.publishedAt.isSome = true
  unsent : ∀ call ∈ world.calls, call.stage = .selected → call.delivered = false
  sent : ∀ call ∈ world.calls, call.stage = .sent → message call.pending ∈ world.channel
  published : ∀ row ∈ world.notifications, row.publishedAt.isSome = true →
    message row ∈ world.channel
  messages : ∀ cursor, messagesOf cursor world = Tally.total (deliveredFor cursor) world.calls
  attempts : ∀ row ∈ world.notifications, row.attempts = endedAs .retried row.eventCursor world

section Invariant
variable {retryDelayMs : Int} {world world' : World} {label : Label} {reply : Reply}
  {index : Nat} {call : Call}

theorem sound_initial : Sound .initial where
  drawn := fun _ hrow => absurd hrow (Table.not_mem_empty _)
  issued := fun _ hcall => absurd hcall List.not_mem_nil
  held := fun _ hcall => absurd hcall List.not_mem_nil
  exclusive := fun _ _ _ _ ha => by cases ha
  done := fun _ hcall => absurd hcall List.not_mem_nil
  unsent := fun _ hcall => absurd hcall List.not_mem_nil
  sent := fun _ hcall => absurd hcall List.not_mem_nil
  published := fun _ hrow => absurd hrow (Table.not_mem_empty _)
  messages := fun _ => rfl
  attempts := fun _ hrow => absurd hrow (Table.not_mem_empty _)

theorem isLive_of_isOpen {stage : Stage} (h : stage.isOpen = true) : stage.isLive = true := by
  unfold Stage.isLive
  rw [h, Bool.true_or]

theorem at?_eq_some {stage : Stage} (h : world.at? index stage = some call) :
    world.calls[index]? = some call ∧ call.stage = stage := by
  unfold World.at? at h
  rw [Option.filter_eq_some_iff, decide_eq_true_eq] at h
  exact h

theorem next_eq_some {attemptedAt : Instant} {row : EventNotification}
    (h : world.next attemptedAt = some row) :
    row ∈ world.notifications ∧ row.publishedAt = none ∧
      world.isLocked row.eventCursor = false := by
  have hmem := List.mem_of_head? h
  rw [List.mem_insertionSort, Table.mem_select, Bool.and_eq_true, Bool.not_eq_true'] at hmem
  obtain ⟨hrow, hdue, hfree⟩ := hmem
  unfold isDue at hdue
  rw [Bool.and_eq_true, Option.isNone_iff_eq_none] at hdue
  exact ⟨hrow, hdue.1, hfree⟩

/-- A row that is not locked belongs to no open transaction. -/
theorem not_open_of_free {cursor : Nat} (h : world.isLocked cursor = false) :
    ∀ call ∈ world.calls, call.stage.isOpen = true → call.pending.eventCursor ≠ cursor := by
  intro call hcall hopen hsame
  unfold World.isLocked at h
  rw [List.any_eq_false] at h
  apply h call hcall
  rw [hopen, Bool.true_and]
  exact decide_eq_true hsame

theorem getElem?_set_cases {call' a : Call} {i : Nat}
    (h : (world.calls.set index call')[i]? = some a) :
    world.calls[i]? = some a ∨ i = index ∧ a = call' := by
  rw [List.getElem?_set] at h
  split at h
  · rename_i hsame
    split at h
    · cases h
      exact .inr ⟨hsame.symm, rfl⟩
    · cases h
  · exact .inl h

/-- A transaction that goes on or ends. -/
theorem Exclusive.set (h : Exclusive world.calls) (hcall : world.calls[index]? = some call)
    {call' : Call} (hpending : call'.pending = call.pending)
    (hlive : call'.stage.isLive = true → call.stage.isLive = true) :
    Exclusive (world.calls.set index call') := by
  have hbefore : ∀ (i : Nat) (a : Call), (world.calls.set index call')[i]? = some a →
      a.stage.isLive = true → ∃ old, world.calls[i]? = some old ∧ old.stage.isLive = true ∧
        old.pending = a.pending := by
    intro i a ha haLive
    rcases getElem?_set_cases ha with hold | ⟨rfl, rfl⟩
    · exact ⟨a, hold, haLive, rfl⟩
    · exact ⟨call, hcall, hlive haLive, hpending.symm⟩
  intro i j a b ha hb haLive hbLive hsame
  obtain ⟨oldA, hoa, hla, hpa⟩ := hbefore i a ha haLive
  obtain ⟨oldB, hob, hlb, hpb⟩ := hbefore j b hb hbLive
  exact h i j oldA oldB hoa hob hla hlb (by rw [hpa, hpb, hsame])

/-- The other open transactions hold other rows. -/
theorem Sound.other_open (h : Sound world) (hcall : world.calls[index]? = some call)
    (hopen : call.stage.isOpen = true) {other : Call} {i : Nat}
    (hother : world.calls[i]? = some other) (hi : i ≠ index)
    (hlive : other.stage.isLive = true) :
    other.pending.eventCursor ≠ call.pending.eventCursor := by
  intro hsame
  exact hi (h.exclusive i index other call hother hcall hlive (isLive_of_isOpen hopen) hsame)

/-- A transaction that changes its stage and no row. -/
theorem Sound.of_set (h : Sound world) (hcall : world.calls[index]? = some call)
    (hopen : call.stage.isOpen = true) {call' : Call} {channel : List Message}
    (hpending : call'.pending = call.pending) (hselected : call'.stage ≠ .selected)
    (hstage : call'.stage ≠ .published) (hretried : call'.stage ≠ .retried)
    (hchannel : ∀ m ∈ world.channel, m ∈ channel)
    (hsent : call'.stage = .sent → message call.pending ∈ channel)
    (hmessages : ∀ cursor, (channel.countP fun m => m.cursor = cursor) + deliveredFor cursor call =
      messagesOf cursor world + deliveredFor cursor call') :
    Sound { world with channel, calls := world.calls.set index call' } where
  drawn := h.drawn
  issued := by
    intro other hother
    rcases List.mem_or_eq_of_mem_set hother with hold | rfl
    · exact h.issued other hold
    · rw [hpending]
      exact h.issued call (List.mem_of_getElem? hcall)
  held := by
    intro other hother hotherOpen
    rcases List.mem_or_eq_of_mem_set hother with hold | rfl
    · exact h.held other hold hotherOpen
    · rw [hpending]
      exact h.held call (List.mem_of_getElem? hcall) hopen
  exclusive := h.exclusive.set hcall hpending fun _ => isLive_of_isOpen hopen
  done := by
    intro other hother hpublished
    rcases List.mem_or_eq_of_mem_set hother with hold | rfl
    · exact h.done other hold hpublished
    · exact absurd hpublished hstage
  unsent := by
    intro other hother hotherSelected
    rcases List.mem_or_eq_of_mem_set hother with hold | rfl
    · exact h.unsent other hold hotherSelected
    · exact absurd hotherSelected hselected
  sent := by
    intro other hother hotherSent
    rcases List.mem_or_eq_of_mem_set hother with hold | rfl
    · exact hchannel _ (h.sent other hold hotherSent)
    · rw [hpending]
      exact hsent hotherSent
  published := fun row hrow hsome => hchannel _ (h.published row hrow hsome)
  messages := by
    intro cursor
    have hset := Tally.total_set (deliveredFor cursor) hcall call'
    have hbefore := h.messages cursor
    have hafter := hmessages cursor
    unfold messagesOf at *
    dsimp only
    omega
  attempts := by
    intro row hrow
    rw [h.attempts row hrow]
    unfold endedAs
    refine (Tally.total_set_same hcall ?_).symm
    have hold : call.stage ≠ .retried := by
      intro hsame
      rw [hsame] at hopen
      cases hopen
    rw [if_neg fun hboth => hretried hboth.1, if_neg fun hboth => hold hboth.1]

theorem sound_insert (h : Sound world) {row : EventNotification}
    (hstep : step retryDelayMs world (.insert row) = some (reply, world')) : Sound world' := by
  simp only [step] at hstep
  split at hstep
  · cases hstep
  · rename_i hfresh
    split at hstep
    · cases hstep
    · rename_i notifications hinsert
      cases hstep
      simp only [Bool.or_eq_true, decide_eq_true_eq, not_or, Bool.not_eq_true,
        Decidable.not_not] at hfresh
      obtain ⟨⟨hdrawn, hpublished⟩, hattempts⟩ := hfresh
      have hother : ∀ call ∈ world.calls, call.pending.eventCursor ≠ row.eventCursor := by
        intro call hcall hsame
        exact hdrawn (hsame ▸ h.issued call hcall)
      refine ⟨?_, fun call hcall => List.mem_cons_of_mem _ (h.issued call hcall), ?_, h.exclusive,
        ?_, h.unsent, h.sent, ?_, h.messages, ?_⟩
      · intro other hrow
        rcases (Table.mem_insert? hinsert).mp hrow with hold | rfl
        · exact List.mem_cons_of_mem _ (h.drawn other hold)
        · exact List.mem_cons_self
      · intro call hcall hopen
        obtain ⟨hheld, hpending⟩ := h.held call hcall hopen
        exact ⟨(Table.mem_insert? hinsert).mpr (.inl hheld), hpending⟩
      · intro call hcall hdone other hrow hsame
        rcases (Table.mem_insert? hinsert).mp hrow with hold | rfl
        · exact h.done call hcall hdone other hold hsame
        · exact absurd hsame.symm (hother call hcall)
      · intro other hrow hsome
        rcases (Table.mem_insert? hinsert).mp hrow with hold | rfl
        · exact h.published other hold hsome
        · rw [hpublished] at hsome
          cases hsome
      · intro other hrow
        rcases (Table.mem_insert? hinsert).mp hrow with hold | rfl
        · exact h.attempts other hold
        · rw [hattempts]
          refine (Tally.total_eq_zero fun call hcall => ?_).symm
          exact if_neg fun hboth => hother call hcall hboth.2

theorem sound_delete (h : Sound world) {cursor : Nat}
    (hstep : step retryDelayMs world (.delete cursor) = some (reply, world')) : Sound world' := by
  simp only [step] at hstep
  split at hstep
  · cases hstep
  · rename_i hlocked
    cases hstep
    have hfree := not_open_of_free (Bool.eq_false_iff.mpr hlocked)
    have hkept : ∀ row ∈ world.notifications.erase cursor, row ∈ world.notifications := by
      intro row hrow
      unfold Table.erase at hrow
      exact (Table.mem_deleteWhere.mp hrow).1
    refine ⟨fun row hrow => h.drawn row (hkept row hrow), h.issued, ?_, h.exclusive,
      fun call hcall hdone row hrow => h.done call hcall hdone row (hkept row hrow), h.unsent,
      h.sent, fun row hrow => h.published row (hkept row hrow), h.messages,
      fun row hrow => h.attempts row (hkept row hrow)⟩
    intro call hcall hopen
    obtain ⟨hheld, hpending⟩ := h.held call hcall hopen
    refine ⟨?_, hpending⟩
    unfold Table.erase
    exact Table.mem_deleteWhere.mpr ⟨hheld, decide_eq_false (hfree call hcall hopen)⟩

theorem sound_runOnce (h : Sound world) {attemptedAt : Instant}
    (hstep : step retryDelayMs world (.runOnce attemptedAt) = some (reply, world')) :
    Sound world' := by
  simp only [step] at hstep
  split at hstep
  · cases hstep
    exact h
  · rename_i pending hnext
    cases hstep
    obtain ⟨hrow, hpending, hlocked⟩ := next_eq_some hnext
    have hfree := not_open_of_free hlocked
    -- no live transaction has the row: it is not locked, and not published
    have hnone : ∀ (i : Nat) (a : Call), world.calls[i]? = some a → a.stage.isLive = true →
        a.pending.eventCursor ≠ pending.eventCursor := by
      intro i a ha hlive hsame
      have hmem := List.mem_of_getElem? ha
      unfold Stage.isLive at hlive
      rw [Bool.or_eq_true, decide_eq_true_eq] at hlive
      rcases hlive with hopen | hdone
      · exact hfree a hmem hopen hsame
      · have hsome := h.done a hmem hdone pending hrow hsame.symm
        rw [hpending] at hsome
        cases hsome
    refine ⟨h.drawn, ?_, ?_, ?_, ?_, ?_, ?_, h.published, ?_, ?_⟩
    · intro call hcall
      rcases List.mem_append.mp hcall with hold | hnew
      · exact h.issued call hold
      · cases List.mem_singleton.mp hnew
        exact h.drawn pending hrow
    · intro call hcall hopen
      rcases List.mem_append.mp hcall with hold | hnew
      · exact h.held call hold hopen
      · cases List.mem_singleton.mp hnew
        exact ⟨hrow, hpending⟩
    · intro i j a b ha hb haLive hbLive hsame
      dsimp only at ha hb
      rw [List.getElem?_append] at ha hb
      split at ha
      · split at hb
        · exact h.exclusive i j a b ha hb haLive hbLive hsame
        · cases List.mem_singleton.mp (List.mem_of_getElem? hb)
          exact absurd hsame (hnone i a ha haLive)
      · split at hb
        · cases List.mem_singleton.mp (List.mem_of_getElem? ha)
          exact absurd hsame.symm (hnone j b hb hbLive)
        · have hi := (List.getElem?_eq_some_iff.mp ha).1
          have hj := (List.getElem?_eq_some_iff.mp hb).1
          rw [List.length_singleton] at hi hj
          omega
    · intro call hcall hdone
      rcases List.mem_append.mp hcall with hold | hnew
      · exact h.done call hold hdone
      · cases List.mem_singleton.mp hnew
        cases hdone
    · intro call hcall hselected
      rcases List.mem_append.mp hcall with hold | hnew
      · exact h.unsent call hold hselected
      · rw [List.mem_singleton.mp hnew]
    · intro call hcall hsent
      rcases List.mem_append.mp hcall with hold | hnew
      · exact h.sent call hold hsent
      · cases List.mem_singleton.mp hnew
        cases hsent
    · intro cursor
      rw [Tally.total_concat]
      exact h.messages cursor
    · intro row hmem
      unfold endedAs
      rw [Tally.total_concat]
      exact h.attempts row hmem

/-- A call after a step is an untouched one, or the one that the step is about. -/
theorem mem_set_cases {call' other : Call} (h : other ∈ world.calls.set index call') :
    (∃ i, i ≠ index ∧ world.calls[i]? = some other) ∨ other = call' := by
  obtain ⟨i, hi⟩ := List.mem_iff_getElem?.mp h
  by_cases hsame : i = index
  · rcases getElem?_set_cases hi with hold | ⟨-, rfl⟩
    · subst hsame
      rw [List.getElem?_set_self (List.getElem?_eq_some_iff.mp hold).1] at hi
      exact .inr (Option.some.inj hi).symm
    · exact .inr rfl
  · rw [List.getElem?_set_ne fun heq => hsame heq.symm] at hi
    exact .inl ⟨i, hsame, hi⟩

/-- A transaction commits a change of its row. -/
theorem Sound.of_commit (h : Sound world) (hcall : world.calls[index]? = some call)
    (hopen : call.stage.isOpen = true) {f : EventNotification → EventNotification}
    {hf : ∀ row, (f row).eventCursor = row.eventCursor} {stage : Stage}
    (hended : stage.isOpen = false)
    (hdone : stage = .published → ∀ row, (f row).publishedAt.isSome = true)
    (hmessage : message (f call.pending) = message call.pending)
    (hpublished : (f call.pending).publishedAt.isSome = true →
      message call.pending ∈ world.channel)
    (hattempts : (f call.pending).attempts =
      call.pending.attempts + if stage = .retried then 1 else 0) :
    Sound { world with
      notifications := world.notifications.update call.pending.eventCursor f hf
      calls := world.calls.set index { call with stage } } := by
  have hmem := List.mem_of_getElem? hcall
  have hheld := Table.find?_of_mem (h.held call hmem hopen).1
  -- the rows after the commit
  have hrows : ∀ row ∈ world.notifications.update call.pending.eventCursor f hf,
      row = f call.pending ∨ row ∈ world.notifications ∧
        row.eventCursor ≠ call.pending.eventCursor :=
    fun row hrow => Table.mem_update_of_find? hheld hrow
  have hretried : ∀ cursor, endedAs .retried cursor { world with
      notifications := world.notifications.update call.pending.eventCursor f hf
      calls := world.calls.set index { call with stage } } = endedAs .retried cursor world +
        if stage = .retried ∧ call.pending.eventCursor = cursor then 1 else 0 := by
    intro cursor
    have hset := Tally.total_set (fun call : Call =>
      if call.stage = .retried ∧ call.pending.eventCursor = cursor then 1 else 0) hcall
        { call with stage }
    have hold : call.stage ≠ .retried := by
      intro hsame
      rw [hsame] at hopen
      cases hopen
    rw [if_neg fun hboth => hold hboth.1] at hset
    exact hset
  refine ⟨?_, ?_, ?_, ?_, ?_, ?_, ?_, ?_, ?_, ?_⟩
  · intro row hrow
    rcases hrows row hrow with rfl | ⟨hold, -⟩
    · rw [hf]
      exact h.issued call hmem
    · exact h.drawn row hold
  · intro other hother
    rcases mem_set_cases hother with ⟨i, -, hold⟩ | rfl
    · exact h.issued other (List.mem_of_getElem? hold)
    · exact h.issued call hmem
  · intro other hother hotherOpen
    rcases mem_set_cases hother with ⟨i, hi, hold⟩ | rfl
    · obtain ⟨hrow, hpending⟩ := h.held other (List.mem_of_getElem? hold) hotherOpen
      have hne := h.other_open hcall hopen hold hi (isLive_of_isOpen hotherOpen)
      have hkept : other.pending ∈
          world.notifications.update call.pending.eventCursor f hf :=
        (Table.mem_update_of_ne hne).mpr hrow
      exact ⟨hkept, hpending⟩
    · rw [hended] at hotherOpen
      cases hotherOpen
  · exact h.exclusive.set hcall rfl fun _ => isLive_of_isOpen hopen
  · intro other hother hpublishedStage row hrow hsame
    rcases mem_set_cases hother with ⟨i, hi, hold⟩ | rfl
    · have hotherLive : other.stage.isLive = true := by
        rw [hpublishedStage]
        rfl
      have hne := h.other_open hcall hopen hold hi hotherLive
      rcases hrows row hrow with rfl | ⟨hrowOld, -⟩
      · rw [hf] at hsame
        exact absurd hsame.symm hne
      · exact h.done other (List.mem_of_getElem? hold) hpublishedStage row hrowOld hsame
    · rcases hrows row hrow with rfl | ⟨-, hne⟩
      · exact hdone hpublishedStage call.pending
      · exact absurd hsame hne
  · intro other hother hselected
    rcases mem_set_cases hother with ⟨i, -, hold⟩ | rfl
    · exact h.unsent other (List.mem_of_getElem? hold) hselected
    · dsimp only at hselected
      rw [hselected] at hended
      cases hended
  · intro other hother hsent
    rcases mem_set_cases hother with ⟨i, -, hold⟩ | rfl
    · exact h.sent other (List.mem_of_getElem? hold) hsent
    · dsimp only at hsent
      rw [hsent] at hended
      cases hended
  · intro row hrow hsome
    rcases hrows row hrow with rfl | ⟨hold, -⟩
    · rw [hmessage]
      exact hpublished hsome
    · exact h.published row hold hsome
  · intro cursor
    refine (h.messages cursor).trans (Tally.total_set_same hcall ?_).symm
    rfl
  · intro row hrow
    rw [hretried]
    rcases hrows row hrow with rfl | ⟨hold, hne⟩
    · rw [hattempts, hf, h.attempts _ (h.held call hmem hopen).1,
        if_congr (and_iff_left rfl) rfl rfl]
    · rw [if_neg fun hboth => hne hboth.2.symm, Nat.add_zero]
      exact h.attempts row hold

theorem sound_step (h : Sound world)
    (hstep : step retryDelayMs world label = some (reply, world')) : Sound world' := by
  cases label with
  | insert row => exact sound_insert h hstep
  | delete cursor => exact sound_delete h hstep
  | runOnce attemptedAt => exact sound_runOnce h hstep
  | publish index delivery =>
    simp only [step] at hstep
    split at hstep
    · cases hstep
    · rename_i call hat
      obtain ⟨hcall, hstage⟩ := at?_eq_some hat
      have hopen : call.stage.isOpen = true := by
        rw [hstage]
        rfl
      -- an open transaction at its first stage has sent nothing
      have hunsent := h.unsent call (List.mem_of_getElem? hcall) hstage
      have hgrows : ∀ m ∈ world.channel, m ∈ world.channel ++ [message call.pending] :=
        fun m hm => List.mem_append_left _ hm
      have hmessages : ∀ (stage : Stage) (cursor : Nat),
          ((world.channel ++ [message call.pending]).countP fun m => m.cursor = cursor) +
            deliveredFor cursor call = messagesOf cursor world +
              deliveredFor cursor { call with stage, delivered := true } := by
        intro stage cursor
        unfold deliveredFor messagesOf message
        rw [List.countP_append, List.countP_singleton, hunsent]
        simp
      cases delivery with
      | answered =>
        cases hstep
        exact h.of_set hcall hopen rfl (by simp) (by simp) (by simp) hgrows
          (fun _ => List.mem_append_right _ List.mem_cons_self) (hmessages .sent)
      | lost =>
        cases hstep
        exact h.of_set hcall hopen rfl (by simp) (by simp) (by simp) (fun _ hm => hm) (by simp)
          fun _ => rfl
      | unanswered =>
        cases hstep
        exact h.of_set hcall hopen rfl (by simp) (by simp) (by simp) hgrows
          (fun _ => List.mem_append_right _ List.mem_cons_self) (hmessages .failed)
  | commitPublished index acknowledged =>
    simp only [step] at hstep
    split at hstep
    · cases hstep
    · rename_i call hat
      obtain ⟨hcall, hstage⟩ := at?_eq_some hat
      cases hstep
      refine h.of_commit hcall (by rw [hstage]; rfl) rfl (fun _ _ => rfl) rfl ?_ rfl
      intro _
      exact h.sent call (List.mem_of_getElem? hcall) hstage
  | commitRetried index acknowledged =>
    simp only [step] at hstep
    split at hstep
    · cases hstep
    · rename_i call hat
      obtain ⟨hcall, hstage⟩ := at?_eq_some hat
      have hopen : call.stage.isOpen = true := by
        rw [hstage]
        rfl
      cases hstep
      refine h.of_commit hcall hopen rfl (fun hsame => by cases hsame) rfl ?_ rfl
      intro hsome
      have hpending := (h.held call (List.mem_of_getElem? hcall) hopen).2
      unfold retry at hsome
      dsimp only at hsome
      rw [hpending] at hsome
      cases hsome
  | rollback index =>
    simp only [step] at hstep
    split at hstep
    · cases hstep
    · rename_i call hat
      rw [Option.filter_eq_some_iff] at hat
      cases hstep
      exact h.of_set hat.1 hat.2 rfl (by simp) (by simp) (by simp) (fun _ hm => hm) (by simp)
        fun _ => rfl

end Invariant

/-! ### Published rows -/

/-- The row is published or gone, and nobody is at work on it. -/
structure Settled (cursor count : Nat) (world : World) : Prop where
  drawn : cursor ∈ world.drawn
  rows : ∀ row ∈ world.notifications, row.eventCursor = cursor → row.publishedAt.isSome = true
  calls : ∀ call ∈ world.calls, call.stage.isOpen = true → call.pending.eventCursor ≠ cursor
  messages : messagesOf cursor world = count

section Runs
variable {retryDelayMs : Int} {world world' : World} {label : Label} {reply : Reply}
  {es : List PublisherEntry} {cursor count index : Nat}

theorem Sound.settled (h : Sound world) {row : EventNotification}
    (hrow : row ∈ world.notifications) (hpublished : row.publishedAt.isSome = true) :
    Settled row.eventCursor (messagesOf row.eventCursor world) world where
  drawn := h.drawn row hrow
  rows := by
    intro other hother hsame
    rw [Table.eq_of_key_eq hother hrow hsame]
    exact hpublished
  calls := by
    intro call hcall hopen hsame
    obtain ⟨hheld, hpending⟩ := h.held call hcall hopen
    rw [← Table.eq_of_key_eq hheld hrow hsame, hpending] at hpublished
    cases hpublished
  messages := rfl

/-- A step of another call. -/
theorem Settled.of_set (h : Settled cursor count world) {call call' : Call}
    (hcall : world.calls[index]? = some call) (hopen : call.stage.isOpen = true)
    {notifications : Table EventNotification.eventCursor} {channel : List Message}
    (hrows : ∀ row ∈ notifications, row.eventCursor = cursor → row ∈ world.notifications)
    (hchannel : (channel.countP fun m => m.cursor = cursor) = messagesOf cursor world)
    (hpending : call'.pending = call.pending) :
    Settled cursor count
      { world with notifications, channel, calls := world.calls.set index call' } where
  drawn := h.drawn
  rows := fun row hrow hsame => h.rows row (hrows row hrow hsame) hsame
  calls := by
    intro other hother hotherOpen
    rcases List.mem_or_eq_of_mem_set hother with hold | rfl
    · exact h.calls other hold hotherOpen
    · rw [hpending]
      exact h.calls call (List.mem_of_getElem? hcall) hopen
  messages := hchannel.trans h.messages

theorem mem_update_other {key : Nat} {f : EventNotification → EventNotification}
    {hf : ∀ row, (f row).eventCursor = row.eventCursor} (hne : key ≠ cursor) :
    ∀ row ∈ world.notifications.update key f hf, row.eventCursor = cursor →
      row ∈ world.notifications := by
  intro row hrow hsame
  have hother : row.eventCursor ≠ key := fun heq => hne (heq.symm.trans hsame)
  exact (Table.mem_update_of_ne hother).mp hrow

theorem settled_step (h : Settled cursor count world)
    (hstep : step retryDelayMs world label = some (reply, world')) :
    Settled cursor count world' := by
  cases label with
  | insert row =>
    simp only [step] at hstep
    split at hstep
    · cases hstep
    · rename_i hfresh
      split at hstep
      · cases hstep
      · rename_i notifications hinsert
        cases hstep
        simp only [Bool.or_eq_true, decide_eq_true_eq, not_or] at hfresh
        refine ⟨List.mem_cons_of_mem _ h.drawn, fun other hrow hsame => ?_, h.calls, h.messages⟩
        rcases (Table.mem_insert? hinsert).mp hrow with hold | rfl
        · exact h.rows other hold hsame
        · exact absurd (hsame ▸ h.drawn) hfresh.1.1
  | delete other =>
    simp only [step] at hstep
    split at hstep
    · cases hstep
    · cases hstep
      refine ⟨h.drawn, fun row hrow => h.rows row ?_, h.calls, h.messages⟩
      unfold Table.erase at hrow
      exact (Table.mem_deleteWhere.mp hrow).1
  | runOnce attemptedAt =>
    simp only [step] at hstep
    split at hstep
    · cases hstep
      exact h
    · rename_i pending hnext
      cases hstep
      obtain ⟨hrow, hpending, -⟩ := next_eq_some hnext
      refine ⟨h.drawn, h.rows, fun call hcall hopen hsame => ?_, h.messages⟩
      rcases List.mem_append.mp hcall with hold | hnew
      · exact h.calls call hold hopen hsame
      · cases List.mem_singleton.mp hnew
        have hsome := h.rows pending hrow hsame
        rw [hpending] at hsome
        cases hsome
  | publish index delivery =>
    simp only [step] at hstep
    split at hstep
    · cases hstep
    · rename_i call hat
      obtain ⟨hcall, hstage⟩ := at?_eq_some hat
      have hopen : call.stage.isOpen = true := by
        rw [hstage]
        rfl
      have hother := h.calls call (List.mem_of_getElem? hcall) hopen
      have hchannel : ((world.channel ++ [message call.pending]).countP fun m =>
          m.cursor = cursor) = messagesOf cursor world := by
        rw [List.countP_append, List.countP_singleton, if_neg]
        · rfl
        · rw [decide_eq_true_eq]
          exact hother
      cases delivery with
      | answered =>
        cases hstep
        refine h.of_set hcall hopen (fun _ hrow _ => hrow) hchannel ?_
        rfl
      | lost =>
        cases hstep
        refine h.of_set hcall hopen (fun _ hrow _ => hrow) rfl ?_
        rfl
      | unanswered =>
        cases hstep
        refine h.of_set hcall hopen (fun _ hrow _ => hrow) hchannel ?_
        rfl
  | commitPublished index acknowledged =>
    simp only [step] at hstep
    split at hstep
    · cases hstep
    · rename_i call hat
      obtain ⟨hcall, hstage⟩ := at?_eq_some hat
      have hopen : call.stage.isOpen = true := by
        rw [hstage]
        rfl
      cases hstep
      have hother := h.calls call (List.mem_of_getElem? hcall) hopen
      refine h.of_set hcall hopen (mem_update_other hother) rfl ?_
      rfl
  | commitRetried index acknowledged =>
    simp only [step] at hstep
    split at hstep
    · cases hstep
    · rename_i call hat
      obtain ⟨hcall, hstage⟩ := at?_eq_some hat
      have hopen : call.stage.isOpen = true := by
        rw [hstage]
        rfl
      cases hstep
      have hother := h.calls call (List.mem_of_getElem? hcall) hopen
      refine h.of_set hcall hopen (mem_update_other hother) rfl ?_
      rfl
  | rollback index =>
    simp only [step] at hstep
    split at hstep
    · cases hstep
    · rename_i call hat
      rw [Option.filter_eq_some_iff] at hat
      cases hstep
      refine h.of_set hat.1 hat.2 (fun _ hrow _ => hrow) rfl ?_
      rfl

/-! ### Runs -/

/-- A message of a row: the call for it failed, broke off, or is the one live call for it. -/
theorem Sound.repeated (h : Sound world) (cursor : Nat) : messagesOf cursor world ≤
    endedAs .retried cursor world + endedAs .thrown cursor world + 1 := by
  -- every call for the row is live or ended in one of the two other ways
  have hsplit : messagesOf cursor world ≤
      Tally.total (fun call : Call =>
        ((if call.stage = .retried ∧ call.pending.eventCursor = cursor then 1 else 0) +
          if call.stage = .thrown ∧ call.pending.eventCursor = cursor then 1 else 0) +
        if call.stage.isLive = true ∧ call.pending.eventCursor = cursor then 1 else 0)
        world.calls := by
    rw [h.messages]
    apply Tally.total_mono
    intro call _
    unfold deliveredFor
    by_cases hcursor : call.pending.eventCursor = cursor
    · have hone : (if call.delivered = true then 1 else 0) ≤ 1 := by split <;> omega
      cases hstage : call.stage <;> simp [hcursor, hone, Stage.isLive, Stage.isOpen]
    · simp [hcursor]
  have hlive : Tally.total (fun call : Call =>
      if call.stage.isLive = true ∧ call.pending.eventCursor = cursor then 1 else 0)
        world.calls ≤ 1 := by
    apply Tally.total_le_one
    · intro call _
      split <;> omega
    · intro i j a b ha hb haPos hbPos
      split at haPos
      · rename_i haLive
        split at hbPos
        · rename_i hbLive
          exact h.exclusive i j a b ha hb haLive.1 hbLive.1 (haLive.2.trans hbLive.2.symm)
        · omega
      · omega
  rw [Tally.total_add, Tally.total_add] at hsplit
  unfold endedAs
  omega

/-- Whatever publishers do side by side, and wherever they break off: every run keeps to the
rules, and no message follows the mark of its row. -/
theorem event_notifications_published (hrun : Run (step retryDelayMs) .initial es world) :
    Kept world ∧ ∀ pre entry post, es = pre ++ entry :: post →
      ∀ row ∈ entry.after.notifications, row.publishedAt.isSome = true →
        messagesOf row.eventCursor world = messagesOf row.eventCursor entry.after := by
  have hsound : ∀ {fs : List PublisherEntry} {w : World},
      Run (step retryDelayMs) .initial fs w → Sound w := by
    intro fs w hfs
    exact hfs.invariant (G := fun _ _ => True) (fun hs _ hstep => sound_step hs hstep)
      (fun _ _ => trivial) sound_initial
  constructor
  · have h := hsound hrun
    refine ⟨fun i j a b ha hb haOpen hbOpen => ?_, h.published, h.repeated, h.attempts⟩
    exact h.exclusive i j a b ha hb (isLive_of_isOpen haOpen) (isLive_of_isOpen hbOpen)
  · intro pre entry post hes row hrow hpublished
    rw [hes, List.append_cons] at hrun
    obtain ⟨mid, hleft, hright⟩ := hrun.split
    have hmid : entry.after = mid := hleft.after_of_getLast? List.getLast?_concat
    rw [hmid] at hrow ⊢
    have hsettled := (hsound hleft).settled hrow hpublished
    exact (hright.invariant (G := fun _ _ => True) (fun hs _ hstep => settled_step hs hstep)
      (fun _ _ => trivial) hsettled).messages

end Runs

/-- A first call breaks off after its message and a second one fails; a third call publishes the
row, while a fourth one finds it locked. -/
def samplePublishers : List Label :=
  [.insert ⟨7, "task", 0, 0, none, 0⟩, .runOnce 0, .publish 0 .answered, .rollback 0, .runOnce 1,
   .publish 1 .lost, .commitRetried 1 true, .runOnce 5000, .runOnce 5001, .runOnce 5002,
   .publish 2 .answered, .commitPublished 2 true, .runOnce 5003]

theorem event_notifications_published_sample : ∃ es world,
    Run (step 5000) .initial es world ∧ es.map Entry.label = samplePublishers ∧
      messagesOf 7 world = 2 ∧ world.calls.length = 3 ∧ Kept world := by
  have hexec : (exec (step 5000) .initial samplePublishers).any (fun result =>
      messagesOf 7 result.2 = 2 && result.2.calls.length = 3) = true := by decide +kernel
  obtain ⟨es, world, hrun, hlabels, hcheck⟩ := exists_labelled_run_of_exec hexec
  rw [Bool.and_eq_true, decide_eq_true_eq, decide_eq_true_eq] at hcheck
  exact ⟨es, world, hrun, hlabels, hcheck.1, hcheck.2, (event_notifications_published hrun).1⟩

end ChoiceMind.TaskPersistence.EventPublisher
