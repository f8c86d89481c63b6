import ChoiceMind.Foundation.Tally
import ChoiceMind.SourceResearch.Idempotency

/-!
# Notifications of queued jobs

Any publishers call `runOnce` side by side: each selects unpublished rows of the outbox, sends a
message for one after another and marks the row afterwards. A process or a connection may break
off at every point.
-/

namespace ChoiceMind.SourceResearch

set_option autoImplicit false

open Contracts Transition

/-! ### Rows and messages -/

/-- A row of `source_research_outbox` with its identity. -/
structure OutboxEntry where
  outboxId : Nat
  row : OutboxRow
  publishedAt : Option Instant
  deriving DecidableEq

/-- The message of a row. -/
structure Notification where
  eventType : String
  jobId : String
  outboxId : Nat
  deriving DecidableEq

def OutboxEntry.notification (entry : OutboxEntry) : Notification :=
  ⟨entry.row.eventType, entry.row.jobId, entry.outboxId⟩

/-- `WHERE published_at IS NULL ORDER BY outbox_id LIMIT 100` -/
def pendingEntries (outbox : Table OutboxEntry.outboxId) : List OutboxEntry :=
  ((outbox.select fun entry => entry.publishedAt.isNone).insertionSort
    fun a b => a.outboxId ≤ b.outboxId).take 100

/-- `WHERE outbox_id = $1 AND published_at IS NULL` -/
def isUnmarked (outboxId : Nat) (entry : OutboxEntry) : Bool :=
  entry.outboxId = outboxId && entry.publishedAt.isNone

def OutboxEntry.mark (now : Instant) (entry : OutboxEntry) : OutboxEntry :=
  { entry with publishedAt := some now }

theorem OutboxEntry.mark_key (now : Instant) :
    ∀ entry : OutboxEntry, (entry.mark now).outboxId = entry.outboxId := fun _ => rfl

/-! ### Calls -/

inductive RunOnceStatus
  | running
  | returned
  | thrown
  deriving DecidableEq, Repr

/-- A call of `runOnce` in its loop: the rows that it selected, how many of them it has sent and
marked, and what it has counted. -/
structure RunOnce where
  rows : List OutboxEntry
  sent : Nat
  marked : Nat
  published : Nat
  status : RunOnceStatus
  deriving DecidableEq

def RunOnce.begin (outbox : Table OutboxEntry.outboxId) : RunOnce :=
  let rows := pendingEntries outbox
  ⟨rows, 0, 0, 0, if rows.isEmpty then .returned else .running⟩

/-- The loop after an update of so many rows. -/
def RunOnce.advance (rowCount : Nat) (call : RunOnce) : RunOnce :=
  { call with
    marked := call.marked + 1
    published := call.published + if rowCount = 1 then 1 else 0
    status := if call.marked + 1 = call.rows.length then .returned else .running }

/-- What becomes of a message: Redis answers, never gets it, or gets it without an answer. -/
inductive Delivery
  | answered
  | lost
  | unanswered
  deriving DecidableEq, Repr

/-- The rows, the identities given out so far, the calls and the messages on the channel. -/
structure NotifierWorld where
  outbox : Table OutboxEntry.outboxId
  drawn : List Nat
  calls : List RunOnce
  channel : List Notification

def NotifierWorld.initial : NotifierWorld := ⟨.empty, [], [], []⟩

/-- Transactions insert and delete one row after another. -/
inductive NotifierLabel
  | insert (entry : OutboxEntry)
  | delete (outboxId : Nat)
  | runOnce
  | publish (index : Nat) (delivery : Delivery)
  | mark (index : Nat) (now : Instant) (answered : Bool)
  | crash (index : Nat)
  deriving DecidableEq

inductive NotifierReply
  | done
  | marked (outboxId rowCount : Nat)
  | thrown
  deriving DecidableEq

/-- The call of this number, while it runs. -/
def NotifierWorld.running (world : NotifierWorld) (index : Nat) : Option RunOnce :=
  world.calls[index]?.filter fun call => call.status = .running

/-- A row is sent when the one before it is marked, and marked when it is sent. -/
def notifierStep (world : NotifierWorld) : NotifierLabel → Option (NotifierReply × NotifierWorld)
  | .insert entry =>
    if entry.outboxId ∈ world.drawn || entry.publishedAt.isSome then none
    else
      match world.outbox.insert? entry with
      | none => none
      | some outbox => some (.done, { world with outbox, drawn := entry.outboxId :: world.drawn })
  | .delete outboxId => some (.done, { world with outbox := world.outbox.erase outboxId })
  | .runOnce => some (.done, { world with calls := world.calls ++ [.begin world.outbox] })
  | .publish index delivery =>
    match world.running index with
    | none => none
    | some call =>
      match call.rows[call.marked]? with
      | none => none
      | some row =>
        if call.sent ≠ call.marked then none
        else
          match delivery with
          | .answered => some (.done,
            { world with
              calls := world.calls.set index { call with sent := call.sent + 1 }
              channel := world.channel ++ [row.notification] })
          | .lost => some (.thrown,
            { world with calls := world.calls.set index { call with status := .thrown } })
          | .unanswered => some (.thrown,
            { world with
              calls := world.calls.set index { call with sent := call.sent + 1, status := .thrown }
              channel := world.channel ++ [row.notification] })
  | .mark index now answered =>
    match world.running index with
    | none => none
    | some call =>
      match call.rows[call.marked]? with
      | none => none
      | some row =>
        if call.sent ≠ call.marked + 1 then none
        else
          let rowCount := (world.outbox.select (isUnmarked row.outboxId)).length
          let outbox := world.outbox.updateWhere (isUnmarked row.outboxId) (OutboxEntry.mark now)
            (OutboxEntry.mark_key now)
          if answered then some (.marked row.outboxId rowCount,
            { world with outbox, calls := world.calls.set index (call.advance rowCount) })
          else some (.thrown,
            { world with outbox, calls := world.calls.set index { call with status := .thrown } })
  | .crash index =>
    match world.running index with
    | none => none
    | some call =>
      some (.thrown, { world with calls := world.calls.set index { call with status := .thrown } })

abbrev NotifierEntry := Entry NotifierWorld NotifierLabel NotifierReply

/-! ### What a run keeps to -/

/-- The step begins a call while this row is unpublished. -/
def startsFor (outboxId : Nat) (entry : NotifierEntry) : Bool :=
  entry.label = .runOnce && entry.before.outbox.rows.any (isUnmarked outboxId)

/-- The row that a step marks and counts. -/
def NotifierReply.counted : NotifierReply → Option Nat
  | .marked outboxId 1 => some outboxId
  | _ => none

/-- The rows that the steps of a run marked and counted. -/
def countedRows (es : List NotifierEntry) : List Nat :=
  es.filterMap fun entry => entry.reply.counted

/-- The messages of a row on the channel. -/
def messagesOf (outboxId : Nat) (world : NotifierWorld) : Nat :=
  world.channel.countP fun message => message.outboxId = outboxId

/-- A row that was there has been sent, and is published or gone. -/
def Handled (world : NotifierWorld) (row : OutboxEntry) : Prop :=
  row.notification ∈ world.channel ∧
    ∀ entry ∈ world.outbox, entry.outboxId = row.outboxId → entry.publishedAt.isSome = true

/-- A published row was sent before. A call that returned has sent all of its rows, which are
published or gone, and these are all of the unpublished rows that it began with when there were
at most a hundred. A row is not sent more often than calls began while it was unpublished, and
the calls together count each row that is published at most once. -/
structure Delivered (es : List NotifierEntry) (world : NotifierWorld) : Prop where
  published : ∀ entry ∈ world.outbox, entry.publishedAt.isSome = true →
    entry.notification ∈ world.channel
  returned : ∀ call ∈ world.calls, call.status = .returned → ∀ row ∈ call.rows, Handled world row
  drained : ∀ pre entry post, es = pre ++ entry :: post → entry.label = .runOnce →
    (entry.before.outbox.select fun row => row.publishedAt.isNone).length ≤ 100 →
    ∀ call, world.calls[entry.before.calls.length]? = some call → call.status = .returned →
      ∀ row ∈ entry.before.outbox, row.publishedAt = none → Handled world row
  repeated : ∀ outboxId, messagesOf outboxId world ≤ es.countP (startsFor outboxId)
  counted : Tally.total RunOnce.published world.calls = (countedRows es).length ∧
    (countedRows es).Nodup

/-! ### The rows of a call -/

section Rows
variable {world world' : NotifierWorld} {call : RunOnce}

/-- A call before, between and after its messages: it has distinct rows, as they were drawn, and
has sent and marked what it says. -/
structure RunOnce.Sound (world : NotifierWorld) (call : RunOnce) : Prop where
  distinct : (call.rows.map OutboxEntry.outboxId).Nodup
  drawn : ∀ row ∈ call.rows, row.outboxId ∈ world.drawn
  same : ∀ row ∈ call.rows, ∀ entry ∈ world.outbox, entry.outboxId = row.outboxId →
    entry.row = row.row
  marked_le : call.marked ≤ call.sent
  sent_le : call.sent ≤ call.rows.length
  returned : call.status = .returned → call.marked = call.rows.length
  sent : ∀ row ∈ call.rows.take call.sent, row.notification ∈ world.channel
  marked : ∀ row ∈ call.rows.take call.marked, ∀ entry ∈ world.outbox,
    entry.outboxId = row.outboxId → entry.publishedAt.isSome = true

/-- No identity is taken back, no message and no mark, and no row changes. -/
structure Extends (world world' : NotifierWorld) : Prop where
  drawn : ∀ outboxId ∈ world.drawn, outboxId ∈ world'.drawn
  channel : ∀ message ∈ world.channel, message ∈ world'.channel
  entries : ∀ entry ∈ world'.outbox, entry.outboxId ∈ world.drawn →
    ∃ old ∈ world.outbox, old.outboxId = entry.outboxId ∧ old.row = entry.row ∧
      (old.publishedAt.isSome = true → entry.publishedAt.isSome = true)

theorem Extends.of_calls (world : NotifierWorld) (calls : List RunOnce) :
    Extends world { world with calls } :=
  ⟨fun _ h => h, fun _ h => h, fun entry hentry _ => ⟨entry, hentry, rfl, rfl, fun h => h⟩⟩

theorem RunOnce.Sound.extend (h : call.Sound world) (hextends : Extends world world') :
    call.Sound world' where
  distinct := h.distinct
  drawn := fun row hrow => hextends.drawn _ (h.drawn row hrow)
  same := by
    intro row hrow entry hentry hsame
    obtain ⟨old, hold, hid, hcontent, -⟩ := hextends.entries entry hentry
      (hsame ▸ h.drawn row hrow)
    rw [← hcontent]
    exact h.same row hrow old hold (hid.trans hsame)
  marked_le := h.marked_le
  sent_le := h.sent_le
  returned := h.returned
  sent := fun row hrow => hextends.channel _ (h.sent row hrow)
  marked := by
    intro row hrow entry hentry hsame
    obtain ⟨old, hold, hid, -, hmarked⟩ := hextends.entries entry hentry
      (hsame ▸ h.drawn row (List.mem_of_mem_take hrow))
    exact hmarked (h.marked row hrow old hold (hid.trans hsame))

/-- The messages of a row that a call has sent. -/
def RunOnce.messages (outboxId : Nat) (call : RunOnce) : Nat :=
  (call.rows.take call.sent).countP fun row => row.outboxId = outboxId

/-- How often a call has selected a row. -/
def RunOnce.selected (outboxId : Nat) (call : RunOnce) : Nat :=
  call.rows.countP fun row => row.outboxId = outboxId

theorem messages_le_selected (outboxId : Nat) (call : RunOnce) :
    call.messages outboxId ≤ call.selected outboxId :=
  (List.take_sublist call.sent call.rows).countP_le

/-- The messages of a call after one more. -/
theorem messages_succ {row : OutboxEntry} (hrow : call.rows[call.sent]? = some row)
    (status : RunOnceStatus) (outboxId : Nat) :
    { call with sent := call.sent + 1, status }.messages outboxId =
      call.messages outboxId + if row.outboxId = outboxId then 1 else 0 := by
  unfold RunOnce.messages
  dsimp only
  rw [List.take_add_one, hrow, Option.toList_some, List.countP_append, List.countP_singleton]
  simp only [decide_eq_true_eq]

theorem mem_pendingEntries {outbox : Table OutboxEntry.outboxId} {entry : OutboxEntry}
    (h : entry ∈ pendingEntries outbox) : entry ∈ outbox ∧ entry.publishedAt.isNone = true := by
  have hmem := List.mem_of_mem_take h
  rw [List.mem_insertionSort, Table.mem_select] at hmem
  exact hmem

theorem pendingEntries_distinct (outbox : Table OutboxEntry.outboxId) :
    ((pendingEntries outbox).map OutboxEntry.outboxId).Nodup := by
  have hsorted : (((outbox.select fun entry => entry.publishedAt.isNone).insertionSort
      fun a b => a.outboxId ≤ b.outboxId).map OutboxEntry.outboxId).Nodup := by
    rw [((List.perm_insertionSort _ _).map OutboxEntry.outboxId).nodup_iff]
    exact outbox.keys_nodup.sublist (List.filter_sublist.map OutboxEntry.outboxId)
  exact hsorted.sublist ((List.take_sublist 100 _).map OutboxEntry.outboxId)

/-- Few unpublished rows are selected all. -/
theorem pendingEntries_all {outbox : Table OutboxEntry.outboxId} {entry : OutboxEntry}
    (hfew : (outbox.select fun row => row.publishedAt.isNone).length ≤ 100)
    (hentry : entry ∈ outbox) (hpending : entry.publishedAt = none) :
    entry ∈ pendingEntries outbox := by
  unfold pendingEntries
  rw [List.take_of_length_le (by rwa [List.length_insertionSort]), List.mem_insertionSort,
    Table.mem_select, hpending]
  exact ⟨hentry, rfl⟩

end Rows

/-! ### Steps -/

/-- The calls are sound, and their totals are those of the channel and of the run. -/
structure Notified (pre : List NotifierEntry) (world : NotifierWorld) : Prop where
  drawn : ∀ entry ∈ world.outbox, entry.outboxId ∈ world.drawn
  calls : ∀ call ∈ world.calls, call.Sound world
  published : ∀ entry ∈ world.outbox, entry.publishedAt.isSome = true →
    entry.notification ∈ world.channel
  messages : ∀ outboxId, messagesOf outboxId world =
    Tally.total (RunOnce.messages outboxId) world.calls
  selected : ∀ outboxId, Tally.total (RunOnce.selected outboxId) world.calls ≤
    pre.countP (startsFor outboxId)
  counted : Tally.total RunOnce.published world.calls = (countedRows pre).length
  distinct : (countedRows pre).Nodup
  marks : ∀ outboxId ∈ countedRows pre, outboxId ∈ world.drawn ∧
    ∀ entry ∈ world.outbox, entry.outboxId = outboxId → entry.publishedAt.isSome = true

section Steps
variable {pre : List NotifierEntry} {world world' : NotifierWorld} {label : NotifierLabel}
  {reply : NotifierReply} {call : RunOnce} {index : Nat}

theorem running_eq_some : world.running index = some call ↔
    world.calls[index]? = some call ∧ call.status = .running := by
  unfold NotifierWorld.running
  rw [Option.filter_eq_some_iff, decide_eq_true_eq]

theorem countedRows_concat (entry : NotifierEntry) :
    countedRows (pre ++ [entry]) = countedRows pre ++ entry.reply.counted.toList := by
  unfold countedRows
  rw [List.filterMap_append]
  cases hcounted : entry.reply.counted with
  | none => simp [hcounted]
  | some outboxId => simp [hcounted]

theorem notified_initial : Notified [] .initial where
  drawn := fun _ hentry => absurd hentry (Table.not_mem_empty _)
  calls := fun _ hcall => absurd hcall List.not_mem_nil
  published := fun _ hentry => absurd hentry (Table.not_mem_empty _)
  messages := fun _ => rfl
  selected := fun _ => Nat.le_refl 0
  counted := rfl
  distinct := List.nodup_nil
  marks := fun _ hmark => absurd hmark List.not_mem_nil

/-- A step that changes only rows which no call is at work on. -/
theorem Notified.of_outbox (h : Notified pre world) {outbox : Table OutboxEntry.outboxId}
    {drawn : List Nat}
    (hextends : Extends world { world with outbox, drawn })
    (hdrawn : ∀ entry ∈ outbox, entry.outboxId ∈ drawn)
    (hentries : ∀ entry ∈ outbox, entry.publishedAt.isSome = true → entry ∈ world.outbox) :
    Notified (pre ++ [⟨world, label, .done, { world with outbox, drawn }⟩])
      { world with outbox, drawn } where
  drawn := hdrawn
  calls := fun call hcall => (h.calls call hcall).extend hextends
  published := fun entry hentry hsome => h.published entry (hentries entry hentry hsome) hsome
  messages := h.messages
  selected := by
    intro outboxId
    rw [List.countP_append]
    exact (h.selected outboxId).trans (Nat.le_add_right _ _)
  counted := by
    rw [countedRows_concat]
    exact h.counted.trans (by rw [List.length_append]; rfl)
  distinct := by
    rw [countedRows_concat]
    exact (List.append_nil (countedRows pre)).symm ▸ h.distinct
  marks := by
    intro outboxId hmark
    rw [countedRows_concat] at hmark
    have hold : outboxId ∈ countedRows pre := by
      rw [List.mem_append] at hmark
      exact hmark.resolve_right fun hnone => absurd hnone List.not_mem_nil
    obtain ⟨hissued, hpublished⟩ := h.marks outboxId hold
    refine ⟨hextends.drawn outboxId hissued, fun entry hentry hsame => ?_⟩
    obtain ⟨old, hrow, hid, -, hmarked⟩ := hextends.entries entry hentry (hsame ▸ hissued)
    exact hmarked (hpublished old hrow (hid.trans hsame))

/-- A step of one call. -/
theorem Notified.of_call (h : Notified pre world) {call' : RunOnce}
    {outbox : Table OutboxEntry.outboxId} {channel : List Notification}
    (hcall : world.calls[index]? = some call)
    (hextends : Extends world { world with outbox, channel, calls := world.calls.set index call' })
    (hsound : call'.Sound { world with outbox, channel, calls := world.calls.set index call' })
    (hrows : call'.rows = call.rows) (hids : ∀ entry ∈ outbox, entry.outboxId ∈ world.drawn)
    (hpublished : ∀ entry ∈ outbox, entry.publishedAt.isSome = true →
      entry.notification ∈ channel)
    (hmessages : ∀ outboxId, (channel.countP fun message => message.outboxId = outboxId) +
      call.messages outboxId = messagesOf outboxId world + call'.messages outboxId)
    (hcounted : call'.published = call.published + reply.counted.toList.length)
    (hfresh : ∀ outboxId, reply.counted = some outboxId → outboxId ∉ countedRows pre ∧
      outboxId ∈ world.drawn ∧
      ∀ entry ∈ outbox, entry.outboxId = outboxId → entry.publishedAt.isSome = true) :
    Notified
      (pre ++ [⟨world, label, reply,
        { world with outbox, channel, calls := world.calls.set index call' }⟩])
      { world with outbox, channel, calls := world.calls.set index call' } where
  drawn := hids
  calls := by
    intro other hother
    rcases List.mem_or_eq_of_mem_set hother with hold | rfl
    · exact (h.calls other hold).extend hextends
    · exact hsound
  published := hpublished
  messages := by
    intro outboxId
    have hset := Tally.total_set (RunOnce.messages outboxId) hcall call'
    have hbefore := h.messages outboxId
    have hafter := hmessages outboxId
    unfold messagesOf at *
    dsimp only
    omega
  selected := by
    intro outboxId
    have hsame : call'.selected outboxId = call.selected outboxId := by
      unfold RunOnce.selected
      rw [hrows]
    dsimp only
    rw [List.countP_append, Tally.total_set_same hcall hsame]
    exact (h.selected outboxId).trans (Nat.le_add_right _ _)
  counted := by
    have hset := Tally.total_set RunOnce.published hcall call'
    have hbefore := h.counted
    rw [countedRows_concat, List.length_append]
    dsimp only
    omega
  distinct := by
    rw [countedRows_concat, List.nodup_append_comm]
    dsimp only
    cases hreply : reply.counted with
    | none => exact h.distinct
    | some outboxId => exact List.nodup_cons.mpr ⟨(hfresh outboxId hreply).1, h.distinct⟩
  marks := by
    intro outboxId hmark
    rw [countedRows_concat, List.mem_append, Option.mem_toList] at hmark
    rcases hmark with hold | hnew
    · obtain ⟨hissued, hmarked⟩ := h.marks outboxId hold
      refine ⟨hissued, fun entry hentry hsame => ?_⟩
      obtain ⟨old, hrow, hid, -, hkept⟩ := hextends.entries entry hentry (hsame ▸ hissued)
      exact hkept (hmarked old hrow (hid.trans hsame))
    · exact (hfresh outboxId hnew).2

theorem notified_insert (h : Notified pre world) {entry : OutboxEntry}
    (hstep : notifierStep world (.insert entry) = some (reply, world')) :
    Notified (pre ++ [⟨world, .insert entry, reply, world'⟩]) world' := by
  simp only [notifierStep] at hstep
  split at hstep
  · cases hstep
  · rename_i hfresh
    split at hstep
    · cases hstep
    · rename_i outbox hinsert
      cases hstep
      rw [Bool.or_eq_true, decide_eq_true_eq, not_or, Bool.not_eq_true] at hfresh
      refine h.of_outbox ⟨fun id hid => List.mem_cons_of_mem _ hid, fun _ hm => hm, ?_⟩
        ?_ ?_
      · intro row hrow hdrawn
        rcases (Table.mem_insert? hinsert).mp hrow with hold | rfl
        · exact ⟨row, hold, rfl, rfl, fun hsome => hsome⟩
        · exact absurd hdrawn hfresh.1
      · intro row hrow
        rcases (Table.mem_insert? hinsert).mp hrow with hold | rfl
        · exact List.mem_cons_of_mem _ (h.drawn row hold)
        · exact List.mem_cons_self
      · intro row hrow hsome
        rcases (Table.mem_insert? hinsert).mp hrow with hold | rfl
        · exact hold
        · rw [hfresh.2] at hsome
          cases hsome

theorem mem_erase_entry {outboxId : Nat} {entry : OutboxEntry}
    (h : entry ∈ world.outbox.erase outboxId) : entry ∈ world.outbox := by
  unfold Table.erase at h
  exact (Table.mem_deleteWhere.mp h).1

theorem notified_delete (h : Notified pre world) (outboxId : Nat) :
    Notified (pre ++ [⟨world, .delete outboxId, .done,
        { world with outbox := world.outbox.erase outboxId }⟩])
      { world with outbox := world.outbox.erase outboxId } := by
  refine h.of_outbox ⟨fun _ hid => hid, fun _ hm => hm, ?_⟩ ?_ ?_
  · intro row hrow _
    exact ⟨row, mem_erase_entry hrow, rfl, rfl, fun hsome => hsome⟩
  · exact fun row hrow => h.drawn row (mem_erase_entry hrow)
  · exact fun row hrow _ => mem_erase_entry hrow

theorem begin_sound (h : Notified pre world) : (RunOnce.begin world.outbox).Sound world where
  distinct := pendingEntries_distinct world.outbox
  drawn := fun row hrow => h.drawn row (mem_pendingEntries hrow).1
  same := by
    intro row hrow entry hentry hsame
    rw [Table.eq_of_key_eq hentry (mem_pendingEntries hrow).1 hsame]
  marked_le := Nat.le_refl 0
  sent_le := Nat.zero_le _
  returned := by
    intro hstatus
    unfold RunOnce.begin at hstatus ⊢
    dsimp only at hstatus ⊢
    split at hstatus
    · rename_i hempty
      rw [List.isEmpty_iff] at hempty
      rw [hempty]
      rfl
    · cases hstatus
  sent := fun row hrow => absurd hrow List.not_mem_nil
  marked := fun row hrow => absurd hrow List.not_mem_nil

/-- A call selects a row at most once, and only an unpublished one. -/
theorem begin_selected (outboxId : Nat) : (RunOnce.begin world.outbox).selected outboxId ≤
    if world.outbox.rows.any (isUnmarked outboxId) then 1 else 0 := by
  have hone : (RunOnce.begin world.outbox).selected outboxId ≤ 1 := by
    have hcount := List.nodup_iff_count_le_one.mp (pendingEntries_distinct world.outbox) outboxId
    rw [List.count, List.countP_map] at hcount
    exact hcount
  split
  · exact hone
  · rename_i hnone
    apply Nat.le_of_eq
    unfold RunOnce.selected
    rw [List.countP_eq_zero]
    intro row hrow hsame
    obtain ⟨hmem, hpending⟩ := mem_pendingEntries hrow
    refine hnone (List.any_eq_true.mpr ⟨row, hmem, ?_⟩)
    unfold isUnmarked
    rw [hpending, Bool.and_true]
    exact hsame

theorem notified_runOnce (h : Notified pre world) :
    Notified (pre ++ [⟨world, .runOnce, .done,
        { world with calls := world.calls ++ [.begin world.outbox] }⟩])
      { world with calls := world.calls ++ [.begin world.outbox] } where
  drawn := h.drawn
  calls := by
    intro call hcall
    rcases List.mem_append.mp hcall with hold | hnew
    · exact (h.calls call hold).extend (.of_calls world _)
    · rw [List.mem_singleton.mp hnew]
      exact (begin_sound h).extend (.of_calls world _)
  published := h.published
  messages := by
    intro outboxId
    rw [Tally.total_concat]
    exact h.messages outboxId
  selected := by
    intro outboxId
    have hnew : (RunOnce.begin world.outbox).selected outboxId ≤
        if world.outbox.rows.any (isUnmarked outboxId) then 1 else 0 := begin_selected outboxId
    have hold := h.selected outboxId
    rw [Tally.total_concat, List.countP_append, List.countP_singleton]
    unfold startsFor
    dsimp only
    rw [decide_eq_true rfl, Bool.true_and]
    exact Nat.add_le_add hold hnew
  counted := by
    rw [countedRows_concat, Tally.total_concat]
    exact h.counted.trans (by rw [List.length_append]; rfl)
  distinct := by
    rw [countedRows_concat]
    exact (List.append_nil (countedRows pre)).symm ▸ h.distinct
  marks := by
    intro outboxId hmark
    rw [countedRows_concat, List.mem_append] at hmark
    exact h.marks outboxId (hmark.resolve_right fun hnone => absurd hnone List.not_mem_nil)

/-- A call that breaks off. -/
theorem notified_thrown (h : Notified pre world) (hcall : world.calls[index]? = some call) :
    Notified (pre ++ [⟨world, label, .thrown,
        { world with calls := world.calls.set index { call with status := .thrown } }⟩])
      { world with calls := world.calls.set index { call with status := .thrown } } := by
  have hsound := h.calls call (List.mem_of_getElem? hcall)
  refine h.of_call hcall (.of_calls world _) ?_ rfl h.drawn h.published (fun _ => rfl) rfl ?_
  · exact { hsound.extend (.of_calls world _) with returned := fun hstatus => by cases hstatus }
  · intro outboxId hcounted
    cases hcounted

/-- A message on the channel. -/
theorem notified_sent (h : Notified pre world) {row : OutboxEntry} {status : RunOnceStatus}
    (hcall : world.calls[index]? = some call) (hrow : call.rows[call.sent]? = some row)
    (hstatus : status ≠ .returned) (hreply : reply.counted = none) :
    Notified (pre ++ [⟨world, label, reply,
        { world with
          channel := world.channel ++ [row.notification]
          calls := world.calls.set index { call with sent := call.sent + 1, status } }⟩])
      { world with
        channel := world.channel ++ [row.notification]
        calls := world.calls.set index { call with sent := call.sent + 1, status } } := by
  have hsound := h.calls call (List.mem_of_getElem? hcall)
  have hlt : call.sent < call.rows.length := (List.getElem?_eq_some_iff.mp hrow).1
  refine h.of_call hcall ⟨fun _ hid => hid, fun _ hm => List.mem_append_left _ hm, ?_⟩ ?_ rfl
    h.drawn ?_ ?_ ?_ ?_
  · exact fun entry hentry _ => ⟨entry, hentry, rfl, rfl, fun hsome => hsome⟩
  · refine ⟨hsound.distinct, hsound.drawn, hsound.same, Nat.le_succ_of_le hsound.marked_le, hlt,
      fun hreturned => absurd hreturned hstatus, fun sent hsent => ?_, hsound.marked⟩
    dsimp only at hsent ⊢
    rw [List.take_add_one, hrow, List.mem_append] at hsent
    rcases hsent with hold | hnew
    · exact List.mem_append_left _ (hsound.sent sent hold)
    · cases Option.mem_toList.mp hnew
      exact List.mem_append_right _ List.mem_cons_self
  · intro entry hentry hsome
    exact List.mem_append_left _ (h.published entry hentry hsome)
  · intro outboxId
    rw [messages_succ hrow, List.countP_append, List.countP_singleton]
    unfold messagesOf OutboxEntry.notification
    simp only [decide_eq_true_eq]
    omega
  · rw [hreply]
    rfl
  · intro outboxId hcounted
    rw [hreply] at hcounted
    cases hcounted

theorem counted_marked (outboxId rowCount : Nat) :
    (NotifierReply.marked outboxId rowCount).counted.toList.length =
      if rowCount = 1 then 1 else 0 := by
  unfold NotifierReply.counted
  split
  · rename_i hmarked
    cases hmarked
    rfl
  · rename_i hother
    have hne : rowCount ≠ 1 := by
      intro hone
      exact hother outboxId (by rw [hone])
    rw [if_neg hne]
    rfl

theorem eq_of_counted {outboxId rowCount other : Nat}
    (h : (NotifierReply.marked outboxId rowCount).counted = some other) :
    outboxId = other ∧ rowCount = 1 := by
  unfold NotifierReply.counted at h
  split at h
  · rename_i hmarked
    cases hmarked
    cases h
    exact ⟨rfl, rfl⟩
  · cases h

/-- The rows after an update. -/
theorem mem_marked {outboxId : Nat} {now : Instant} {entry : OutboxEntry}
    (h : entry ∈ world.outbox.updateWhere (isUnmarked outboxId) (OutboxEntry.mark now)
      (OutboxEntry.mark_key now)) :
    ∃ old ∈ world.outbox, old.outboxId = entry.outboxId ∧ old.row = entry.row ∧
      (old.publishedAt.isSome = true → entry = old) ∧
      (entry.publishedAt.isSome = true → entry = old ∨ old.outboxId = outboxId) ∧
      (entry.outboxId = outboxId → entry.publishedAt.isSome = true) := by
  obtain ⟨old, hold, hrow⟩ := Table.mem_updateWhere.mp h
  refine ⟨old, hold, ?_⟩
  unfold isUnmarked at hrow
  split at hrow
  · rename_i hmatch
    rw [Bool.and_eq_true, decide_eq_true_eq, Option.isNone_iff_eq_none] at hmatch
    subst hrow
    refine ⟨rfl, rfl, fun hsome => ?_, fun _ => .inr hmatch.1, fun _ => rfl⟩
    rw [hmatch.2] at hsome
    cases hsome
  · rename_i hother
    subst hrow
    refine ⟨rfl, rfl, fun _ => rfl, fun _ => .inl rfl, fun hid => ?_⟩
    rw [decide_eq_true hid, Bool.true_and, Option.isNone_iff_eq_none] at hother
    exact Option.isSome_iff_ne_none.mpr hother

theorem notified_marked (h : Notified pre world) {row : OutboxEntry} {now : Instant}
    {call' : RunOnce} (hcall : world.calls[index]? = some call)
    (hrow : call.rows[call.marked]? = some row) (hsent : call.sent = call.marked + 1)
    (hrows : call'.rows = call.rows) (hsent' : call'.sent = call.sent)
    (hmarked : call'.marked = call.marked ∨ call'.marked = call.marked + 1)
    (hstatus : call'.status = .returned → call'.marked = call.rows.length)
    (hcounted : call'.published = call.published + reply.counted.toList.length)
    (hreply : ∀ outboxId, reply.counted = some outboxId → row.outboxId = outboxId ∧
      (world.outbox.select (isUnmarked row.outboxId)).length = 1) :
    Notified (pre ++ [⟨world, label, reply,
        { world with
          outbox := world.outbox.updateWhere (isUnmarked row.outboxId) (OutboxEntry.mark now)
            (OutboxEntry.mark_key now)
          calls := world.calls.set index call' }⟩])
      { world with
        outbox := world.outbox.updateWhere (isUnmarked row.outboxId) (OutboxEntry.mark now)
          (OutboxEntry.mark_key now)
        calls := world.calls.set index call' } := by
  have hsound := h.calls call (List.mem_of_getElem? hcall)
  have htaken : row ∈ call.rows.take call.sent := by
    rw [hsent, List.take_add_one, hrow]
    exact List.mem_append_right _ List.mem_cons_self
  have hrowMem : row ∈ call.rows := List.mem_of_mem_take htaken
  have hextends : Extends world
      { world with
        outbox := world.outbox.updateWhere (isUnmarked row.outboxId) (OutboxEntry.mark now)
          (OutboxEntry.mark_key now)
        calls := world.calls.set index call' } := by
    refine ⟨fun _ hid => hid, fun _ hm => hm, fun entry hentry _ => ?_⟩
    obtain ⟨old, hold, hid, hcontent, hkept, -⟩ := mem_marked hentry
    exact ⟨old, hold, hid, hcontent, fun hsome => (hkept hsome).symm ▸ hsome⟩
  have hnow := hsound.extend hextends
  refine h.of_call hcall hextends ?_ hrows ?_ ?_ ?_ hcounted ?_
  · -- the call after its update
    refine ⟨hrows ▸ hnow.distinct, hrows ▸ hnow.drawn, hrows ▸ hnow.same, ?_, ?_, ?_, ?_, ?_⟩
    · omega
    · rw [hsent', hrows]
      exact hsound.sent_le
    · rw [hrows]
      exact hstatus
    · rw [hrows, hsent']
      exact hnow.sent
    · rw [hrows]
      rcases hmarked with hsame | hnext
      · rw [hsame]
        exact hnow.marked
      · intro taken htakenRow entry hentry hid
        rw [hnext, List.take_add_one, hrow, List.mem_append] at htakenRow
        rcases htakenRow with hold | hlast
        · exact hnow.marked taken hold entry hentry hid
        · cases Option.mem_toList.mp hlast
          obtain ⟨-, -, -, -, -, -, hdone⟩ := mem_marked hentry
          exact hdone hid
  · intro entry hentry
    obtain ⟨old, hold, hid, -⟩ := mem_marked hentry
    rw [← hid]
    exact h.drawn old hold
  · intro entry hentry hsome
    obtain ⟨old, hold, hid, hcontent, -, hwhich, -⟩ := mem_marked hentry
    rcases hwhich hsome with rfl | hmatch
    · exact h.published entry hold hsome
    · -- the row that was sent
      have hsame : entry.notification = row.notification := by
        unfold OutboxEntry.notification
        rw [← hcontent, hsound.same row hrowMem old hold hmatch, ← hid, hmatch]
      rw [hsame]
      exact hsound.sent row htaken
  · intro outboxId
    unfold RunOnce.messages messagesOf
    rw [hrows, hsent']
  · intro outboxId hnew
    obtain ⟨rfl, hone⟩ := hreply outboxId hnew
    refine ⟨fun hold => ?_, hsound.drawn row hrowMem, fun entry hentry hid => ?_⟩
    · -- it was unpublished before the step
      obtain ⟨entry, hentry⟩ := List.exists_mem_of_length_pos (Nat.lt_of_lt_of_eq
        Nat.zero_lt_one hone.symm)
      obtain ⟨hmem, hunmarked⟩ := Table.mem_select.mp hentry
      unfold isUnmarked at hunmarked
      rw [Bool.and_eq_true, decide_eq_true_eq, Option.isNone_iff_eq_none] at hunmarked
      have hsome := (h.marks row.outboxId hold).2 entry hmem hunmarked.1
      rw [hunmarked.2] at hsome
      cases hsome
    · obtain ⟨-, -, -, -, -, -, hdone⟩ := mem_marked hentry
      exact hdone hid

theorem notified_step (h : Notified pre world)
    (hstep : notifierStep world label = some (reply, world')) :
    Notified (pre ++ [⟨world, label, reply, world'⟩]) world' := by
  cases label with
  | insert entry => exact notified_insert h hstep
  | delete outboxId =>
    cases hstep
    exact notified_delete h outboxId
  | runOnce =>
    cases hstep
    exact notified_runOnce h
  | crash index =>
    simp only [notifierStep] at hstep
    split at hstep
    · cases hstep
    · rename_i hrunning
      cases hstep
      exact notified_thrown h (running_eq_some.mp hrunning).1
  | publish index delivery =>
    simp only [notifierStep] at hstep
    split at hstep
    · cases hstep
    · rename_i call hrunning
      obtain ⟨hcall, hstatus⟩ := running_eq_some.mp hrunning
      split at hstep
      · cases hstep
      · rename_i row hrow
        split at hstep
        · cases hstep
        · rename_i hsent
          rw [← Decidable.not_not.mp hsent] at hrow
          cases delivery with
          | answered =>
            cases hstep
            have hsame : ({ call with sent := call.sent + 1 } : RunOnce) =
              { call with sent := call.sent + 1, status := .running } := by rw [← hstatus]
            rw [hsame]
            exact notified_sent h hcall hrow (by simp) rfl
          | lost =>
            cases hstep
            exact notified_thrown h hcall
          | unanswered =>
            cases hstep
            exact notified_sent h hcall hrow (by simp) rfl
  | mark index now answered =>
    simp only [notifierStep] at hstep
    split at hstep
    · cases hstep
    · rename_i call hrunning
      obtain ⟨hcall, hstatus⟩ := running_eq_some.mp hrunning
      split at hstep
      · cases hstep
      · rename_i row hrow
        split at hstep
        · cases hstep
        · rename_i hsent
          have hnext := Decidable.not_not.mp hsent
          split at hstep
          · cases hstep
            refine notified_marked h hcall hrow hnext rfl rfl (.inr rfl) ?_ ?_ ?_
            · intro hreturned
              unfold RunOnce.advance at hreturned ⊢
              dsimp only at hreturned ⊢
              split at hreturned
              · assumption
              · cases hreturned
            · rw [counted_marked]
              rfl
            · exact fun outboxId hcounted => eq_of_counted hcounted
          · cases hstep
            refine notified_marked h hcall hrow hnext rfl rfl (.inl rfl) ?_ rfl ?_
            · intro hreturned
              cases hreturned
            · intro outboxId hcounted
              cases hcounted

end Steps

/-! ### Runs -/

section Runs
variable {world world' : NotifierWorld} {label : NotifierLabel} {reply : NotifierReply}
  {es : List NotifierEntry} {index : Nat} {rows : List OutboxEntry}

/-- The call of this number selected these rows. -/
def Selected (index : Nat) (rows : List OutboxEntry) (world : NotifierWorld) : Prop :=
  world.calls[index]?.map RunOnce.rows = some rows

theorem Selected.of_set (h : Selected index rows world) {changed : Nat} {call call' : RunOnce}
    (hcall : world.calls[changed]? = some call) (hrows : call'.rows = call.rows) :
    (world.calls.set changed call')[index]?.map RunOnce.rows = some rows := by
  unfold Selected at h
  rw [List.getElem?_set]
  split
  · rename_i hsame
    subst hsame
    rw [hcall, Option.map_some] at h
    rw [if_pos (List.getElem?_eq_some_iff.mp hcall).1, Option.map_some, hrows, h]
  · exact h

/-- A call keeps the rows that it selected. -/
theorem selected_step (h : Selected index rows world)
    (hstep : notifierStep world label = some (reply, world')) : Selected index rows world' := by
  cases label with
  | insert entry =>
    simp only [notifierStep] at hstep
    split at hstep
    · cases hstep
    · split at hstep
      · cases hstep
      · cases hstep
        exact h
  | delete outboxId =>
    cases hstep
    exact h
  | runOnce =>
    cases hstep
    unfold Selected at h ⊢
    obtain ⟨call, hcall, hrows⟩ := Option.map_eq_some_iff.mp h
    dsimp only
    rw [List.getElem?_append_left (List.getElem?_eq_some_iff.mp hcall).1, hcall, Option.map_some,
      hrows]
  | crash changed =>
    simp only [notifierStep] at hstep
    split at hstep
    · cases hstep
    · rename_i hrunning
      cases hstep
      exact h.of_set (running_eq_some.mp hrunning).1 rfl
  | publish changed delivery =>
    simp only [notifierStep] at hstep
    split at hstep
    · cases hstep
    · rename_i call hrunning
      have hset : ∀ next : RunOnce, next.rows = call.rows →
          (world.calls.set changed next)[index]?.map RunOnce.rows = some rows :=
        fun _ hrows => h.of_set (running_eq_some.mp hrunning).1 hrows
      split at hstep
      · cases hstep
      · split at hstep
        · cases hstep
        · cases delivery <;> cases hstep <;> exact hset _ rfl
  | mark changed now answered =>
    simp only [notifierStep] at hstep
    split at hstep
    · cases hstep
    · rename_i hrunning
      split at hstep
      · cases hstep
      · split at hstep
        · cases hstep
        · split at hstep <;> cases hstep <;> exact h.of_set (running_eq_some.mp hrunning).1 rfl

/-- What a sound call that returned has done with its rows. -/
theorem RunOnce.Sound.handled {call : RunOnce} (h : call.Sound world)
    (hreturned : call.status = .returned) : ∀ row ∈ call.rows, Handled world row := by
  intro row hrow
  have hmarked := h.returned hreturned
  have hsent : call.sent = call.rows.length :=
    Nat.le_antisymm h.sent_le (hmarked ▸ h.marked_le)
  constructor
  · apply h.sent row
    rw [hsent, List.take_length]
    exact hrow
  · apply h.marked row
    rw [hmarked, List.take_length]
    exact hrow

/-- Whatever publishers do side by side, and wherever they break off: the outbox is published at
least once. -/
theorem notifications_delivered (hrun : Run notifierStep .initial es world) :
    Delivered es world := by
  have hnotified : Notified ([] ++ es) world := hrun.history notified_step notified_initial
  rw [List.nil_append] at hnotified
  refine ⟨hnotified.published, fun call hcall => (hnotified.calls call hcall).handled, ?_, ?_,
    hnotified.counted, hnotified.distinct⟩
  · intro pre entry post hes hlabel hfew call hcall hreturned row hrow hpending
    rw [hes] at hrun
    obtain ⟨mid, hleft, hright⟩ := hrun.split
    have hselected : Selected entry.before.calls.length (pendingEntries entry.before.outbox)
        world := by
      cases hright with
      | cons hstep hrest =>
        subst hlabel
        cases hstep
        refine hrest.invariant (G := fun _ _ => True) (fun hs _ hnext => selected_step hs hnext)
          (fun _ _ => trivial) ?_
        unfold Selected
        dsimp only
        rw [List.getElem?_concat_length, Option.map_some]
        rfl
    unfold Selected at hselected
    rw [hcall, Option.map_some, Option.some.injEq] at hselected
    apply (hnotified.calls call (List.mem_of_getElem? hcall)).handled hreturned
    rw [hselected]
    exact pendingEntries_all hfew hrow hpending
  · intro outboxId
    have hmessages := hnotified.messages outboxId
    have hselected := hnotified.selected outboxId
    have hle : Tally.total (RunOnce.messages outboxId) world.calls ≤
        Tally.total (RunOnce.selected outboxId) world.calls :=
      Tally.total_mono fun call _ => messages_le_selected outboxId call
    omega

end Runs

/-- Two publishers select the same row, a third one comes afterwards. -/
def sampleNotifier : List NotifierLabel :=
  [.insert ⟨2, ⟨"job", "SOURCE_RESEARCH_QUEUED", 0⟩, none⟩, .runOnce, .runOnce,
   .publish 0 .answered, .publish 1 .answered, .mark 1 1 true, .mark 0 2 true,
   .insert ⟨1, ⟨"other", "SOURCE_RESEARCH_QUEUED", 0⟩, none⟩, .runOnce, .publish 2 .unanswered]

theorem notifications_delivered_sample : ∃ es world, Run notifierStep .initial es world ∧
    es.map Entry.label = sampleNotifier ∧ messagesOf 2 world = 2 ∧ messagesOf 1 world = 1 ∧
    world.calls.map RunOnce.published = [0, 1, 0] ∧ Delivered es world := by
  have hexec : (exec notifierStep .initial sampleNotifier).any (fun result =>
      messagesOf 2 result.2 = 2 && messagesOf 1 result.2 = 1 &&
        result.2.calls.map RunOnce.published = [0, 1, 0]) = true := by decide +kernel
  obtain ⟨es, world, hrun, hlabels, hcheck⟩ := exists_labelled_run_of_exec hexec
  rw [Bool.and_eq_true, Bool.and_eq_true, decide_eq_true_eq, decide_eq_true_eq,
    decide_eq_true_eq] at hcheck
  exact ⟨es, world, hrun, hlabels, hcheck.1.1, hcheck.1.2, hcheck.2, notifications_delivered hrun⟩

end ChoiceMind.SourceResearch
