import Mathlib.Data.Nat.Digits.Lemmas
import ChoiceMind.Foundation.Relay
import ChoiceMind.TaskPersistence.Pagination
import ChoiceMind.Web.EventStream

/-!
# The event stream between a page and the API

The API reads the events of a task after a cursor, writes them on the response and goes on from
the last one. The page merges what arrives, remembers the greatest cursor and, after a broken
connection, opens a new one from there.
-/

namespace ChoiceMind.Web

set_option autoImplicit false

open Contracts TaskPersistence Transition
open TaskPersistence.Pagination (committedEvents committedEvents_nodup listEvents_eq_page)

/-! ### Cursors as texts -/

theorem digitValue_digitChar {d : Nat} (h : d < 10) : digitValue d.digitChar = d := by
  unfold digitValue
  exact Nat.toNat_digitChar_sub_48_of_lt_ten h

/-- `BigInt` of a printed number. -/
theorem bigInt_toString (n : Nat) : bigInt (toString n) = n := by
  unfold bigInt
  rw [Nat.toString_eq_ofList_toDigits, String.toList_ofList]
  induction n using Nat.strongRecOn with
  | ind n ih =>
    rcases Nat.lt_or_ge n 10 with hlt | hge
    · rw [Nat.toDigits_of_lt_base hlt, List.map_singleton, List.reverse_singleton,
        digitValue_digitChar hlt, Nat.ofDigits_singleton]
    · rw [Nat.toDigits_of_base_le (by decide) hge, List.map_append, List.reverse_append,
        List.map_singleton, List.reverse_singleton, List.singleton_append, Nat.ofDigits_cons,
        ih (n / 10) (by omega), digitValue_digitChar (Nat.mod_lt n (by decide))]
      exact Nat.mod_add_div n 10

/-- A printed number has no leading zero. -/
theorem matchesPositiveInteger_toDigits {n : Nat} (h : 0 < n) :
    matchesPositiveInteger (Nat.toDigits 10 n) = true := by
  induction n using Nat.strongRecOn with
  | ind n ih =>
    rcases Nat.lt_or_ge n 10 with hlt | hge
    · rw [Nat.toDigits_of_lt_base hlt]
      interval_cases n <;> rfl
    · rw [Nat.toDigits_of_base_le (by decide) hge]
      have hfront := ih (n / 10) (by omega) (by omega)
      have hlast : (Nat.digitChar (n % 10)).isDigit = true := by
        apply Nat.isDigit_of_mem_toDigits (b := 10) (n := n % 10) (by decide) (by decide)
        rw [Nat.toDigits_of_lt_base (Nat.mod_lt n (by decide))]
        exact List.mem_singleton_self _
      cases hdigits : Nat.toDigits 10 (n / 10) with
      | nil =>
        rw [hdigits] at hfront
        cases hfront
      | cons first digits =>
        rw [hdigits] at hfront
        simp only [matchesPositiveInteger, Bool.and_eq_true] at hfront
        rw [List.cons_append]
        simp only [matchesPositiveInteger, Bool.and_eq_true, List.all_append, List.all_cons,
          List.all_nil, Bool.and_true]
        exact ⟨hfront.1, hfront.2, hlast⟩

/-- The cursors of the identity column are cursors of the contract. -/
theorem isPersistedRunEventCursorV1_toString {n : Nat} (h : 0 < n) (hle : n ≤ postgresBigintMax) :
    isPersistedRunEventCursorV1 (toString n) = true := by
  unfold isPersistedRunEventCursorV1
  rw [bigInt_toString, decide_eq_true hle, Bool.and_true, Nat.toString_eq_ofList_toDigits,
    String.toList_ofList]
  exact matchesPositiveInteger_toDigits h

/-! ### The handler -/

/-- The handler's cursor, what it has written and the page has not received, and whether it has
ended the response. -/
structure Connection where
  cursor : Option String
  wire : List PersistedRunEvent
  ended : Bool

/-- `decodePersistedRunEventV1` and the check of the task. -/
def decodeForTask (decisionTaskId : String) (input : Nat × RunEvent) : Option PersistedRunEvent :=
  if hcursor : isPersistedRunEventCursorV1 (toString input.1) = true then
    if (decodePersistedRunEventV1 input.2).isOk && input.2.decisionTaskId = decisionTaskId then
      some ⟨toString input.1, input.2, hcursor⟩
    else none
  else none

/-- An event that does not belong into the stream ends it. -/
def writePersistedEvent (decisionTaskId : String) (connection : Connection)
    (input : Nat × RunEvent) : Connection :=
  if connection.ended then connection
  else
    match decodeForTask decisionTaskId input with
    | none => { connection with ended := true }
    | some persisted =>
      { connection with
        cursor := some persisted.cursor
        wire := connection.wire ++ [persisted] }

def isValidLastEventId (value : Option String) : Bool := value.all isPersistedRunEventCursorV1

/-- The response to a request for the events after a cursor, if it is a stream. -/
def openStream (decisionTaskId ownerUserId : String) (lastEventId : Option String) (db : Store) :
    Option Connection :=
  if !isValidLastEventId lastEventId then none
  else
    match get decisionTaskId ownerUserId db with
    | .ok (some _) =>
      match listEvents decisionTaskId ownerUserId (lastEventId.map bigInt) db with
      | .ok events =>
        some (events.foldl (writePersistedEvent decisionTaskId) ⟨lastEventId, [], false⟩)
      | .error _ => none
    | _ => none

/-- One more round of the handler's loop. -/
def Connection.poll (decisionTaskId ownerUserId : String) (db : Store) (connection : Connection) :
    Connection :=
  match listEvents decisionTaskId ownerUserId (connection.cursor.map bigInt) db with
  | .ok events => events.foldl (writePersistedEvent decisionTaskId) connection
  | .error _ => { connection with ended := true }

/-! ### The page -/

structure Page where
  lastEventCursor : Option String
  events : List PersistedRunEvent

/-- `onmessage` -/
def Page.receive (decisionTaskId : String) (page : Page) (persisted : PersistedRunEvent) : Page :=
  if persisted.event.decisionTaskId ≠ decisionTaskId then page
  else
    { lastEventCursor :=
        if page.lastEventCursor.all fun last => bigInt last < bigInt persisted.cursor then
          some persisted.cursor
        else page.lastEventCursor
      events := mergePersistedEvent page.events persisted }

/-! ### Steps -/

structure StreamWorld where
  db : Store
  connection : Option Connection
  page : Page

def StreamWorld.start : StreamWorld := ⟨.empty, none, ⟨none, []⟩⟩

inductive StreamLabel
  /-- a transaction that makes these rows visible -/
  | commit (rows : List RunEventRow) (committed : Store)
  | connect
  | poll
  | deliver
  | disconnect

/-- The rows are new, well formed and under cursors of the identity column, and visible rows keep
their owners. -/
def commitsEvents (db : Store) (rows : List RunEventRow) (committed : Store) : Bool :=
  committed.runEvents.rows = db.runEvents.rows ++ rows &&
    (rows.all fun row => (decodePersistedRunEventV1 row.event).isOk &&
      0 < row.cursor && row.cursor ≤ postgresBigintMax) &&
    db.runEvents.rows.all fun row =>
      committed.runOwner row.event.agentRunId = db.runOwner row.event.agentRunId

def streamStep (decisionTaskId ownerUserId : String) (world : StreamWorld) :
    StreamLabel → Option (Unit × StreamWorld)
  | .commit rows committed =>
    if commitsEvents world.db rows committed then some ((), { world with db := committed })
    else none
  | .connect =>
    match world.connection with
    | some _ => none
    | none => some ((),
      { world with
        connection :=
          openStream decisionTaskId ownerUserId world.page.lastEventCursor world.db })
  | .poll =>
    match world.connection with
    | none => none
    | some connection =>
      if connection.ended then none
      else some ((),
        { world with connection := some (connection.poll decisionTaskId ownerUserId world.db) })
  | .deliver =>
    match world.connection with
    | none => none
    | some connection =>
      match connection.wire with
      | [] => none
      | persisted :: wire => some ((),
        { world with
          connection := some { connection with wire }
          page := world.page.receive decisionTaskId persisted })
  | .disconnect => some ((), { world with connection := none })

abbrev StreamEntry := Entry StreamWorld StreamLabel Unit

/-! ### What a page shows -/

/-- An event as the log has it. -/
def PersistedRunEvent.row (persisted : PersistedRunEvent) : Nat × RunEvent :=
  (persisted.position, persisted.event)

/-- What is on its way to the page. -/
def StreamWorld.wire (world : StreamWorld) : List PersistedRunEvent :=
  match world.connection with
  | none => []
  | some connection => connection.wire

/-- No commit makes an event of the task and owner visible below one that the page shows or that
is on its way to it. -/
def CommitsBeyond (decisionTaskId ownerUserId : String) (world : StreamWorld) :
    StreamLabel → Prop
  | .commit rows committed => ∀ row ∈ rows, row.event.decisionTaskId = decisionTaskId →
      committed.runOwner row.event.agentRunId = some ownerUserId →
      ∀ persisted ∈ world.page.events ++ world.wire, persisted.position < row.cursor
  | _ => True

/-- The page shows committed events of the task and owner, each once and in the order of their
cursors. -/
structure ShowsLog (decisionTaskId ownerUserId : String) (world : StreamWorld) : Prop where
  increasing : world.page.events.Pairwise fun a b => a.position < b.position
  committed : ∀ persisted ∈ world.page.events,
    persisted.row ∈ committedEvents world.db decisionTaskId ownerUserId

/-- Every committed event up to the last one shown is shown. -/
def NoGap (decisionTaskId ownerUserId : String) (world : StreamWorld) : Prop :=
  ∀ row ∈ committedEvents world.db decisionTaskId ownerUserId,
    (∃ persisted ∈ world.page.events, row.1 ≤ persisted.position) →
      ∃ persisted ∈ world.page.events, persisted.row = row

/-- Every committed event is shown. -/
def ShowsAll (decisionTaskId ownerUserId : String) (world : StreamWorld) : Prop :=
  ∀ row ∈ committedEvents world.db decisionTaskId ownerUserId,
    ∃ persisted ∈ world.page.events, persisted.row = row

/-! ### Events on their way -/

section Events
variable {decisionTaskId ownerUserId : String} {db : Store} {row : Nat × RunEvent}
  {persisted : PersistedRunEvent} {events : List (Nat × RunEvent)}

/-- A row that belongs into the stream. -/
structure Streamable (decisionTaskId : String) (row : Nat × RunEvent) : Prop where
  decodes : (decodePersistedRunEventV1 row.2).isOk = true
  task : row.2.decisionTaskId = decisionTaskId
  positive : 0 < row.1
  bounded : row.1 ≤ postgresBigintMax

theorem decodeForTask_eq (h : Streamable decisionTaskId row) :
    ∃ persisted, decodeForTask decisionTaskId row = some persisted ∧ persisted.row = row := by
  have hcursor := isPersistedRunEventCursorV1_toString h.positive h.bounded
  refine ⟨⟨toString row.1, row.2, hcursor⟩, ?_, ?_⟩
  · unfold decodeForTask
    rw [dif_pos hcursor, if_pos]
    rw [h.decodes, Bool.true_and]
    exact decide_eq_true h.task
  · unfold PersistedRunEvent.row PersistedRunEvent.position
    rw [bigInt_toString]

theorem mem_committedEvents : row ∈ committedEvents db decisionTaskId ownerUserId ↔
    ∃ stored ∈ db.runEvents, stored.event.decisionTaskId = decisionTaskId ∧
      db.runOwner stored.event.agentRunId = some ownerUserId ∧
      row = (stored.cursor, stored.event) := by
  unfold committedEvents
  rw [List.mem_map]
  constructor
  · rintro ⟨stored, hstored, rfl⟩
    rw [Table.mem_select, Bool.and_eq_true, decide_eq_true_eq, decide_eq_true_eq] at hstored
    exact ⟨stored, hstored.1, hstored.2.1, hstored.2.2, rfl⟩
  · rintro ⟨stored, hstored, htask, howner, rfl⟩
    refine ⟨stored, ?_, rfl⟩
    rw [Table.mem_select, Bool.and_eq_true, decide_eq_true_eq, decide_eq_true_eq]
    exact ⟨hstored, htask, howner⟩

/-- The rows of the log are well formed and under cursors of the identity column. -/
def WellFormedLog (db : Store) : Prop :=
  ∀ row ∈ db.runEvents, (decodePersistedRunEventV1 row.event).isOk = true ∧ 0 < row.cursor ∧
    row.cursor ≤ postgresBigintMax

theorem WellFormedLog.streamable (h : WellFormedLog db)
    (hrow : row ∈ committedEvents db decisionTaskId ownerUserId) :
    Streamable decisionTaskId row := by
  obtain ⟨stored, hstored, htask, -, rfl⟩ := mem_committedEvents.mp hrow
  obtain ⟨hdecodes, hpositive, hbounded⟩ := h stored hstored
  exact ⟨hdecodes, htask, hpositive, hbounded⟩

/-- The handler after it has written rows that come after everything it wrote before. -/
theorem foldl_write {connection : Connection} {received : List (Nat × RunEvent)}
    (hended : connection.ended = false)
    (hcursor : connection.cursor.map bigInt = Feed.lastKey Prod.fst received)
    (hevents : ∀ row ∈ events, Streamable decisionTaskId row)
    (hincreasing : (received ++ events).Pairwise fun a b => a.1 < b.1) :
    (events.foldl (writePersistedEvent decisionTaskId) connection).ended = false ∧
      (events.foldl (writePersistedEvent decisionTaskId) connection).cursor.map bigInt =
        Feed.lastKey Prod.fst (received ++ events) ∧
      (events.foldl (writePersistedEvent decisionTaskId) connection).wire.map
        PersistedRunEvent.row = connection.wire.map PersistedRunEvent.row ++ events := by
  induction events generalizing connection received with
  | nil =>
    rw [List.foldl_nil, List.append_nil, List.append_nil]
    exact ⟨hended, hcursor, rfl⟩
  | cons row events ih =>
    obtain ⟨persisted, hdecoded, hrow⟩ := decodeForTask_eq (hevents row List.mem_cons_self)
    have hwritten : writePersistedEvent decisionTaskId connection row =
        { connection with
          cursor := some persisted.cursor
          wire := connection.wire ++ [persisted] } := by
      unfold writePersistedEvent
      rw [hended, hdecoded]
      rfl
    have hgreater : ∀ held ∈ received, held.1 < row.1 := by
      intro held hheld
      exact (List.pairwise_append.mp hincreasing).2.2 held hheld row List.mem_cons_self
    rw [List.foldl_cons, hwritten]
    rw [List.append_cons] at hincreasing
    have hlastKey : (some persisted.cursor).map bigInt =
        Feed.lastKey Prod.fst (received ++ [row]) := by
      rw [Feed.lastKey_concat hgreater, ← hrow]
      rfl
    obtain ⟨hopen, hlast, hwire⟩ := @ih
      { connection with
        cursor := some persisted.cursor
        wire := connection.wire ++ [persisted] }
      (received ++ [row]) hended hlastKey
      (fun other hother => hevents other (List.mem_cons_of_mem row hother)) hincreasing
    refine ⟨hopen, ?_, ?_⟩
    · rw [hlast, List.append_assoc, List.singleton_append]
    · rw [hwire, List.map_append, List.map_singleton, hrow, List.append_assoc,
        List.singleton_append]

/-- An event after all others is merged at the end. -/
theorem mergePersistedEvent_greater {current : List PersistedRunEvent}
    (hincreasing : current.Pairwise fun a b => a.position < b.position)
    (hgreater : ∀ shown ∈ current, shown.position < persisted.position) :
    mergePersistedEvent current persisted = current ++ [persisted] := by
  have hpositions : (current ++ [persisted]).Pairwise fun a b => a.position < b.position := by
    refine List.pairwise_append.mpr ⟨hincreasing, List.pairwise_singleton _ _, ?_⟩
    intro shown hshown last hlast
    rw [List.mem_singleton.mp hlast]
    exact hgreater shown hshown
  have hcursors : (current.map PersistedRunEvent.cursor).Nodup := by
    rw [List.nodup_iff_pairwise_ne, List.pairwise_map]
    refine hincreasing.imp fun hlt hsame => absurd hlt ?_
    unfold PersistedRunEvent.position
    rw [hsame]
    exact lt_irrefl _
  have hfresh : persisted.cursor ∉ current.map PersistedRunEvent.cursor := by
    intro hmem
    obtain ⟨shown, hshown, hsame⟩ := List.mem_map.mp hmem
    have hlt := hgreater shown hshown
    unfold PersistedRunEvent.position at hlt
    rw [hsame] at hlt
    exact lt_irrefl _ hlt
  unfold mergePersistedEvent
  rw [OrderedMap.merge_of_fresh hcursors hfresh]
  exact List.Pairwise.insertionSort_eq (hpositions.imp le_of_lt)

end Events

/-! ### The invariant -/

/-- What the page follows: the log, and what it shows or will receive. -/
def StreamWorld.view (decisionTaskId ownerUserId : String) (world : StreamWorld) :
    Feed.State (Nat × RunEvent) :=
  ⟨committedEvents world.db decisionTaskId ownerUserId,
    (world.page.events ++ world.wire).map PersistedRunEvent.row⟩

/-- The page and the handler have the greatest cursors of what they have. -/
structure Streaming (decisionTaskId ownerUserId : String) (world : StreamWorld) : Prop where
  rows : WellFormedLog world.db
  follows : Feed.Follows Prod.fst (world.view decisionTaskId ownerUserId)
  valid : isValidLastEventId world.page.lastEventCursor = true
  last : world.page.lastEventCursor.map bigInt =
    Feed.lastKey Prod.fst (world.page.events.map PersistedRunEvent.row)
  cursor : ∀ connection, world.connection = some connection →
    connection.cursor.map bigInt =
      Feed.lastKey Prod.fst (world.view decisionTaskId ownerUserId).received

/-- What a step does to the view. -/
inductive Moves (decisionTaskId ownerUserId : String) (world world' : StreamWorld)
    (label : StreamLabel) : Prop
  | same (h : world'.view decisionTaskId ownerUserId = world.view decisionTaskId ownerUserId)
  | appended (rows : List RunEventRow) (committed : Store) (entries : List (Nat × RunEvent))
    (hlabel : label = .commit rows committed)
    (hdistinct : (((world.view decisionTaskId ownerUserId).log ++ entries).map Prod.fst).Nodup)
    (hentries : ∀ entry ∈ entries, ∃ row ∈ rows, row.event.decisionTaskId = decisionTaskId ∧
      committed.runOwner row.event.agentRunId = some ownerUserId ∧ row.cursor = entry.1)
    (h : world'.view decisionTaskId ownerUserId =
      (world.view decisionTaskId ownerUserId).append entries)
  | polled (h : world'.view decisionTaskId ownerUserId =
      (world.view decisionTaskId ownerUserId).poll Prod.fst)
  | cut (hlabel : label = .disconnect) (h : world'.view decisionTaskId ownerUserId =
      (world.view decisionTaskId ownerUserId).cut (world.page.events.map PersistedRunEvent.row))

section Steps
variable {decisionTaskId ownerUserId : String} {world world' : StreamWorld} {label : StreamLabel}
  {reply : Unit}

theorem view_received (world : StreamWorld) :
    (world.view decisionTaskId ownerUserId).received =
      world.page.events.map PersistedRunEvent.row ++ world.wire.map PersistedRunEvent.row :=
  List.map_append

theorem Moves.follows (h : Moves decisionTaskId ownerUserId world world' label)
    (hfollows : Feed.Follows Prod.fst (world.view decisionTaskId ownerUserId)) :
    Feed.Follows Prod.fst (world'.view decisionTaskId ownerUserId) := by
  cases h with
  | same h => rwa [h]
  | appended rows committed entries hlabel hdistinct hentries h =>
    rw [h]
    exact hfollows.append hdistinct
  | polled h =>
    rw [h]
    exact hfollows.poll
  | cut hlabel h =>
    rw [h]
    exact hfollows.cut (view_received world)

theorem Moves.upToDate (h : Moves decisionTaskId ownerUserId world world' label)
    (hfollows : Feed.Follows Prod.fst (world.view decisionTaskId ownerUserId))
    (hbeyond : CommitsBeyond decisionTaskId ownerUserId world label)
    (hup : Feed.UpToDate Prod.fst (world.view decisionTaskId ownerUserId)) :
    Feed.UpToDate Prod.fst (world'.view decisionTaskId ownerUserId) := by
  cases h with
  | same h => rwa [h]
  | appended rows committed entries hlabel hdistinct hentries h =>
    rw [h]
    subst hlabel
    refine hup.append fun entry hentry hpassed => ?_
    obtain ⟨row, hrow, htask, howner, hcursor⟩ := hentries entry hentry
    obtain ⟨held, hheld, hle⟩ := hpassed
    obtain ⟨persisted, hpersisted, rfl⟩ := List.mem_map.mp hheld
    have hlt := hbeyond row hrow htask howner persisted hpersisted
    rw [hcursor] at hlt
    exact absurd hle (not_le_of_gt hlt)
  | polled h =>
    rw [h]
    exact hup.poll
  | cut hlabel h =>
    rw [h]
    exact hup.cut hfollows (view_received world)

theorem commitsEvents_iff {db committed : Store} {rows : List RunEventRow} :
    commitsEvents db rows committed = true ↔
      committed.runEvents.rows = db.runEvents.rows ++ rows ∧
        (∀ row ∈ rows, (decodePersistedRunEventV1 row.event).isOk = true ∧ 0 < row.cursor ∧
          row.cursor ≤ postgresBigintMax) ∧
        ∀ row ∈ db.runEvents,
          committed.runOwner row.event.agentRunId = db.runOwner row.event.agentRunId := by
  unfold commitsEvents
  simp only [Bool.and_eq_true, decide_eq_true_eq, List.all_eq_true, and_assoc]
  exact Iff.rfl

/-- The rows of a commit that belong to the task and owner. -/
def visibleRows (decisionTaskId ownerUserId : String) (rows : List RunEventRow)
    (committed : Store) : List (Nat × RunEvent) :=
  (rows.filter fun row => row.event.decisionTaskId = decisionTaskId &&
    committed.runOwner row.event.agentRunId = some ownerUserId).map fun row =>
      (row.cursor, row.event)

theorem committedEvents_commitsEvents {db committed : Store} {rows : List RunEventRow}
    (h : commitsEvents db rows committed = true) :
    committedEvents committed decisionTaskId ownerUserId =
      committedEvents db decisionTaskId ownerUserId ++
        visibleRows decisionTaskId ownerUserId rows committed := by
  obtain ⟨hrows, -, howners⟩ := commitsEvents_iff.mp h
  unfold committedEvents visibleRows Table.select
  rw [hrows, List.filter_append, List.map_append]
  congr 2
  apply List.filter_congr
  intro row hrow
  rw [howners row hrow]

theorem commit_moves {rows : List RunEventRow} {committed : Store}
    (h : commitsEvents world.db rows committed = true) :
    Moves decisionTaskId ownerUserId world { world with db := committed }
      (.commit rows committed) := by
  have hlog : committedEvents committed decisionTaskId ownerUserId =
      committedEvents world.db decisionTaskId ownerUserId ++
        visibleRows decisionTaskId ownerUserId rows committed := committedEvents_commitsEvents h
  refine .appended rows committed (visibleRows decisionTaskId ownerUserId rows committed) rfl ?_
    ?_ ?_
  · change ((committedEvents world.db decisionTaskId ownerUserId ++
      visibleRows decisionTaskId ownerUserId rows committed).map Prod.fst).Nodup
    rw [← hlog]
    exact committedEvents_nodup
  · intro entry hentry
    obtain ⟨row, hrow, rfl⟩ := List.mem_map.mp hentry
    rw [List.mem_filter, Bool.and_eq_true, decide_eq_true_eq, decide_eq_true_eq] at hrow
    exact ⟨row, hrow.1, hrow.2.1, hrow.2.2, rfl⟩
  · unfold StreamWorld.view Feed.State.append
    rw [hlog]
    rfl

/-- The rows that a round writes. -/
def roundRows (decisionTaskId ownerUserId : String) (world : StreamWorld) :
    List (Nat × RunEvent) :=
  Feed.page Prod.fst
    (Feed.lastKey Prod.fst (world.view decisionTaskId ownerUserId).received)
    (world.view decisionTaskId ownerUserId).log

theorem Streaming.round (h : Streaming decisionTaskId ownerUserId world) :
    (∀ row ∈ roundRows decisionTaskId ownerUserId world, Streamable decisionTaskId row) ∧
      ((world.view decisionTaskId ownerUserId).received ++
        roundRows decisionTaskId ownerUserId world).Pairwise fun a b => a.1 < b.1 := by
  constructor
  · intro row hrow
    exact h.rows.streamable (Feed.mem_page.mp hrow).1
  · exact h.follows.poll.increasing

/-- The rows that a request after the last cursor reads. -/
theorem Streaming.listEvents_eq (h : Streaming decisionTaskId ownerUserId world)
    {cursor : Option String}
    (hcursor : cursor.map bigInt =
      Feed.lastKey Prod.fst (world.view decisionTaskId ownerUserId).received) :
    listEvents decisionTaskId ownerUserId (cursor.map bigInt) world.db =
      .ok (roundRows decisionTaskId ownerUserId world) := by
  rw [hcursor, listEvents_eq_page fun row hrow => (h.rows row hrow).1]
  rfl

/-- A round of the handler. -/
theorem Streaming.of_round (h : Streaming decisionTaskId ownerUserId world)
    (connection : Connection) (hended : connection.ended = false)
    (hcursor : connection.cursor.map bigInt =
      Feed.lastKey Prod.fst (world.view decisionTaskId ownerUserId).received)
    (hwire : connection.wire = world.wire) {next : StreamWorld}
    (hnext : next = { world with
      connection := some ((roundRows decisionTaskId ownerUserId world).foldl
        (writePersistedEvent decisionTaskId) connection) }) :
    next.view decisionTaskId ownerUserId =
        (world.view decisionTaskId ownerUserId).poll Prod.fst ∧
      Streaming decisionTaskId ownerUserId next := by
  obtain ⟨hrows, hincreasing⟩ := h.round
  obtain ⟨-, hlast, hwritten⟩ := foldl_write hended hcursor hrows hincreasing
  have hview : next.view decisionTaskId ownerUserId =
      (world.view decisionTaskId ownerUserId).poll Prod.fst := by
    subst hnext
    unfold Feed.State.poll
    rw [view_received]
    unfold StreamWorld.view
    dsimp only [StreamWorld.wire]
    rw [List.map_append, hwritten, hwire, ← List.append_assoc]
    unfold roundRows
    rw [view_received]
    rfl
  refine ⟨hview, ?_, ?_, ?_, ?_, ?_⟩
  · subst hnext
    exact h.rows
  · rw [hview]
    exact h.follows.poll
  · subst hnext
    exact h.valid
  · subst hnext
    exact h.last
  · intro other hother
    rw [hview]
    subst hnext
    cases hother
    exact hlast

/-- A request is answered with a stream, or leaves everything as it was. -/
theorem streaming_connect (h : Streaming decisionTaskId ownerUserId world)
    (hstep : streamStep decisionTaskId ownerUserId world .connect = some (reply, world')) :
    (world' = world ∧ world'.connection = none ∨ world'.view decisionTaskId ownerUserId =
      (world.view decisionTaskId ownerUserId).poll Prod.fst) ∧
      Streaming decisionTaskId ownerUserId world' := by
  simp only [streamStep] at hstep
  split at hstep
  · cases hstep
  · rename_i hnone
    have hwire : world.wire = [] := by
      unfold StreamWorld.wire
      rw [hnone]
    have hlast : world.page.lastEventCursor.map bigInt =
        Feed.lastKey Prod.fst (world.view decisionTaskId ownerUserId).received := by
      rw [view_received, hwire, List.map_nil, List.append_nil]
      exact h.last
    cases hstep
    cases hopen : openStream decisionTaskId ownerUserId world.page.lastEventCursor world.db with
    | none =>
      have hsame : ({ world with connection := none } : StreamWorld) = world := by rw [← hnone]
      rw [hsame]
      exact ⟨.inl ⟨rfl, hnone⟩, h⟩
    | some connection =>
      unfold openStream at hopen
      rw [h.valid, h.listEvents_eq hlast] at hopen
      simp only [Bool.not_true, Bool.false_eq_true, if_false] at hopen
      split at hopen
      · cases hopen
        obtain ⟨hview, hnext⟩ := h.of_round ⟨world.page.lastEventCursor, [], false⟩ rfl hlast
          hwire.symm rfl
        exact ⟨.inr hview, hnext⟩
      · cases hopen

theorem streaming_poll (h : Streaming decisionTaskId ownerUserId world)
    (hstep : streamStep decisionTaskId ownerUserId world .poll = some (reply, world')) :
    world'.view decisionTaskId ownerUserId =
        (world.view decisionTaskId ownerUserId).poll Prod.fst ∧
      Streaming decisionTaskId ownerUserId world' := by
  simp only [streamStep] at hstep
  split at hstep
  · cases hstep
  · rename_i connection hconnection
    split at hstep
    · cases hstep
    · rename_i hended
      cases hstep
      have hcursor := h.cursor connection hconnection
      have hwire : connection.wire = world.wire := by
        unfold StreamWorld.wire
        rw [hconnection]
      refine h.of_round connection (Bool.eq_false_iff.mpr hended) hcursor hwire ?_
      unfold Connection.poll
      rw [h.listEvents_eq hcursor]

/-- The first event on its way is the next one after those that the page shows. -/
theorem streaming_deliver (h : Streaming decisionTaskId ownerUserId world)
    (hstep : streamStep decisionTaskId ownerUserId world .deliver = some (reply, world')) :
    world'.view decisionTaskId ownerUserId = world.view decisionTaskId ownerUserId ∧
      Streaming decisionTaskId ownerUserId world' := by
  simp only [streamStep] at hstep
  split at hstep
  · cases hstep
  · rename_i connection hconnection
    split at hstep
    · cases hstep
    · rename_i persisted wire hwires
      cases hstep
      have hwire : world.wire = persisted :: wire := by
        unfold StreamWorld.wire
        rw [hconnection]
        exact hwires
      have hincreasing := h.follows.increasing
      rw [view_received, hwire, List.map_cons, List.pairwise_append] at hincreasing
      obtain ⟨hshown, -, hbefore⟩ := hincreasing
      have hevents : world.page.events.Pairwise fun a b => a.position < b.position := by
        rw [List.pairwise_map] at hshown
        exact hshown
      have hgreater : ∀ shown ∈ world.page.events, shown.position < persisted.position := by
        intro shown hmem
        exact hbefore _ (List.mem_map_of_mem hmem) _ List.mem_cons_self
      have hmember : persisted.row ∈ committedEvents world.db decisionTaskId ownerUserId := by
        apply h.follows.received
        rw [view_received, hwire]
        exact List.mem_append_right _ List.mem_cons_self
      have htask : persisted.event.decisionTaskId = decisionTaskId :=
        (h.rows.streamable hmember).task
      have hlater : (world.page.lastEventCursor.all fun last =>
          bigInt last < bigInt persisted.cursor) = true := by
        cases hcursor : world.page.lastEventCursor with
        | none => rfl
        | some last =>
          have hlast := h.last
          rw [hcursor, Option.map_some] at hlast
          obtain ⟨held, hheld, hsame⟩ := Feed.exists_of_lastKey hlast.symm
          obtain ⟨shown, hmem, rfl⟩ := List.mem_map.mp hheld
          rw [Option.all_some, decide_eq_true_eq, ← hsame]
          exact hgreater shown hmem
      have hpage : world.page.receive decisionTaskId persisted =
          ⟨some persisted.cursor, world.page.events ++ [persisted]⟩ := by
        unfold Page.receive
        rw [if_neg (not_not_intro htask), if_pos hlater,
          mergePersistedEvent_greater hevents hgreater]
      have hview : ({ world with
          connection := some { connection with wire }
          page := world.page.receive decisionTaskId persisted } : StreamWorld).view
            decisionTaskId ownerUserId = world.view decisionTaskId ownerUserId := by
        unfold StreamWorld.view
        rw [hwire, hpage]
        dsimp only [StreamWorld.wire]
        rw [List.append_assoc, List.singleton_append]
      refine ⟨hview, h.rows, ?_, ?_, ?_, ?_⟩
      · rw [hview]
        exact h.follows
      · dsimp only
        rw [hpage]
        exact persisted.cursorValid
      · dsimp only
        rw [hpage, List.map_append, List.map_singleton, Feed.lastKey_concat]
        · rfl
        · intro held hheld
          obtain ⟨shown, hmem, rfl⟩ := List.mem_map.mp hheld
          exact hgreater shown hmem
      · intro other hother
        rw [hview]
        cases hother
        exact h.cursor connection hconnection

theorem streaming_step (h : Streaming decisionTaskId ownerUserId world)
    (hstep : streamStep decisionTaskId ownerUserId world label = some (reply, world')) :
    Moves decisionTaskId ownerUserId world world' label ∧
      Streaming decisionTaskId ownerUserId world' := by
  cases label with
  | commit rows committed =>
    simp only [streamStep] at hstep
    split at hstep
    · rename_i hcommits
      cases hstep
      have hmoves : Moves decisionTaskId ownerUserId world { world with db := committed }
          (.commit rows committed) := commit_moves hcommits
      obtain ⟨hrows, hnew, -⟩ := commitsEvents_iff.mp hcommits
      refine ⟨hmoves, ?_, hmoves.follows h.follows, h.valid, h.last, h.cursor⟩
      intro row hrow
      rw [← Table.mem_rows, hrows, List.mem_append] at hrow
      rcases hrow with hold | hrow
      · exact h.rows row hold
      · exact hnew row hrow
    · cases hstep
  | connect =>
    obtain ⟨hcases, hnext⟩ := streaming_connect h hstep
    rcases hcases with ⟨rfl, -⟩ | hview
    · exact ⟨.same rfl, hnext⟩
    · exact ⟨.polled hview, hnext⟩
  | poll =>
    obtain ⟨hview, hnext⟩ := streaming_poll h hstep
    exact ⟨.polled hview, hnext⟩
  | deliver =>
    obtain ⟨hview, hnext⟩ := streaming_deliver h hstep
    exact ⟨.same hview, hnext⟩
  | disconnect =>
    cases hstep
    have hview : ({ world with connection := none } : StreamWorld).view decisionTaskId
        ownerUserId = (world.view decisionTaskId ownerUserId).cut
          (world.page.events.map PersistedRunEvent.row) := by
      unfold StreamWorld.view Feed.State.cut
      dsimp only [StreamWorld.wire]
      rw [List.append_nil]
    have hmoves : Moves decisionTaskId ownerUserId world { world with connection := none }
        .disconnect := .cut rfl hview
    refine ⟨hmoves, h.rows, hmoves.follows h.follows, h.valid, h.last, ?_⟩
    intro connection hconnection
    cases hconnection

theorem streaming_start : Streaming decisionTaskId ownerUserId .start where
  rows := fun _ hrow => absurd hrow (Table.not_mem_empty _)
  follows := Feed.follows_nil Prod.fst
  valid := rfl
  last := rfl
  cursor := fun _ hconnection => by cases hconnection

end Steps

/-! ### Runs -/

section Runs
variable {decisionTaskId ownerUserId : String} {world world' : StreamWorld} {label : StreamLabel}
  {reply : Unit} {es : List StreamEntry}

theorem streaming_of_run (hrun : Run (streamStep decisionTaskId ownerUserId) .start es world) :
    Streaming decisionTaskId ownerUserId world :=
  hrun.invariant (G := fun _ _ => True) (fun hs _ hstep => (streaming_step hs hstep).2)
    (fun _ _ => trivial) streaming_start

/-- Nothing is missing before what the page has or will receive. -/
structure Gapless (decisionTaskId ownerUserId : String) (world : StreamWorld) : Prop where
  streaming : Streaming decisionTaskId ownerUserId world
  upToDate : Feed.UpToDate Prod.fst (world.view decisionTaskId ownerUserId)

theorem gapless_step (h : Gapless decisionTaskId ownerUserId world)
    (hbeyond : CommitsBeyond decisionTaskId ownerUserId world label)
    (hstep : streamStep decisionTaskId ownerUserId world label = some (reply, world')) :
    Gapless decisionTaskId ownerUserId world' := by
  obtain ⟨hmoves, hnext⟩ := streaming_step h.streaming hstep
  exact ⟨hnext, hmoves.upToDate h.streaming.follows hbeyond h.upToDate⟩

theorem gapless_of_run (hrun : Run (streamStep decisionTaskId ownerUserId) .start es world)
    (hbeyond : Guarded (CommitsBeyond decisionTaskId ownerUserId) es) :
    Gapless decisionTaskId ownerUserId world :=
  hrun.invariant gapless_step hbeyond ⟨streaming_start, Feed.upToDate_nil Prod.fst⟩

theorem Gapless.noGap (h : Gapless decisionTaskId ownerUserId world) :
    NoGap decisionTaskId ownerUserId world := by
  -- what has arrived is what is left when the connection breaks
  have hcut := h.upToDate.cut h.streaming.follows (view_received world)
  rintro row hrow ⟨persisted, hpersisted, hle⟩
  have hmem := hcut row hrow ⟨persisted.row, List.mem_map_of_mem hpersisted, hle⟩
  exact List.mem_map.mp hmem

theorem Streaming.showsLog (h : Streaming decisionTaskId ownerUserId world) :
    ShowsLog decisionTaskId ownerUserId world := by
  have hcut := h.follows.cut (view_received world)
  constructor
  · have hincreasing := hcut.increasing
    rw [Feed.State.cut, List.pairwise_map] at hincreasing
    exact hincreasing
  · exact fun persisted hpersisted => hcut.received _ (List.mem_map_of_mem hpersisted)

/-- The whole log has been sent to the page. -/
structure SentAll (decisionTaskId ownerUserId : String) (world : StreamWorld) : Prop where
  streaming : Streaming decisionTaskId ownerUserId world
  passed : ∀ row ∈ (world.view decisionTaskId ownerUserId).log,
    Feed.Passed Prod.fst (world.view decisionTaskId ownerUserId) row

theorem SentAll.of_poll (hnext : Streaming decisionTaskId ownerUserId world')
    (hview : world'.view decisionTaskId ownerUserId =
      (world.view decisionTaskId ownerUserId).poll Prod.fst) :
    SentAll decisionTaskId ownerUserId world' := by
  refine ⟨hnext, ?_⟩
  rw [hview]
  exact fun row hrow => Feed.passed_poll hrow

/-- An event arrives. -/
def Delivers (_ : StreamWorld) (label : StreamLabel) : Prop := label = .deliver

theorem sentAll_deliver (h : SentAll decisionTaskId ownerUserId world)
    (hlabel : Delivers world label)
    (hstep : streamStep decisionTaskId ownerUserId world label = some (reply, world')) :
    SentAll decisionTaskId ownerUserId world' := by
  cases hlabel
  obtain ⟨hview, hnext⟩ := streaming_deliver h.streaming hstep
  refine ⟨hnext, ?_⟩
  rw [hview]
  exact h.passed

/-- Whatever is lost when connections break, and however often the page connects again: it shows
committed events in their order and none twice. When no commit comes in behind what was sent, it
shows them without a gap, and all of them as soon as the last round has arrived. -/
theorem stream_shows_log (hrun : Run (streamStep decisionTaskId ownerUserId) .start es world) :
    ShowsLog decisionTaskId ownerUserId world ∧
      (Guarded (CommitsBeyond decisionTaskId ownerUserId) es →
        NoGap decisionTaskId ownerUserId world ∧
        ∀ pre entry post, es = pre ++ entry :: post →
          (entry.label = .poll ∨ entry.label = .connect ∧ entry.after.connection.isSome = true) →
          (∀ later ∈ post, later.label = .deliver) → world.wire = [] →
            ShowsAll decisionTaskId ownerUserId world) := by
  refine ⟨(streaming_of_run hrun).showsLog, fun hbeyond => ?_⟩
  have hgapless := gapless_of_run hrun hbeyond
  refine ⟨hgapless.noGap, fun pre entry post hes hround hdelivers hwire => ?_⟩
  rw [hes] at hrun
  obtain ⟨before, hleft, hright⟩ := hrun.split
  have hstreaming := streaming_of_run hleft
  have hsent : SentAll decisionTaskId ownerUserId world := by
    cases hright with
    | cons hstep hrest =>
      refine hrest.invariant (G := Delivers) sentAll_deliver hdelivers ?_
      rcases hround with hpoll | ⟨hconnect, hsome⟩
      · dsimp only at hpoll
        subst hpoll
        obtain ⟨hview, hnext⟩ := streaming_poll hstreaming hstep
        exact .of_poll hnext hview
      · dsimp only at hconnect hsome
        subst hconnect
        obtain ⟨hcases, hnext⟩ := streaming_connect hstreaming hstep
        rcases hcases with ⟨-, hnone⟩ | hview
        · rw [hnone] at hsome
          cases hsome
        · exact .of_poll hnext hview
  intro row hrow
  have hmem := hgapless.upToDate row hrow (hsent.passed row hrow)
  rw [view_received, hwire, List.map_nil, List.append_nil] at hmem
  exact List.mem_map.mp hmem

end Runs

/-! ### A small run -/

/-- Two submissions of one task; the connection breaks before the second event arrives. -/
def sampleStream : List StreamLabel :=
  [.commit [⟨1, Pagination.submittedEvent 0, 0⟩] Pagination.firstCommitted, .connect, .deliver,
   .commit [⟨2, Pagination.submittedEvent 4, 0⟩]
     (Pagination.submitted sampleEnv (sampleCommand "request-2") "owner" 0 4 2
       { Pagination.firstCommitted with nextCursor := 3 }),
   .poll, .disconnect, .connect, .deliver]

/-- Commits come after everything that was sent. -/
def commitsBeyond (entry : StreamEntry) : Bool :=
  match entry.label with
  | .commit rows _ => rows.all fun row =>
      (entry.before.page.events ++ entry.before.wire).all fun persisted =>
        persisted.position < row.cursor
  | _ => true

theorem commitsBeyond_guard {entry : StreamEntry} (h : commitsBeyond entry = true) :
    CommitsBeyond "task" "owner" entry.before entry.label := by
  unfold commitsBeyond at h
  unfold CommitsBeyond
  split at h
  · simp only [List.all_eq_true, decide_eq_true_eq] at h
    exact fun row hrow _ _ persisted hpersisted => h row hrow persisted hpersisted
  · trivial

theorem stream_shows_log_sample : ∃ es world, Run (streamStep "task" "owner") .start es world ∧
    es.length = 8 ∧ world.page.events.map PersistedRunEvent.position = [1, 2] ∧
    ShowsLog "task" "owner" world ∧ NoGap "task" "owner" world := by
  have hexec : (exec (streamStep "task" "owner") .start sampleStream).any (fun result =>
      result.1.all commitsBeyond && result.1.length = 8 &&
        result.2.page.events.map PersistedRunEvent.position = [1, 2]) = true := by
    decide +kernel
  obtain ⟨es, world, hrun, hcheck⟩ := exists_run_of_exec hexec
  rw [Bool.and_eq_true, Bool.and_eq_true, List.all_eq_true, decide_eq_true_eq,
    decide_eq_true_eq] at hcheck
  obtain ⟨⟨hbeyond, hlength⟩, hshown⟩ := hcheck
  have hguard : Guarded (CommitsBeyond "task" "owner") es :=
    fun entry hentry => commitsBeyond_guard (hbeyond entry hentry)
  exact ⟨es, world, hrun, hlength, hshown, (stream_shows_log hrun).1,
    ((stream_shows_log hrun).2 hguard).1⟩

end ChoiceMind.Web
