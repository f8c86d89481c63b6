import ChoiceMind.Foundation.Json
import ChoiceMind.Foundation.OrderedMap
import ChoiceMind.Foundation.Refinement
import ChoiceMind.Foundation.Slots
import ChoiceMind.Web.LiveStream

/-!
# Waiting for event notifications

`openRunEventNotificationSubscriber` keeps the waiters of a task in a set, and the sets in a
map. A waiter holds on to the set that it was added to, also when the map has a newer one.
-/

namespace ChoiceMind.TaskPersistence.EventSubscriber

set_option autoImplicit false

open Contracts Transition Web

/-! ### The subscriber -/

/-- What settles the promise of a waiter. -/
inductive Outcome
  | resolved
  | aborted
  | closed
  deriving DecidableEq, Repr

/-- A call of `waitFor` and the set that it has captured. -/
structure Waiter where
  decisionTaskId : String
  taskWaiters : Nat
  settled : Option Outcome
  deriving DecidableEq

/-- The map in the order of insertion, the members of every set that was created, the calls and
the flag. -/
structure World where
  waiters : List (String × Nat)
  sets : List (List Nat)
  calls : List Waiter
  closed : Bool
  deriving DecidableEq

namespace World

def initial : World := ⟨[], [], [], false⟩

/-- `waiters.get` -/
def get (world : World) (decisionTaskId : String) : Option Nat :=
  (world.waiters.find? fun entry => entry.1 = decisionTaskId).map Prod.snd

/-- `remove` and the settling of the promise, which happen once. -/
def settle (world : World) (outcome : Outcome) (index : Nat) : World :=
  match world.calls[index]? with
  | some ⟨decisionTaskId, taskWaiters, none⟩ =>
    let members := (world.sets[taskWaiters]?.getD []).filter fun i => i ≠ index
    { world with
      calls := world.calls.set index ⟨decisionTaskId, taskWaiters, some outcome⟩
      sets := world.sets.set taskWaiters members
      waiters :=
        if members = [] then world.waiters.filter fun entry => entry.1 ≠ decisionTaskId
        else world.waiters }
  | _ => world

/-- The set of the task, a new one where there is none, with the new waiter in it. -/
def add (world : World) (decisionTaskId : String) : World :=
  match world.get decisionTaskId with
  | some taskWaiters =>
    { world with
      calls := world.calls ++ [⟨decisionTaskId, taskWaiters, none⟩]
      sets := world.sets.set taskWaiters
        (world.sets[taskWaiters]?.getD [] ++ [world.calls.length])
      waiters := OrderedMap.set decisionTaskId taskWaiters world.waiters }
  | none =>
    { world with
      calls := world.calls ++ [⟨decisionTaskId, world.sets.length, none⟩]
      sets := world.sets ++ [[world.calls.length]]
      waiters := OrderedMap.set decisionTaskId world.sets.length world.waiters }

/-- `for (const waiter of [...taskWaiters])` -/
def settleSet (world : World) (outcome : Outcome) (taskWaiters : Nat) : World :=
  (world.sets[taskWaiters]?.getD []).foldl (fun world index => world.settle outcome index) world

/-- `for (const taskWaiters of waiters.values())`, which skips an entry that is gone. -/
def settleEntries (world : World) (outcome : Outcome) (entries : List (String × Nat)) : World :=
  entries.foldl (fun world entry =>
    if entry ∈ world.waiters then world.settleSet outcome entry.2 else world) world

end World

/-- `decodeDecisionTaskId` of the value of a message, `none` for a text that is no JSON. -/
def decodeDecisionTaskId (value : Option (Json Rat)) : Option String :=
  match value with
  | some (.object fields) =>
    match fields.lookup "decisionTaskId", fields.lookup "cursor" with
    | some (.string decisionTaskId), some (.string cursor) =>
      if decisionTaskId ≠ "" ∧ isPersistedRunEventCursorV1 cursor = true then some decisionTaskId
      else none
    | _, _ => none
  | _ => none

inductive Label
  | waitFor (decisionTaskId : String) (aborted : Bool)
  | abort (index : Nat)
  | message (value : Option (Json Rat))
  | close

inductive Reply
  | done
  | waiting
  | error (text : String)
  deriving DecidableEq

def step (world : World) : Label → Option (Reply × World)
  | .waitFor decisionTaskId aborted =>
    if world.closed then some (.error "RunEvent Notification Subscriber 已关闭", world)
    else if aborted then
      some (.waiting, (world.add decisionTaskId).settle .aborted world.calls.length)
    else some (.waiting, world.add decisionTaskId)
  | .abort index =>
    if index < world.calls.length then some (.done, world.settle .aborted index) else none
  | .message value =>
    match (decodeDecisionTaskId value).bind world.get with
    | none => some (.done, world)
    | some taskWaiters => some (.done, world.settleSet .resolved taskWaiters)
  | .close =>
    if world.closed then some (.done, world)
    else some (.done, { world with closed := true }.settleEntries .closed world.waiters)

/-! ### What it is for -/

/-- The tasks that are waited for, and what has settled each promise. -/
structure Waits where
  calls : List (String × Option Outcome)
  closed : Bool
  deriving DecidableEq

namespace Waits

def initial : Waits := ⟨[], false⟩

/-- A promise that is still pending is settled. -/
def settle (outcome : Outcome) (wait : String × Option Outcome) : String × Option Outcome :=
  (wait.1, wait.2.or (some outcome))

def step (waits : Waits) : Label → Option (Reply × Waits)
  | .waitFor decisionTaskId aborted =>
    if waits.closed then some (.error "RunEvent Notification Subscriber 已关闭", waits)
    else some (.waiting,
      { waits with
        calls := waits.calls ++ [(decisionTaskId, if aborted then some .aborted else none)] })
  | .abort index =>
    match waits.calls[index]? with
    | none => none
    | some wait => some (.done,
      { waits with calls := waits.calls.set index (settle .aborted wait) })
  | .message value =>
    some (.done,
      { waits with
        calls := waits.calls.map fun wait =>
          if decodeDecisionTaskId value = some wait.1 then settle .resolved wait else wait })
  | .close =>
    if waits.closed then some (.done, waits)
    else some (.done, ⟨waits.calls.map (settle .closed), true⟩)

end Waits

def World.waits (world : World) : Waits where
  calls := world.calls.map fun waiter => (waiter.decisionTaskId, waiter.settled)
  closed := world.closed

/-! ### The sets and their waiters -/

def IsPending (world : World) (index : Nat) (decisionTaskId : String) (taskWaiters : Nat) : Prop :=
  world.calls[index]? = some ⟨decisionTaskId, taskWaiters, none⟩

/-- The map holds one set for each task that is waited for, and in it exactly the waiters whose
promises are pending. -/
structure Registered (world : World) : Prop where
  keys : (world.waiters.map Prod.fst).Nodup
  listed : ∀ entry ∈ world.waiters, ∃ members, world.sets[entry.2]? = some members ∧
    members ≠ [] ∧ ∀ index ∈ members, IsPending world index entry.1 entry.2
  pending : ∀ index decisionTaskId taskWaiters,
    IsPending world index decisionTaskId taskWaiters →
      (decisionTaskId, taskWaiters) ∈ world.waiters ∧
        ∃ members, world.sets[taskWaiters]? = some members ∧ index ∈ members

def settleWaiter (outcome : Outcome) (waiter : Waiter) : Waiter :=
  { waiter with settled := waiter.settled.or (some outcome) }

section Sets
variable {world : World} {index : Nat} {decisionTaskId : String} {taskWaiters : Nat}
  {outcome : Outcome}

theorem registered_initial : Registered .initial where
  keys := List.nodup_nil
  listed := fun _ hentry => absurd hentry List.not_mem_nil
  pending := fun _ _ _ hpending => by cases hpending

theorem IsPending.task_eq {task' : String} {set' : Nat}
    (h : IsPending world index decisionTaskId taskWaiters)
    (h' : IsPending world index task' set') : task' = decisionTaskId ∧ set' = taskWaiters := by
  unfold IsPending at h h'
  rw [h] at h'
  cases h'
  exact ⟨rfl, rfl⟩

/-- A task has one set. -/
theorem Registered.entry_eq (h : Registered world) {entry : String × Nat}
    (hentry : entry ∈ world.waiters) (hown : (decisionTaskId, taskWaiters) ∈ world.waiters)
    (hsame : entry.1 = decisionTaskId) : entry = (decisionTaskId, taskWaiters) :=
  List.inj_on_of_nodup_map h.keys hentry hown hsame

theorem get_eq_some (h : Registered world) :
    world.get decisionTaskId = some taskWaiters ↔
      (decisionTaskId, taskWaiters) ∈ world.waiters := by
  unfold World.get
  rw [Option.map_eq_some_iff]
  constructor
  · rintro ⟨entry, hfind, rfl⟩
    have hfound := List.find?_some hfind
    rw [decide_eq_true_eq] at hfound
    rw [← hfound]
    exact List.mem_of_find?_eq_some hfind
  · intro hmem
    cases hfind : world.waiters.find? fun entry => entry.1 = decisionTaskId with
    | none =>
      rw [List.find?_eq_none] at hfind
      exact absurd (decide_eq_true rfl) (hfind _ hmem)
    | some entry =>
      have hfound := List.find?_some hfind
      rw [decide_eq_true_eq] at hfound
      have hentry := h.entry_eq (List.mem_of_find?_eq_some hfind) hmem hfound
      exact ⟨entry, rfl, by rw [hentry]⟩

theorem get_eq_none : world.get decisionTaskId = none ↔
    decisionTaskId ∉ world.waiters.map Prod.fst := by
  unfold World.get
  rw [Option.map_eq_none_iff, List.find?_eq_none, List.mem_map]
  constructor
  · rintro hnone ⟨entry, hentry, hkey⟩
    exact hnone entry hentry (decide_eq_true hkey)
  · intro hnone entry hentry hkey
    exact hnone ⟨entry, hentry, of_decide_eq_true hkey⟩

/-- Two tasks don't share a set. -/
theorem Registered.sets_apart (h : Registered world) {entry : String × Nat}
    (hentry : entry ∈ world.waiters) {members : List Nat}
    (hpending : IsPending world index decisionTaskId taskWaiters)
    (hmembers : world.sets[taskWaiters]? = some members) (hmem : index ∈ members)
    (hne : entry.1 ≠ decisionTaskId) : entry.2 ≠ taskWaiters := by
  intro hsame
  obtain ⟨members', hmembers', -, hall⟩ := h.listed entry hentry
  rw [hsame, hmembers] at hmembers'
  cases hmembers'
  exact hne (hpending.task_eq (hall index hmem)).1

theorem settle_eq (h : IsPending world index decisionTaskId taskWaiters) :
    world.settle outcome index =
      { world with
        calls := world.calls.set index ⟨decisionTaskId, taskWaiters, some outcome⟩
        sets := world.sets.set taskWaiters
          ((world.sets[taskWaiters]?.getD []).filter fun i => i ≠ index)
        waiters :=
          if (world.sets[taskWaiters]?.getD []).filter (fun i => i ≠ index) = [] then
            world.waiters.filter fun entry => entry.1 ≠ decisionTaskId
          else world.waiters } := by
  unfold IsPending at h
  unfold World.settle
  rw [h]

/-- The waiter leaves its set, and an empty set leaves the map. -/
theorem Registered.settle_pending (h : Registered world)
    (hpending : IsPending world index decisionTaskId taskWaiters) :
    Registered (world.settle outcome index) := by
  obtain ⟨hentry, members, hmembers, hmem⟩ := h.pending _ _ _ hpending
  rw [settle_eq hpending, hmembers, Option.getD_some]
  have hrest : ∀ entry ∈ (if members.filter (fun i => i ≠ index) = [] then
      world.waiters.filter fun entry => entry.1 ≠ decisionTaskId else world.waiters),
        entry ∈ world.waiters := by
    intro entry hold
    split at hold
    · exact (List.mem_filter.mp hold).1
    · exact hold
  have hother : ∀ (i : Nat) (task : String) (set : Nat), i ≠ index → IsPending world i task set →
      (world.calls.set index ⟨decisionTaskId, taskWaiters, some outcome⟩)[i]? =
        some ⟨task, set, none⟩ :=
    fun i task set hne hold => Slots.get_set_ne hne hold _
  refine ⟨?_, ?_, ?_⟩
  · dsimp only
    split
    · exact h.keys.sublist (List.filter_sublist.map Prod.fst)
    · exact h.keys
  · intro entry hnew
    have hold := hrest entry hnew
    by_cases hsame : entry.1 = decisionTaskId
    · -- the set of the waiter itself
      rw [h.entry_eq hold hentry hsame]
      refine ⟨members.filter fun i => i ≠ index, Slots.get_set_self hmembers _, ?_, ?_⟩
      · intro hempty
        dsimp only at hnew
        rw [if_pos hempty] at hnew
        exact of_decide_eq_true (List.mem_filter.mp hnew).2 hsame
      · intro i hi
        obtain ⟨hi, hne⟩ := List.mem_filter.mp hi
        obtain ⟨members', hmembers', -, hall⟩ := h.listed _ hentry
        rw [hmembers] at hmembers'
        cases hmembers'
        exact hother i _ _ (of_decide_eq_true hne) (hall i hi)
    · obtain ⟨members', hmembers', hnonempty, hall⟩ := h.listed entry hold
      have hset := h.sets_apart hold hpending hmembers hmem hsame
      refine ⟨members', Slots.get_set_ne hset hmembers' _, hnonempty, ?_⟩
      intro i hi
      refine hother i _ _ ?_ (hall i hi)
      rintro rfl
      exact hsame (hpending.task_eq (hall i hi)).1
  · intro i task set hnew
    rcases Slots.get_set hnew with ⟨-, hsettled⟩ | ⟨hne, hold⟩
    · cases hsettled
    · obtain ⟨hmap, members', hmembers', hi⟩ := h.pending i task set hold
      by_cases hset : set = taskWaiters
      · subst hset
        rw [hmembers] at hmembers'
        cases hmembers'
        have hkept : i ∈ members.filter fun i => i ≠ index :=
          List.mem_filter.mpr ⟨hi, decide_eq_true hne⟩
        refine ⟨?_, _, Slots.get_set_self hmembers _, hkept⟩
        dsimp only
        rw [if_neg (List.ne_nil_of_mem hkept)]
        exact hmap
      · refine ⟨?_, members', Slots.get_set_ne hset hmembers' _, hi⟩
        dsimp only
        split
        · refine List.mem_filter.mpr ⟨hmap, decide_eq_true ?_⟩
          rintro rfl
          exact hset (congrArg Prod.snd (h.entry_eq hmap hentry rfl))
        · exact hmap

/-- A step of the calls that settles some of them. -/
structure Settles (world world' : World) (outcome : Outcome) (which : Nat → Waiter → Prop) :
    Prop where
  registered : Registered world'
  closed : world'.closed = world.closed
  settled : ∀ (j : Nat) (waiter : Waiter), world.calls[j]? = some waiter → which j waiter →
    world'.calls[j]? = some (settleWaiter outcome waiter)
  kept : ∀ (j : Nat) (waiter : Waiter), world.calls[j]? = some waiter → ¬which j waiter →
    world'.calls[j]? = some waiter
  length : world'.calls.length = world.calls.length

theorem settleWaiter_settled {waiter : Waiter} {result : Outcome}
    (h : waiter.settled = some result) : settleWaiter outcome waiter = waiter := by
  unfold settleWaiter
  obtain ⟨decisionTaskId, taskWaiters, settled⟩ := waiter
  change settled = some result at h
  rw [h, Option.some_or]

theorem Registered.settles (h : Registered world) (outcome : Outcome) (index : Nat) :
    Settles world (world.settle outcome index) outcome fun j _ => j = index := by
  by_cases hpending : ∃ task set, IsPending world index task set
  · obtain ⟨task, set, hpending⟩ := hpending
    have hcalls : (world.settle outcome index).calls =
        world.calls.set index ⟨task, set, some outcome⟩ := by
      rw [settle_eq hpending]
    refine ⟨h.settle_pending hpending, by rw [settle_eq hpending], ?_, ?_, ?_⟩
    · rintro j waiter hj rfl
      unfold IsPending at hpending
      rw [hj] at hpending
      cases hpending
      rw [hcalls]
      exact Slots.get_set_self hj _
    · intro j waiter hj hne
      rw [hcalls]
      exact Slots.get_set_ne hne hj _
    · rw [hcalls, List.length_set]
  · have hsame : world.settle outcome index = world := by
      unfold World.settle
      split
      · rename_i task set hcall
        exact absurd ⟨task, set, hcall⟩ hpending
      · rfl
    rw [hsame]
    refine ⟨h, rfl, ?_, fun _ _ hj _ => hj, rfl⟩
    rintro j ⟨task, set, settled⟩ hj rfl
    cases settled with
    | none => exact absurd ⟨task, set, hj⟩ hpending
    | some result => rw [hj, settleWaiter_settled rfl]

end Sets

/-! ### The loops -/

section Loops
variable {world world' world'' : World} {index : Nat} {decisionTaskId : String}
  {taskWaiters : Nat} {outcome : Outcome} {which which' : Nat → Waiter → Prop}

theorem Settles.refl (h : Registered world) (hnone : ∀ j waiter, ¬which j waiter) :
    Settles world world outcome which where
  registered := h
  closed := rfl
  settled := fun j waiter _ hwhich => absurd hwhich (hnone j waiter)
  kept := fun _ _ hj _ => hj
  length := rfl

/-- Settling twice changes nothing. -/
theorem settleWaiter_settleWaiter (waiter : Waiter) :
    settleWaiter outcome (settleWaiter outcome waiter) = settleWaiter outcome waiter := by
  obtain ⟨task, set, settled⟩ := waiter
  cases settled with
  | none => rfl
  | some result => rfl

theorem Settles.trans (h : Settles world world' outcome which)
    (h' : Settles world' world'' outcome which') :
    Settles world world'' outcome fun j waiter => which j waiter ∨ which' j waiter where
  registered := h'.registered
  closed := h'.closed.trans h.closed
  settled := by
    intro j waiter hj hwhich
    by_cases hfirst : which j waiter
    · have hmiddle := h.settled j waiter hj hfirst
      by_cases hsecond : which' j (settleWaiter outcome waiter)
      · have hlast := h'.settled j _ hmiddle hsecond
        rwa [settleWaiter_settleWaiter] at hlast
      · exact h'.kept j _ hmiddle hsecond
    · exact h'.settled j waiter (h.kept j waiter hj hfirst) (hwhich.resolve_left hfirst)
  kept := by
    intro j waiter hj hwhich
    rw [not_or] at hwhich
    exact h'.kept j waiter (h.kept j waiter hj hwhich.1) hwhich.2
  length := h'.length.trans h.length

theorem Settles.congr (h : Settles world world' outcome which)
    (hsettled : ∀ j waiter, world.calls[j]? = some waiter → which' j waiter →
      which j waiter ∨ waiter.settled.isSome = true)
    (hkept : ∀ j waiter, world.calls[j]? = some waiter → which j waiter →
      which' j waiter ∨ waiter.settled.isSome = true) :
    Settles world world' outcome which' where
  registered := h.registered
  closed := h.closed
  settled := by
    intro j waiter hj hwhich
    by_cases hold : which j waiter
    · exact h.settled j waiter hj hold
    · have hsome := (hsettled j waiter hj hwhich).resolve_left hold
      obtain ⟨result, hresult⟩ := Option.isSome_iff_exists.mp hsome
      rw [settleWaiter_settled hresult]
      exact h.kept j waiter hj hold
  kept := by
    intro j waiter hj hwhich
    by_cases hold : which j waiter
    · have hsome := (hkept j waiter hj hold).resolve_left hwhich
      obtain ⟨result, hresult⟩ := Option.isSome_iff_exists.mp hsome
      have hlast := h.settled j waiter hj hold
      rwa [settleWaiter_settled hresult] at hlast
    · exact h.kept j waiter hj hold
  length := h.length

theorem settles_foldl (h : Registered world) (indices : List Nat) :
    Settles world (indices.foldl (fun world index => world.settle outcome index) world) outcome
      fun j _ => j ∈ indices := by
  induction indices generalizing world with
  | nil => exact .refl h fun _ _ => List.not_mem_nil
  | cons i indices ih =>
    have hfirst := h.settles outcome i
    refine (hfirst.trans (ih hfirst.registered)).congr ?_ ?_
    · intro j waiter _ hj
      exact .inl (List.mem_cons.mp hj)
    · intro j waiter _ hj
      exact .inl (List.mem_cons.mpr hj)

/-- The pending waiters of a task are the members of its set. -/
theorem settles_settleSet (h : Registered world)
    (hentry : (decisionTaskId, taskWaiters) ∈ world.waiters) :
    Settles world (world.settleSet outcome taskWaiters) outcome
      fun _ waiter => waiter.decisionTaskId = decisionTaskId := by
  obtain ⟨members, hmembers, -, hall⟩ := h.listed _ hentry
  unfold World.settleSet
  rw [hmembers, Option.getD_some]
  refine (settles_foldl h members).congr ?_ ?_
  · rintro j ⟨task, set, settled⟩ hj htask
    cases settled with
    | some result => exact .inr rfl
    | none =>
      obtain ⟨hmap, members', hmembers', hmem⟩ := h.pending j task set hj
      have hsame := h.entry_eq hmap hentry htask
      cases hsame
      rw [hmembers] at hmembers'
      cases hmembers'
      exact .inl hmem
  · intro j waiter hj hmem
    have hpending := hall j hmem
    unfold IsPending at hpending
    rw [hj] at hpending
    cases hpending
    exact .inl rfl

/-- An entry of another task stays in the map. -/
theorem Settles.entry_kept (h : Registered world)
    (hsettles : Settles world world' outcome fun _ waiter =>
      waiter.decisionTaskId = decisionTaskId)
    {entry : String × Nat} (hentry : entry ∈ world.waiters) (hne : entry.1 ≠ decisionTaskId) :
    entry ∈ world'.waiters := by
  obtain ⟨members, -, hnonempty, hall⟩ := h.listed entry hentry
  obtain ⟨j, hj⟩ := List.exists_mem_of_ne_nil members hnonempty
  exact (hsettles.registered.pending j _ _ (hsettles.kept j _ (hall j hj) hne)).1

theorem settles_settleEntries (h : Registered world) {entries : List (String × Nat)}
    (hentries : ∀ entry ∈ entries, entry ∈ world.waiters)
    (hkeys : (entries.map Prod.fst).Nodup) :
    Settles world (world.settleEntries outcome entries) outcome
      fun _ waiter => waiter.decisionTaskId ∈ entries.map Prod.fst := by
  induction entries generalizing world with
  | nil => exact .refl h fun _ _ => List.not_mem_nil
  | cons entry entries ih =>
    rw [List.map_cons, List.nodup_cons] at hkeys
    have hentry := hentries entry List.mem_cons_self
    have hfirst : Settles world (world.settleSet outcome entry.2) outcome
        fun _ waiter => waiter.decisionTaskId = entry.1 := settles_settleSet h hentry
    have hlater : ∀ other ∈ entries, other ∈ (world.settleSet outcome entry.2).waiters := by
      intro other hother
      apply hfirst.entry_kept h (hentries other (List.mem_cons_of_mem _ hother))
      intro hsame
      exact hkeys.1 (hsame ▸ List.mem_map_of_mem (f := Prod.fst) hother)
    have hrest := ih hfirst.registered hlater hkeys.2
    unfold World.settleEntries at hrest ⊢
    rw [List.foldl_cons, if_pos hentry]
    refine (hfirst.trans hrest).congr ?_ ?_
    · intro j waiter _ hj
      exact .inl (List.mem_cons.mp hj)
    · intro j waiter _ hj
      exact .inl (List.mem_cons.mpr hj)

end Loops

/-! ### A new waiter -/

section Steps
variable {world world' : World} {index : Nat} {decisionTaskId : String} {taskWaiters : Nat}
  {outcome : Outcome} {label : Label} {reply : Reply}

/-- The waiter joins the set of its task. -/
theorem Registered.add_some (h : Registered world)
    (hget : world.get decisionTaskId = some taskWaiters) :
    Registered (world.add decisionTaskId) ∧
      (world.add decisionTaskId).calls =
        world.calls ++ [⟨decisionTaskId, taskWaiters, none⟩] := by
  have hentry := (get_eq_some h).mp hget
  obtain ⟨members, hmembers, -, hall⟩ := h.listed _ hentry
  unfold World.add
  rw [hget]
  dsimp only
  rw [hmembers, Option.getD_some, OrderedMap.set_of_mem h.keys hentry]
  refine ⟨⟨h.keys, ?_, ?_⟩, rfl⟩
  · intro entry hold
    by_cases hset : entry.2 = taskWaiters
    · -- the other waiters of the set show that it is the one of the task
      obtain ⟨members', hmembers', hnonempty, hall'⟩ := h.listed entry hold
      rw [hset, hmembers] at hmembers'
      cases hmembers'
      obtain ⟨j, hj⟩ := List.exists_mem_of_ne_nil members hnonempty
      have hname := ((hall j hj).task_eq (hall' j hj)).1
      refine ⟨members ++ [world.calls.length], ?_, List.append_ne_nil_of_right_ne_nil _ (by simp),
        ?_⟩
      · rw [hset]
        exact Slots.get_set_self hmembers _
      · intro i hi
        rw [hset, hname]
        rcases List.mem_append.mp hi with hi | hi
        · exact Slots.get_concat_old (hall i hi) _
        · rw [List.mem_singleton.mp hi]
          exact Slots.get_concat_new _ _
    · obtain ⟨members', hmembers', hnonempty, hall'⟩ := h.listed entry hold
      refine ⟨members', Slots.get_set_ne hset hmembers' _, hnonempty, ?_⟩
      intro i hi
      exact Slots.get_concat_old (hall' i hi) _
  · intro i task set hnew
    rcases Slots.get_concat hnew with ⟨hi, hwaiter⟩ | hold
    · cases hwaiter
      refine ⟨hentry, _, Slots.get_set_self hmembers _, ?_⟩
      rw [hi]
      exact List.mem_append_right _ (List.mem_singleton_self _)
    · obtain ⟨hmap, members', hmembers', hmem⟩ := h.pending i task set hold
      refine ⟨hmap, ?_⟩
      by_cases hset : set = taskWaiters
      · subst hset
        rw [hmembers] at hmembers'
        cases hmembers'
        exact ⟨_, Slots.get_set_self hmembers _, List.mem_append_left _ hmem⟩
      · exact ⟨members', Slots.get_set_ne hset hmembers' _, hmem⟩

/-- The waiter gets a set of its own. -/
theorem Registered.add_none (h : Registered world) (hget : world.get decisionTaskId = none) :
    Registered (world.add decisionTaskId) ∧
      (world.add decisionTaskId).calls =
        world.calls ++ [⟨decisionTaskId, world.sets.length, none⟩] := by
  have hfresh := get_eq_none.mp hget
  unfold World.add
  rw [hget]
  dsimp only
  rw [OrderedMap.set_of_notMem hfresh]
  refine ⟨⟨?_, ?_, ?_⟩, rfl⟩
  · dsimp only
    rw [List.map_append, List.nodup_append]
    refine ⟨h.keys, List.nodup_singleton _, ?_⟩
    intro key hkey key' hnew hsame
    rw [hsame, List.mem_singleton.mp hnew] at hkey
    exact hfresh hkey
  · intro entry hentry
    rcases List.mem_append.mp hentry with hold | hnew
    · obtain ⟨members, hmembers, hnonempty, hall⟩ := h.listed entry hold
      refine ⟨members, Slots.get_concat_old hmembers _, hnonempty, ?_⟩
      intro i hi
      exact Slots.get_concat_old (hall i hi) _
    · rw [List.mem_singleton.mp hnew]
      refine ⟨[world.calls.length], Slots.get_concat_new _ _, List.cons_ne_nil _ _, ?_⟩
      intro i hi
      rw [List.mem_singleton.mp hi]
      exact Slots.get_concat_new _ _
  · intro i task set hnew
    rcases Slots.get_concat hnew with ⟨hi, hwaiter⟩ | hold
    · cases hwaiter
      rw [hi]
      exact ⟨List.mem_append_right _ (List.mem_singleton_self _), _, Slots.get_concat_new _ _,
        List.mem_singleton_self _⟩
    · obtain ⟨hmap, members, hmembers, hmem⟩ := h.pending i task set hold
      exact ⟨List.mem_append_left _ hmap, members, Slots.get_concat_old hmembers _, hmem⟩

theorem Registered.add (h : Registered world) (decisionTaskId : String) :
    Registered (world.add decisionTaskId) ∧ ∃ taskWaiters,
      (world.add decisionTaskId).calls =
        world.calls ++ [⟨decisionTaskId, taskWaiters, none⟩] := by
  cases hget : world.get decisionTaskId with
  | none =>
    obtain ⟨hregistered, hcalls⟩ := h.add_none hget
    exact ⟨hregistered, _, hcalls⟩
  | some taskWaiters =>
    obtain ⟨hregistered, hcalls⟩ := h.add_some hget
    exact ⟨hregistered, _, hcalls⟩

theorem add_closed (world : World) (decisionTaskId : String) :
    (world.add decisionTaskId).closed = world.closed := by
  unfold World.add
  split
  · rfl
  · rfl

/-! ### The steps -/

def waitOf (waiter : Waiter) : String × Option Outcome := (waiter.decisionTaskId, waiter.settled)

theorem waitOf_settleWaiter (waiter : Waiter) :
    waitOf (settleWaiter outcome waiter) = Waits.settle outcome (waitOf waiter) := rfl

theorem Settles.waits_get {which : Nat → Waiter → Prop} (h : Settles world world' outcome which)
    (j : Nat) [∀ waiter, Decidable (which j waiter)] :
    world'.waits.calls[j]? = world.calls[j]?.map fun waiter =>
      if which j waiter then Waits.settle outcome (waitOf waiter) else waitOf waiter := by
  change (world'.calls.map waitOf)[j]? = _
  rw [List.getElem?_map]
  cases hj : world.calls[j]? with
  | none =>
    rw [List.getElem?_eq_none_iff, ← h.length, ← List.getElem?_eq_none_iff] at hj
    rw [hj]
    rfl
  | some waiter =>
    by_cases hwhich : which j waiter
    · rw [h.settled j waiter hj hwhich, Option.map_some, Option.map_some, if_pos hwhich,
        waitOf_settleWaiter]
    · rw [h.kept j waiter hj hwhich, Option.map_some, Option.map_some, if_neg hwhich]

theorem Settles.waits_eq {which : String → Prop} [DecidablePred which]
    (h : Settles world world' outcome fun _ waiter => which waiter.decisionTaskId) :
    world'.waits.calls = world.waits.calls.map fun wait =>
      if which wait.1 then Waits.settle outcome wait else wait := by
  apply List.ext_getElem?
  intro j
  rw [h.waits_get, List.getElem?_map]
  change _ = ((world.calls.map waitOf)[j]?).map _
  rw [List.getElem?_map, Option.map_map]
  rfl

theorem Registered.step_waitFor (h : Registered world) {aborted : Bool}
    (hstep : step world (.waitFor decisionTaskId aborted) = some (reply, world')) :
    Registered world' ∧
      Waits.step world.waits (.waitFor decisionTaskId aborted) = some (reply, world'.waits) := by
  obtain ⟨hadded, taskWaiters, hcalls⟩ := h.add decisionTaskId
  have hclosed' := add_closed world decisionTaskId
  rw [EventSubscriber.step] at hstep
  by_cases hclosed : world.closed = true
  · rw [if_pos hclosed] at hstep
    cases hstep
    exact ⟨h, if_pos hclosed⟩
  · rw [if_neg hclosed] at hstep
    have hspec : Waits.step world.waits (.waitFor decisionTaskId aborted) = some (.waiting,
        ⟨world.waits.calls ++ [(decisionTaskId, if aborted then some .aborted else none)],
          world.closed⟩) := if_neg hclosed
    rw [hspec]
    cases aborted with
    | false =>
      cases hstep
      refine ⟨hadded, ?_⟩
      unfold World.waits
      rw [hcalls, hclosed', List.map_append]
      rfl
    | true =>
      -- the waiter is in its set by then, and leaves it again
      have hnew : (world.add decisionTaskId).calls[world.calls.length]? =
          some ⟨decisionTaskId, taskWaiters, none⟩ := by
        rw [hcalls]
        exact Slots.get_concat_new _ _
      cases hstep
      refine ⟨hadded.settle_pending hnew, ?_⟩
      unfold World.waits
      rw [settle_eq hnew, hcalls, hclosed', List.set_append_right _ _ (Nat.le_refl _),
        Nat.sub_self, List.map_append]
      rfl

theorem Registered.step_abort (h : Registered world)
    (hstep : step world (.abort index) = some (reply, world')) :
    Registered world' ∧
      Waits.step world.waits (.abort index) = some (reply, world'.waits) := by
  rw [EventSubscriber.step] at hstep
  rw [Option.ite_none_right_eq_some] at hstep
  obtain ⟨hlt, hresult⟩ := hstep
  cases hresult
  have hsettles := h.settles .aborted index
  refine ⟨hsettles.registered, ?_⟩
  have hold : world.waits.calls[index]? = some (waitOf world.calls[index]) := by
    change (world.calls.map waitOf)[index]? = _
    rw [List.getElem?_map, List.getElem?_eq_getElem hlt]
    rfl
  have hcalls : (world.settle .aborted index).waits.calls =
      world.waits.calls.set index (Waits.settle .aborted (waitOf world.calls[index])) := by
    apply List.ext_getElem?
    intro j
    rw [hsettles.waits_get, List.getElem?_set]
    by_cases hj : index = j
    · subst hj
      have hlength : index < world.waits.calls.length := (List.getElem?_eq_some_iff.mp hold).1
      rw [if_pos rfl, if_pos hlength, List.getElem?_eq_getElem hlt, Option.map_some, if_pos rfl]
    · rw [if_neg hj]
      change _ = (world.calls.map waitOf)[j]?
      rw [List.getElem?_map]
      simp only [if_neg (Ne.symm hj)]
  rw [Waits.step]
  rw [hold]
  dsimp only
  rw [← hcalls]
  exact congrArg (fun closed => some (Reply.done, Waits.mk _ closed)) hsettles.closed.symm

theorem Registered.step_message (h : Registered world) {value : Option (Json Rat)}
    (hstep : step world (.message value) = some (reply, world')) :
    Registered world' ∧
      Waits.step world.waits (.message value) = some (reply, world'.waits) := by
  -- the waiters of the task are the members of its set, where there is one
  have hsettles : reply = .done ∧
      Settles world world' .resolved fun _ waiter =>
        decodeDecisionTaskId value = some waiter.decisionTaskId := by
    rw [EventSubscriber.step] at hstep
    cases hdecoded : decodeDecisionTaskId value with
    | none =>
      rw [hdecoded] at hstep
      cases hstep
      exact ⟨rfl, .refl h fun _ _ => (Option.some_ne_none _).symm⟩
    | some task =>
      rw [hdecoded, Option.bind_some] at hstep
      cases hget : world.get task with
      | none =>
        rw [hget] at hstep
        cases hstep
        refine ⟨rfl, ?_⟩
        have hnothing : Settles world world .resolved fun _ _ => False :=
          .refl h fun _ _ => id
        refine hnothing.congr ?_ ?_
        · rintro j ⟨task', set, settled⟩ hj htask
          cases htask
          cases settled with
          | some result => exact .inr rfl
          | none =>
            obtain ⟨hentry, -⟩ := h.pending j _ set hj
            exact absurd (List.mem_map_of_mem (f := Prod.fst) hentry) (get_eq_none.mp hget)
        · exact fun _ _ _ => False.elim
      | some taskWaiters =>
        rw [hget] at hstep
        cases hstep
        refine ⟨rfl, ?_⟩
        refine (settles_settleSet h ((get_eq_some h).mp hget)).congr ?_ ?_
        · intro j waiter _ htask
          exact .inl (Option.some.inj htask).symm
        · intro j waiter _ htask
          exact .inl (congrArg some htask.symm)
  obtain ⟨rfl, hsettles⟩ := hsettles
  refine ⟨hsettles.registered, ?_⟩
  have hcalls := @Settles.waits_eq _ _ _ (fun task => decodeDecisionTaskId value = some task) _
    hsettles
  rw [Waits.step]
  rw [← hcalls]
  exact congrArg (fun closed => some (Reply.done, Waits.mk _ closed)) hsettles.closed.symm

theorem Registered.step_close (h : Registered world)
    (hstep : step world .close = some (reply, world')) :
    Registered world' ∧ Waits.step world.waits .close = some (reply, world'.waits) := by
  rw [EventSubscriber.step] at hstep
  by_cases hclosed : world.closed = true
  · rw [if_pos hclosed] at hstep
    cases hstep
    exact ⟨h, if_pos hclosed⟩
  · rw [if_neg hclosed] at hstep
    cases hstep
    have hflag : Registered { world with closed := true } := ⟨h.keys, h.listed, h.pending⟩
    have hsettles := @settles_settleEntries _ .closed hflag _ (fun _ => id) h.keys
    have hall : Settles { world with closed := true }
        ({ world with closed := true }.settleEntries .closed world.waiters) .closed
        fun _ _ => True := by
      refine hsettles.congr ?_ fun _ _ _ _ => .inl trivial
      rintro j ⟨task, set, settled⟩ hj -
      cases settled with
      | some result => exact .inr rfl
      | none => exact .inl (List.mem_map_of_mem (f := Prod.fst) (h.pending j task set hj).1)
    refine ⟨hall.registered, ?_⟩
    have hcalls := @Settles.waits_eq _ _ _ (fun _ => True) _ hall
    have hspec : Waits.step world.waits .close =
        some (.done, ⟨world.waits.calls.map (Waits.settle .closed), true⟩) := if_neg hclosed
    rw [hspec]
    refine congrArg (fun waits => some (Reply.done, waits)) ?_
    rw [show world.waits.calls.map (Waits.settle .closed) = _ from hcalls.symm]
    exact congrArg (Waits.mk _) hall.closed.symm

theorem Registered.step (h : Registered world)
    (hstep : EventSubscriber.step world label = some (reply, world')) :
    Registered world' ∧ Waits.step world.waits label = some (reply, world'.waits) := by
  cases label with
  | waitFor decisionTaskId aborted => exact h.step_waitFor hstep
  | abort index => exact h.step_abort hstep
  | message value => exact h.step_message hstep
  | close => exact h.step_close hstep

end Steps

/-! ### Messages of the publisher -/

/-- The value that `publishNext` stringifies. -/
def published (row : EventNotification) : Json Rat :=
  .object [("decisionTaskId", .string row.decisionTaskId),
    ("cursor", .string (toString row.eventCursor))]

/-- The task of a row that has a cursor of the identity column is decoded from its message. -/
theorem decodeDecisionTaskId_published {row : EventNotification} (hid : row.decisionTaskId ≠ "")
    (hpositive : 0 < row.eventCursor) (hbounded : row.eventCursor ≤ postgresBigintMax) :
    decodeDecisionTaskId (some (published row)) = some row.decisionTaskId := by
  have hcursor := isPersistedRunEventCursorV1_toString hpositive hbounded
  exact if_pos ⟨hid, hcursor⟩

/-! ### Runs -/

section Runs
variable {world : World} {es : List (Entry World Label Reply)}

/-- Nothing waits at a subscriber that is closed. -/
def Waits.Ended (waits : Waits) : Prop :=
  waits.closed = true → ∀ wait ∈ waits.calls, wait.2.isSome = true

theorem Waits.settle_isSome (outcome : Outcome) (wait : String × Option Outcome) :
    (Waits.settle outcome wait).2.isSome = true := by
  obtain ⟨task, settled⟩ := wait
  cases settled with
  | none => rfl
  | some result => rfl

theorem Waits.ended_step {waits waits' : Waits} {label : Label} {reply : Reply}
    (h : waits.Ended) (hstep : Waits.step waits label = some (reply, waits')) : waits'.Ended := by
  cases label with
  | waitFor decisionTaskId aborted =>
    rw [Waits.step] at hstep
    by_cases hclosed : waits.closed = true
    · rw [if_pos hclosed] at hstep
      cases hstep
      exact h
    · rw [if_neg hclosed] at hstep
      cases hstep
      exact fun hnow => absurd hnow hclosed
  | abort index =>
    rw [Waits.step] at hstep
    cases hcall : waits.calls[index]? with
    | none =>
      rw [hcall] at hstep
      cases hstep
    | some wait =>
      rw [hcall] at hstep
      cases hstep
      intro hclosed
      apply Slots.forall_set (h hclosed)
      exact Waits.settle_isSome .aborted wait
  | message value =>
    rw [Waits.step] at hstep
    cases hstep
    intro hclosed wait hwait
    obtain ⟨old, hold, rfl⟩ := List.mem_map.mp hwait
    split
    · exact Waits.settle_isSome .resolved old
    · exact h hclosed old hold
  | close =>
    rw [Waits.step] at hstep
    by_cases hclosed : waits.closed = true
    · rw [if_pos hclosed] at hstep
      cases hstep
      exact h
    · rw [if_neg hclosed] at hstep
      cases hstep
      intro _ wait hwait
      obtain ⟨old, -, rfl⟩ := List.mem_map.mp hwait
      exact Waits.settle_isSome .closed old

/-- A task has an entry exactly as long as one of its waiters is pending. -/
theorem Registered.entry_iff (h : Registered world) (decisionTaskId : String) :
    decisionTaskId ∈ world.waiters.map Prod.fst ↔
      ∃ wait ∈ world.waits.calls, wait = (decisionTaskId, none) := by
  constructor
  · intro hkey
    obtain ⟨entry, hentry, rfl⟩ := List.mem_map.mp hkey
    obtain ⟨members, -, hnonempty, hall⟩ := h.listed entry hentry
    obtain ⟨j, hj⟩ := List.exists_mem_of_ne_nil members hnonempty
    have hcall := List.mem_of_getElem? (hall j hj)
    exact ⟨_, List.mem_map_of_mem (f := waitOf) hcall, rfl⟩
  · rintro ⟨_, hwait, rfl⟩
    obtain ⟨⟨task, set, settled⟩, hcall, hsame⟩ := List.mem_map.mp hwait
    cases hsame
    obtain ⟨j, hj⟩ := List.mem_iff_getElem?.mp hcall
    exact List.mem_map_of_mem (f := Prod.fst) (h.pending j _ set hj).1

/-- Every run is a run of the waits alone: a message settles the pending waits of its task and no
others, and closing settles all of them. The map holds a task exactly as long as it is waited
for, so a closed subscriber holds nothing, and after the message of a row nobody waits for its
task. -/
theorem subscriber_refines (hrun : Run step .initial es world) :
    Run Waits.step .initial (es.map (Entry.view World.waits)) world.waits ∧
      (∀ decisionTaskId, decisionTaskId ∈ world.waiters.map Prod.fst ↔
        ∃ wait ∈ world.waits.calls, wait = (decisionTaskId, none)) ∧
      (world.closed = true → world.waiters = [] ∧
        ∀ wait ∈ world.waits.calls, wait.2.isSome = true) ∧
      ∀ e ∈ es, ∀ row : EventNotification, row.decisionTaskId ≠ "" → 0 < row.eventCursor →
        row.eventCursor ≤ postgresBigintMax → e.label = .message (some (published row)) →
          row.decisionTaskId ∉ e.after.waiters.map Prod.fst ∧
            ∀ wait ∈ e.after.waits.calls, wait.1 = row.decisionTaskId → wait.2.isSome = true := by
  have hsimulated : ∀ {world world' : World} {label : Label} {reply : Reply},
      Registered world → step world label = some (reply, world') →
        Registered world' ∧ Waits.step world.waits label = some (reply, world'.waits) :=
    fun h hstep => h.step hstep
  obtain ⟨hregistered, hspec⟩ := hrun.refines hsimulated registered_initial
  have hended : world.waits.Ended := by
    have hkept : ∀ {waits waits' : Waits} {label : Label} {reply : Reply}, waits.Ended → True →
        Waits.step waits label = some (reply, waits') → waits'.Ended :=
      fun h _ hstep => Waits.ended_step h hstep
    exact hspec.invariant hkept (fun _ _ => trivial) fun _ _ hwait => absurd hwait List.not_mem_nil
  refine ⟨hspec, hregistered.entry_iff, fun hclosed => ⟨?_, hended hclosed⟩, ?_⟩
  · apply List.map_eq_nil_iff.mp
    apply List.eq_nil_iff_forall_not_mem.mpr
    intro task hkey
    obtain ⟨wait, hwait, rfl⟩ := (hregistered.entry_iff task).mp hkey
    have hsettled := hended hclosed _ hwait
    cases hsettled
  · intro e he row hid hpositive hbounded hlabel
    have hkept : ∀ {world world' : World} {label : Label} {reply : Reply}, Registered world →
        True → step world label = some (reply, world') → Registered world' :=
      fun h _ hstep => (h.step hstep).1
    obtain ⟨hbefore, hafter⟩ :=
      hrun.invariant_entry hkept (fun _ _ => trivial) registered_initial he
    have hmove := (hbefore.step (hrun.entry_step he)).2
    have hsettled : ∀ wait ∈ e.after.waits.calls, wait.1 = row.decisionTaskId →
        wait.2.isSome = true := by
      rw [hlabel, Waits.step, decodeDecisionTaskId_published hid hpositive hbounded] at hmove
      have hcalls := congrArg Waits.calls (congrArg Prod.snd (Option.some.inj hmove))
      rw [← hcalls]
      intro wait hwait htask
      obtain ⟨old, -, rfl⟩ := List.mem_map.mp hwait
      by_cases hsame : some row.decisionTaskId = some old.1
      · rw [if_pos hsame]
        exact Waits.settle_isSome .resolved old
      · rw [if_neg hsame] at htask
        exact absurd (congrArg some htask.symm) hsame
    refine ⟨?_, hsettled⟩
    intro hkey
    obtain ⟨wait, hwait, rfl⟩ := (hafter.entry_iff _).mp hkey
    cases hsettled _ hwait rfl

end Runs

/-! ### A run -/

def sampleRow : EventNotification := ⟨7, "task-1", 0, 0, none, 0⟩

/-- Two waiters of one task and one of another, a message for the first, and the end. -/
def sampleCalls : List Label :=
  [.waitFor "task-1" false, .waitFor "task-1" false, .waitFor "task-2" false, .abort 0,
   .message (some (published sampleRow)), .waitFor "task-1" true, .close, .waitFor "task-2" false]

theorem subscriber_refines_sample : ∃ es world, Run step .initial es world ∧
    es.map Entry.label = sampleCalls ∧
    Run Waits.step .initial (es.map (Entry.view World.waits)) world.waits ∧
    world.waits.calls = [("task-1", some .aborted), ("task-1", some .resolved),
      ("task-2", some .closed), ("task-1", some .aborted)] := by
  have hexec : (exec step .initial sampleCalls).any (fun result =>
      result.2.waits.calls = [("task-1", some .aborted), ("task-1", some .resolved),
        ("task-2", some .closed), ("task-1", some .aborted)]) = true := by
    decide +kernel
  obtain ⟨es, world, hrun, hlabels, hcheck⟩ := exists_labelled_run_of_exec hexec
  exact ⟨es, world, hrun, hlabels, (subscriber_refines hrun).1, of_decide_eq_true hcheck⟩

end ChoiceMind.TaskPersistence.EventSubscriber
