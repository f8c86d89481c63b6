import Mathlib.Data.Nat.Digits.Defs
import ChoiceMind.Contracts.Runtime
import ChoiceMind.Foundation.OrderedMap

/-!
# Streamed events

A page merges each run event that it receives, from a replay or from the live stream, into the
list it shows. The list is the same for every order of the deliveries.
-/

namespace ChoiceMind.Web

set_option autoImplicit false

open Contracts

/-! ### Cursors -/

def postgresBigintMax : Nat := 9223372036854775807

def digitValue (c : Char) : Nat := c.toNat - '0'.toNat

/-- `BigInt` of decimal digits. -/
def bigInt (text : String) : Nat := Nat.ofDigits 10 (text.toList.map digitValue).reverse

/-- `/^[1-9]\d*$/` -/
def matchesPositiveInteger : List Char → Bool
  | [] => false
  | first :: digits => first.isDigit && first != '0' && digits.all Char.isDigit

def isPersistedRunEventCursorV1 (value : String) : Bool :=
  matchesPositiveInteger value.toList && bigInt value ≤ postgresBigintMax

theorem digitValue_lt {c : Char} (h : c.isDigit = true) : digitValue c < 10 := by
  have hdigit := Char.isDigit_iff_toNat.mp h
  have hzero : '0'.toNat = 48 := rfl
  have hnine : '9'.toNat = 57 := rfl
  unfold digitValue
  omega

theorem digitValue_injOn {c d : Char} (hc : c.isDigit = true) (hd : d.isDigit = true)
    (h : digitValue c = digitValue d) : c = d := by
  have hc := Char.isDigit_iff_toNat.mp hc
  have hd := Char.isDigit_iff_toNat.mp hd
  unfold digitValue at h
  apply Char.toNat_inj.mp
  omega

theorem digits_bigInt {text : String} (h : matchesPositiveInteger text.toList = true) :
    Nat.digits 10 (bigInt text) = (text.toList.map digitValue).reverse := by
  unfold bigInt
  cases htext : text.toList with
  | nil =>
    rw [htext] at h
    cases h
  | cons first digits =>
    rw [htext] at h
    simp only [matchesPositiveInteger, Bool.and_eq_true, bne_iff_ne, List.all_eq_true] at h
    obtain ⟨⟨hfirst, hnonzero⟩, hdigits⟩ := h
    apply Nat.digits_ofDigits 10 (by decide)
    · intro value hvalue
      rw [List.mem_reverse] at hvalue
      obtain ⟨c, hc, rfl⟩ := List.mem_map.mp hvalue
      rcases List.mem_cons.mp hc with rfl | hrest
      · exact digitValue_lt hfirst
      · exact digitValue_lt (hdigits c hrest)
    · intro hne
      simp only [List.map_cons, List.reverse_cons, List.getLast_concat]
      intro hzero
      exact hnonzero (digitValue_injOn hfirst (by decide) hzero)

theorem map_digitValue_injOn {cs ds : List Char} (hcs : cs.all Char.isDigit = true)
    (hds : ds.all Char.isDigit = true) (h : cs.map digitValue = ds.map digitValue) : cs = ds := by
  induction cs generalizing ds with
  | nil =>
    rw [List.map_nil, eq_comm, List.map_eq_nil_iff] at h
    exact h.symm
  | cons c cs ih =>
    cases ds with
    | nil => cases h
    | cons d ds =>
      rw [List.all_cons, Bool.and_eq_true] at hcs hds
      rw [List.map_cons, List.map_cons, List.cons.injEq] at h
      rw [digitValue_injOn hcs.1 hds.1 h.1, ih hcs.2 hds.2 h.2]

theorem isDigit_of_matches {cs : List Char} (h : matchesPositiveInteger cs = true) :
    cs.all Char.isDigit = true := by
  cases cs with
  | nil => rfl
  | cons first digits =>
    simp only [matchesPositiveInteger, Bool.and_eq_true] at h
    rw [List.all_cons, h.1.1, h.2, Bool.and_self]

/-- Cursors have no leading zeros, so equal numbers are equal texts. -/
theorem bigInt_injOn {a b : String} (ha : isPersistedRunEventCursorV1 a = true)
    (hb : isPersistedRunEventCursorV1 b = true) (h : bigInt a = bigInt b) : a = b := by
  simp only [isPersistedRunEventCursorV1, Bool.and_eq_true] at ha hb
  have hdigits : a.toList.map digitValue = b.toList.map digitValue := by
    rw [← List.reverse_inj, ← digits_bigInt ha.1, ← digits_bigInt hb.1, h]
  apply String.toList_inj.mp
  exact map_digitValue_injOn (isDigit_of_matches ha.1) (isDigit_of_matches hb.1) hdigits

/-! ### Deliveries -/

/-- What `decodePersistedRunEventV1` returns. -/
structure PersistedRunEvent where
  cursor : String
  event : RunEvent
  cursorValid : isPersistedRunEventCursorV1 cursor = true
  deriving DecidableEq

def PersistedRunEvent.position (persisted : PersistedRunEvent) : Nat := bigInt persisted.cursor

/-- The map of the events by cursor, with the new one set, sorted by `BigInt(cursor)`. -/
def mergePersistedEvent (current : List PersistedRunEvent) (incoming : PersistedRunEvent) :
    List PersistedRunEvent :=
  OrderedMap.merge PersistedRunEvent.cursor PersistedRunEvent.position current incoming

/-- The list a page shows after some deliveries. -/
def shownEvents (deliveries : List PersistedRunEvent) : List PersistedRunEvent :=
  deliveries.foldl mergePersistedEvent []

theorem cursor_eq_of_position {a b : PersistedRunEvent} (h : a.position = b.position) :
    a.cursor = b.cursor :=
  bigInt_injOn a.cursorValid b.cursorValid h

/-- The list holds the distinct events that were delivered in the order of their numbers, every
list of deliveries of the same events gives it, and it keeps when one of them comes again. -/
structure OrderFree (deliveries : List PersistedRunEvent) : Prop where
  sorted : OrderedMap.Sorts PersistedRunEvent.position deliveries (shownEvents deliveries)
  permuted : ∀ deliveries', (∀ e, e ∈ deliveries' ↔ e ∈ deliveries) →
    shownEvents deliveries' = shownEvents deliveries
  repeated : ∀ e ∈ deliveries, mergePersistedEvent (shownEvents deliveries) e =
    shownEvents deliveries

section Deliveries
variable {deliveries : List PersistedRunEvent}

theorem shownEvents_sorts (hagree : OrderedMap.Agree PersistedRunEvent.cursor deliveries) :
    OrderedMap.Sorts PersistedRunEvent.position deliveries (shownEvents deliveries) := by
  rw [← List.append_nil deliveries] at hagree
  have h := OrderedMap.Sorts.foldl_merge (fun a _ b _ => cursor_eq_of_position) hagree
    OrderedMap.sorts_nil
  rwa [List.append_nil] at h

/-- Merging streamed events is free of the order and the number of their deliveries. -/
theorem merge_order_free (hagree : OrderedMap.Agree PersistedRunEvent.cursor deliveries) :
    OrderFree deliveries where
  sorted := shownEvents_sorts hagree
  permuted deliveries' hsame := by
    have hagree' : OrderedMap.Agree PersistedRunEvent.cursor deliveries' := fun a ha b hb =>
      hagree a ((hsame a).mp ha) b ((hsame b).mp hb)
    exact (shownEvents_sorts hagree).unique (shownEvents_sorts hagree') hsame
  repeated e he :=
    (shownEvents_sorts hagree).merge_mem hagree (((shownEvents_sorts hagree).mem e).mpr he)

def sampleEvent (cursor : String) (h : isPersistedRunEventCursorV1 cursor = true) :
    PersistedRunEvent where
  cursor
  event := ⟨"event-" ++ cursor, "task", "run", 1, .toISOString 0, .taskStateChanged, .created,
    "summary"⟩
  cursorValid := h

/-- Ten comes after nine, and again. -/
theorem merge_order_free_sample : ∃ nine ten : PersistedRunEvent,
    nine.cursor = "9" ∧ ten.cursor = "10" ∧ shownEvents [ten, nine, ten] = [nine, ten] ∧
      OrderFree [ten, nine, ten] := by
  refine ⟨sampleEvent "9" (by decide), sampleEvent "10" (by decide), rfl, rfl, by decide, ?_⟩
  apply merge_order_free
  unfold OrderedMap.Agree
  decide

end Deliveries

end ChoiceMind.Web
