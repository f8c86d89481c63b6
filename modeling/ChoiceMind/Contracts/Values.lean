import Mathlib.Data.List.Sort

/-!
# Scalar values of the decision contracts

Texts, code-unit order of identifiers, UTC timestamps and the issues a decoder
reports. A decoder works on the typed value that the JSON schema produces; what is
left of the schema is the refinements of single fields, each named by its path.
-/

namespace ChoiceMind.Contracts

set_option autoImplicit false

/-- The characters removed by `String.prototype.trim`. -/
def isWhiteSpace (c : Char) : Bool :=
  c.toNat ∈ [0x09, 0x0a, 0x0b, 0x0c, 0x0d, 0x20, 0xa0, 0x1680, 0x2028, 0x2029, 0x202f, 0x205f,
    0x3000, 0xfeff] || (0x2000 ≤ c.toNat && c.toNat ≤ 0x200a)

/-- `value.trim().length > 0` -/
def isMeaningful (value : String) : Bool := value.toList.any fun c => !isWhiteSpace c

/-- `z.string().min(1)` -/
def nonEmpty (value : String) : Bool := value ≠ ""

/-- `Number.isSafeInteger` on a nonnegative integer. -/
def isSafeInteger (n : Nat) : Bool := n ≤ 9007199254740991

/-- `/^[0-9a-f]{64}$/` -/
def isSha256Digest (digest : String) : Bool :=
  digest.length = 64 && digest.toList.all fun c => c.isDigit || ('a' ≤ c && c ≤ 'f')

/-- The UTF-16 code units of one character. -/
def charCodeUnits (c : Char) : List Nat :=
  if c.toNat < 0x10000 then [c.toNat]
  else [0xd800 + (c.toNat - 0x10000) / 0x400, 0xdc00 + (c.toNat - 0x10000) % 0x400]

def codeUnits (value : String) : List Nat := value.toList.flatMap charCodeUnits

/-- The lexicographic order of two sequences of code units. -/
def lexicographicLe : List Nat → List Nat → Bool
  | [], _ => true
  | _ :: _, [] => false
  | a :: as, b :: bs => a < b || (a = b && lexicographicLe as bs)

/-- `left <= right` on strings. -/
def codeUnitsLe (left right : String) : Bool := lexicographicLe (codeUnits left) (codeUnits right)

/-- `[...ids].sort()` -/
def sortIds (ids : List String) : List String := ids.insertionSort fun a b => codeUnitsLe a b

/-- Milliseconds since 1970, the time value of a `Date`. -/
abbrev Instant := Int

instance : Preorder Instant := Int.instLinearOrder.toPreorder

/-- A string admitted by `z.iso.datetime({ offset: false })`: the minute or second it
names, counted from 1970, whether the seconds are written, and its fraction digits. -/
structure UtcTimestamp where
  second : Int
  showsSeconds : Bool := true
  fraction : List (Fin 10) := []
  whole_minute : showsSeconds = false → second % 60 = 0 ∧ fraction = [] := by decide
  deriving DecidableEq

namespace UtcTimestamp

/-- The milliseconds that `Date.parse` reads: the first three fraction digits. -/
def fractionMs (digits : List (Fin 10)) : Nat :=
  match digits with
  | [] => 0
  | [a] => a.val * 100
  | [a, b] => a.val * 100 + b.val * 10
  | a :: b :: c :: _ => a.val * 100 + b.val * 10 + c.val

/-- `Date.parse` -/
def parse (t : UtcTimestamp) : Int := t.second * 1000 + fractionMs t.fraction

/-- The three fraction digits that `toISOString` writes. -/
def millisecondDigits (ms : Nat) : List (Fin 10) :=
  [Fin.ofNat 10 (ms / 100), Fin.ofNat 10 (ms / 10), Fin.ofNat 10 ms]

theorem fractionMs_millisecondDigits {ms : Nat} (h : ms < 1000) :
    fractionMs (millisecondDigits ms) = ms := by
  simp only [fractionMs, millisecondDigits, Fin.ofNat]
  omega

/-- `new Date(ms).toISOString()` -/
def toISOString (ms : Instant) : UtcTimestamp where
  second := ms / 1000
  fraction := millisecondDigits (ms % 1000).toNat
  whole_minute := by intro h; cases h

theorem parse_toISOString (ms : Instant) : (toISOString ms).parse = ms := by
  have hdigits : fractionMs (millisecondDigits (ms % 1000).toNat) = (ms % 1000).toNat :=
    fractionMs_millisecondDigits (by omega)
  simp only [parse, toISOString, hdigits]
  omega

theorem toISOString_injective : Function.Injective toISOString :=
  Function.LeftInverse.injective parse_toISOString

end UtcTimestamp

/-- `compareUtc(left, right) < 0` -/
def isBeforeUtc (left right : UtcTimestamp) : Bool := left.parse < right.parse

structure ContractIssue where
  path : String
  message : String
  deriving DecidableEq, Repr

inductive RejectionCode
  | contractInvalid
  | contractVersionUnsupported
  deriving DecidableEq, Repr

structure ContractRejection where
  code : RejectionCode
  issues : List ContractIssue
  deriving DecidableEq, Repr

abbrev ContractDecodeResult (α : Type) := Except ContractRejection α

def contractInvalid {α : Type} (issues : List ContractIssue) : ContractDecodeResult α :=
  .error ⟨.contractInvalid, issues⟩

/-- One refinement of the schema: the path it reports and whether it holds. -/
structure FieldCheck where
  path : String
  holds : Bool

/-- The path of a member of `parent`; the empty path is `parent` itself. -/
def memberPath (parent path : String) : String :=
  if path = "" then parent else parent ++ "." ++ path

/-- The checks of a nested value, reported below `parent`. -/
def FieldCheck.below (parent : String) (checks : List FieldCheck) : List FieldCheck :=
  checks.map fun check => { check with path := memberPath parent check.path }

/-- The checks of an array, reported below the index of each item. -/
def itemChecks {α : Type} (parent : String) (items : List α)
    (checks : α → List FieldCheck) : List FieldCheck :=
  items.zipIdx.flatMap fun (item, index) =>
    FieldCheck.below (parent ++ "." ++ toString index) (checks item)

def fieldChecksHold (checks : List FieldCheck) : Bool := checks.all FieldCheck.holds

/-- `invalidContractResult`: every failing field with the one message of the contract. -/
def invalidFields (checks : List FieldCheck) : List ContractIssue :=
  (checks.filter fun check => !check.holds).map fun check => ⟨check.path, "字段不符合合同要求"⟩

@[simp] theorem fieldChecksHold_nil : fieldChecksHold [] = true := rfl

@[simp] theorem fieldChecksHold_cons (check : FieldCheck) (checks : List FieldCheck) :
    fieldChecksHold (check :: checks) = (check.holds && fieldChecksHold checks) := rfl

@[simp] theorem fieldChecksHold_append (xs ys : List FieldCheck) :
    fieldChecksHold (xs ++ ys) = (fieldChecksHold xs && fieldChecksHold ys) := List.all_append

@[simp] theorem fieldChecksHold_below (parent : String) (checks : List FieldCheck) :
    fieldChecksHold (FieldCheck.below parent checks) = fieldChecksHold checks := by
  simp only [fieldChecksHold, FieldCheck.below, List.all_map]
  rfl

theorem fieldChecksHold_itemChecks {α : Type} {parent : String} {items : List α}
    {checks : α → List FieldCheck} :
    fieldChecksHold (itemChecks parent items checks) =
      items.all fun item => fieldChecksHold (checks item) := by
  unfold itemChecks
  generalize 0 = start
  induction items generalizing start with
  | nil => rfl
  | cons item items ih =>
    simp only [List.zipIdx_cons, List.flatMap_cons, fieldChecksHold_append, fieldChecksHold_below,
      List.all_cons, ih]

/-- A failed schema reports at least one field, each with a failing check. -/
theorem invalidFields_eq_nil {checks : List FieldCheck} :
    invalidFields checks = [] ↔ fieldChecksHold checks = true := by
  simp only [invalidFields, List.map_eq_nil_iff, List.filter_eq_nil_iff, fieldChecksHold,
    List.all_eq_true, Bool.not_eq_true', Bool.not_eq_false]

end ChoiceMind.Contracts
