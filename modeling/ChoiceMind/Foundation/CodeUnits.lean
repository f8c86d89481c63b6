import Mathlib.Data.Fin.Basic
import Mathlib.Data.List.Lex

/-!
# Strings of code units

A string is a list of 16-bit code units, surrogates in pairs or alone. `stringify` quotes it
as a JSON string, a lone surrogate as an escape.
-/

set_option autoImplicit false

abbrev CodeUnit := Fin 0x10000

abbrev CodeUnits := List CodeUnit

instance : LawfulBEq CodeUnits := inferInstance

namespace CodeUnits

/-- A character of the basic plane. -/
def unit (c : Char) : CodeUnit := Fin.ofNat 0x10000 c.toNat

def encodeChar (c : Char) : CodeUnits :=
  if c.toNat < 0x10000 then [unit c]
  else [Fin.ofNat _ (0xd800 + (c.toNat - 0x10000) / 0x400),
    Fin.ofNat _ (0xdc00 + (c.toNat - 0x10000) % 0x400)]

def ofString (s : String) : CodeUnits := s.toList.flatMap encodeChar

def IsLead (u : CodeUnit) : Prop := 0xd800 ≤ u.val ∧ u.val < 0xdc00

def IsTrail (u : CodeUnit) : Prop := 0xdc00 ≤ u.val ∧ u.val < 0xe000

instance (u : CodeUnit) : Decidable (IsLead u) := inferInstanceAs (Decidable (_ ∧ _))

instance (u : CodeUnit) : Decidable (IsTrail u) := inferInstanceAs (Decidable (_ ∧ _))

def hexDigit (d : Nat) : CodeUnit :=
  if d < 10 then Fin.ofNat _ (0x30 + d) else Fin.ofNat _ (0x57 + d)

def unicodeEscape (u : CodeUnit) : CodeUnits :=
  [unit '\\', unit 'u', hexDigit (u.val / 0x1000), hexDigit (u.val / 0x100 % 0x10),
    hexDigit (u.val / 0x10 % 0x10), hexDigit (u.val % 0x10)]

/-- A code unit that is not part of a surrogate pair, inside a quoted string. -/
def escapeUnit (u : CodeUnit) : CodeUnits :=
  if u = unit '\x08' then [unit '\\', unit 'b']
  else if u = unit '\t' then [unit '\\', unit 't']
  else if u = unit '\n' then [unit '\\', unit 'n']
  else if u = unit '\x0c' then [unit '\\', unit 'f']
  else if u = unit '\r' then [unit '\\', unit 'r']
  else if u = unit '\"' ∨ u = unit '\\' then [unit '\\', u]
  else if u.val < 0x20 ∨ IsLead u ∨ IsTrail u then unicodeEscape u
  else [u]

/-- A string inside the quotation marks. -/
def escape : CodeUnits → CodeUnits
  | [] => []
  | [u] => escapeUnit u
  | u :: v :: rest =>
    if IsLead u ∧ IsTrail v then u :: v :: escape rest else escapeUnit u ++ escape (v :: rest)

/-- `JSON.stringify` of a string -/
def stringify (s : CodeUnits) : CodeUnits := unit '\"' :: (escape s ++ [unit '\"'])

/-! ### Reading a quoted string -/

section Reading

/-- The value of the digit that `hexDigit` writes. -/
def hexValue (u : CodeUnit) : Nat := if u.val < 0x3a then u.val - 0x30 else u.val - 0x57

def unescapeUnit (u : CodeUnit) : CodeUnit :=
  if u = unit 'b' then unit '\x08'
  else if u = unit 't' then unit '\t'
  else if u = unit 'n' then unit '\n'
  else if u = unit 'f' then unit '\x0c'
  else if u = unit 'r' then unit '\r'
  else u

/-- The value of the four digits of an escape. -/
def readEscape : CodeUnits → Option (CodeUnit × CodeUnits)
  | a :: b :: c :: d :: rest =>
    some (Fin.ofNat _ (hexValue a * 0x1000 + hexValue b * 0x100 + hexValue c * 0x10 +
      hexValue d), rest)
  | _ => none

/-- What follows a backslash. -/
def readEscaped : CodeUnits → Option (CodeUnit × CodeUnits)
  | [] => none
  | u :: rest => if u = unit 'u' then readEscape rest else some (unescapeUnit u, rest)

/-- The first code unit of a quoted string. -/
def readUnit : CodeUnits → Option (CodeUnit × CodeUnits)
  | [] => none
  | u :: rest =>
    if u = unit '\"' then none
    else if u = unit '\\' then readEscaped rest
    else some (u, rest)

/-- A quoted string after its first mark, with a bound on its length. -/
def readString : Nat → CodeUnits → Option (CodeUnits × CodeUnits)
  | 0, _ => none
  | bound + 1, text =>
    match readUnit text with
    | none => some ([], text.tail)
    | some (u, rest) => (readString bound rest).map fun read => (u :: read.1, read.2)

theorem hexValue_hexDigit : ∀ d < 16, hexValue (hexDigit d) = d := by decide

theorem readEscape_hexDigits (u : CodeUnit) (rest : CodeUnits) :
    readEscape (hexDigit (u.val / 0x1000) :: hexDigit (u.val / 0x100 % 0x10) ::
      hexDigit (u.val / 0x10 % 0x10) :: hexDigit (u.val % 0x10) :: rest) = some (u, rest) := by
  have hbound : u.val < 0x10000 := u.isLt
  have hfirst : hexValue (hexDigit (u.val / 0x1000)) = u.val / 0x1000 := by
    apply hexValue_hexDigit
    omega
  have hsecond : hexValue (hexDigit (u.val / 0x100 % 0x10)) = u.val / 0x100 % 0x10 := by
    apply hexValue_hexDigit
    omega
  have hthird : hexValue (hexDigit (u.val / 0x10 % 0x10)) = u.val / 0x10 % 0x10 := by
    apply hexValue_hexDigit
    omega
  have hfourth : hexValue (hexDigit (u.val % 0x10)) = u.val % 0x10 := by
    apply hexValue_hexDigit
    omega
  have hvalue : u.val / 0x1000 * 0x1000 + u.val / 0x100 % 0x10 * 0x100 +
      u.val / 0x10 % 0x10 * 0x10 + u.val % 0x10 = u.val := by
    omega
  rw [readEscape, hfirst, hsecond, hthird, hfourth, hvalue, Fin.ofNat_val_eq_self]

/-- A code unit that stands for itself. -/
theorem readUnit_plain {u : CodeUnit} {rest : CodeUnits} (hmark : u ≠ unit '\"')
    (hslash : u ≠ unit '\\') : readUnit (u :: rest) = some (u, rest) := by
  rw [readUnit, if_neg hmark, if_neg hslash]

theorem readUnit_escaped {u : CodeUnit} {rest : CodeUnits} (hu : u ≠ unit 'u') :
    readUnit (unit '\\' :: u :: rest) = some (unescapeUnit u, rest) := by
  rw [readUnit, if_neg (by decide), if_pos rfl, readEscaped, if_neg hu]

theorem readUnit_unicodeEscape (u : CodeUnit) (rest : CodeUnits) :
    readUnit (unicodeEscape u ++ rest) = some (u, rest) := by
  simp only [unicodeEscape, List.cons_append, List.nil_append]
  rw [readUnit, if_neg (by decide), if_pos rfl, readEscaped, if_pos rfl]
  exact readEscape_hexDigits u rest

theorem readUnit_escapeUnit (u : CodeUnit) (rest : CodeUnits) :
    readUnit (escapeUnit u ++ rest) = some (u, rest) := by
  unfold escapeUnit
  split
  · rename_i h
    rw [h]
    exact readUnit_escaped (by decide)
  split
  · rename_i h
    rw [h]
    exact readUnit_escaped (by decide)
  split
  · rename_i h
    rw [h]
    exact readUnit_escaped (by decide)
  split
  · rename_i h
    rw [h]
    exact readUnit_escaped (by decide)
  split
  · rename_i h
    rw [h]
    exact readUnit_escaped (by decide)
  split
  · rename_i h
    rcases h with rfl | rfl
    · exact readUnit_escaped (by decide)
    · exact readUnit_escaped (by decide)
  split
  · exact readUnit_unicodeEscape u rest
  · rename_i hquoted _
    rw [not_or] at hquoted
    exact readUnit_plain hquoted.1 hquoted.2

theorem readUnit_surrogate {u : CodeUnit} {rest : CodeUnits} (hu : 0xd800 ≤ u.val) :
    readUnit (u :: rest) = some (u, rest) := by
  apply readUnit_plain
  · rintro rfl
    exact absurd hu (by decide)
  · rintro rfl
    exact absurd hu (by decide)

theorem readString_escape (s : CodeUnits) (bound : Nat) (rest : CodeUnits)
    (h : s.length < bound) : readString bound (escape s ++ unit '\"' :: rest) = some (s, rest) := by
  induction s using escape.induct generalizing bound with
  | case1 =>
    obtain ⟨bound, rfl⟩ : ∃ n, bound = n + 1 := ⟨bound - 1, by omega⟩
    rfl
  | case2 u =>
    rw [List.length_singleton] at h
    obtain ⟨bound, rfl⟩ : ∃ n, bound = n + 1 + 1 := ⟨bound - 2, by omega⟩
    rw [escape, readString, readUnit_escapeUnit]
    rfl
  | case3 u v s hpair ih =>
    rw [List.length_cons, List.length_cons] at h
    obtain ⟨bound, rfl⟩ : ∃ n, bound = n + 1 + 1 := ⟨bound - 2, by omega⟩
    rw [escape, if_pos hpair, List.cons_append, List.cons_append, readString,
      readUnit_surrogate hpair.1.1]
    dsimp only
    rw [readString, readUnit_surrogate (Nat.le_trans (by decide) hpair.2.1)]
    dsimp only
    rw [ih bound (by omega)]
    rfl
  | case4 u v s hpair ih =>
    rw [List.length_cons] at h
    obtain ⟨bound, rfl⟩ : ∃ n, bound = n + 1 := ⟨bound - 1, by omega⟩
    rw [escape, if_neg hpair, List.append_assoc, readString, readUnit_escapeUnit]
    dsimp only
    rw [ih bound (by omega)]
    rfl

/-- A quoted string says where it ends. -/
theorem stringify_injective {s t : CodeUnits} {r r' : CodeUnits}
    (h : stringify s ++ r = stringify t ++ r') : s = t ∧ r = r' := by
  simp only [stringify, List.cons_append, List.append_assoc, List.nil_append, List.cons.injEq,
    true_and] at h
  have hs := readString_escape s (s.length + t.length + 1) r (by omega)
  have ht := readString_escape t (s.length + t.length + 1) r' (by omega)
  rw [h, ht] at hs
  cases hs
  exact ⟨rfl, rfl⟩

end Reading

end CodeUnits
