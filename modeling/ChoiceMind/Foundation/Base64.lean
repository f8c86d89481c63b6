import Mathlib.Data.List.Basic

/-!
# Base64

Three bytes are four digits of six bits. The last group of one or two bytes is padded.
-/

namespace Base64

set_option autoImplicit false

/-! ### Digits -/

def digit (n : Nat) : Char :=
  if n < 26 then .ofNat (65 + n)
  else if n < 52 then .ofNat (71 + n)
  else if n < 62 then .ofNat (n - 4)
  else if n = 62 then '+'
  else '/'

def value (c : Char) : Option Nat :=
  if 'A' ≤ c ∧ c ≤ 'Z' then some (c.toNat - 65)
  else if 'a' ≤ c ∧ c ≤ 'z' then some (c.toNat - 71)
  else if '0' ≤ c ∧ c ≤ '9' then some (c.toNat + 4)
  else if c = '+' then some 62
  else if c = '/' then some 63
  else none

/-- `[A-Za-z0-9+/]` -/
def isDigit (c : Char) : Bool := c.isAlphanum || c = '+' || c = '/'

theorem value_digit {n : Nat} (h : n < 64) : value (digit n) = some n := by
  have hall : ∀ n : Fin 64, value (digit n) = some n.val := by decide +kernel
  exact hall ⟨n, h⟩

theorem isDigit_digit {n : Nat} (h : n < 64) : isDigit (digit n) = true := by
  have hall : ∀ n : Fin 64, isDigit (digit n) = true := by decide +kernel
  exact hall ⟨n, h⟩

theorem digit_lt (n : Nat) : (digit n).toNat < 128 := by
  by_cases h : n < 64
  · have hall : ∀ n : Fin 64, (digit n).toNat < 128 := by decide +kernel
    exact hall ⟨n, h⟩
  · unfold digit
    rw [if_neg (by omega), if_neg (by omega), if_neg (by omega), if_neg (by omega)]
    decide

theorem digit_ne_pad {n : Nat} (h : n < 64) : digit n ≠ '=' := by
  intro hpad
  have hdigit := isDigit_digit h
  rw [hpad] at hdigit
  cases hdigit

/-! ### Encoding -/

/-- The four digits of three bytes. -/
def first (a : UInt8) : Nat := a.toNat / 4
def second (a b : UInt8) : Nat := a.toNat % 4 * 16 + b.toNat / 16
def third (b c : UInt8) : Nat := b.toNat % 16 * 4 + c.toNat / 64
def fourth (c : UInt8) : Nat := c.toNat % 64

theorem first_lt (a : UInt8) : first a < 64 := by
  have ha := a.toNat_lt
  unfold first
  omega

theorem second_lt (a b : UInt8) : second a b < 64 := by
  have hb := b.toNat_lt
  unfold second
  omega

theorem third_lt (b c : UInt8) : third b c < 64 := by
  have hc := c.toNat_lt
  unfold third
  omega

theorem fourth_lt (c : UInt8) : fourth c < 64 := Nat.mod_lt _ (by omega)

def encode : List UInt8 → List Char
  | [] => []
  | [a] => [digit (first a), digit (second a 0), '=', '=']
  | [a, b] => [digit (first a), digit (second a b), digit (third b 0), '=']
  | a :: b :: c :: rest =>
    digit (first a) :: digit (second a b) :: digit (third b c) :: digit (fourth c) :: encode rest

attribute [grind =] encode

/-- Digits, and at most two pads behind them. -/
theorem encode_shape (bytes : List UInt8) : ∃ body pads, encode bytes = body ++ pads ∧
    (∀ c ∈ body, ∃ n < 64, c = digit n) ∧ pads.length ≤ 2 ∧ (∀ c ∈ pads, c = '=') ∧
    (bytes ≠ [] → body ≠ []) := by
  induction bytes using encode.induct with
  | case1 => exact ⟨[], [], rfl, by simp, by simp, by simp, fun h => absurd rfl h⟩
  | case2 a =>
    refine ⟨[digit (first a), digit (second a 0)], ['=', '='], rfl, ?_, by simp, by simp, by simp⟩
    intro c hc
    simp only [List.mem_cons, List.not_mem_nil, or_false] at hc
    rcases hc with rfl | rfl
    · exact ⟨_, first_lt a, rfl⟩
    · exact ⟨_, second_lt a 0, rfl⟩
  | case3 a b =>
    refine ⟨[digit (first a), digit (second a b), digit (third b 0)], ['='], rfl, ?_, by simp,
      by simp, by simp⟩
    intro c hc
    simp only [List.mem_cons, List.not_mem_nil, or_false] at hc
    rcases hc with rfl | rfl | rfl
    · exact ⟨_, first_lt a, rfl⟩
    · exact ⟨_, second_lt a b, rfl⟩
    · exact ⟨_, third_lt b 0, rfl⟩
  | case4 a b c rest ih =>
    obtain ⟨body, pads, hencode, hbody, hlength, hpads, -⟩ := ih
    refine ⟨digit (first a) :: digit (second a b) :: digit (third b c) :: digit (fourth c) :: body,
      pads, by rw [encode, hencode]; rfl, ?_, hlength, hpads, by simp⟩
    intro d hd
    simp only [List.mem_cons] at hd
    rcases hd with rfl | rfl | rfl | rfl | hd
    · exact ⟨_, first_lt a, rfl⟩
    · exact ⟨_, second_lt a b, rfl⟩
    · exact ⟨_, third_lt b c, rfl⟩
    · exact ⟨_, fourth_lt c, rfl⟩
    · exact hbody d hd

theorem encode_ascii {bytes : List UInt8} {c : Char} (h : c ∈ encode bytes) : c.toNat < 128 := by
  obtain ⟨body, pads, hencode, hbody, -, hpads, -⟩ := encode_shape bytes
  rw [hencode, List.mem_append] at h
  rcases h with hdigit | hpad
  · obtain ⟨n, -, rfl⟩ := hbody c hdigit
    exact digit_lt n
  · rw [hpads c hpad]
    decide

/-! ### Decoding -/

/-- The bytes of three and of two digits in front of a pad. -/
def decodePadded (x y z : Char) : Option (List UInt8) := do
  let x ← value x
  let y ← value y
  if z = '=' then some [.ofNat (x * 4 + y / 16)]
  else
    let z ← value z
    some [.ofNat (x * 4 + y / 16), .ofNat (y % 16 * 16 + z / 4)]

/-- The bytes of four digits. -/
def decodeGroup (x y z w : Char) : Option (List UInt8) := do
  let x ← value x
  let y ← value y
  let z ← value z
  let w ← value w
  some [.ofNat (x * 4 + y / 16), .ofNat (y % 16 * 16 + z / 4), .ofNat (z % 4 * 64 + w)]

/-- A pad ends the text. -/
def decode : List Char → Option (List UInt8)
  | [] => some []
  | x :: y :: z :: w :: rest =>
    if w = '=' then
      if rest = [] then decodePadded x y z else none
    else
      match decodeGroup x y z w, decode rest with
      | some bytes, some others => some (bytes ++ others)
      | _, _ => none
  | _ => none

attribute [grind =] decode

theorem ofNat_eq {a : UInt8} {n : Nat} (h : n = a.toNat) : UInt8.ofNat n = a := by
  rw [h, UInt8.ofNat_toNat]

theorem decodeGroup_digits (a b c : UInt8) :
    decodeGroup (digit (first a)) (digit (second a b)) (digit (third b c)) (digit (fourth c)) =
      some [a, b, c] := by
  have ha := a.toNat_lt
  have hb := b.toNat_lt
  have hc := c.toNat_lt
  unfold decodeGroup
  rw [value_digit (first_lt a), value_digit (second_lt a b), value_digit (third_lt b c),
    value_digit (fourth_lt c)]
  simp only [Option.bind_eq_bind, Option.bind_some]
  rw [ofNat_eq (a := a), ofNat_eq (a := b), ofNat_eq (a := c)]
  · unfold third fourth
    omega
  · unfold second third
    omega
  · unfold first second
    omega

theorem decodePadded_two (a b : UInt8) :
    decodePadded (digit (first a)) (digit (second a b)) (digit (third b 0)) = some [a, b] := by
  have ha := a.toNat_lt
  have hb := b.toNat_lt
  unfold decodePadded
  rw [value_digit (first_lt a), value_digit (second_lt a b), value_digit (third_lt b 0)]
  simp only [Option.bind_eq_bind, Option.bind_some]
  rw [if_neg (digit_ne_pad (third_lt b 0)), ofNat_eq (a := a), ofNat_eq (a := b)]
  · unfold second third
    change (a.toNat % 4 * 16 + b.toNat / 16) % 16 * 16 + (b.toNat % 16 * 4 + 0 / 64) / 4 = _
    omega
  · unfold first second
    omega

theorem decodePadded_one (a : UInt8) :
    decodePadded (digit (first a)) (digit (second a 0)) '=' = some [a] := by
  have ha := a.toNat_lt
  unfold decodePadded
  rw [value_digit (first_lt a), value_digit (second_lt a 0)]
  simp only [Option.bind_eq_bind, Option.bind_some]
  rw [if_pos trivial, ofNat_eq (a := a)]
  unfold first second
  change a.toNat / 4 * 4 + (a.toNat % 4 * 16 + 0 / 16) / 16 = _
  omega

/-- What is encoded is decoded to the same bytes. -/
theorem decode_encode (bytes : List UInt8) : decode (encode bytes) = some bytes := by
  induction bytes using encode.induct with
  | case1 => rfl
  | case2 a => exact decodePadded_one a
  | case3 a b => exact decodePadded_two a b
  | case4 a b c rest ih =>
    rw [encode, decode, if_neg (digit_ne_pad (fourth_lt c)), decodeGroup_digits, ih]
    rfl

end Base64
