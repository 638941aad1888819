import EmergencyDial.Decimal.Shortest

/-! Numerals of JSON as they are spelled, and the numbers they stand for. -/
namespace EmergencyDial.Json
open Decimal

structure Exponent where
  negative : Bool
  digits : List Char
deriving DecidableEq, Repr

/-- The digits of each part, in order. -/
structure Numeral where
  negative : Bool
  whole : List Char
  fraction : Option (List Char)
  exponent : Option Exponent
deriving DecidableEq, Repr

inductive Number
  | integer (n : Int)
  | float (negative : Bool) (magnitude : Binary64)
deriving DecidableEq, Repr

def natOfDigits (cs : List Char) : Nat := Nat.ofDigitChars 10 cs 0

def Exponent.value (e : Exponent) : Int :=
  if e.negative then -(natOfDigits e.digits : Int) else natOfDigits e.digits

def Exponent.text (e : Exponent) : List Char :=
  'e' :: (if e.negative then '-' :: e.digits else e.digits)

/-- Takes digits into `n` as long as it stays below `2 ^ 64`, and leaves the others. -/
def absorb (n : Nat) : List Char → Nat × List Char
  | [] => (n, [])
  | c :: cs =>
    let m := 10 * n + (c.toNat - 48)
    if m < UInt64.size then absorb m cs else (n, c :: cs)

/-- Ten to the power of `e`, up to 308. -/
def powerOfTen (e : Nat) : Option Binary64 := Binary64.ofNat? (Nat.pow 10 e)

/-- `n * 10 ^ e` by one multiplication or division. A quotient past the largest power of ten takes
two steps, and three would leave nothing of a number below `2 ^ 64`. -/
def scaleByTen (n : Nat) (e : Int) : Option Binary64 := do
  if n = 0 then return .zero
  let x ← Binary64.ofNat? n
  if 0 ≤ e then
    if e ≤ 308 then x.mul? (← powerOfTen e.toNat) else none
  else if -308 ≤ e then x.div? (← powerOfTen e.natAbs)
  else if -616 ≤ e then
    (← x.div? (← powerOfTen 308)).div? (← powerOfTen (e.natAbs - 308))
  else return .zero

namespace Numeral

/-- In the ordinary decimal spelling. -/
def ofInt (k : Int) : Numeral := ⟨k < 0, Nat.toDigits 10 k.natAbs, none, none⟩

def ofNat (n : Nat) : Numeral := ofInt n

/-- The text without a sign. -/
def unsigned (n : Numeral) : List Char :=
  n.whole ++ n.fraction.elim [] ('.' :: ·) ++ n.exponent.elim [] Exponent.text

def text (n : Numeral) : List Char := if n.negative then '-' :: n.unsigned else n.unsigned

/-- The number of a numeral without fraction and exponent. -/
def integer? (n : Numeral) : Option Int :=
  match n.fraction, n.exponent with
  | none, none =>
    some (if n.negative then -(natOfDigits n.whole : Int) else natOfDigits n.whole)
  | _, _ => none

/-- The leading digits that stay below `2 ^ 64`, scaled by the power of ten that the digits left out,
the fraction and the exponent come to. Nothing when the number is out of range. -/
def float? (n : Numeral) : Option Binary64 :=
  let ds := n.fraction.getD []
  let (a, left) := absorb 0 n.whole
  let (b, rest) := absorb a ds
  scaleByTen b (left.length - (ds.length - rest.length : Nat) + n.exponent.elim 0 Exponent.value)

/-- Integers are those of 64 bits, with or without sign; other numbers and a negative zero are
floating. -/
def value? (n : Numeral) : Option Number :=
  match n.integer? with
  | some k =>
    if -0x8000000000000000 ≤ k ∧ k < 0x10000000000000000 ∧ (n.negative = true → k ≠ 0) then some (.integer k)
    else n.float?.map (.float n.negative)
  | none => n.float?.map (.float n.negative)

@[simp] theorem natOfDigits_toDigits (n : Nat) : natOfDigits (Nat.toDigits 10 n) = n :=
  Nat.ofDigitChars_toDigits (by decide) (by decide)

@[simp] theorem integer?_ofInt (k : Int) : (ofInt k).integer? = some k := by
  simp only [integer?, ofInt, natOfDigits_toDigits, decide_eq_true_eq, Option.some.injEq]
  split <;> omega

/-- The ordinary spelling of an integer of 64 bits stands for that integer. -/
theorem value?_ofInt {k : Int} (h : -0x8000000000000000 ≤ k ∧ k < 0x10000000000000000) :
    (ofInt k).value? = some (.integer k) := by
  have hz : (ofInt k).negative = true → k ≠ 0 := by
    simp only [ofInt, decide_eq_true_eq]
    omega
  simp only [value?, integer?_ofInt]
  rw [if_pos ⟨h.1, h.2, hz⟩]

end Numeral
end EmergencyDial.Json
