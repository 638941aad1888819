/-! Finite binary64 numbers without a sign, as `significand * 2 ^ exponent`. Arithmetic takes the
exact result and rounds it once, to nearest and ties to even. -/
namespace EmergencyDial.Decimal

/-- A quotient rounded to the nearest natural number, a half to the even one. -/
def divEven (n d : Nat) : Nat :=
  if 2 * (n % d) < d ∨ (2 * (n % d) = d ∧ n / d % 2 = 0) then n / d else n / d + 1

structure Binary64 where
  significand : Nat
  exponent : Int
deriving DecidableEq, Repr

namespace Binary64

def zero : Binary64 := ⟨0, -1074⟩

def isZero (x : Binary64) : Bool := x.significand == 0

/-- The least significand of 53 bits. -/
def leastFull : Nat := 0x10000000000000

/-- The value is `x.numerator / x.denominator`. -/
def numerator (x : Binary64) : Nat := x.significand <<< x.exponent.toNat

def denominator (x : Binary64) : Nat := 1 <<< (-x.exponent).toNat

/-- Numerator and denominator of `n / d` divided by `2 ^ e`. -/
def scaled (n d : Nat) (e : Int) : Nat × Nat := (n <<< (-e).toNat, d <<< e.toNat)

/-- The exponent at which `n / d` has 53 significant bits, or the least there is. -/
def exponentOf (n d : Nat) : Int :=
  let e : Int := (n.log2 : Int) - d.log2 - 53
  let s := scaled n d e
  max (-1074) (if s.2 <<< 53 ≤ s.1 then e + 1 else e)

/-- The number nearest to `n / d`; nothing when it is too large for any. -/
def round (n d : Nat) : Option Binary64 :=
  if n = 0 then some zero else
  let e := exponentOf n d
  let m := divEven (scaled n d e).1 (scaled n d e).2
  let x : Binary64 := if m = 2 * leastFull then ⟨leastFull, e + 1⟩ else ⟨m, e⟩
  if x.exponent ≤ 971 then some x else none

def ofNat? (n : Nat) : Option Binary64 := round n 1

def mul? (x y : Binary64) : Option Binary64 :=
  round (x.numerator * y.numerator) (x.denominator * y.denominator)

/-- By a number other than zero. -/
def div? (x y : Binary64) : Option Binary64 :=
  round (x.numerator * y.denominator) (x.denominator * y.numerator)

end Binary64
end EmergencyDial.Decimal
