import EmergencyDial.Decimal.Binary64

/-! The shortest decimal that reads back as a given binary64 number, and the way it is written. -/
namespace EmergencyDial.Decimal

/-- The number `digits * 10 ^ scale`. -/
structure Scaled where
  digits : Nat
  scale : Int
deriving DecidableEq, Repr

/-- Without a zero at the end, where there is one. -/
def Scaled.trimmed (d : Scaled) : Scaled :=
  if d.digits % 10 = 0 then ⟨d.digits / 10, d.scale + 1⟩ else d

/-- Count of decimal digits; zero has one. -/
def width (n : Nat) : Nat := (Nat.toDigits 10 n).length

namespace Binary64

/-- The reals that round to `x`, in quarters of its last place: the bounds, and whether they
belong to it. Below a power of two the next number stands half as far. -/
structure Basin where
  lower : Nat
  upper : Nat
  closed : Bool

def basin (x : Binary64) : Basin where
  lower := if x.significand = leastFull ∧ -1074 < x.exponent then 4 * x.significand - 1
    else 4 * x.significand - 2
  upper := 4 * x.significand + 2
  closed := x.significand % 2 = 0

/-- Compares `d` with `n` quarters of the last place of `x`. -/
def compareQuarters (x : Binary64) (d : Scaled) (n : Nat) : Ordering :=
  compare ((d.digits * Nat.pow 10 d.scale.toNat) <<< (2 - x.exponent).toNat)
    ((n * Nat.pow 10 (-d.scale).toNat) <<< (x.exponent - 2).toNat)

/-- Whether `d` rounds to `x`. -/
def readsBack (x : Binary64) (d : Scaled) : Bool :=
  let b := x.basin
  match x.compareQuarters d b.lower, x.compareQuarters d b.upper with
  | .gt, .lt => true
  | .eq, _ | _, .eq => b.closed
  | _, _ => false

/-- The exponent of the leading decimal digit of `x`, other than zero. -/
def leadingExponent (x : Binary64) : Int :=
  if x.denominator ≤ x.numerator then (width (x.numerator / x.denominator) : Int) - 1
  else -(width ((x.denominator - 1) / x.numerator) : Int)

/-- `x / 10 ^ scale` cut down to a natural number, and whether the rest is less than a half, a half
or more. -/
def onGrid (x : Binary64) (scale : Int) : Nat × Ordering :=
  let n := x.numerator * Nat.pow 10 (-scale).toNat
  let d := x.denominator * Nat.pow 10 scale.toNat
  (n / d, compare (2 * (n % d)) d)

/-- The neighbour of `x` with `n` digits that reads back, the nearer of two. -/
def withDigits? (x : Binary64) (n : Nat) : Option Scaled :=
  let scale := x.leadingExponent + 1 - n
  let (k, rest) := x.onGrid scale
  let below := readsBack x ⟨k, scale⟩
  let above := readsBack x ⟨k + 1, scale⟩
  match below, above with
  | false, false => none
  | true, false => some ⟨k, scale⟩
  | false, true => some ⟨k + 1, scale⟩
  | true, true =>
    if rest = .lt ∨ (rest = .eq ∧ k % 2 = 0) then some ⟨k, scale⟩ else some ⟨k + 1, scale⟩

/-- Seventeen digits always suffice. A zero at the end comes of one digit rounded up to ten. -/
def shortest (x : Binary64) : Scaled :=
  (((List.range' 1 17).findSome? x.withDigits?).getD ⟨0, 0⟩).trimmed

end Binary64

/-- How decimals are written: the leading exponents from which and below which digits are written
by position. -/
structure Style where
  positionalFrom : Int
  positionalBelow : Int

/-- By position between `0.00001` and ten quadrillions, with `.0` for a whole number; beyond that
with an exponent that has a sign and no zeros in front. -/
def messageStyle : Style := ⟨-5, 16⟩

def zeros (n : Nat) : List Char := List.replicate n '0'

def Style.write (st : Style) (ds : List Char) (lead : Int) : List Char :=
  if lead < st.positionalFrom ∨ st.positionalBelow ≤ lead then
    let mantissa := if ds.length = 1 then ds else ds.take 1 ++ '.' :: ds.drop 1
    mantissa ++ 'e' :: (if lead < 0 then '-' else '+') :: Nat.toDigits 10 lead.natAbs
  else if lead < 0 then '0' :: '.' :: zeros (lead.natAbs - 1) ++ ds
  else
    let point := lead.toNat + 1
    if ds.length ≤ point then ds ++ zeros (point - ds.length) ++ ['.', '0']
    else ds.take point ++ '.' :: ds.drop point

def Binary64.text (x : Binary64) : List Char :=
  if x.isZero then ['0', '.', '0'] else
  let d := x.shortest
  let ds := Nat.toDigits 10 d.digits
  messageStyle.write ds (d.scale + ds.length - 1)

end EmergencyDial.Decimal
