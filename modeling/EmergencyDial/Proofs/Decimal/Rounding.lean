import EmergencyDial.Decimal.Binary64
import Mathlib.Algebra.Order.Field.Power
import Mathlib.Algebra.Order.Ring.Rat
import Mathlib.Data.Rat.Cast.Defs
import Mathlib.Tactic.FieldSimp
import Mathlib.Tactic.Linarith
import Mathlib.Tactic.Positivity
import Mathlib.Tactic.Ring

/-! Rounding gives the number nearest to a quotient, and of two the one with an even significand. -/
namespace EmergencyDial.Decimal

variable {n d k : Nat} {e : Int}

/-- A quotient is rounded by what stands behind the point, and at one half so as to be even. -/
theorem divEven_cases (n : Nat) (hd : 0 < d) : ∃ t : ℚ, (n : ℚ) / d = (n / d : ℕ) + t ∧
    0 ≤ t ∧ t < 1 ∧
    (divEven n d = n / d ∧ (t < 1 / 2 ∨ t = 1 / 2 ∧ n / d % 2 = 0) ∨
      divEven n d = n / d + 1 ∧ (1 / 2 < t ∨ t = 1 / 2 ∧ n / d % 2 = 1)) := by
  have hd' : (0 : ℚ) < d := Nat.cast_pos.2 hd
  have hn : (n : ℚ) = d * (n / d : ℕ) + (n % d : ℕ) := by
    exact_mod_cast (Nat.div_add_mod n d).symm
  have hr : ((n % d : ℕ) : ℚ) < d := Nat.cast_lt.2 (Nat.mod_lt n hd)
  have hlt : 2 * (n % d) < d ↔ ((n % d : ℕ) : ℚ) / d < 1 / 2 := by
    rw [div_lt_div_iff₀ hd' two_pos, ← Nat.cast_lt (α := ℚ)]
    push_cast
    constructor <;> intro h <;> linarith
  have heq : 2 * (n % d) = d ↔ ((n % d : ℕ) : ℚ) / d = 1 / 2 := by
    rw [div_eq_div_iff hd'.ne' two_ne_zero, ← Nat.cast_inj (R := ℚ)]
    push_cast
    constructor <;> intro h <;> linarith
  refine ⟨(n % d : ℕ) / d, ?_, by positivity, (div_lt_one hd').2 hr, ?_⟩
  · rw [hn]
    field_simp
  · simp only [divEven, hlt, heq]
    split
    · next h => exact Or.inl ⟨rfl, h⟩
    · next h =>
      rw [not_or, not_lt, not_and] at h
      rcases h.1.lt_or_eq with ht | ht
      · exact Or.inr ⟨rfl, Or.inl ht⟩
      · exact Or.inr ⟨rfl, Or.inr ⟨ht.symm, Nat.mod_two_ne_zero.1 (h.2 ht.symm)⟩⟩

/-- The rounded quotient is off by a half at most, and if it is then it is even. -/
theorem divEven_half (n : Nat) (hd : 0 < d) : |(divEven n d : ℚ) - n / d| ≤ 1 / 2 ∧
    (|(divEven n d : ℚ) - n / d| = 1 / 2 → divEven n d % 2 = 0) := by
  obtain ⟨t, hq, h0, h1, ⟨hm, ht⟩ | ⟨hm, ht⟩⟩ := divEven_cases n hd
  · have ha : |(divEven n d : ℚ) - n / d| = t := by
      rw [hq, hm, sub_add_cancel_left, abs_neg, abs_of_nonneg h0]
    rw [ha, hm]
    rcases ht with ht | ⟨ht, he⟩
    · exact ⟨ht.le, fun h => absurd h ht.ne⟩
    · exact ⟨ht.le, fun _ => he⟩
  · have ha : |(divEven n d : ℚ) - n / d| = 1 - t := by
      rw [hq, hm, Nat.cast_succ, add_sub_add_left_eq_sub, abs_of_pos (sub_pos.2 h1)]
    rw [ha, hm]
    rcases ht with ht | ⟨ht, he⟩
    · exact ⟨by linarith, fun h => by linarith⟩
    · exact ⟨by linarith, fun _ => by omega⟩

/-- No natural number is nearer than one that is off by a half at most. -/
theorem nearest_of_half {m : Nat} {q : ℚ} (h : |(m : ℚ) - q| ≤ 1 / 2) (k : Nat) :
    |(m : ℚ) - q| ≤ |(k : ℚ) - q| ∧
      (|(m : ℚ) - q| = |(k : ℚ) - q| → k = m ∨ |(m : ℚ) - q| = 1 / 2) := by
  by_cases hk : k = m
  · subst hk
    exact ⟨le_rfl, fun _ => Or.inl rfl⟩
  · have hne : (m : ℤ) - k ≠ 0 := by omega
    have h1 : (1 : ℚ) ≤ |(m : ℚ) - k| := by exact_mod_cast Int.one_le_abs hne
    have ht := abs_sub_le (m : ℚ) q k
    rw [abs_sub_comm q] at ht
    exact ⟨by linarith, fun he => Or.inr (by linarith)⟩

namespace Binary64

def value (x : Binary64) : ℚ := x.significand * 2 ^ x.exponent

/-- The significand has 53 bits, and the exponent is within bounds. -/
structure Finite (x : Binary64) : Prop where
  significand_lt : x.significand < 2 ^ 53
  least : -1074 ≤ x.exponent
  most : x.exponent ≤ 971

/-- Only below the numbers with the least exponent are there significands of fewer bits. -/
structure Canonical (x : Binary64) : Prop extends x.Finite where
  full : -1074 < x.exponent → 2 ^ 52 ≤ x.significand

theorem scaled_pos (n : Nat) (hd : d ≠ 0) (e : Int) : 0 < (scaled n d e).2 := by
  simp [scaled, Nat.shiftLeft_eq, Nat.pos_of_ne_zero hd]

theorem scaled_div (n d : Nat) (e : Int) :
    ((scaled n d e).1 : ℚ) / (scaled n d e).2 = n / d / 2 ^ e := by
  obtain ⟨k, rfl | rfl⟩ := e.eq_nat_or_neg
  · simp [scaled, Nat.shiftLeft_eq, div_mul_eq_div_div]
  · simp [scaled, Nat.shiftLeft_eq, div_mul_eq_mul_div]

/-- A quotient lies between the powers of two that the leading bits allow. -/
theorem log2_bounds (hn : n ≠ 0) (hd : d ≠ 0) :
    (2 : ℚ) ^ ((n.log2 : ℤ) - (d.log2 + 1 : ℕ)) ≤ n / d ∧
      (n : ℚ) / d < 2 ^ ((n.log2 + 1 : ℕ) - (d.log2 : ℤ)) := by
  have hd' : (0 : ℚ) < d := Nat.cast_pos.2 (Nat.pos_of_ne_zero hd)
  have hn₁ : (2 : ℚ) ^ n.log2 ≤ n := by exact_mod_cast Nat.log2_self_le hn
  have hn₂ : (n : ℚ) < 2 ^ (n.log2 + 1) := by exact_mod_cast Nat.lt_log2_self
  have hd₁ : (2 : ℚ) ^ d.log2 ≤ d := by exact_mod_cast Nat.log2_self_le hd
  have hd₂ : (d : ℚ) < 2 ^ (d.log2 + 1) := by exact_mod_cast Nat.lt_log2_self
  constructor
  · rw [zpow_sub₀ two_ne_zero, zpow_natCast, zpow_natCast]
    exact div_le_div₀ (Nat.cast_nonneg n) hn₁ hd' hd₂.le
  · rw [zpow_sub₀ two_ne_zero, zpow_natCast, zpow_natCast]
    exact div_lt_div₀ hn₂ hd₁ (by positivity) (by positivity)

theorem pow_mul_zpow (k : Nat) (e : Int) : (2 : ℚ) ^ k * 2 ^ e = 2 ^ (k + e) := by
  rw [← zpow_natCast, ← zpow_add₀ two_ne_zero]

theorem shiftLeft_le_scaled (hd : d ≠ 0) : (scaled n d e).2 <<< k ≤ (scaled n d e).1 ↔
    (2 : ℚ) ^ k * 2 ^ e ≤ n / d := by
  have hs : (0 : ℚ) < (scaled n d e).2 := Nat.cast_pos.2 (scaled_pos n hd e)
  rw [← le_div_iff₀ (by positivity), ← scaled_div, le_div_iff₀ hs, ← Nat.cast_le (α := ℚ),
    Nat.shiftLeft_eq, mul_comm (2 ^ k)]
  push_cast
  rfl

/-- At the exponent of a quotient no more than 53 bits stand before the point, and no fewer unless
it is the least. -/
theorem exponentOf_bounds (hn : n ≠ 0) (hd : d ≠ 0) : -1074 ≤ exponentOf n d ∧
    (n : ℚ) / d < 2 ^ 53 * 2 ^ exponentOf n d ∧
    (-1074 < exponentOf n d → 2 ^ 52 * 2 ^ exponentOf n d ≤ (n : ℚ) / d) := by
  obtain ⟨hlow, hhigh⟩ := log2_bounds hn hd
  -- the exponent before it is raised to the least
  obtain ⟨e, he, hlt, hle⟩ : ∃ e, exponentOf n d = max (-1074) e ∧
      (n : ℚ) / d < 2 ^ 53 * 2 ^ e ∧ 2 ^ 52 * 2 ^ e ≤ (n : ℚ) / d := by
    refine ⟨_, rfl, ?_⟩
    simp only [shiftLeft_le_scaled hd, pow_mul_zpow]
    split
    · next h =>
      refine ⟨hhigh.trans_eq (congrArg _ ?_), (le_of_eq (congrArg _ ?_)).trans h⟩ <;>
        push_cast <;> omega
    · next h =>
      refine ⟨not_le.1 h, (le_of_eq (congrArg _ ?_)).trans hlow⟩
      push_cast
      omega
  rw [he]
  refine ⟨le_max_left _ _, hlt.trans_le ?_, fun h => ?_⟩
  · exact mul_le_mul_of_nonneg_left (zpow_le_zpow_right₀ one_le_two (le_max_right _ _))
      (by positivity)
  · rwa [max_eq_right (by omega : -1074 ≤ e)]

/-- A finite number is a multiple of a power of two, or too small for 53 bits at it. -/
theorem grid {y : Binary64} (hy : y.Finite) (e : Int) : (∃ k : Nat, y.value = k * 2 ^ e) ∨
    (-1074 < e ∧ y.value < 2 ^ 52 * 2 ^ e) := by
  have hs : (y.significand : ℚ) < 2 ^ 53 := by exact_mod_cast hy.significand_lt
  by_cases he : e ≤ y.exponent
  · refine Or.inl ⟨y.significand * 2 ^ (y.exponent - e).toNat, ?_⟩
    have hx : y.exponent = (y.exponent - e).toNat + e := by omega
    rw [value, Nat.cast_mul, Nat.cast_pow, Nat.cast_two, mul_assoc, ← zpow_natCast,
      ← zpow_add₀ two_ne_zero, ← hx]
  · refine Or.inr ⟨hy.least.trans_lt (not_le.1 he), ?_⟩
    calc y.value < 2 ^ 53 * 2 ^ y.exponent := mul_lt_mul_of_pos_right hs (by positivity)
      _ ≤ 2 ^ 53 * 2 ^ (e - 1) :=
        mul_le_mul_of_nonneg_left (zpow_le_zpow_right₀ one_le_two (by omega)) (by positivity)
      _ = 2 ^ 52 * 2 ^ e := by
        rw [zpow_sub_one₀ two_ne_zero]
        ring

theorem abs_mul_zpow_sub (q c : ℚ) (e : Int) : |c * 2 ^ e - q| = |c - q / 2 ^ e| * 2 ^ e := by
  have h : (0 : ℚ) < 2 ^ e := by positivity
  rw [← abs_of_pos h, ← abs_mul, abs_of_pos h, sub_mul, div_mul_cancel₀ q h.ne']

/-- A quotient rounded to a multiple of a power of two, at which it has 53 bits or which is the
least. -/
structure RoundedAt (q : ℚ) (m : Nat) (e : Int) : Prop where
  least : -1074 ≤ e
  lt : q < 2 ^ 53 * 2 ^ e
  full : -1074 < e → 2 ^ 52 * 2 ^ e ≤ q
  half : |(m : ℚ) - q / 2 ^ e| ≤ 1 / 2
  even : |(m : ℚ) - q / 2 ^ e| = 1 / 2 → m % 2 = 0

/-- The number of a rounded quotient, which may have come to a 54th bit. -/
def carried (m : Nat) (e : Int) : Binary64 :=
  if m = 2 * leastFull then ⟨leastFull, e + 1⟩ else ⟨m, e⟩

theorem exists_roundedAt (hn : n ≠ 0) (hd : d ≠ 0) : ∃ m e, RoundedAt ((n : ℚ) / d) m e ∧
    round n d = if (carried m e).exponent ≤ 971 then some (carried m e) else none := by
  obtain ⟨hl, hlt, hf⟩ := exponentOf_bounds hn hd
  obtain ⟨hh, he⟩ := divEven_half (scaled n d (exponentOf n d)).1 (scaled_pos n hd _)
  rw [scaled_div] at hh he
  exact ⟨_, _, ⟨hl, hlt, hf, hh, he⟩, if_neg hn⟩

theorem cast_leastFull : (leastFull : ℚ) = 2 ^ 52 := by norm_num [leastFull]

theorem carried_exponent (m : Nat) (e : Int) :
    (carried m e).exponent = if m = 2 * leastFull then e + 1 else e := by
  unfold carried
  split <;> rfl

theorem carried_value (m : Nat) (e : Int) : (carried m e).value = m * 2 ^ e := by
  unfold carried
  split
  · next h =>
    rw [h, value, zpow_add_one₀ two_ne_zero, Nat.cast_mul, Nat.cast_two]
    ring
  · rfl

namespace RoundedAt

variable {q : ℚ} {m : Nat}

theorem quotient_lt (h : RoundedAt q m e) : q / 2 ^ e < 2 ^ 53 :=
  (div_lt_iff₀ (by positivity)).2 h.lt

theorem le_quotient (h : RoundedAt q m e) (he : -1074 < e) : 2 ^ 52 ≤ q / 2 ^ e :=
  (le_div_iff₀ (by positivity)).2 (h.full he)

theorem significand_le (h : RoundedAt q m e) : m ≤ 2 * leastFull := by
  have hr := (abs_le.1 h.half).2
  have hm : (m : ℚ) < (2 * leastFull + 1 : ℕ) := by
    push_cast [cast_leastFull]
    linarith [h.quotient_lt]
  exact Nat.lt_succ_iff.1 (Nat.cast_lt.1 hm)

theorem le_significand (h : RoundedAt q m e) (he : -1074 < e) : leastFull ≤ m := by
  have hr := (abs_le.1 h.half).1
  have hm : (leastFull : ℚ) < (m + 1 : ℕ) := by
    push_cast [cast_leastFull]
    linarith [h.le_quotient he]
  exact Nat.lt_succ_iff.1 (Nat.cast_lt.1 hm)

theorem canonical (h : RoundedAt q m e) (hx : (carried m e).exponent ≤ 971) :
    (carried m e).Canonical := by
  have hm := h.significand_le
  unfold carried at hx ⊢
  by_cases he : m = 2 * leastFull
  · rw [if_pos he] at hx ⊢
    exact ⟨⟨(by decide : leastFull < 2 ^ 53), h.least.trans (Int.le_add_one le_rfl), hx⟩,
      fun _ => (by decide : 2 ^ 52 ≤ leastFull)⟩
  · rw [if_neg he] at hx ⊢
    exact ⟨⟨lt_of_le_of_ne hm he, h.least, hx⟩, h.le_significand⟩

theorem even_carried (hm : m % 2 = 0) (e : Int) : (carried m e).significand % 2 = 0 := by
  unfold carried
  split
  · exact (by decide : leastFull % 2 = 0)
  · exact hm

theorem carried_nearest (h : RoundedAt q m e) {y : Binary64} (hy : y.Finite) :
    |(carried m e).value - q| ≤ |y.value - q| ∧
      (|(carried m e).value - q| = |y.value - q| →
        y.value = (carried m e).value ∨ (carried m e).significand % 2 = 0) := by
  have hp : (0 : ℚ) < 2 ^ e := by positivity
  rw [carried_value]
  rcases grid hy e with ⟨k, hk⟩ | ⟨he, hlt⟩
  · obtain ⟨hle, heq⟩ := nearest_of_half h.half k
    rw [hk, abs_mul_zpow_sub, abs_mul_zpow_sub]
    refine ⟨mul_le_mul_of_nonneg_right hle hp.le, fun ha => ?_⟩
    rcases heq (mul_right_cancel₀ hp.ne' ha) with rfl | hh
    · exact Or.inl rfl
    · exact Or.inr (even_carried (h.even hh) e)
  · -- the least number with 53 bits lies between the two
    have hq := h.full he
    have hle : |(m : ℚ) * 2 ^ e - q| ≤ |2 ^ 52 * 2 ^ e - q| := by
      rw [abs_mul_zpow_sub, abs_mul_zpow_sub]
      have := (nearest_of_half h.half (2 ^ 52)).1
      push_cast at this
      exact mul_le_mul_of_nonneg_right this hp.le
    have hlt' : |2 ^ 52 * 2 ^ e - q| < |y.value - q| := by
      rw [abs_sub_comm, abs_sub_comm y.value, abs_of_nonneg (sub_nonneg.2 hq),
        abs_of_nonneg (sub_nonneg.2 (hlt.le.trans hq))]
      exact sub_lt_sub_left hlt q
    have := hle.trans_lt hlt'
    exact ⟨this.le, fun ha => absurd ha this.ne⟩

/-- A 54th bit comes from halfway on, as the significand before it is odd. -/
theorem significand_eq_iff (h : RoundedAt q m e) :
    m = 2 * leastFull ↔ 2 ^ 53 - 1 / 2 ≤ q / 2 ^ e := by
  have hl : ((2 * leastFull : ℕ) : ℚ) = 2 ^ 53 := by
    push_cast [cast_leastFull]
    ring
  have hh := abs_le.1 h.half
  constructor
  · rintro rfl
    rw [hl] at hh
    linarith
  · intro hq
    by_contra hne
    have hm : m + 1 ≤ 2 * leastFull := lt_of_le_of_ne h.significand_le hne
    have hm' : (m : ℚ) + 1 ≤ 2 ^ 53 := by
      rw [← hl]
      exact_mod_cast hm
    have ha : |(m : ℚ) - q / 2 ^ e| = 1 / 2 := by
      rw [abs_of_nonpos (by linarith)]
      linarith
    have hpred : (m : ℚ) = (2 * leastFull - 1 : ℕ) := by
      rw [Nat.cast_sub (by decide), hl, Nat.cast_one]
      linarith
    have := h.even ha
    rw [Nat.cast_inj.1 hpred] at this
    exact absurd this (by decide)

/-- Numbers end where a quotient is halfway from the largest to the power of two after it. -/
theorem overflow_iff (h : RoundedAt q m e) :
    971 < (carried m e).exponent ↔ (2 ^ 54 - 1) * 2 ^ (970 : ℤ) ≤ q := by
  have hp : (0 : ℚ) < 2 ^ (970 : ℤ) := by positivity
  -- only at the largest exponent does it matter whether a bit is carried
  rcases lt_trichotomy e 971 with he | rfl | he
  · have hle : (2 : ℚ) ^ e ≤ 2 ^ (970 : ℤ) := zpow_le_zpow_right₀ one_le_two (by omega)
    have hq := h.lt
    refine iff_of_false ?_ ?_
    · rw [carried_exponent]
      split <;> omega
    · generalize (2 : ℚ) ^ (970 : ℤ) = p at *
      linarith
  · have hm := h.significand_eq_iff
    rw [le_div_iff₀ (by positivity), show (971 : ℤ) = 970 + 1 from rfl,
      zpow_add_one₀ two_ne_zero] at hm
    have hc : 971 < (carried m 971).exponent ↔ m = 2 * leastFull := by
      rw [carried_exponent]
      by_cases hm : m = 2 * leastFull <;> simp [hm]
    rw [hc, hm]
    generalize (2 : ℚ) ^ (970 : ℤ) = p
    constructor <;> intro <;> linarith
  · have hle : (2 : ℚ) ^ (970 : ℤ) * 2 * 2 ≤ 2 ^ e := by
      rw [← zpow_add_one₀ two_ne_zero, ← zpow_add_one₀ two_ne_zero]
      exact zpow_le_zpow_right₀ one_le_two (by omega)
    have hq := h.full (by omega)
    refine iff_of_true ?_ ?_
    · rw [carried_exponent]
      split <;> omega
    · generalize (2 : ℚ) ^ (970 : ℤ) = p at *
      linarith

end RoundedAt

/-- No finite number is nearer to a quotient than this one, whose significand is even if there is
another as near. -/
structure Nearest (q : ℚ) (x : Binary64) : Prop extends x.Canonical where
  le : ∀ y : Binary64, y.Finite → |x.value - q| ≤ |y.value - q|
  even : ∀ y : Binary64, y.Finite → |x.value - q| = |y.value - q| →
    y.value = x.value ∨ x.significand % 2 = 0

/-- There is a number up to halfway from the largest to the power of two after it. -/
structure Rounds (q : ℚ) (o : Option Binary64) : Prop where
  nearest : ∀ x, o = some x → Nearest q x
  none_iff : o = none ↔ (2 ^ 54 - 1) * 2 ^ (970 : ℤ) ≤ q

theorem zero_nearest : Nearest 0 zero where
  significand_lt := by decide
  least := by decide
  most := by decide
  full := by decide
  le y _ := by
    simp only [value, zero, Nat.cast_zero, zero_mul, sub_zero, abs_zero]
    positivity
  even _ _ _ := Or.inr rfl

theorem round_rounds (n : Nat) (hd : d ≠ 0) : Rounds (n / d) (round n d) := by
  rcases eq_or_ne n 0 with rfl | hn
  · rw [Nat.cast_zero, zero_div]
    refine ⟨fun x hx => Option.some.inj hx ▸ zero_nearest, iff_of_false nofun (not_le.2 ?_)⟩
    positivity
  · obtain ⟨m, e, h, hr⟩ := exists_roundedAt hn hd
    rw [hr]
    split
    · next hx =>
      refine ⟨fun x hs => ?_, iff_of_false nofun fun hq => hx.not_gt (h.overflow_iff.2 hq)⟩
      obtain rfl := Option.some.inj hs
      exact ⟨h.canonical hx, fun y hy => (h.carried_nearest hy).1,
        fun y hy => (h.carried_nearest hy).2⟩
    · next hx => exact ⟨nofun, iff_of_true rfl (h.overflow_iff.1 (not_le.1 hx))⟩

example : round 1 10 = some ⟨0x1999999999999a, -56⟩ := by decide +kernel
example : round (1 <<< 1024 - 1 <<< 970) 1 = none := by decide +kernel

theorem denominator_ne_zero (x : Binary64) : x.denominator ≠ 0 := by
  simp [denominator, Nat.shiftLeft_eq]

theorem value_eq_div (x : Binary64) : x.value = x.numerator / x.denominator := by
  obtain ⟨k, hk | hk⟩ := x.exponent.eq_nat_or_neg
  · simp [value, numerator, denominator, Nat.shiftLeft_eq, hk]
  · simp [value, numerator, denominator, Nat.shiftLeft_eq, hk, div_eq_mul_inv]

theorem mul_rounds (x y : Binary64) : Rounds (x.value * y.value) (mul? x y) := by
  rw [value_eq_div, value_eq_div, div_mul_div_comm, ← Nat.cast_mul, ← Nat.cast_mul]
  exact round_rounds _ (Nat.mul_ne_zero x.denominator_ne_zero y.denominator_ne_zero)

theorem div_rounds (x : Binary64) {y : Binary64} (hy : y.isZero = false) :
    Rounds (x.value / y.value) (div? x y) := by
  have hn : y.numerator ≠ 0 := by simpa [isZero, numerator, Nat.shiftLeft_eq] using hy
  rw [value_eq_div, value_eq_div, div_div_div_eq, ← Nat.cast_mul, ← Nat.cast_mul]
  exact round_rounds _ (Nat.mul_ne_zero x.denominator_ne_zero hn)

end Binary64
end EmergencyDial.Decimal
