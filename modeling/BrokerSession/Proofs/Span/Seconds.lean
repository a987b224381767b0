import Mathlib
import BrokerSession.Span
import BrokerSession.Proofs.Binary64.Rounding

/-!
# Spans in seconds

A span is scaled through seconds (`Span.scale`): its length becomes a double, is multiplied by
the factor, and the product is turned back into nanoseconds. What each step does, on spans
below `2^64` seconds and nonnegative factors:

* `toSeconds_near`: the length in seconds is a double within a relative `2^-51` of the exact
  length (three roundings: the whole seconds, the fraction, their sum);
* `ofSeconds_eq`: a nonnegative double becomes a span exactly when it is below `2^64`, and
  `abs_ofSeconds_sub_le`: its nanoseconds are then rounded within half a nanosecond;
* `scale_eq_error_iff`: so scaling halts exactly when the factor times the length in seconds,
  as doubles, reaches `2^64 - 2^10`, the point from which the product rounds to `2^64`;
  `scale_eq_ok`: below it, scaling gives the rounded product.
-/

namespace BrokerSession

namespace Span

open Binary64

theorem limit_eq : limit = 18446744073709551616000000000 := rfl

theorem nanosPerSec_cast : (nanosPerSec : ℚ) = 1000000000 := by norm_num [nanosPerSec]

/-- A fraction of a second in nanoseconds, divided by a second, rounds to a nonnegative double
near it. -/
theorem near_fraction {r : Nat} (hr : r < nanosPerSec) :
    Near (div (ofNat r) (ofNat nanosPerSec)) (r / nanosPerSec) := by
  have hN : (0 : ℚ) < nanosPerSec := by rw [nanosPerSec_cast]; norm_num
  refine near_div (encodes_ofNat (lt_trans hr (by decide))) (encodes_ofNat (by decide)) hN ?_
  rcases Nat.eq_zero_or_pos r with rfl | hpos
  · left; simp
  · right
    have h1 : (1 : ℚ) ≤ r := by exact_mod_cast hpos
    have h2 : (r : ℚ) < nanosPerSec := by exact_mod_cast hr
    refine .of_bounds (a := -30) (b := 1) (by norm_num) (by norm_num) ?_ ?_
    · rw [le_div_iff₀ hN, nanosPerSec_cast]; norm_num; linarith
    · rw [div_lt_iff₀ hN]; norm_num; linarith

/-- The length of a span below `2^64` seconds, as a double, is finite, nonnegative and within a
relative `2^-51` of the exact length: the whole seconds and the fraction are rounded once
each, and their sum once more. -/
theorem toSeconds_near (d : Span) (hd : d.nanos < limit) :
    Encodes d.toSeconds false d.toSeconds.mag ∧
      |d.toSeconds.mag - d.nanos / nanosPerSec| ≤ d.nanos / nanosPerSec / 2 ^ 51 := by
  have hN : (0 : ℚ) < nanosPerSec := by rw [nanosPerSec_cast]; norm_num
  have hsplit : (d.nanos : ℚ) / nanosPerSec =
      (d.nanos / nanosPerSec : ℕ) + (d.nanos % nanosPerSec : ℕ) / nanosPerSec := by
    conv_lhs => rw [← Nat.div_add_mod d.nanos nanosPerSec]
    push_cast
    rw [add_div, mul_div_cancel_left₀ _ hN.ne']
  have hs : d.nanos / nanosPerSec < Nat.pow 2 64 := by
    rw [limit_eq] at hd; rw [show nanosPerSec = 1000000000 from rfl, Nat.pow_eq]; omega
  have hr : d.nanos % nanosPerSec < nanosPerSec := Nat.mod_lt _ (by decide)
  unfold toSeconds
  rw [hsplit]
  generalize d.nanos / nanosPerSec = s at hs ⊢
  generalize d.nanos % nanosPerSec = r at hr ⊢
  have hA := near_ofNat hs
  have hB := near_fraction hr
  have hA' := abs_le.mp hA.abs_sub_le
  have hB' := abs_le.mp hB.abs_sub_le
  have hs0 : (0 : ℚ) ≤ s := Nat.cast_nonneg s
  have hrN : (0 : ℚ) ≤ r / nanosPerSec := div_nonneg (Nat.cast_nonneg r) hN.le
  have hT : Near (Binary64.add (ofNat s) (div (ofNat r) (ofNat nanosPerSec)))
      ((ofNat s).mag + (div (ofNat r) (ofNat nanosPerSec)).mag) := by
    refine near_add hA.encodes hB.encodes ?_
    by_cases h0 : s = 0 ∧ r = 0
    · left
      obtain ⟨rfl, rfl⟩ := h0
      simp at hA' hB'
      linarith [hA'.1, hA'.2, hB'.1, hB'.2]
    · right
      -- a nanosecond at least, and below `2^64 + 1` seconds
      have hlow : (1 : ℚ) / 1000000000 ≤ s + r / nanosPerSec := by
        rcases Nat.eq_zero_or_pos s with hs' | hs'
        · have : (1 : ℚ) ≤ r := by exact_mod_cast (show 0 < r by omega)
          rw [hs', nanosPerSec_cast]; push_cast; linarith
        · have : (1 : ℚ) ≤ s := by exact_mod_cast hs'
          linarith
      have hsq : (s : ℚ) < 2 ^ 64 := by rw [Nat.pow_eq] at hs; exact_mod_cast hs
      have hr1 : (r : ℚ) / nanosPerSec < 1 := by rw [div_lt_one hN]; exact_mod_cast hr
      refine .of_bounds (a := -31) (b := 66) (by norm_num) (by norm_num) ?_ ?_
      · norm_num
        linarith
      · norm_num
        linarith
  refine ⟨hT.encodes, ?_⟩
  have hT' := abs_le.mp hT.abs_sub_le
  rw [abs_le]
  constructor <;> linarith [hA'.1, hA'.2, hB'.1, hB'.2, hT'.1, hT'.2]

/-- The length in seconds is zero, for the empty span, or between `2^-31` and `2^65`. -/
theorem toSeconds_range (d : Span) (hd : d.nanos < limit) :
    d.toSeconds.mag = 0 ∨ ((2 : ℚ) ^ (-31 : Int) ≤ d.toSeconds.mag ∧ d.toSeconds.mag < 2 ^ (65 : Int)) := by
  have h := abs_le.mp (toSeconds_near d hd).2
  have hN : (d.nanos : ℚ) < 2 ^ 64 * nanosPerSec := by
    rw [limit_eq] at hd; rw [nanosPerSec_cast]; norm_num; exact_mod_cast hd
  rcases Nat.eq_zero_or_pos d.nanos with h0 | hpos
  · left
    rw [h0] at h
    simp at h
    linarith [h.1, h.2]
  · right
    have : (1 : ℚ) ≤ d.nanos := by exact_mod_cast hpos
    rw [nanosPerSec_cast] at h hN
    constructor
    · norm_num; linarith [h.1]
    · norm_num; linarith [h.2]

/-- A nonnegative double becomes a span exactly when it is below `2^64`. -/
theorem ofSeconds_eq {x : Binary64} {v : ℚ} (h : Encodes x false v) :
    ofSeconds x = if 2 ^ 64 ≤ v then .error .secondsOutOfRange
      else .ok ⟨scaledRound (x.significand * nanosPerSec) 1 x.exponent⟩ := by
  have hcut : scaledAtLeast x.significand 1 x.exponent 64 = true ↔ 2 ^ 64 ≤ v := by
    rw [scaledAtLeast_iff, ← h.mag_eq]; unfold mag; simp
  unfold ofSeconds
  rw [h.isNaN_eq, h.signBit_eq, h.isInfinite_eq]
  by_cases hv : 2 ^ 64 ≤ v <;> simp [hv, hcut]

/-- The span of a nonnegative double below `2^64` is its nanoseconds, rounded. -/
theorem abs_ofSeconds_sub_le {x : Binary64} {v : ℚ} (h : Encodes x false v) :
    |(scaledRound (x.significand * nanosPerSec) 1 x.exponent : ℚ) - v * nanosPerSec| ≤ 1 / 2 := by
  have := abs_scaledRound_sub_le (n := x.significand * nanosPerSec) x.exponent Nat.one_pos
  rw [← h.mag_eq]
  unfold mag
  push_cast at this
  convert this using 2
  ring

section Scale

variable {d : Span} {f : Binary64} {φ : ℚ} (hd : d.nanos < limit) (hf : Encodes f false φ)
  (hφ : φ = 0 ∨ ((2 : ℚ) ^ (-52 : Int) ≤ φ ∧ φ < 2 ^ (53 : Int)))
include hd hf hφ

omit hf in
/-- A factor that is zero or between `2^-52` and `2^53` keeps the product with a span's seconds
zero or in the normal range. -/
theorem inRange_mul_toSeconds : φ * d.toSeconds.mag = 0 ∨ InRange (φ * d.toSeconds.mag) := by
  rcases toSeconds_range d hd with ht | ⟨ht₀, ht₁⟩
  · left; rw [ht, mul_zero]
  · rcases hφ with hφ | ⟨hφ₀, hφ₁⟩
    · left; rw [hφ, zero_mul]
    · right
      have hφ0 : 0 ≤ φ := le_trans (by positivity) hφ₀
      refine .of_bounds (a := -83) (b := 118) (by norm_num) (by norm_num) ?_ ?_
      · calc (2 : ℚ) ^ (-83 : Int) = 2 ^ (-52 : Int) * 2 ^ (-31 : Int) := by
              rw [← zpow_add₀ two_ne_zero]; norm_num
          _ ≤ φ * d.toSeconds.mag := mul_le_mul hφ₀ ht₀ (by positivity) hφ0
      · calc φ * d.toSeconds.mag < 2 ^ (53 : Int) * 2 ^ (65 : Int) :=
              mul_lt_mul'' hφ₁ ht₁ hφ0 (mag_nonneg _)
          _ = 2 ^ (118 : Int) := by rw [← zpow_add₀ two_ne_zero]; norm_num

theorem near_mul_toSeconds : Near (mul f d.toSeconds) (φ * d.toSeconds.mag) :=
  near_mul hf (toSeconds_near d hd).1 (inRange_mul_toSeconds hd hφ)

/-- The scaled length in seconds rounds to `2^64` or more exactly from `2^64 - 2^10` on. -/
theorem two_pow_64_le_mag_mul_toSeconds_iff :
    2 ^ 64 ≤ (mul f d.toSeconds).mag ↔ 2 ^ 64 - 2 ^ 10 ≤ φ * d.toSeconds.mag := by
  have ht := (toSeconds_near d hd).1
  rcases inRange_mul_toSeconds hd hφ with h0 | hw
  · -- a zero product rounds to zero, far below both bounds
    have h := abs_le.mp (near_mul_toSeconds hd hf hφ).abs_sub_le
    rw [h0] at h ⊢
    simp only [zero_div, neg_zero, sub_zero] at h
    constructor <;> intro h' <;> linarith [h.1, h.2]
  · rw [mul_eq_ofRatio hf.signBit_eq ht.signBit_eq]
    have hr := ratio_mul f d.toSeconds
    rw [hf.mag_eq] at hr
    rw [← hr] at hw ⊢
    have hn : 0 < f.significand * d.toSeconds.significand := by
      rcases Nat.eq_zero_or_pos (f.significand * d.toSeconds.significand) with h0 | h0
      · rw [(ratio_eq_zero_iff _ 1 _ Nat.one_pos).mpr h0] at hw
        exact absurd hw.pos (lt_irrefl 0)
      · exact h0
    exact two_pow_64_le_mag_ofRatio_iff false hn Nat.one_pos hw

/-- Scaling a span by a nonnegative factor halts exactly when the factor times the span in
seconds reaches `2^64 - 2^10`: the product then rounds to `2^64` seconds or more. -/
theorem scale_eq_error_iff :
    (∃ e, d.scale f = .error e) ↔ 2 ^ 64 - 2 ^ 10 ≤ φ * d.toSeconds.mag := by
  unfold scale
  rw [ofSeconds_eq (near_mul_toSeconds hd hf hφ).encodes,
    ← two_pow_64_le_mag_mul_toSeconds_iff hd hf hφ]
  by_cases h : 2 ^ 64 ≤ (mul f d.toSeconds).mag <;> simp [h]

/-- Below the cut, scaling gives the rounded product's nanoseconds, within half a
nanosecond. -/
theorem scale_eq_ok (hlt : φ * d.toSeconds.mag < 2 ^ 64 - 2 ^ 10) :
    ∃ sp, d.scale f = .ok sp ∧
      |(sp.nanos : ℚ) - (mul f d.toSeconds).mag * nanosPerSec| ≤ 1 / 2 := by
  have hP := near_mul_toSeconds hd hf hφ
  have h : ¬ 2 ^ 64 ≤ (mul f d.toSeconds).mag := by
    rw [two_pow_64_le_mag_mul_toSeconds_iff hd hf hφ]; exact not_le.mpr hlt
  unfold scale
  rw [ofSeconds_eq hP.encodes, if_neg h]
  exact ⟨_, rfl, abs_ofSeconds_sub_le hP.encodes⟩

end Scale

end Span

end BrokerSession
