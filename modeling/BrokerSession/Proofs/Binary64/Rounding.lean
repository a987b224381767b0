import Mathlib
import BrokerSession.Binary64.Basic

/-!
# Rounding a ratio to a double

What `Binary64.ofRatio` computes, read in ℚ. The magnitude of a finite double is
`significand * 2 ^ exponent` (`Binary64.mag`), and `Encodes x neg v` says that `x` is finite,
with sign bit `neg` and magnitude `v`.

* `abs_roundHalfEven_sub_le`: rounding to an integer moves a quotient by at most one half;
  `le_roundHalfEven_iff`: a tie half-way below an even number goes up to it.
* `encodes_ofRatio`: a positive ratio `w = n * 2^e / d` whose binade `k`
  (`2^k ≤ w < 2^(k+1)`) is in the normal range becomes a finite double of magnitude
  `round (w / 2^(k-52)) * 2^(k-52)`, the carry to `2^53` included.
* `abs_mag_ofRatio_sub_le`: so rounding moves a ratio by at most a relative `2^-53`, and
  `two_pow_64_le_mag_ofRatio_iff`: it rounds to `2^64` or more exactly from `2^64 - 2^10` on.
* `encodes_ofNat`: a natural number below `2^53` is a double exactly; `near_mul`, `near_div`,
  `near_add`: the product, quotient and sum of nonnegative doubles are their exact results
  rounded (`Near`).
-/

namespace BrokerSession

/-! ## Rounding to an integer -/

/-- The two outcomes of rounding `n / d`: the quotient, when the remainder is at most half of
`d`, or one more, when it is at least half. -/
theorem roundHalfEven_cases (n d : Nat) :
    (roundHalfEven n d = n / d ∧ 2 * (n % d) ≤ d) ∨
      (roundHalfEven n d = n / d + 1 ∧ d ≤ 2 * (n % d)) := by
  by_cases h : 2 * (n % d) > d ∨ (2 * (n % d) = d ∧ n / d % 2 = 1)
  · exact .inr ⟨if_pos h, by omega⟩
  · exact .inl ⟨if_neg h, by omega⟩

theorem roundHalfEven_one (n : Nat) : roundHalfEven n 1 = n := by
  simp [roundHalfEven, Nat.mod_one]

/-- Rounding moves `n / d` by at most one half. -/
theorem abs_roundHalfEven_sub_le {n d : Nat} (hd : 0 < d) :
    |(roundHalfEven n d : ℚ) - n / d| ≤ 1 / 2 := by
  have hd' : (0 : ℚ) < d := by exact_mod_cast hd
  -- in units of `1 / (2 * d)`: twice the rounded multiple of `d` is within `d` of `2 * n`
  have key : |2 * d * (roundHalfEven n d : ℚ) - 2 * n| ≤ d := by
    have hn : (n : ℚ) = d * (n / d : ℕ) + (n % d : ℕ) := by
      exact_mod_cast (Nat.div_add_mod n d).symm
    have hr : ((n % d : ℕ) : ℚ) < d := by exact_mod_cast Nat.mod_lt n hd
    rcases roundHalfEven_cases n d with ⟨h, h2⟩ | ⟨h, h2⟩ <;> rw [h, hn, abs_le]
    · have h2' : (2 : ℚ) * (n % d : ℕ) ≤ d := by exact_mod_cast h2
      constructor <;> linarith
    · have h2' : (d : ℚ) ≤ 2 * (n % d : ℕ) := by exact_mod_cast h2
      push_cast
      constructor <;> linarith
  have e : (roundHalfEven n d : ℚ) - n / d = (2 * d * roundHalfEven n d - 2 * n) / (2 * d) := by
    field_simp
  have h2d : (0 : ℚ) < 2 * d := by linarith
  rw [e, abs_div, abs_of_pos h2d, div_le_iff₀ h2d]
  linarith

/-- A tie half-way below an even number goes up to it. -/
theorem roundHalfEven_tie {n d j : Nat} (hd : 0 < d) (h : 2 * n = (4 * j + 3) * d) :
    roundHalfEven n d = 2 * j + 2 := by
  have hdm := Nat.div_add_mod n d
  have hr := Nat.mod_lt n hd
  have e : (4 * j + 3) * d = 4 * (d * j) + 3 * d := by ring
  -- the quotient is the odd `2 * j + 1` and the remainder exactly half of `d`
  have hq : n / d = 2 * j + 1 := by
    rcases Nat.lt_trichotomy (n / d) (2 * j + 1) with hlt | heq | hgt
    · have : d * (n / d) ≤ d * (2 * j) := Nat.mul_le_mul_left d (by omega)
      rw [Nat.mul_left_comm] at this
      omega
    · exact heq
    · have : d * (2 * j + 2) ≤ d * (n / d) := Nat.mul_le_mul_left d (by omega)
      rw [Nat.mul_add, Nat.mul_left_comm] at this
      omega
  have hr2 : 2 * (n % d) = d := by
    rw [hq, Nat.mul_add, Nat.mul_left_comm] at hdm
    omega
  exact (if_pos (.inr ⟨hr2, by omega⟩)).trans (by rw [hq])

/-- Rounding reaches an even number `2 * j + 2` exactly from half below it on. -/
theorem le_roundHalfEven_iff {n d : Nat} (j : Nat) (hd : 0 < d) :
    2 * j + 2 ≤ roundHalfEven n d ↔ ((4 * j + 3 : ℕ) : ℚ) / 2 ≤ n / d := by
  have hb := abs_le.mp (abs_roundHalfEven_sub_le (n := n) hd)
  constructor
  · intro h
    have : ((2 * j + 2 : ℕ) : ℚ) ≤ roundHalfEven n d := by exact_mod_cast h
    push_cast at this ⊢
    linarith
  · intro h
    rcases h.lt_or_eq with hlt | heq
    · have : ((2 * j + 1 : ℕ) : ℚ) < roundHalfEven n d := by
        push_cast at hlt ⊢
        linarith
      have := (Nat.cast_lt (α := ℚ)).mp this
      omega
    · have hd' : (d : ℚ) ≠ 0 := by exact_mod_cast hd.ne'
      rw [div_eq_div_iff two_ne_zero hd'] at heq
      have : 2 * n = (4 * j + 3) * d := by
        have : ((4 * j + 3) * d : ℕ) = (n * 2 : ℕ) := by exact_mod_cast heq
        omega
      rw [roundHalfEven_tie hd this]

namespace Binary64

/-! ## Scaled rounding -/

theorem two_zpow_eq_div (s : Int) : (2 : ℚ) ^ s = 2 ^ s.toNat / 2 ^ (-s).toNat := by
  rcases le_or_gt 0 s with hs | hs
  · rw [show (-s).toNat = 0 by omega, pow_zero, div_one, ← zpow_natCast, Int.toNat_of_nonneg hs]
  · rw [show s.toNat = 0 by omega, pow_zero, ← zpow_natCast, Int.toNat_of_nonneg (by omega),
      zpow_neg, one_div, inv_inv]

/-- Scaled rounding is the rounding of one quotient of naturals. -/
theorem scaledRound_eq (n d : Nat) (s : Int) :
    scaledRound n d s = roundHalfEven (n * 2 ^ s.toNat) (d * 2 ^ (-s).toNat) := by
  unfold scaledRound
  by_cases hs : 0 ≤ s
  · rw [if_pos hs, show (-s).toNat = 0 by omega, Nat.pow_zero, Nat.mul_one]; rfl
  · rw [if_neg hs, show s.toNat = 0 by omega, Nat.pow_zero, Nat.mul_one]; rfl

theorem scaledRound_ratio (n d : Nat) (s : Int) :
    ((n * 2 ^ s.toNat : ℕ) : ℚ) / (d * 2 ^ (-s).toNat : ℕ) = n * 2 ^ s / d := by
  rw [two_zpow_eq_div]
  push_cast
  field_simp

theorem abs_scaledRound_sub_le {n d : Nat} (s : Int) (hd : 0 < d) :
    |(scaledRound n d s : ℚ) - n * 2 ^ s / d| ≤ 1 / 2 := by
  rw [scaledRound_eq, ← scaledRound_ratio]
  exact abs_roundHalfEven_sub_le (Nat.mul_pos hd (Nat.two_pow_pos _))

theorem le_scaledRound_iff {n d : Nat} (s : Int) (j : Nat) (hd : 0 < d) :
    2 * j + 2 ≤ scaledRound n d s ↔ ((4 * j + 3 : ℕ) : ℚ) / 2 ≤ n * 2 ^ s / d := by
  rw [scaledRound_eq, ← scaledRound_ratio]
  exact le_roundHalfEven_iff j (Nat.mul_pos hd (Nat.two_pow_pos _))

/-- A whole number scaled up by a power of two stays whole. -/
theorem scaledRound_one (n : Nat) {s : Int} (hs : 0 ≤ s) :
    (scaledRound n 1 s : ℚ) = n * 2 ^ s := by
  unfold scaledRound
  rw [if_pos hs, roundHalfEven_one, Nat.pow_eq]
  push_cast
  rw [← zpow_natCast, Int.toNat_of_nonneg hs]

/-- Whether `n * 2^e ≥ d * 2^k`, read in ℚ. -/
theorem scaledAtLeast_iff (n d : Nat) (e k : Int) :
    scaledAtLeast n d e k = true ↔ (d : ℚ) * 2 ^ k ≤ n * 2 ^ e := by
  unfold scaledAtLeast
  by_cases hk : k ≤ e
  · have : (2 : ℚ) ^ e = 2 ^ k * 2 ^ (e - k).toNat := by
      rw [← zpow_natCast, Int.toNat_of_nonneg (by omega), ← zpow_add₀ two_ne_zero]; ring_nf
    rw [if_pos hk, this, decide_eq_true_iff, ge_iff_le, mul_comm (d : ℚ), mul_left_comm,
      mul_le_mul_iff_right₀ (by positivity), Nat.pow_eq]
    exact_mod_cast Iff.rfl
  · have : (2 : ℚ) ^ k = 2 ^ e * 2 ^ (k - e).toNat := by
      rw [← zpow_natCast, Int.toNat_of_nonneg (by omega), ← zpow_add₀ two_ne_zero]; ring_nf
    rw [if_neg hk, this, decide_eq_true_iff, ge_iff_le, mul_left_comm, mul_comm (n : ℚ),
      mul_le_mul_iff_right₀ (by positivity), Nat.pow_eq]
    exact_mod_cast Iff.rfl

/-! ## The encoding -/

/-- The magnitude of a finite double, `significand * 2 ^ exponent`. -/
def mag (x : Binary64) : ℚ := x.significand * 2 ^ x.exponent

/-- `x` is a finite double with sign bit `neg` and magnitude `v`. -/
structure Encodes (x : Binary64) (neg : Bool) (v : ℚ) : Prop where
  isNaN_eq : x.isNaN = false
  isInfinite_eq : x.isInfinite = false
  signBit_eq : x.signBit = neg
  mag_eq : x.mag = v

theorem mag_nonneg (x : Binary64) : 0 ≤ x.mag := by unfold mag; positivity

theorem mag_eq_zero_iff (x : Binary64) : x.mag = 0 ↔ x.significand = 0 := by
  unfold mag; simp [zpow_ne_zero _ (two_ne_zero : (2 : ℚ) ≠ 0)]

theorem encodes_zero : Encodes ⟨0⟩ false 0 :=
  ⟨by decide, by decide, by decide, by simp [mag, significand, fracField, expField]⟩

/-- The fields of a normal encoding: biased exponent `E`, significand `m` with its leading bit. -/
theorem encodes_normal (neg : Bool) {E m : Nat} (hE₀ : 1 ≤ E) (hE₁ : E ≤ 2046)
    (hm₀ : Nat.pow 2 52 ≤ m) (hm₁ : m < Nat.pow 2 53) :
    Encodes ⟨(if neg then Nat.pow 2 63 else 0) + E * Nat.pow 2 52 + (m - Nat.pow 2 52)⟩ neg
      (m * 2 ^ ((E : Int) - 1075)) := by
  have p52 : Nat.pow 2 52 = 4503599627370496 := rfl
  have p53 : Nat.pow 2 53 = 9007199254740992 := rfl
  have p63 : Nat.pow 2 63 = 9223372036854775808 := rfl
  rw [p52] at hm₀ ⊢
  rw [p53] at hm₁
  rw [p63]
  generalize hx : (⟨(if neg then 9223372036854775808 else 0) + E * 4503599627370496 +
      (m - 4503599627370496)⟩ : Binary64) = x
  have hexp : x.expField = E := by
    subst hx; unfold expField; rw [p52]; cases neg <;> simp <;> omega
  have hfrac : x.fracField = m - 4503599627370496 := by
    subst hx; unfold fracField; rw [p52]; cases neg <;> simp <;> omega
  have hsig : x.significand = m := by
    unfold significand; rw [hexp, hfrac, if_neg (by omega), p52]; omega
  have hexpo : x.exponent = (E : Int) - 1075 := by
    unfold exponent; rw [hexp, if_neg (by omega)]
  refine ⟨?_, ?_, ?_, ?_⟩
  · unfold isNaN; simp [hexp]; omega
  · unfold isInfinite; simp [hexp]; omega
  · subst hx; unfold signBit; rw [p63]; cases neg <;> simp <;> omega
  · unfold mag; rw [hsig, hexpo]

/-! ## The binade -/

/-- `k` is the exponent of the leading bit of `w`: `2^k ≤ w < 2^(k+1)`. -/
def IsBinade (w : ℚ) (k : Int) : Prop := 2 ^ k ≤ w ∧ w < 2 ^ (k + 1)

/-- A power of two at most `w` is at most its binade's. -/
theorem IsBinade.le_of_two_zpow_le {w : ℚ} {k a : Int} (h : IsBinade w k)
    (ha : (2 : ℚ) ^ a ≤ w) : a ≤ k :=
  Int.lt_add_one_iff.mp ((zpow_lt_zpow_iff_right₀ (by norm_num)).mp (ha.trans_lt h.2))

/-- A power of two above `w` is above its binade's. -/
theorem IsBinade.lt_of_lt_two_zpow {w : ℚ} {k b : Int} (h : IsBinade w k)
    (hb : w < 2 ^ b) : k < b :=
  (zpow_lt_zpow_iff_right₀ (by norm_num)).mp (h.1.trans_lt hb)

theorem IsBinade.unique {w : ℚ} {k k' : Int} (h : IsBinade w k) (h' : IsBinade w k') :
    k = k' :=
  le_antisymm (h'.le_of_two_zpow_le h.1) (h.le_of_two_zpow_le h'.1)

theorem isBinade_log {w : ℚ} (hw : 0 < w) : IsBinade w (Int.log 2 w) := by
  have h1 := Int.zpow_log_le_self (b := 2) (by norm_num) hw
  have h2 := Int.lt_zpow_succ_log_self (b := 2) (by norm_num) w
  push_cast at h1 h2
  exact ⟨h1, h2⟩

theorem two_pow_log2_le {n : Nat} (hn : 0 < n) : (2 : ℚ) ^ (Nat.log2 n : Int) ≤ n := by
  rw [zpow_natCast]; exact_mod_cast Nat.log2_self_le hn.ne'

theorem lt_two_pow_log2 (n : Nat) : (n : ℚ) < 2 ^ ((Nat.log2 n : Int) + 1) := by
  rw [← Nat.cast_succ, zpow_natCast]; exact_mod_cast Nat.lt_log2_self

/-- The binade `ofRatio` settles on, from the leading bits of `n` and `d` and one comparison,
is the binade of the ratio. -/
theorem isBinade_ofRatio {n d : Nat} (e : Int) (hn : 0 < n) (hd : 0 < d) :
    IsBinade (n * 2 ^ e / d)
      (if scaledAtLeast n d e ((Nat.log2 n : Int) - (Nat.log2 d : Int) + e)
       then (Nat.log2 n : Int) - (Nat.log2 d : Int) + e
       else (Nat.log2 n : Int) - (Nat.log2 d : Int) + e - 1) := by
  have hd' : (0 : ℚ) < d := by exact_mod_cast hd
  generalize hK : (Nat.log2 n : Int) - (Nat.log2 d : Int) + e = K
  -- the leading bits put the ratio between `2^(K-1)` and `2^(K+1)`
  have hlo : (2 : ℚ) ^ (K - 1) ≤ n * 2 ^ e / d := by
    rw [le_div_iff₀ hd']
    calc (2 : ℚ) ^ (K - 1) * d ≤ 2 ^ (K - 1) * 2 ^ ((Nat.log2 d : Int) + 1) := by
          gcongr; exact (lt_two_pow_log2 d).le
      _ = 2 ^ (Nat.log2 n : Int) * 2 ^ e := by
          rw [← zpow_add₀ two_ne_zero, ← zpow_add₀ two_ne_zero]; congr 1; omega
      _ ≤ n * 2 ^ e := by gcongr; exact two_pow_log2_le hn
  have hhi : (n * 2 ^ e / d : ℚ) < 2 ^ (K + 1) := by
    rw [div_lt_iff₀ hd']
    calc (n : ℚ) * 2 ^ e < 2 ^ ((Nat.log2 n : Int) + 1) * 2 ^ e := by
          gcongr; exact lt_two_pow_log2 n
      _ = 2 ^ (K + 1) * 2 ^ (Nat.log2 d : Int) := by
          rw [← zpow_add₀ two_ne_zero, ← zpow_add₀ two_ne_zero]; congr 1; omega
      _ ≤ 2 ^ (K + 1) * d := by gcongr; exact two_pow_log2_le hd
  have hat : scaledAtLeast n d e K = true ↔ (2 : ℚ) ^ K ≤ n * 2 ^ e / d := by
    rw [scaledAtLeast_iff, le_div_iff₀ hd', mul_comm]
  by_cases h : scaledAtLeast n d e K = true
  · rw [if_pos h]; exact ⟨hat.mp h, hhi⟩
  · rw [if_neg h]
    refine ⟨hlo, ?_⟩
    rw [sub_add_cancel]
    exact lt_of_not_ge (hat.not.mp h)

theorem ratio_shift (n d : Nat) (e s : Int) :
    (n : ℚ) * 2 ^ (e - s) / d = n * 2 ^ e / d / 2 ^ s := by
  rw [zpow_sub₀ two_ne_zero]; ring

/-- In its binade, a ratio scaled to 53 bits rounds to a significand, `2^53` included. -/
theorem scaledRound_mem_of_isBinade {n d : Nat} {e k : Int} (hd : 0 < d)
    (hk : IsBinade (n * 2 ^ e / d) k) :
    Nat.pow 2 52 ≤ scaledRound n d (e - (k - 52)) ∧
      scaledRound n d (e - (k - 52)) ≤ Nat.pow 2 53 := by
  have hb := abs_le.mp (abs_scaledRound_sub_le (n := n) (e - (k - 52)) hd)
  have h52 : (2 : ℚ) ^ (52 : Int) ≤ n * 2 ^ e / d * 2 ^ (52 - k) := by
    calc (2 : ℚ) ^ (52 : Int) = 2 ^ k * 2 ^ (52 - k) := by
          rw [← zpow_add₀ two_ne_zero]; congr 1; ring
      _ ≤ _ := by gcongr; exact hk.1
  have h53 : (n * 2 ^ e / d * 2 ^ (52 - k) : ℚ) < 2 ^ (53 : Int) := by
    calc (n * 2 ^ e / d * 2 ^ (52 - k) : ℚ) < 2 ^ (k + 1) * 2 ^ (52 - k) := by
          gcongr; exact hk.2
      _ = 2 ^ (53 : Int) := by rw [← zpow_add₀ two_ne_zero]; congr 1; ring
  rw [ratio_shift, div_eq_mul_inv _ ((2 : ℚ) ^ (k - 52)), ← zpow_neg, neg_sub] at hb
  norm_num at h52 h53
  rw [Nat.pow_eq, Nat.pow_eq]
  constructor
  · have : ((2 ^ 52 - 1 : ℕ) : ℚ) < scaledRound n d (e - (k - 52)) := by push_cast; linarith
    have := (Nat.cast_lt (α := ℚ)).mp this
    omega
  · have : (scaledRound n d (e - (k - 52)) : ℚ) < ((2 ^ 53 + 1 : ℕ) : ℚ) := by
      push_cast; linarith
    have := (Nat.cast_lt (α := ℚ)).mp this
    omega

/-! ## Rounding a ratio -/

/-- A positive ratio whose binade `k` is in the normal range rounds to the finite double of
magnitude `round (w / 2^(k-52)) * 2^(k-52)`; a rounding up to `2^53` carries into the next
binade, which keeps the value. -/
theorem encodes_ofRatio (neg : Bool) {n d : Nat} {e k : Int} (hn : 0 < n) (hd : 0 < d)
    (hk : IsBinade (n * 2 ^ e / d) k) (hk₀ : -1022 ≤ k) (hk₁ : k ≤ 1022) :
    Encodes (ofRatio neg n d e) neg (scaledRound n d (e - (k - 52)) * 2 ^ (k - 52)) := by
  have hK := (isBinade_ofRatio e hn hd).unique hk
  unfold ofRatio
  simp only [hn.ne', if_false]
  rw [hK, show max (k - 52) (-1074) = k - 52 by omega]
  have hm := scaledRound_mem_of_isBinade hd hk
  generalize scaledRound n d (e - (k - 52)) = m at hm ⊢
  have p52 : Nat.pow 2 52 = 4503599627370496 := rfl
  have p53 : Nat.pow 2 53 = 9007199254740992 := rfl
  by_cases hc : m = Nat.pow 2 53
  · -- the carry: `2^53` units are `2^52` units of the next binade
    rw [if_pos hc, if_neg (by simp only; omega), if_neg (by simp only; omega)]
    have h := encodes_normal neg (E := (k - 52 + 1 + 1075).toNat) (m := Nat.pow 2 52)
      (by omega) (by omega) le_rfl (by rw [p52, p53]; omega)
    refine ⟨h.1, h.2, h.3, h.4.trans ?_⟩
    rw [hc, Int.toNat_of_nonneg (by omega), Nat.pow_eq, Nat.pow_eq]
    push_cast
    rw [show k - 52 + 1 + 1075 - 1075 = 1 + (k - 52) by ring, zpow_add₀ two_ne_zero]
    ring
  · rw [if_neg hc, if_neg (by simp only; omega), if_neg (by simp only; omega)]
    have h := encodes_normal neg (E := (k - 52 + 1075).toNat) (m := m)
      (by omega) (by omega) hm.1 (by omega)
    refine ⟨h.1, h.2, h.3, h.4.trans ?_⟩
    rw [Int.toNat_of_nonneg (by omega), show k - 52 + 1075 - 1075 = k - 52 by ring]

/-- A positive ratio in the range of normal doubles: `2^-1022 ≤ w < 2^1023`. -/
def InRange (w : ℚ) : Prop := (2 : ℚ) ^ (-1022 : Int) ≤ w ∧ w < 2 ^ (1023 : Int)

theorem InRange.of_bounds {w : ℚ} {a b : Int} (ha : -1022 ≤ a) (hb : b ≤ 1023)
    (h₁ : (2 : ℚ) ^ a ≤ w) (h₂ : w < 2 ^ b) : InRange w :=
  ⟨(zpow_le_zpow_right₀ (by norm_num) ha).trans h₁,
    h₂.trans_le (zpow_le_zpow_right₀ (by norm_num) hb)⟩

theorem InRange.pos {w : ℚ} (h : InRange w) : 0 < w := lt_of_lt_of_le (by positivity) h.1

theorem InRange.log_mem {w : ℚ} (h : InRange w) :
    -1022 ≤ Int.log 2 w ∧ Int.log 2 w ≤ 1022 :=
  ⟨(isBinade_log h.pos).le_of_two_zpow_le h.1,
    Int.lt_add_one_iff.mp ((isBinade_log h.pos).lt_of_lt_two_zpow h.2)⟩

section Normal

variable (neg : Bool) {n d : Nat} {e : Int} (hn : 0 < n) (hd : 0 < d)
  (hw : InRange (n * 2 ^ e / d))
include hn hd hw

/-- The rounded ratio, with the binade of the exact one. -/
theorem encodes_ofRatio_log :
    Encodes (ofRatio neg n d e) neg
      (scaledRound n d (e - (Int.log 2 (n * 2 ^ e / d : ℚ) - 52)) *
        2 ^ (Int.log 2 (n * 2 ^ e / d : ℚ) - 52)) :=
  encodes_ofRatio neg hn hd (isBinade_log hw.pos) hw.log_mem.1 hw.log_mem.2

/-- Rounding to a double moves a ratio by at most a relative `2^-53`. -/
theorem abs_mag_ofRatio_sub_le :
    |(ofRatio neg n d e).mag - n * 2 ^ e / d| ≤ n * 2 ^ e / d / 2 ^ 53 := by
  have hk := isBinade_log hw.pos
  rw [(encodes_ofRatio_log neg hn hd hw).mag_eq]
  generalize Int.log 2 (n * 2 ^ e / d : ℚ) = k at hk ⊢
  have hb := abs_scaledRound_sub_le (n := n) (e - (k - 52)) hd
  rw [ratio_shift] at hb
  generalize (n * 2 ^ e / d : ℚ) = w at hk hb ⊢
  have hu : (0 : ℚ) < 2 ^ (k - 52) := by positivity
  calc |(scaledRound n d (e - (k - 52)) : ℚ) * 2 ^ (k - 52) - w|
      = |(scaledRound n d (e - (k - 52)) : ℚ) - w / 2 ^ (k - 52)| * 2 ^ (k - 52) := by
        rw [← abs_of_pos hu, ← abs_mul, abs_of_pos hu, sub_mul, div_mul_cancel₀ _ hu.ne']
    _ ≤ 1 / 2 * 2 ^ (k - 52) := by gcongr
    _ = 2 ^ k / 2 ^ 53 := by
        rw [zpow_sub₀ two_ne_zero]; field_simp
    _ ≤ w / 2 ^ 53 := by gcongr; exact hk.1

/-- A ratio rounds to `2^64` or more exactly from `2^64 - 2^10` on: there the largest double
below `2^64` and `2^64` itself are equally near, and the tie goes to the even significand of
`2^64`. -/
theorem two_pow_64_le_mag_ofRatio_iff :
    2 ^ 64 ≤ (ofRatio neg n d e).mag ↔ 2 ^ 64 - 2 ^ 10 ≤ (n * 2 ^ e / d : ℚ) := by
  have hk := isBinade_log hw.pos
  have hm := scaledRound_mem_of_isBinade hd hk
  have hcut := le_scaledRound_iff (n := n) (e - (63 - 52)) (Nat.pow 2 52 - 1) hd
  rw [(encodes_ofRatio_log neg hn hd hw).mag_eq]
  rw [ratio_shift] at hcut
  generalize Int.log 2 (n * 2 ^ e / d : ℚ) = k at hk hm ⊢
  generalize hM : scaledRound n d (e - (k - 52)) = m at hm ⊢
  generalize (n * 2 ^ e / d : ℚ) = w at hk hcut ⊢
  rw [Nat.pow_eq, Nat.pow_eq] at hm
  have hm₀ : (2 : ℚ) ^ 52 ≤ m := by exact_mod_cast hm.1
  have hm₁ : (m : ℚ) ≤ 2 ^ 53 := by exact_mod_cast hm.2
  rcases lt_trichotomy k 63 with hlt | rfl | hgt
  · -- below the binade of `2^63` neither side holds
    have hu : (2 : ℚ) ^ (k - 52) ≤ 2 ^ (10 : Int) := zpow_le_zpow_right₀ (by norm_num) (by omega)
    have hv : (2 : ℚ) ^ (k + 1) ≤ 2 ^ (63 : Int) := zpow_le_zpow_right₀ (by norm_num) (by omega)
    have h1 : (m : ℚ) * 2 ^ (k - 52) ≤ 2 ^ 53 * 2 ^ (10 : Int) := by gcongr
    norm_num at h1 hv
    have := hk.2
    constructor <;> intro h <;> linarith
  · -- in the binade of `2^63` the unit is `2^11`, and the cut is the tie below `2^53` units
    rw [hM, Nat.pow_eq] at hcut
    norm_num at hcut ⊢
    constructor
    · intro h
      have : (9007199254740992 : ℚ) ≤ m := by linarith
      have := hcut.mp (by exact_mod_cast this)
      linarith
    · intro h
      have : (9007199254740992 : ℚ) ≤ m := by exact_mod_cast hcut.mpr (by linarith)
      linarith
  · -- from the binade of `2^64` on both sides hold
    have hu : (2 : ℚ) ^ (64 : Int) ≤ 2 ^ k := zpow_le_zpow_right₀ (by norm_num) (by omega)
    have h1 : (2 : ℚ) ^ k = 2 ^ 52 * 2 ^ (k - 52) := by
      rw [← zpow_natCast, ← zpow_add₀ two_ne_zero]; congr 1; push_cast; ring
    have h2 : (2 : ℚ) ^ 52 * 2 ^ (k - 52) ≤ m * 2 ^ (k - 52) := by gcongr
    have := hk.1
    norm_num at hu
    constructor <;> intro _ <;> linarith

end Normal

/-- `x` is a nonnegative finite double within a relative `2^-53` of `v`. -/
structure Near (x : Binary64) (v : ℚ) : Prop where
  encodes : Encodes x false x.mag
  abs_sub_le : |x.mag - v| ≤ v / 2 ^ 53

theorem near_zero : Near ⟨0⟩ 0 := by
  have h := encodes_zero
  refine ⟨⟨h.1, h.2, h.3, rfl⟩, ?_⟩
  rw [h.mag_eq]; simp

theorem ofRatio_zero (d : Nat) (e : Int) : ofRatio false 0 d e = ⟨0⟩ := rfl

theorem ratio_eq_zero_iff (n d : Nat) (e : Int) (hd : 0 < d) :
    (n * 2 ^ e / d : ℚ) = 0 ↔ n = 0 := by
  have : (d : ℚ) ≠ 0 := by exact_mod_cast hd.ne'
  simp [this, zpow_ne_zero _ (two_ne_zero : (2 : ℚ) ≠ 0)]

/-- A ratio that is zero or in the normal range rounds to a nonnegative double near it. -/
theorem near_ofRatio {n d : Nat} {e : Int} {v : ℚ} (hd : 0 < d) (hv : (n * 2 ^ e / d : ℚ) = v)
    (hw : v = 0 ∨ InRange v) : Near (ofRatio false n d e) v := by
  subst hv
  rcases Nat.eq_zero_or_pos n with rfl | hn
  · rw [ofRatio_zero]; simpa using near_zero
  · have hw := hw.resolve_left fun h => hn.ne' ((ratio_eq_zero_iff n d e hd).mp h)
    have h := encodes_ofRatio_log false hn hd hw
    exact ⟨⟨h.1, h.2, h.3, rfl⟩, abs_mag_ofRatio_sub_le false hn hd hw⟩

/-! ## Operations on nonnegative doubles -/

/-- Every natural number below `2^53` is a double exactly. -/
theorem encodes_ofNat {n : Nat} (hn : n < Nat.pow 2 53) : Encodes (ofNat n) false n := by
  rcases Nat.eq_zero_or_pos n with rfl | hpos
  · rw [show ofNat 0 = ⟨0⟩ from rfl, Nat.cast_zero]; exact encodes_zero
  · have hn' : (n : ℚ) < 2 ^ (53 : Int) := by
      rw [Nat.pow_eq] at hn; norm_num; exact_mod_cast hn
    have hw : InRange ((n : ℚ) * 2 ^ (0 : Int) / (1 : ℕ)) := by
      refine .of_bounds (a := 0) (b := 53) (by norm_num) (by norm_num) ?_ ?_ <;> simp
      · exact_mod_cast hpos
      · simpa using hn'
    have hk := isBinade_log hw.pos
    have h := encodes_ofRatio_log false hpos Nat.one_pos hw
    refine ⟨h.1, h.2, h.3, h.4.trans ?_⟩
    generalize Int.log 2 ((n : ℚ) * 2 ^ (0 : Int) / (1 : ℕ)) = k at hk ⊢
    -- below `2^53` the binade's unit is at most one, so the scaled value is whole
    have hk52 : k < 53 := hk.lt_of_lt_two_zpow (by simpa using hn')
    rw [scaledRound_one n (by omega), mul_assoc, ← zpow_add₀ two_ne_zero]
    simp

/-- A natural number below `2^64` rounds to a nonnegative double near it. -/
theorem near_ofNat {s : Nat} (hs : s < Nat.pow 2 64) : Near (ofNat s) s := by
  refine near_ofRatio Nat.one_pos (by simp) ?_
  rcases Nat.eq_zero_or_pos s with rfl | hpos
  · left; simp
  · right
    refine .of_bounds (a := 0) (b := 64) (by norm_num) (by norm_num) ?_ ?_
    · simp; exact_mod_cast hpos
    · rw [Nat.pow_eq] at hs; norm_num; exact_mod_cast hs

section Arithmetic

variable {x y : Binary64} {a b : ℚ}

theorem mul_eq_ofRatio (hx : x.signBit = false) (hy : y.signBit = false) :
    mul x y = ofRatio false (x.significand * y.significand) 1 (x.exponent + y.exponent) := by
  unfold mul; rw [hx, hy]; rfl

theorem ratio_mul (x y : Binary64) :
    ((x.significand * y.significand : ℕ) : ℚ) * 2 ^ (x.exponent + y.exponent) / (1 : ℕ) =
      x.mag * y.mag := by
  unfold mag; push_cast; rw [zpow_add₀ two_ne_zero]; ring

theorem near_mul (hx : Encodes x false a) (hy : Encodes y false b)
    (hab : a * b = 0 ∨ InRange (a * b)) : Near (mul x y) (a * b) := by
  rw [mul_eq_ofRatio hx.signBit_eq hy.signBit_eq]
  exact near_ofRatio Nat.one_pos (by rw [ratio_mul, hx.mag_eq, hy.mag_eq]) hab

theorem div_eq_ofRatio (hx : x.signBit = false) (hy : y.signBit = false) :
    div x y = ofRatio false x.significand y.significand (x.exponent - y.exponent) := by
  unfold div; rw [hx, hy]; rfl

theorem ratio_div (x y : Binary64) :
    (x.significand : ℚ) * 2 ^ (x.exponent - y.exponent) / y.significand = x.mag / y.mag := by
  unfold mag; rw [zpow_sub₀ two_ne_zero]; field_simp

theorem near_div (hx : Encodes x false a) (hy : Encodes y false b) (hb : 0 < b)
    (hab : a / b = 0 ∨ InRange (a / b)) : Near (div x y) (a / b) := by
  have hy0 : 0 < y.significand :=
    Nat.pos_of_ne_zero fun h => hb.ne' (hy.mag_eq ▸ (mag_eq_zero_iff y).mpr h)
  rw [div_eq_ofRatio hx.signBit_eq hy.signBit_eq]
  exact near_ofRatio hy0 (by rw [ratio_div, hx.mag_eq, hy.mag_eq]) hab

/-- The sum of two nonnegative doubles is the rounded sum of their significands, each scaled to
the smaller exponent; a zero sum is `+0.0`, which is also what rounding a zero gives. -/
theorem add_eq_ofRatio (hx : x.signBit = false) (hy : y.signBit = false) :
    add x y = ofRatio false
      (x.significand * 2 ^ (x.exponent - min x.exponent y.exponent).toNat +
        y.significand * 2 ^ (y.exponent - min x.exponent y.exponent).toNat) 1
      (min x.exponent y.exponent) := by
  unfold add scaledInt
  simp only [hx, hy, Bool.false_eq_true, if_false, Bool.and_false]
  generalize min x.exponent y.exponent = e
  have hs : (x.significand * (Nat.pow 2 (x.exponent - e).toNat : ℕ) +
      y.significand * (Nat.pow 2 (y.exponent - e).toNat : ℕ) : ℤ) =
      ((x.significand * 2 ^ (x.exponent - e).toNat +
        y.significand * 2 ^ (y.exponent - e).toNat : ℕ) : ℤ) := by
    simp only [Nat.pow_eq]; push_cast; rfl
  rw [hs]
  generalize x.significand * 2 ^ (x.exponent - e).toNat +
    y.significand * 2 ^ (y.exponent - e).toNat = N
  rcases Nat.eq_zero_or_pos N with rfl | hN
  · rw [ofRatio_zero, if_pos (by rfl)]
  · rw [if_neg (by exact_mod_cast hN.ne'), Int.natAbs_natCast,
      decide_eq_false (by exact_mod_cast (Nat.zero_le N).not_gt)]

theorem ratio_add (x y : Binary64) :
    ((x.significand * 2 ^ (x.exponent - min x.exponent y.exponent).toNat +
        y.significand * 2 ^ (y.exponent - min x.exponent y.exponent).toNat : ℕ) : ℚ) *
        2 ^ (min x.exponent y.exponent) / (1 : ℕ) = x.mag + y.mag := by
  have shift : ∀ z : Int, min x.exponent y.exponent ≤ z →
      (2 : ℚ) ^ (z - min x.exponent y.exponent).toNat * 2 ^ (min x.exponent y.exponent) =
        2 ^ z := by
    intro z hz
    rw [← zpow_natCast, Int.toNat_of_nonneg (by omega), ← zpow_add₀ two_ne_zero, sub_add_cancel]
  unfold mag
  push_cast
  rw [div_one, add_mul, mul_assoc, mul_assoc, shift _ (min_le_left _ _),
    shift _ (min_le_right _ _)]

theorem near_add (hx : Encodes x false a) (hy : Encodes y false b)
    (hab : a + b = 0 ∨ InRange (a + b)) : Near (add x y) (a + b) := by
  rw [add_eq_ofRatio hx.signBit_eq hy.signBit_eq]
  exact near_ofRatio Nat.one_pos (by rw [ratio_add, hx.mag_eq, hy.mag_eq]) hab

end Arithmetic

end Binary64

end BrokerSession
