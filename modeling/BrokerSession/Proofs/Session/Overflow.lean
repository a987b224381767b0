import Mathlib
import BrokerSession.Session.Consumer
import BrokerSession.Proofs.Backoff.Calls
import BrokerSession.Proofs.Span.Seconds

/-!
# Where the span arithmetic of a session halts

Three computations of a session build spans that may not fit below `2^64` seconds, and halt the
program when they do not: the growth of the shared backoff (`Backoff.growBy`: the step
`base * f` for a factor `f` drawn between the jitter bounds, through seconds, then its sum with
the current delay), the delay before the commit of the `i`th partition (`Act.staggerDelayAt`:
`i` staggers plus the share `u` of a stagger drawn from `[0, 1)`), and the pause before a
pre-check (one second per wrong-state fault).

`span_overflow_region` says exactly where each halts (`OverflowRegion`), for a configuration
whose fields fit their widths, any backoff the calls can reach and any draws (`Draw`):

* the pause never halts, since recording a fault past `2^32 - 1` halts first;
* an increase halts exactly when `f` times the base in seconds, as doubles, reaches
  `2^64 - 2^10` (the base in seconds being its milliseconds to a relative `2^-51`), or when the
  step added to the current delay reaches `2^64` seconds;
* the `i`th commit delay halts exactly when `i` staggers and the jitter, `u` staggers to a
  relative `2^-50`, reach `2^64` seconds.

So a configuration with a large enough base and jitter, or stagger and partition count, is
read without complaint and halts the session at its first such increase or commit.
-/

namespace BrokerSession

open Binary64

namespace Binary64

/-- `x` is a draw of a uniform double from `[lo, hi]`: a finite nonnegative double in that
range that is zero or at least `2^-52`, as the uniform doubles the session draws are. -/
structure Draw (x : Binary64) (lo hi : ℚ) : Prop where
  encodes : Encodes x false x.mag
  lo_le : lo ≤ x.mag
  le_hi : x.mag ≤ hi
  grain : x.mag = 0 ∨ (2 : ℚ) ^ (-52 : Int) ≤ x.mag

/-- A draw below `2^53` is a factor the span arithmetic scales by exactly where it says. -/
theorem Draw.range {x : Binary64} {lo hi : ℚ} (h : Draw x lo hi) (hhi : hi < 2 ^ (53 : Int)) :
    x.mag = 0 ∨ ((2 : ℚ) ^ (-52 : Int) ≤ x.mag ∧ x.mag < 2 ^ (53 : Int)) :=
  h.grain.imp_right fun h' => ⟨h', lt_of_le_of_lt h.le_hi hhi⟩

end Binary64

namespace Span

/-- Fewer than `2^64` milliseconds are fewer than `2^64` seconds. -/
theorem nanos_ofMillis_lt_limit {ms : Nat} (h : ms < Nat.pow 2 64) : (ofMillis ms).nanos < limit := by
  show ms * 1000000 < limit
  rw [Nat.pow_eq] at h
  rw [limit_eq]
  omega

/-- `k` times a span, plus another, halts exactly when the sum reaches `2^64` seconds: a product
that reaches it already makes the sum reach it. -/
theorem mulNat_add_eq_error_iff (d : Span) (k : Nat) (j : Span) :
    (∃ e, (d.mulNat k >>= fun x => x.add j) = .error e) ↔ limit ≤ d.nanos * k + j.nanos := by
  unfold mulNat
  by_cases hm : d.nanos * k < limit
  · simp only [hm, if_true, bind, Except.bind]
    unfold add
    by_cases hlt : d.nanos * k + j.nanos < limit
    · simp [hlt]
    · simp [hlt]; omega
  · simp only [hm, if_false, bind, Except.bind]
    exact iff_of_true ⟨_, rfl⟩ (by omega)

end Span

namespace Backoff

variable {b b' : Backoff}

/-- No call takes the wrong-state count past `countLimit`: recording there halts instead. -/
theorem invalidCount_le_apply {c : Call} (hb : b.invalidCount ≤ countLimit)
    (h : c.apply b = .ok b') : b'.invalidCount ≤ countLimit := by
  cases c with
  | increase f =>
    obtain ⟨d, hd⟩ := map_snd_eq_ok h
    obtain ⟨-, -, -, rfl⟩ := growBy_eq_ok hd
    exact hb
  | reset => cases h; exact hb
  | recordInvalid =>
    obtain ⟨n, hn⟩ := map_snd_eq_ok h
    unfold recordInvalid at hn
    by_cases hlt : b.invalidCount < countLimit
    · rw [if_pos hlt] at hn
      cases hn
      exact hlt
    · rw [if_neg hlt] at hn
      cases hn
  | relieveInvalid => cases h; exact Nat.le_trans (Nat.sub_le _ _) hb

theorem invalidCount_le_countLimit {s : BackoffSettings} {cs : List Call}
    (h : applyAll cs (new s) = .ok b) : b.invalidCount ≤ countLimit :=
  applyAll_invariant (I := fun b (_ : Unit) => b.invalidCount ≤ countLimit) (g := fun _ _ => ())
    (a := ()) (fun hi hc => invalidCount_le_apply hi hc) h (Nat.zero_le _)

theorem settings_applyAll {s : BackoffSettings} {cs : List Call}
    (h : applyAll cs (new s) = .ok b) : b.settings = (new s).settings :=
  applyAll_invariant (I := fun b (_ : Unit) => b.settings = (new s).settings)
    (g := fun _ _ => ()) (a := ()) (fun hi hc => (apply_eq_ok hc).1.trans hi) h rfl

/-- The pause before a pre-check, one second per wrong-state fault, stays below `2^64`
seconds. -/
theorem pause_lt_limit (h : b.invalidCount ≤ countLimit) :
    (Span.ofMillis (1000 * b.invalidCount)).nanos < Span.limit := by
  have hc : countLimit = 4294967295 := rfl
  exact Span.nanos_ofMillis_lt_limit (by rw [Nat.pow_eq]; omega)

/-- Growing by a factor `f` halts exactly when the step does, which is when `f` times the base
in seconds reaches `2^64 - 2^10`, or when the step added to the current delay reaches `2^64`
seconds. -/
theorem growBy_eq_error_iff {f : Binary64} (hbase : b.settings.base.nanos < Span.limit)
    (hf : Encodes f false f.mag)
    (hφ : f.mag = 0 ∨ ((2 : ℚ) ^ (-52 : Int) ≤ f.mag ∧ f.mag < 2 ^ (53 : Int))) :
    (∃ e, b.growBy f = .error e) ↔
      2 ^ 64 - 2 ^ 10 ≤ f.mag * b.settings.base.toSeconds.mag ∨
        ∃ st, b.settings.base.scale f = .ok st ∧ Span.limit ≤ b.current.nanos + st.nanos := by
  have hstep := Span.scale_eq_error_iff hbase hf hφ
  unfold growBy
  cases hs : b.settings.base.scale f with
  | error e => exact iff_of_true ⟨e, rfl⟩ (.inl (hstep.mp ⟨e, hs⟩))
  | ok st =>
    -- the step fits, so only the sum can overflow
    have hfit : ¬ 2 ^ 64 - 2 ^ 10 ≤ f.mag * b.settings.base.toSeconds.mag := fun h => by
      obtain ⟨e, he⟩ := hstep.mpr h
      exact absurd (hs.symm.trans he) (by simp)
    simp only [bind, Except.bind, hfit, false_or, Except.ok.injEq, exists_eq_left']
    unfold Span.add
    by_cases hlt : b.current.nanos + st.nanos < Span.limit
    · simp [hlt, pure, Except.pure]
    · simp [hlt]; omega

end Backoff

namespace Act

/-- The jitter share runs draw is a half, to a relative `2^-53`. -/
theorem near_jitterShare : Near jitterShare (1 / 2) := by
  have h := near_div (encodes_ofNat (n := 1) (by decide)) (encodes_ofNat (n := 2) (by decide))
    (by norm_num) (.inr (.of_bounds (a := -1) (b := 0) (by norm_num) (by norm_num)
      (by norm_num) (by norm_num)))
  rw [Nat.cast_one, Nat.cast_two] at h
  exact h

/-- The jitter of a stagger of fewer than `2^64` milliseconds, the share `u` of it, never halts
and is `u` staggers to a relative `2^-50` and half a nanosecond. -/
theorem scale_share (d : Span) (hd : d.nanos < Nat.pow 2 64 * 1000000) {u : Binary64}
    (hu : Draw u 0 1) (hu1 : u.mag < 1) :
    ∃ j, d.scale u = .ok j ∧
      |(j.nanos : ℚ) - u.mag * d.nanos| ≤ u.mag * d.nanos / 2 ^ 50 + 1 / 2 := by
  have hdq : (d.nanos : ℚ) < 2 ^ 64 * 1000000 := by
    rw [Nat.pow_eq] at hd; exact_mod_cast hd
  have hdl : d.nanos < Span.limit := by
    rw [Span.limit_eq]; rw [Nat.pow_eq] at hd; omega
  have hφ := hu.range (by norm_num)
  have ht := abs_le.mp (Span.toSeconds_near d hdl).2
  rw [Span.nanosPerSec_cast] at ht
  have hP := abs_le.mp (Span.near_mul_toSeconds hdl hu.encodes hφ).abs_sub_le
  have hu0 := mag_nonneg u
  have hd0 : (0 : ℚ) ≤ d.nanos := Nat.cast_nonneg _
  -- `u` times the seconds is `u` times the exact seconds, to a relative `2^-51`
  have hlo : u.mag * (d.nanos / 1000000000) * (1 - 1 / 2 ^ 51) ≤ u.mag * d.toSeconds.mag := by
    nlinarith [ht.1]
  have hhi : u.mag * d.toSeconds.mag ≤ u.mag * (d.nanos / 1000000000) * (1 + 1 / 2 ^ 51) := by
    nlinarith [ht.2]
  -- far below the cut: under a second's worth of `2^55`
  have hcut : u.mag * d.toSeconds.mag < 2 ^ 64 - 2 ^ 10 := by nlinarith
  obtain ⟨j, hj, hjn⟩ := Span.scale_eq_ok hdl hu.encodes hφ hcut
  refine ⟨j, hj, ?_⟩
  have hjn := abs_le.mp hjn
  rw [Span.nanosPerSec_cast] at hjn
  rw [abs_le]
  constructor <;> nlinarith [hP.1, hP.2, hjn.1, hjn.2]

/-- Given the jitter `j`, the delay of the `i`th commit halts exactly when `i` staggers and the
jitter reach `2^64` seconds. -/
theorem staggerDelayAt_eq_error_iff (c : SessionConfig) (i : Nat) {u : Binary64} {j : Span}
    (hj : c.commitStagger.scale u = .ok j) :
    (∃ e, staggerDelayAt c i u = .error e) ↔ Span.limit ≤ c.commitStagger.nanos * i + j.nanos := by
  unfold staggerDelayAt
  rw [hj]
  exact Span.mulNat_add_eq_error_iff _ i j

end Act

/-- Where the span arithmetic of a session with configuration `c` halts, for a shared backoff
`b` growing by the factor `f`, and the commit of the `i`th partition with the jitter share
`u`. -/
structure OverflowRegion (c : SessionConfig) (b : Backoff) (i : Nat) (f u : Binary64) : Prop where
  /-- the pause before a pre-check never reaches `2^64` seconds -/
  pause_lt : (Span.ofMillis (1000 * b.invalidCount)).nanos < Span.limit
  /-- the base in seconds, as a double, is within a relative `2^-51` of its milliseconds -/
  base_seconds : |(Span.ofMillis c.backoffBaseMs).toSeconds.mag - c.backoffBaseMs / 1000| ≤
    c.backoffBaseMs / 1000 / 2 ^ 51
  /-- an increase by `f` halts exactly when `f` times the base in seconds reaches
  `2^64 - 2^10`, or when the step added to the current delay reaches `2^64` seconds -/
  increase_iff : (∃ e, b.growBy f = .error e) ↔
    2 ^ 64 - 2 ^ 10 ≤ f.mag * (Span.ofMillis c.backoffBaseMs).toSeconds.mag ∨
      ∃ st, (Span.ofMillis c.backoffBaseMs).scale f = .ok st ∧
        Span.limit ≤ b.current.nanos + st.nanos
  /-- the delay of the `i`th commit halts exactly when `i` staggers and the jitter, `u`
  staggers to a relative `2^-50`, reach `2^64` seconds -/
  stagger_iff : ∃ j : Span, c.commitStagger.scale u = .ok j ∧
    |(j.nanos : ℚ) - u.mag * c.commitStagger.nanos| ≤
      u.mag * c.commitStagger.nanos / 2 ^ 50 + 1 / 2 ∧
    ((∃ e, Act.staggerDelayAt c i u = .error e) ↔
      Span.limit ≤ c.commitStagger.nanos * i + j.nanos)

/-- For a configuration whose fields fit their widths, any reachable backoff, any factor drawn
between the jitter bounds, any share drawn from `[0, 1)` and any index, the span arithmetic halts
exactly where `OverflowRegion` says. -/
theorem span_overflow_region (c : SessionConfig) (cs : List Backoff.Call) {b : Backoff}
    (hb : Backoff.applyAll cs (Backoff.new c.backoffSettings) = .ok b)
    (hbase : c.backoffBaseMs < Nat.pow 2 64) (hjmin : c.backoffJitterMin < Nat.pow 2 32)
    (hjmax : c.backoffJitterMax < Nat.pow 2 32) (hstagger : c.commitStaggerMs < Nat.pow 2 64)
    {f u : Binary64}
    (hf : Draw f (min c.backoffJitterMin c.backoffJitterMax : ℕ)
      (max c.backoffJitterMin c.backoffJitterMax : ℕ))
    (hu : Draw u 0 1) (hu1 : u.mag < 1) (i : Nat) : OverflowRegion c b i f u := by
  have hset := Backoff.settings_applyAll hb
  have hbase' : b.settings.base.nanos < Span.limit := by
    rw [hset]; exact Span.nanos_ofMillis_lt_limit hbase
  have hmax : ((max c.backoffJitterMin c.backoffJitterMax : ℕ) : ℚ) < 2 ^ (53 : Int) := by
    rw [Nat.pow_eq] at hjmin hjmax
    have h : max c.backoffJitterMin c.backoffJitterMax < 9007199254740992 := by omega
    calc ((max c.backoffJitterMin c.backoffJitterMax : ℕ) : ℚ) < 9007199254740992 := by
          exact_mod_cast h
      _ = 2 ^ (53 : Int) := by norm_num
  obtain ⟨j, hj₁, hj₂⟩ := Act.scale_share c.commitStagger
    (by show c.commitStaggerMs * 1000000 < _; rw [Nat.pow_eq] at hstagger ⊢; omega) hu hu1
  refine ⟨Backoff.pause_lt_limit (Backoff.invalidCount_le_countLimit hb), ?_, ?_,
    ⟨j, hj₁, hj₂, Act.staggerDelayAt_eq_error_iff c i hj₁⟩⟩
  · have h := (Span.toSeconds_near _ (Span.nanos_ofMillis_lt_limit hbase)).2
    have e : ((Span.ofMillis c.backoffBaseMs).nanos : ℚ) / Span.nanosPerSec =
        c.backoffBaseMs / 1000 := by
      rw [Span.nanosPerSec_cast]; show ((c.backoffBaseMs * 1000000 : ℕ) : ℚ) / _ = _
      push_cast; ring
    rwa [e] at h
  · have h := Backoff.growBy_eq_error_iff hbase' hf.encodes (hf.range hmax)
    rw [hset] at h
    exact h

/-- The configuration of the failing run: a base of about `2^63` microseconds with the largest
jitter, and the largest stagger. Its first increase halts at the factor runs draw, and so does
the delay of the commit of the 1000th partition. -/
theorem span_overflow_region_largest :
    let c : SessionConfig :=
      { topic := "t", backoffBaseMs := 9223372036854775, backoffJitterMin := 4294967295,
        backoffJitterMax := 4294967295, commitStaggerMs := 18446744073709551615 }
    (∃ e, (Backoff.new c.backoffSettings).increase = .error e) ∧
      ∃ e, Act.staggerDelay c 1000 = .error e := by
  intro c
  -- the draws runs take: the lower jitter bound, and a half
  have hm : (Backoff.new c.backoffSettings).factor.mag = 4294967295 := by
    show (ofNat 4294967295).mag = _
    rw [(encodes_ofNat (n := 4294967295) (by decide)).mag_eq]
    norm_num
  have hf : Draw (Backoff.new c.backoffSettings).factor
      (min c.backoffJitterMin c.backoffJitterMax : ℕ)
      (max c.backoffJitterMin c.backoffJitterMax : ℕ) := by
    have h := encodes_ofNat (n := 4294967295) (by decide)
    refine ⟨⟨h.1, h.2, h.3, rfl⟩, ?_, ?_, .inr ?_⟩ <;> rw [hm] <;> norm_num
  have hJ := abs_le.mp Act.near_jitterShare.abs_sub_le
  have hu : Draw Act.jitterShare 0 1 :=
    ⟨Act.near_jitterShare.encodes, mag_nonneg _, by linarith [hJ.2],
      .inr (by norm_num; linarith [hJ.1])⟩
  obtain ⟨-, hbase, hinc, j, -, hjn, hstag⟩ := span_overflow_region c [] rfl (by decide)
    (by decide) (by decide) (by decide) hf hu (by linarith [hJ.2]) 1000
  refine ⟨hinc.2 (.inl ?_), hstag.2 ?_⟩
  · -- the step is about `4 * 10^22` seconds
    have hb := abs_le.mp hbase
    rw [hm]
    norm_num at hb ⊢
    nlinarith [hb.1]
  · -- a thousand staggers fall a second short of `2^64` seconds; the jitter is half a stagger
    have hjn := abs_le.mp hjn
    have hs : (c.commitStagger.nanos : ℚ) = 18446744073709551615000000 := by
      show ((18446744073709551615 * 1000000 : ℕ) : ℚ) = _
      norm_num
    rw [hs] at hjn
    have hj : (1000000000 : ℚ) ≤ j.nanos := by nlinarith [hJ.1, hjn.1]
    have hj' : 1000000000 ≤ j.nanos := by exact_mod_cast hj
    rw [Span.limit_eq]
    show 18446744073709551616000000000 ≤ 18446744073709551615 * 1000000 * 1000 + j.nanos
    omega

end BrokerSession
