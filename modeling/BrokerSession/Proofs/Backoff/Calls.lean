import Mathlib
import BrokerSession.Backoff

/-!
# The shared delay under any sequence of calls

A backoff is shared by every handle on it, and the handles' calls reach the one state one at a
time, so whatever the interleaving, the backoff sees a sequence of calls (`Backoff.Call`): an
increase by the factor its draw gave, a reset, and a wrong-state fault recorded or relieved.

`delay_after_calls` sums such a sequence up: from construction, the delay is the base plus the
steps of the increases since the last reset, clamped to the cap, whatever the factors drawn;
so it stays between the base and the cap, and no call but a reset lowers it. The wrong-state
count is the count of records less the relieves, never going below zero.

The closed form rests on one law of the clamp, `min (min x c + s) c = min (x + s) c`: a clamp
in the middle of the sum changes nothing.
-/

namespace BrokerSession

namespace Span

@[simp] theorem nanos_min (a b : Span) : (min a b).nanos = min a.nanos b.nanos := by
  show (if a.nanos ≤ b.nanos then a else b).nanos = _
  split <;> omega

@[simp] theorem nanos_max (a b : Span) : (max a b).nanos = max a.nanos b.nanos := by
  show (if a.nanos ≤ b.nanos then b else a).nanos = _
  split <;> omega

theorem add_eq_ok {a b c : Span} (h : a.add b = .ok c) :
    c.nanos = a.nanos + b.nanos ∧ a.nanos + b.nanos < limit := by
  unfold add at h
  split at h
  · cases h
    exact ⟨rfl, ‹_›⟩
  · cases h

end Span

namespace Backoff

/-- A call on a shared backoff: an increase by the factor its draw gave, a reset, or a
wrong-state fault recorded or relieved. -/
inductive Call where
  | increase (f : Binary64)
  | reset
  | recordInvalid
  | relieveInvalid

namespace Call

/-- The backoff after the call, or the panic that ends the program. -/
def apply : Call → Backoff → Except Halt Backoff
  | .increase f, b => (·.2) <$> b.growBy f
  | .reset, b => .ok b.reset
  | .recordInvalid, b => (·.2) <$> b.recordInvalid
  | .relieveInvalid, b => .ok b.relieveInvalid.2

/-- The factors of the increases since the last reset, oldest first, after the call. -/
def draws (fs : List Binary64) : Call → List Binary64
  | .increase f => fs ++ [f]
  | .reset => []
  | _ => fs

/-- The wrong-state count after the call: one more for a record, one less for a relieve, never
below zero. -/
def tally (n : Nat) : Call → Nat
  | .recordInvalid => n + 1
  | .relieveInvalid => n - 1
  | _ => n

end Call

/-- The backoff after the calls, the first first, or the panic that ends the program. -/
def applyAll (cs : List Call) (b : Backoff) : Except Halt Backoff :=
  cs.foldlM (fun b c => c.apply b) b

/-! ## One call -/

section Step

variable {b b' : Backoff}

theorem map_snd_eq_ok {α : Type} {x : Except Halt (α × Backoff)} (h : (·.2) <$> x = .ok b') :
    ∃ a, x = .ok (a, b') := by
  cases x with
  | error e => cases h
  | ok v => cases h; exact ⟨v.1, rfl⟩

/-- An increase by `f` adds the step `base * f` to the delay, clamps the sum to the cap and
returns the new delay. -/
theorem growBy_eq_ok {f : Binary64} {d : Span} (h : b.growBy f = .ok (d, b')) :
    ∃ st, b.settings.base.scale f = .ok st ∧
      d.nanos = min (b.current.nanos + st.nanos) b.settings.cap.nanos ∧
      b' = { b with current := d, drawn := b.drawn || !b.isExact } := by
  unfold growBy at h
  cases hs : b.settings.base.scale f with
  | error e => simp [hs, bind, Except.bind] at h
  | ok st =>
    cases ha : b.current.add st with
    | error e => simp [hs, ha, bind, Except.bind] at h
    | ok sum =>
      simp only [hs, ha, bind, Except.bind, pure, Except.pure, Except.ok.injEq,
        Prod.mk.injEq] at h
      obtain ⟨rfl, rfl⟩ := h
      exact ⟨st, rfl, by rw [Span.nanos_min, (Span.add_eq_ok ha).1], rfl⟩

theorem recordInvalid_eq_ok {n : Nat} (h : b.recordInvalid = .ok (n, b')) :
    b' = { b with invalidCount := b.invalidCount + 1 } := by
  unfold recordInvalid at h
  split at h
  · cases h; rfl
  · cases h

/-- A call that does not reset keeps the settings and, unless it increases, the delay. -/
theorem apply_eq_ok {c : Call} (h : c.apply b = .ok b') :
    b'.settings = b.settings ∧ b'.invalidCount = Call.tally b.invalidCount c ∧
      match c with
      | .increase f => ∃ st, b.settings.base.scale f = .ok st ∧
          b'.current.nanos = min (b.current.nanos + st.nanos) b.settings.cap.nanos
      | .reset => b'.current = b.settings.base
      | _ => b'.current = b.current := by
  cases c with
  | increase f =>
    obtain ⟨d, hd⟩ := map_snd_eq_ok h
    obtain ⟨st, hst, hnext, rfl⟩ := growBy_eq_ok hd
    exact ⟨rfl, rfl, st, hst, hnext⟩
  | reset => cases h; exact ⟨rfl, rfl, rfl⟩
  | recordInvalid =>
    obtain ⟨n, hn⟩ := map_snd_eq_ok h
    cases recordInvalid_eq_ok hn
    exact ⟨rfl, rfl, rfl⟩
  | relieveInvalid => cases h; exact ⟨rfl, rfl, rfl⟩

/-- The cap is no lower than the base, and the delay is the base plus the steps of the
factors `fs`, clamped to the cap. -/
structure Grown (b : Backoff) (fs : List Binary64) : Prop where
  base_le_cap : b.settings.base.nanos ≤ b.settings.cap.nanos
  steps : ∃ ds : List Span, List.Forall₂ (fun f d => b.settings.base.scale f = .ok d) fs ds ∧
    b.current.nanos = min (b.settings.base.nanos + (ds.map Span.nanos).sum) b.settings.cap.nanos

/-- A clamp in the middle of a sum changes nothing. -/
theorem min_add_min (x s c : Nat) : min (min x c + s) c = min (x + s) c := by omega

/-- Every call keeps the delay the clamped sum of the steps since the last reset. -/
theorem Grown.apply {fs : List Binary64} (hg : Grown b fs) {c : Call} (h : c.apply b = .ok b') :
    Grown b' (Call.draws fs c) := by
  obtain ⟨hbc, ds, hds, hcur⟩ := hg
  obtain ⟨hset, -, hc⟩ := apply_eq_ok h
  refine ⟨hset ▸ hbc, ?_⟩
  rw [hset]
  cases c with
  | increase f =>
    obtain ⟨st, hst, hnext⟩ := hc
    refine ⟨ds ++ [st], List.rel_append hds (.cons hst .nil), ?_⟩
    simp only [hnext, hcur, List.map_append, List.map_cons, List.map_nil, List.sum_append,
      List.sum_cons, List.sum_nil, Nat.add_zero, min_add_min, Nat.add_assoc]
  | reset => exact ⟨[], .nil, by simp [hc, Nat.min_eq_left hbc]⟩
  | recordInvalid | relieveInvalid => exact ⟨ds, hds, hc ▸ hcur⟩

/-- No call but a reset lowers a delay that the cap bounds. -/
theorem current_le_apply {c : Call} (hc : c ≠ .reset) (hcap : b.current.nanos ≤ b.settings.cap.nanos)
    (h : c.apply b = .ok b') : b.current.nanos ≤ b'.current.nanos := by
  obtain ⟨-, -, hcur⟩ := apply_eq_ok h
  cases c with
  | increase f =>
    obtain ⟨st, -, hnext⟩ := hcur
    omega
  | reset => exact absurd rfl hc
  | recordInvalid | relieveInvalid => rw [hcur]

end Step

/-! ## Any sequence of calls -/

section Run

theorem bind_eq_ok {α β : Type} {x : Except Halt α} {f : α → Except Halt β} {y : β}
    (h : x >>= f = .ok y) : ∃ a, x = .ok a ∧ f a = .ok y := by
  cases x with
  | error e => cases h
  | ok a => exact ⟨a, rfl, h⟩

/-- What every call keeps, every sequence of calls keeps, where `g` follows what the calls so
far add up to. -/
theorem applyAll_invariant {α : Type} {I : Backoff → α → Prop} {g : α → Call → α}
    (step : ∀ {b b' : Backoff} {a : α} {c : Call}, I b a → c.apply b = .ok b' → I b' (g a c))
    {cs : List Call} {b b' : Backoff} {a : α} (h : applyAll cs b = .ok b') (hi : I b a) :
    I b' (cs.foldl g a) := by
  induction cs generalizing b a with
  | nil => cases h; exact hi
  | cons c cs ih =>
    rw [applyAll, List.foldlM_cons] at h
    obtain ⟨b₁, h₁, h₂⟩ := bind_eq_ok h
    exact ih h₂ (step hi h₁)

theorem grown_new (s : BackoffSettings) : Grown (new s) [] :=
  ⟨by simp [new], [], .nil, by simp [new]⟩

/-- From construction, under any calls and drawn factors, the delay is the base plus the steps `base
* f` since the last reset, clamped to the cap; only a reset lowers it, an increase returns the delay
it sets, and the wrong-state count is the saturating tally of the calls. -/
theorem delay_after_calls (s : BackoffSettings) (cs : List Call) {b : Backoff}
    (h : applyAll cs (new s) = .ok b) :
    (∃ ds : List Span, List.Forall₂ (fun f d => s.base.scale f = .ok d) (cs.foldl Call.draws []) ds ∧
      b.current.nanos = min (s.base.nanos + (ds.map Span.nanos).sum) (max s.cap.nanos s.base.nanos)) ∧
    s.base.nanos ≤ b.current.nanos ∧ b.current.nanos ≤ max s.cap.nanos s.base.nanos ∧
    (∀ (c : Call) b', c ≠ .reset → c.apply b = .ok b' → b.current.nanos ≤ b'.current.nanos) ∧
    (∀ f d b', b.growBy f = .ok (d, b') → d = b'.current) ∧
    b.invalidCount = cs.foldl Call.tally 0 := by
  have hset : b.settings = (new s).settings :=
    applyAll_invariant (I := fun b (_ : Unit) => b.settings = (new s).settings)
      (g := fun _ _ => ()) (a := ()) (fun hi hc => (apply_eq_ok hc).1.trans hi) h rfl
  have hg : Grown b (cs.foldl Call.draws []) :=
    applyAll_invariant (I := Grown) (g := Call.draws) (fun hi hc => hi.apply hc) h (grown_new s)
  obtain ⟨hbc, ds, hds, hcur⟩ := hg
  simp only [hset, new, Span.nanos_max] at hbc hds hcur
  have hcap : b.current.nanos ≤ b.settings.cap.nanos := by
    rw [hset]
    simp only [new, Span.nanos_max]
    omega
  refine ⟨⟨ds, hds, hcur⟩, by omega, by omega, fun c b' hc hb' => current_le_apply hc hcap hb',
    fun f d b' hb' => ?_, ?_⟩
  · obtain ⟨-, -, -, rfl⟩ := growBy_eq_ok hb'
    rfl
  · exact applyAll_invariant (I := fun b n => b.invalidCount = n) (g := Call.tally)
      (fun hi hc => (apply_eq_ok hc).2.1.trans (congrArg (Call.tally · _) hi)) h rfl

/-- Default settings, increases drawn at 3 and at 9, and a wrong state recorded once and
relieved twice: the delay is 1 + 3 + 9 seconds and the count is back at zero. -/
theorem delay_after_calls_draws :
    applyAll [.increase (Binary64.ofNat 3), .recordInvalid, .increase (Binary64.ofNat 9),
        .relieveInvalid, .relieveInvalid] (new {}) =
      .ok { settings := (new {}).settings, current := ⟨13000000000⟩, drawn := true } ∧
    (∃ ds : List Span, List.Forall₂ (fun f d => Span.scale (Span.ofMillis 1000) f = .ok d)
        ([Call.increase (Binary64.ofNat 3), .recordInvalid, .increase (Binary64.ofNat 9),
          .relieveInvalid, .relieveInvalid].foldl Call.draws []) ds ∧
      13000000000 = min ((Span.ofMillis 1000).nanos + (ds.map Span.nanos).sum)
        (max (Span.ofMillis 60000).nanos (Span.ofMillis 1000).nanos)) ∧
    (Span.ofMillis 1000).nanos ≤ 13000000000 ∧
    13000000000 ≤ max (Span.ofMillis 60000).nanos (Span.ofMillis 1000).nanos ∧
    (∀ (c : Call) b', c ≠ .reset →
      c.apply { settings := (new {}).settings, current := ⟨13000000000⟩, drawn := true } = .ok b' →
      13000000000 ≤ b'.current.nanos) ∧
    (∀ f d b',
      Backoff.growBy { settings := (new {}).settings, current := ⟨13000000000⟩, drawn := true } f =
        .ok (d, b') → d = b'.current) ∧
    0 = [Call.increase (Binary64.ofNat 3), .recordInvalid, .increase (Binary64.ofNat 9),
      .relieveInvalid, .relieveInvalid].foldl Call.tally 0 := by
  have h : applyAll [.increase (Binary64.ofNat 3), .recordInvalid, .increase (Binary64.ofNat 9),
      .relieveInvalid, .relieveInvalid] (new {}) =
      .ok { settings := (new {}).settings, current := ⟨13000000000⟩, drawn := true } := by
    decide +kernel
  exact ⟨h, delay_after_calls {} _ h⟩

end Run

end Backoff

end BrokerSession
