import BrokerSession.Proofs.Proc.Atomic
import BrokerSession.Proofs.Proc.Keeps

/-!
# Processes that leave one part of the world alone until they hand over

`KeepsUntil f v q p` says that `p`, run from a world where `f` is `v`, writes only worlds where
`f` is still `v` until it goes on as the process `q`; what `q` does then is not its concern. It
is `Keeps` with a hole: the end of a round of a loop keeps a counter until the next round
begins, and the next round is the hole.

A run of such a process among an environment that keeps `f` has either kept `f` all along, or
passed through `q` with `f` still at `v` and gone on from there (`KeepsUntil.runs`). So a turn
that changes `f` is taken after the run has handed over to `q` (`KeepsUntil.runs_turn`). In the
same way a turn of `p >>= k` that changes `f`, where `p` keeps `f`, is taken after `p` has
finished (`Keeps.runs_bind_turn`).
-/

namespace BrokerSession

namespace Proc

variable {σ ω : Type} {f : σ → ω} {v : ω}

/-- Run from a world where `f` is `v`, `p` writes only worlds where `f` is `v` until it goes
on as `q`. -/
inductive KeepsUntil (f : σ → ω) (v : ω) {α : Type} (q : Proc σ α) : Proc σ α → Prop
  | hole : KeepsUntil f v q q
  | pure {a : α} : KeepsUntil f v q (.pure a)
  | look {k : Nat → σ → Proc σ α} :
      (∀ t s, f s = v → KeepsUntil f v q (k t s)) → KeepsUntil f v q (.look k)
  | put {s : σ} {k : Proc σ α} : f s = v → KeepsUntil f v q k → KeepsUntil f v q (.put s k)
  | wait {w : Wake σ} {k : Proc σ α} : KeepsUntil f v q k → KeepsUntil f v q (.wait w k)
  | yield {k : Proc σ α} : KeepsUntil f v q k → KeepsUntil f v q (.yield k)
  | settle {k : Proc σ α} : KeepsUntil f v q k → KeepsUntil f v q (.settle k)
  | resume {k : Proc σ α} : KeepsUntil f v q k → KeepsUntil f v q (.resume k)
  | spawn {c : Proc σ Unit} {k : Proc σ α} : KeepsUntil f v q k → KeepsUntil f v q (.spawn c k)
  | both {β γ : Type} {p₁ : Proc σ β} {p₂ : Proc σ γ} {k : β × γ → Proc σ α} :
      Keeps f v p₁ → Keeps f v p₂ → (∀ x, KeepsUntil f v q (k x)) →
        KeepsUntil f v q (.both p₁ p₂ k)
  | first {β γ : Type} {p₁ : Proc σ β} {p₂ : Proc σ γ} {k : β ⊕ γ → Proc σ α} :
      Keeps f v p₁ → Keeps f v p₂ → (∀ x, KeepsUntil f v q (k x)) →
        KeepsUntil f v q (.first p₁ p₂ k)
  | loop {β γ : Type} {c : Proc σ (β ⊕ γ)} {b : β → Proc σ (β ⊕ γ)} {k : γ → Proc σ α} :
      Keeps f v c → (∀ x, Keeps f v (b x)) → (∀ y, KeepsUntil f v q (k y)) →
        KeepsUntil f v q (.loop c b k)
  | holding {β : Type} {r : σ → σ} {p : Proc σ β} {k : β → Proc σ α} :
      (∀ s, f s = v → f (r s) = v) → Keeps f v p → (∀ b, KeepsUntil f v q (k b)) →
        KeepsUntil f v q (.holding r p k)

section Building

variable {α β : Type}

theorem Keeps.keepsUntil {p : Proc σ α} (hp : Keeps f v p) (q : Proc σ α) :
    KeepsUntil f v q p := by
  induction hp with
  | pure => exact .pure
  | look _ ih => exact .look fun t s hs => ih t s hs q
  | put hs _ ih => exact .put hs (ih q)
  | wait _ ih => exact .wait (ih q)
  | yield _ ih => exact .yield (ih q)
  | settle _ ih => exact .settle (ih q)
  | resume _ ih => exact .resume (ih q)
  | spawn _ ih => exact .spawn (ih q)
  | both hl hr _ _ _ ih => exact .both hl hr fun x => ih x q
  | first hl hr _ _ _ ih => exact .first hl hr fun x => ih x q
  | loop hc hb _ _ _ ih => exact .loop hc hb fun y => ih y q
  | holding hr hp _ _ ih => exact .holding hr hp fun b => ih b q

theorem Keeps.bind_until {p : Proc σ α} {k : α → Proc σ β} {q : Proc σ β} (hp : Keeps f v p)
    (hk : ∀ a, KeepsUntil f v q (k a)) : KeepsUntil f v q (p >>= k) := by
  induction hp with
  | pure => exact hk _
  | look _ ih => exact .look fun t s hs => ih t s hs hk
  | put hs _ ih => exact .put hs (ih hk)
  | wait _ ih => exact .wait (ih hk)
  | yield _ ih => exact .yield (ih hk)
  | settle _ ih => exact .settle (ih hk)
  | resume _ ih => exact .resume (ih hk)
  | spawn _ ih => exact .spawn (ih hk)
  | both hl hr _ _ _ ih => exact .both hl hr fun x => ih x hk
  | first hl hr _ _ _ ih => exact .first hl hr fun x => ih x hk
  | loop hc hb _ _ _ ih => exact .loop hc hb fun y => ih y hk
  | holding hr hp _ _ ih => exact .holding hr hp fun b => ih b hk

end Building

/-! ## Runs -/

section Runs

variable {R : Nat × σ → Nat × σ → Prop} {α β : Type} {t t₁ : Nat} {s s₁ s₂ : σ}

theorem Keeps.runs (hR : ∀ x y, R x y → f x.2 = f y.2) {p p₁ : Proc σ α} (hp : Keeps f v p)
    (hs : f s = v) (h : Runs R t s p t₁ s₁ p₁) : f s₁ = v ∧ Keeps f v p₁ :=
  hp.reaches hs (h.reaches.mono fun x y hxy => hR x y hxy)

theorem KeepsUntil.turn {q p p' : Proc σ α} (hp : KeepsUntil f v q p) (hs : f s = v)
    (h : Turn t s p s₂ p') : p = q ∨ (f s₂ = v ∧ KeepsUntil f v q p') := by
  cases hp with
  | hole => exact .inl rfl
  | pure => exact absurd h Turn.not_pure
  | look hk => cases h; exact .inr ⟨hs, hk _ _ hs⟩
  | put hs' hk => cases h; exact .inr ⟨hs', hk⟩
  | wait hk => cases h; exact .inr ⟨hs, hk⟩
  | yield hk => cases h; exact .inr ⟨hs, .resume hk⟩
  | settle hk => cases h; exact .inr ⟨hs, .resume hk⟩
  | resume hk => cases h; exact .inr ⟨hs, hk⟩
  | spawn hk => cases h; exact .inr ⟨hs, hk⟩
  | both hl hr hk =>
    cases h with
    | bothLeft h =>
      obtain ⟨hs', hl'⟩ := hl.step hs h.step
      exact .inr ⟨hs', .both hl' hr hk⟩
    | bothRight h =>
      obtain ⟨hs', hr'⟩ := hr.step hs h.step
      exact .inr ⟨hs', .both hl hr' hk⟩
    | bothDone => exact .inr ⟨hs, hk _⟩
  | first hl hr hk =>
    cases h with
    | firstLeft h =>
      obtain ⟨hs', hl'⟩ := hl.step hs h.step
      exact .inr ⟨hs', .first hl' hr hk⟩
    | firstRight _ h =>
      obtain ⟨hs', hr'⟩ := hr.step hs h.step
      exact .inr ⟨hs', .first hl hr' hk⟩
    | firstDoneLeft => exact .inr ⟨hr.release hs, hk _⟩
    | firstDoneRight => exact .inr ⟨hl.release hs, hk _⟩
  | loop hc hb hk =>
    cases h with
    | loopIn h =>
      obtain ⟨hs', hc'⟩ := hc.step hs h.step
      exact .inr ⟨hs', .loop hc' hb hk⟩
    | loopNext => exact .inr ⟨hs, .loop (hb _) hb hk⟩
    | loopDone => exact .inr ⟨hs, hk _⟩
  | holding hr hq hk =>
    cases h with
    | holdIn h =>
      obtain ⟨hs', hq'⟩ := hq.step hs h.step
      exact .inr ⟨hs', .holding hr hq' hk⟩
    | holdDone => exact .inr ⟨hr _ hs, hk _⟩

/-- Among an environment that keeps `f`, a process that keeps `f` until `q` has kept it all
along, or has handed over to `q` where `f` was still `v` and run on from there. -/
theorem KeepsUntil.runs (hR : ∀ x y, R x y → f x.2 = f y.2) {q p p₁ : Proc σ α}
    (hp : KeepsUntil f v q p) (hs : f s = v) (h : Runs R t s p t₁ s₁ p₁) :
    (f s₁ = v ∧ KeepsUntil f v q p₁) ∨
      ∃ t' s', f s' = v ∧ Runs R t s p t' s' q ∧ Runs R t' s' q t₁ s₁ p₁ := by
  induction h with
  | refl => exact .inl ⟨hs, hp⟩
  | step hst hr ih =>
    rcases hp.turn hs hst with rfl | ⟨hs', hp'⟩
    · exact .inr ⟨_, _, hs, .refl, .step hst hr⟩
    · rcases ih hp' hs' with h₁ | ⟨t', s', hv, h₁, h₂⟩
      · exact .inl h₁
      · exact .inr ⟨t', s', hv, .step hst h₁, h₂⟩
  | env hpk hm _ ih =>
    rcases ih hp ((hR _ _ hm).symm.trans hs) with h₁ | ⟨t', s', hv, h₁, h₂⟩
    · exact .inl h₁
    · exact .inr ⟨t', s', hv, .env hpk hm h₁, h₂⟩

/-- A turn that changes `f`, taken after a run of a process that keeps `f` until `q`, is taken
after the run has handed over to `q`. -/
theorem KeepsUntil.runs_turn (hR : ∀ x y, R x y → f x.2 = f y.2) {q p p₁ p₂ : Proc σ α}
    (hp : KeepsUntil f v q p) (hs : f s = v) (h : Runs R t s p t₁ s₁ p₁)
    (ht : Turn t₁ s₁ p₁ s₂ p₂) (hf : f s₂ ≠ f s₁) :
    ∃ t' s', f s' = v ∧ Runs R t s p t' s' q ∧ Runs R t' s' q t₁ s₁ p₁ := by
  rcases hp.runs hR hs h with ⟨hs₁, hp₁⟩ | hq
  · rcases hp₁.turn hs₁ ht with rfl | ⟨hs₂, -⟩
    · exact ⟨t₁, s₁, hs₁, h, .refl⟩
    · exact absurd (hs₂.trans hs₁.symm) hf
  · exact hq

/-- A turn of `p >>= k` that changes `f`, where `p` keeps `f`, is taken after `p` has
finished. -/
theorem Keeps.runs_bind_turn (hR : ∀ x y, R x y → f x.2 = f y.2) {p : Proc σ α}
    {k : α → Proc σ β} {q q' : Proc σ β} (hp : Keeps f v p) (hs : f s = v)
    (h : Runs R t s (p >>= k) t₁ s₁ q) (ht : Turn t₁ s₁ q s₂ q') (hf : f s₂ ≠ f s₁) :
    ∃ t' s' a, f s' = v ∧ Finishes R t s p t' s' a ∧ Runs R t' s' (k a) t₁ s₁ q := by
  rcases Runs.of_bind h with ⟨p', h₁, hres, rfl⟩ | ⟨t', s', a, h₁, h₂⟩
  · -- still within `p`: the turn is one of `p`, and keeps `f`
    obtain ⟨hs₁, hp'⟩ := hp.runs hR hs h₁
    rcases Turn.of_bind ht with ⟨a, rfl, -⟩ | ⟨p'', ht', -⟩
    · cases hres
    · exact absurd ((hp'.step hs₁ ht'.step).1.trans hs₁.symm) hf
  · exact ⟨t', s', a, (hp.runs hR hs h₁).1, h₁, h₂⟩

end Runs

end Proc

end BrokerSession
