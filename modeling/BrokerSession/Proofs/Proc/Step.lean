import BrokerSession.Proc.Basic
import Mathlib.Logic.Relation

/-!
# Runs of a process among others

`Proc.poll` is how the scheduler runs a process; this module gives the same processes a
relational semantics that proofs can take apart. `Step t s p s' p'` is one node of `p` run at
time `t`, taking the world from `s` to `s'`. The parts of `both` and `first` take their steps
in any order, and a parked `wait` goes on once its wake holds.

Everything else that shares the world (other processes, the passing of time) is the
*environment*. `Reaches R` interleaves the process's own steps with moves of the environment,
each of which changes the clock and the world as the relation `R` allows: with `R` always true
the environment may do anything, and a narrower `R` says what the other processes are known to
leave alone. `Returns R t s p t' s' a` is a run that finishes with `a`.

The main statement is the decomposition of sequencing (`returns_bind_iff`): a run of `p >>= f`
is a run of `p` followed by a run of `f` on its value. Every other law of a process built with
`do` is derived from it and from the laws of the nodes.
-/

namespace BrokerSession

namespace Proc

variable {σ : Type}

/-- One step of a process at time `t`, taking the world from `s` to `s'`. -/
inductive Step (t : Nat) : {α : Type} → σ → Proc σ α → σ → Proc σ α → Prop
  | look {α : Type} {s : σ} {k : Nat → σ → Proc σ α} : Step t s (.look k) s (k t s)
  | put {α : Type} {s s' : σ} {k : Proc σ α} : Step t s (.put s' k) s' k
  | wait {α : Type} {s : σ} {w : Wake σ} {k : Proc σ α} :
      w.due t s = true → Step t s (.wait w k) s k
  | yield {α : Type} {s : σ} {k : Proc σ α} : Step t s (.yield k) s (.resume k)
  | settle {α : Type} {s : σ} {k : Proc σ α} : Step t s (.settle k) s (.resume k)
  | resume {α : Type} {s : σ} {k : Proc σ α} : Step t s (.resume k) s k
  | spawn {α : Type} {s : σ} {c : Proc σ Unit} {k : Proc σ α} : Step t s (.spawn c k) s k
  | bothLeft {α β γ : Type} {s s' : σ} {p p' : Proc σ β} {q : Proc σ γ}
      {k : β × γ → Proc σ α} :
      Step t s p s' p' → Step t s (.both p q k) s' (.both p' q k)
  | bothRight {α β γ : Type} {s s' : σ} {p : Proc σ β} {q q' : Proc σ γ}
      {k : β × γ → Proc σ α} :
      Step t s q s' q' → Step t s (.both p q k) s' (.both p q' k)
  | bothDone {α β γ : Type} {s : σ} {b : β} {c : γ} {k : β × γ → Proc σ α} :
      Step t s (.both (.pure b) (.pure c) k) s (k (b, c))
  | firstLeft {α β γ : Type} {s s' : σ} {p p' : Proc σ β} {q : Proc σ γ}
      {k : β ⊕ γ → Proc σ α} :
      Step t s p s' p' → Step t s (.first p q k) s' (.first p' q k)
  | firstRight {α β γ : Type} {s s' : σ} {p : Proc σ β} {q q' : Proc σ γ}
      {k : β ⊕ γ → Proc σ α} :
      Step t s q s' q' → Step t s (.first p q k) s' (.first p q' k)
  | firstDoneLeft {α β γ : Type} {s : σ} {b : β} {q : Proc σ γ} {k : β ⊕ γ → Proc σ α} :
      Step t s (.first (.pure b) q k) (q.release s) (k (.inl b))
  | firstDoneRight {α β γ : Type} {s : σ} {p : Proc σ β} {c : γ} {k : β ⊕ γ → Proc σ α} :
      p.result? = none → Step t s (.first p (.pure c) k) (p.release s) (k (.inr c))
  | loopIn {α β γ : Type} {s s' : σ} {c c' : Proc σ (β ⊕ γ)} {b : β → Proc σ (β ⊕ γ)}
      {k : γ → Proc σ α} :
      Step t s c s' c' → Step t s (.loop c b k) s' (.loop c' b k)
  | loopNext {α β γ : Type} {s : σ} {x : β} {b : β → Proc σ (β ⊕ γ)} {k : γ → Proc σ α} :
      Step t s (.loop (.pure (.inl x)) b k) s (.loop (b x) b k)
  | loopDone {α β γ : Type} {s : σ} {y : γ} {b : β → Proc σ (β ⊕ γ)} {k : γ → Proc σ α} :
      Step t s (.loop (.pure (.inr y)) b k) s (k y)
  | holdIn {α β : Type} {s s' : σ} {r : σ → σ} {p p' : Proc σ β} {k : β → Proc σ α} :
      Step t s p s' p' → Step t s (.holding r p k) s' (.holding r p' k)
  | holdDone {α β : Type} {s : σ} {r : σ → σ} {b : β} {k : β → Proc σ α} :
      Step t s (.holding r (.pure b) k) (r s) (k b)

/-- A run of a process: its own steps, with moves of the environment between them, each
taking the clock and the world from one pair to another that `R` relates. -/
inductive Reaches (R : Nat × σ → Nat × σ → Prop) {α : Type} :
    Nat → σ → Proc σ α → Nat → σ → Proc σ α → Prop
  | refl {t : Nat} {s : σ} {p : Proc σ α} : Reaches R t s p t s p
  | step {t t' : Nat} {s s₁ s' : σ} {p p₁ q : Proc σ α} :
      Step t s p s₁ p₁ → Reaches R t s₁ p₁ t' s' q → Reaches R t s p t' s' q
  | env {t t₁ t' : Nat} {s s₁ s' : σ} {p q : Proc σ α} :
      R (t, s) (t₁, s₁) → Reaches R t₁ s₁ p t' s' q → Reaches R t s p t' s' q

/-- A run of `p` that finishes with `a`, at time `t'` in world `s'`. -/
def Returns (R : Nat × σ → Nat × σ → Prop) {α : Type} (t : Nat) (s : σ) (p : Proc σ α)
    (t' : Nat) (s' : σ) (a : α) : Prop :=
  Reaches R t s p t' s' (.pure a)

/-! ## Sequencing -/

section Bind

variable {α β : Type}

@[simp] theorem bind_eq (p : Proc σ α) (f : α → Proc σ β) : p >>= f = p.bind f := rfl

@[simp] theorem pure_eq (a : α) : (Pure.pure a : Proc σ α) = .pure a := rfl

@[simp] theorem pure_bind (a : α) (f : α → Proc σ β) : (Proc.pure a).bind f = f a := rfl

theorem bind_eq_pure {p : Proc σ α} {f : α → Proc σ β} {b : β} (h : p.bind f = .pure b) :
    ∃ a, p = .pure a ∧ f a = .pure b := by
  cases p with
  | pure a => exact ⟨a, rfl, h⟩
  | _ => cases h

theorem Step.bind {t : Nat} {s s' : σ} {p p' : Proc σ α} (h : Step t s p s' p')
    (f : α → Proc σ β) : Step t s (p.bind f) s' (p'.bind f) := by
  cases h with
  | look => exact .look
  | put => exact .put
  | wait hd => exact .wait hd
  | yield => exact .yield
  | settle => exact .settle
  | resume => exact .resume
  | spawn => exact .spawn
  | bothLeft h => exact .bothLeft h
  | bothRight h => exact .bothRight h
  | bothDone => exact .bothDone
  | firstLeft h => exact .firstLeft h
  | firstRight h => exact .firstRight h
  | firstDoneLeft => exact .firstDoneLeft
  | firstDoneRight hp => exact .firstDoneRight hp
  | loopIn h => exact .loopIn h
  | loopNext => exact .loopNext
  | loopDone => exact .loopDone
  | holdIn h => exact .holdIn h
  | holdDone => exact .holdDone

theorem Step.of_bind {t : Nat} {s s' : σ} {p : Proc σ α} {f : α → Proc σ β} {q : Proc σ β}
    (h : Step t s (p.bind f) s' q) :
    (∃ a, p = .pure a ∧ Step t s (f a) s' q) ∨ ∃ p', Step t s p s' p' ∧ q = p'.bind f := by
  cases p with
  | pure a => exact .inl ⟨a, rfl, h⟩
  | look k => cases h with | look => exact .inr ⟨_, .look, rfl⟩
  | put s₀ k => cases h with | put => exact .inr ⟨_, .put, rfl⟩
  | wait w k => cases h with | wait hd => exact .inr ⟨_, .wait hd, rfl⟩
  | yield k => cases h with | yield => exact .inr ⟨_, .yield, rfl⟩
  | settle k => cases h with | settle => exact .inr ⟨_, .settle, rfl⟩
  | resume k => cases h with | resume => exact .inr ⟨_, .resume, rfl⟩
  | spawn c k => cases h with | spawn => exact .inr ⟨_, .spawn, rfl⟩
  | both p q k =>
    cases h with
    | bothLeft h => exact .inr ⟨_, .bothLeft h, rfl⟩
    | bothRight h => exact .inr ⟨_, .bothRight h, rfl⟩
    | bothDone => exact .inr ⟨_, .bothDone, rfl⟩
  | first p q k =>
    cases h with
    | firstLeft h => exact .inr ⟨_, .firstLeft h, rfl⟩
    | firstRight h => exact .inr ⟨_, .firstRight h, rfl⟩
    | firstDoneLeft => exact .inr ⟨_, .firstDoneLeft, rfl⟩
    | firstDoneRight hp => exact .inr ⟨_, .firstDoneRight hp, rfl⟩
  | loop c b k =>
    cases h with
    | loopIn h => exact .inr ⟨_, .loopIn h, rfl⟩
    | loopNext => exact .inr ⟨_, .loopNext, rfl⟩
    | loopDone => exact .inr ⟨_, .loopDone, rfl⟩
  | holding r p k =>
    cases h with
    | holdIn h => exact .inr ⟨_, .holdIn h, rfl⟩
    | holdDone => exact .inr ⟨_, .holdDone, rfl⟩

end Bind

/-! ## Runs -/

section Runs

variable {R : Nat × σ → Nat × σ → Prop} {α β : Type}

theorem Reaches.trans {t₁ t₂ t₃ : Nat} {s₁ s₂ s₃ : σ} {p₁ p₂ p₃ : Proc σ α}
    (h₁ : Reaches R t₁ s₁ p₁ t₂ s₂ p₂) (h₂ : Reaches R t₂ s₂ p₂ t₃ s₃ p₃) :
    Reaches R t₁ s₁ p₁ t₃ s₃ p₃ := by
  induction h₁ with
  | refl => exact h₂
  | step hs _ ih => exact .step hs (ih h₂)
  | env hr _ ih => exact .env hr (ih h₂)

theorem Reaches.mono {R' : Nat × σ → Nat × σ → Prop} (hR : ∀ x y, R x y → R' x y)
    {t t' : Nat} {s s' : σ} {p q : Proc σ α} (h : Reaches R t s p t' s' q) :
    Reaches R' t s p t' s' q := by
  induction h with
  | refl => exact .refl
  | step hs _ ih => exact .step hs ih
  | env hr _ ih => exact .env (hR _ _ hr) ih

theorem Reaches.single {t : Nat} {s s' : σ} {p p' : Proc σ α} (h : Step t s p s' p') :
    Reaches R t s p t s' p' :=
  .step h .refl

theorem Reaches.moves {x y : Nat × σ} {p : Proc σ α} (h : Relation.ReflTransGen R x y) :
    Reaches R x.1 x.2 p y.1 y.2 p := by
  induction h using Relation.ReflTransGen.head_induction_on with
  | refl => exact .refl
  | head hr _ ih => exact .env hr ih

theorem Reaches.bind {t t' : Nat} {s s' : σ} {p q : Proc σ α}
    (h : Reaches R t s p t' s' q) (f : α → Proc σ β) :
    Reaches R t s (p.bind f) t' s' (q.bind f) := by
  induction h with
  | refl => exact .refl
  | step hs _ ih => exact .step (hs.bind f) ih
  | env hr _ ih => exact .env hr ih

theorem Returns.bind {t t' t'' : Nat} {s s' s'' : σ} {p : Proc σ α} {f : α → Proc σ β}
    {a : α} {b : β} (h₁ : Returns R t s p t' s' a) (h₂ : Returns R t' s' (f a) t'' s'' b) :
    Returns R t s (p.bind f) t'' s'' b :=
  (Reaches.bind h₁ f).trans h₂

theorem Returns.of_bind {t t'' : Nat} {s s'' : σ} {p : Proc σ α} {f : α → Proc σ β} {b : β}
    (h : Returns R t s (p.bind f) t'' s'' b) :
    ∃ t' s' a, Returns R t s p t' s' a ∧ Returns R t' s' (f a) t'' s'' b := by
  unfold Returns at h
  generalize hq : p.bind f = q at h
  generalize hb : Proc.pure b = r at h
  induction h generalizing p with
  | refl =>
    subst hb
    obtain ⟨a, rfl, hf⟩ := bind_eq_pure hq
    exact ⟨_, _, a, .refl, hf ▸ .refl⟩
  | step hs hr ih =>
    subst hq
    subst hb
    rcases Step.of_bind hs with ⟨a, rfl, hf⟩ | ⟨p', hp, rfl⟩
    · exact ⟨_, _, a, .refl, .step hf hr⟩
    · obtain ⟨t', s', a, h₁, h₂⟩ := ih rfl rfl
      exact ⟨t', s', a, .step hp h₁, h₂⟩
  | env hr' _ ih =>
    obtain ⟨t', s', a, h₁, h₂⟩ := ih hq hb
    exact ⟨t', s', a, .env hr' h₁, h₂⟩

theorem returns_bind_iff {t t'' : Nat} {s s'' : σ} {p : Proc σ α} {f : α → Proc σ β}
    {b : β} :
    Returns R t s (p >>= f) t'' s'' b ↔
      ∃ t' s' a, Returns R t s p t' s' a ∧ Returns R t' s' (f a) t'' s'' b :=
  ⟨Returns.of_bind, fun ⟨_, _, _, h₁, h₂⟩ => h₁.bind h₂⟩

/-! ## Runs inside a held resource and a race -/

theorem Reaches.holding_in {t t' : Nat} {s s' : σ} {r : σ → σ} {p p' : Proc σ α}
    (h : Reaches R t s p t' s' p') (k : α → Proc σ β) :
    Reaches R t s (.holding r p k) t' s' (.holding r p' k) := by
  induction h with
  | refl => exact .refl
  | step hs _ ih => exact .step (.holdIn hs) ih
  | env hr _ ih => exact .env hr ih

theorem Returns.holding {t t' t'' : Nat} {s s' s'' : σ} {r : σ → σ} {p : Proc σ α}
    {k : α → Proc σ β} {a : α} {b : β} (h₁ : Returns R t s p t' s' a)
    (h₂ : Returns R t' (r s') (k a) t'' s'' b) : Returns R t s (.holding r p k) t'' s'' b :=
  (Reaches.holding_in h₁ k).trans (.step .holdDone h₂)

theorem Reaches.first_left {γ : Type} {t t' : Nat} {s s' : σ} {p p' : Proc σ α}
    {q : Proc σ γ} {k : α ⊕ γ → Proc σ β} (h : Reaches R t s p t' s' p') :
    Reaches R t s (.first p q k) t' s' (.first p' q k) := by
  induction h with
  | refl => exact .refl
  | step hs _ ih => exact .step (.firstLeft hs) ih
  | env hr _ ih => exact .env hr ih

/-- A race whose left part runs to its end before the right part moves: the right part is
dropped there, and the rest runs on the left part's value. -/
theorem Returns.first_left {γ : Type} {t t' t'' : Nat} {s s' s'' : σ} {p : Proc σ α}
    {q : Proc σ γ} {k : α ⊕ γ → Proc σ β} {a : α} {b : β} (h₁ : Returns R t s p t' s' a)
    (h₂ : Returns R t' (q.release s') (k (.inl a)) t'' s'' b) :
    Returns R t s (.first p q k) t'' s'' b :=
  (Reaches.first_left h₁).trans (.step .firstDoneLeft h₂)

theorem Step.not_pure {t : Nat} {s s' : σ} {a : α} {q : Proc σ α} :
    ¬ Step t s (.pure a) s' q := nofun

theorem reaches_pure_iff {t t' : Nat} {s s' : σ} {a : α} {q : Proc σ α} :
    Reaches R t s (.pure a) t' s' q ↔ q = .pure a ∧ Relation.ReflTransGen R (t, s) (t', s') := by
  constructor
  · intro h
    suffices ∀ {p}, Reaches R t s p t' s' q → p = .pure a →
        q = .pure a ∧ Relation.ReflTransGen R (t, s) (t', s') from this h rfl
    clear h
    intro p h
    induction h with
    | refl => exact fun hp => ⟨hp, .refl⟩
    | step hs _ _ => rintro rfl; exact absurd hs Step.not_pure
    | env hr _ ih => exact fun hp => (ih hp).imp_right (.head hr)
  · rintro ⟨rfl, hm⟩
    exact Reaches.moves hm

theorem returns_pure_iff {t t' : Nat} {s s' : σ} {a b : α} :
    Returns R t s (.pure a) t' s' b ↔ b = a ∧ Relation.ReflTransGen R (t, s) (t', s') := by
  rw [Returns, reaches_pure_iff, Proc.pure.injEq]

theorem Reaches.first_step {t t'' : Nat} {s s'' : σ} {p q : Proc σ α}
    (h : Reaches R t s p t'' s'' q) (hp : p ≠ q) :
    ∃ t' s' s₁ p₁, Relation.ReflTransGen R (t, s) (t', s') ∧ Step t' s' p s₁ p₁ ∧
      Reaches R t' s₁ p₁ t'' s'' q := by
  induction h with
  | refl => exact absurd rfl hp
  | step hs hr _ => exact ⟨_, _, _, _, .refl, hs, hr⟩
  | env hr' _ ih =>
    obtain ⟨t', s', s₁, p₁, hm, hs, hr⟩ := ih hp
    exact ⟨t', s', s₁, p₁, .head hr' hm, hs, hr⟩

/-- A finished run of a process that has not finished: moves of the environment, one step,
and a finished run from there. -/
theorem returns_iff_step {t t'' : Nat} {s s'' : σ} {p : Proc σ α} {b : α}
    (hp : p.result? = none) :
    Returns R t s p t'' s'' b ↔
      ∃ t' s' s₁ p₁, Relation.ReflTransGen R (t, s) (t', s') ∧ Step t' s' p s₁ p₁ ∧
        Returns R t' s₁ p₁ t'' s'' b := by
  constructor
  · intro h
    refine h.first_step ?_
    rintro rfl
    cases hp
  · rintro ⟨t', s', s₁, p₁, hm, hs, hr⟩
    exact (Reaches.moves hm).trans (.step hs hr)

/-! ## The nodes -/

theorem returns_look_iff {t t'' : Nat} {s s'' : σ} {k : Nat → σ → Proc σ α} {b : α} :
    Returns R t s (.look k) t'' s'' b ↔
      ∃ t' s', Relation.ReflTransGen R (t, s) (t', s') ∧ Returns R t' s' (k t' s') t'' s'' b := by
  rw [returns_iff_step rfl]
  constructor
  · rintro ⟨t', s', _, _, hm, ⟨⟩, hr⟩
    exact ⟨t', s', hm, hr⟩
  · rintro ⟨t', s', hm, hr⟩
    exact ⟨t', s', _, _, hm, .look, hr⟩

theorem returns_put_iff {t t'' : Nat} {s s₀ s'' : σ} {k : Proc σ α} {b : α} :
    Returns R t s (.put s₀ k) t'' s'' b ↔
      ∃ t' s', Relation.ReflTransGen R (t, s) (t', s') ∧ Returns R t' s₀ k t'' s'' b := by
  rw [returns_iff_step rfl]
  constructor
  · rintro ⟨t', s', _, _, hm, ⟨⟩, hr⟩
    exact ⟨t', s', hm, hr⟩
  · rintro ⟨t', s', hm, hr⟩
    exact ⟨t', s', _, _, hm, .put, hr⟩

theorem returns_wait_iff {t t'' : Nat} {s s'' : σ} {w : Wake σ} {k : Proc σ α} {b : α} :
    Returns R t s (.wait w k) t'' s'' b ↔
      ∃ t' s', Relation.ReflTransGen R (t, s) (t', s') ∧ w.due t' s' = true ∧
        Returns R t' s' k t'' s'' b := by
  rw [returns_iff_step rfl]
  constructor
  · rintro ⟨t', s', _, _, hm, hs, hr⟩
    cases hs with | wait hd => exact ⟨t', s', hm, hd, hr⟩
  · rintro ⟨t', s', hm, hd, hr⟩
    exact ⟨t', s', _, _, hm, .wait hd, hr⟩

theorem returns_spawn_iff {t t'' : Nat} {s s'' : σ} {c : Proc σ Unit} {k : Proc σ α} {b : α} :
    Returns R t s (.spawn c k) t'' s'' b ↔
      ∃ t' s', Relation.ReflTransGen R (t, s) (t', s') ∧ Returns R t' s' k t'' s'' b := by
  rw [returns_iff_step rfl]
  constructor
  · rintro ⟨t', s', _, _, hm, ⟨⟩, hr⟩
    exact ⟨t', s', hm, hr⟩
  · rintro ⟨t', s', hm, hr⟩
    exact ⟨t', s', _, _, hm, .spawn, hr⟩

theorem due_empty (t : Nat) (s : σ) : (({} : Wake σ).due t s) = false := rfl

theorem not_returns_never {t t' : Nat} {s s' : σ} {b : α} : ¬ Returns R t s never t' s' b := by
  rw [returns_iff_step rfl]
  rintro ⟨_, _, _, _, _, hs, _⟩
  cases hs with | loopIn hs => cases hs with | wait hd => exact absurd hd (by simp [due_empty])

end Runs

end Proc

end BrokerSession
