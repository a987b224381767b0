import BrokerSession.Proofs.Proc.Keeping

/-!
# Runs that are interrupted only where the process parks

The scheduler runs a process until each of its parts is parked or it has finished, and only
then lets anything else run: between two park points a process is never interrupted. Within a
race it polls the left part first, until that part parks, and only then the right part. `Step`
and `Reaches` forget both disciplines. That is sound, but some facts need them: a race whose
right part takes a message from a queue is decided for that part before anything else can
happen, and the left part cannot write back a world it read before the message was taken, so
the message is neither lost nor taken twice.

`Turn` is `Step` with the right part of a race moving only while the left part is `Blocked`:
standing at a wait or having given way. `Runs R` interleaves turns with moves of the
environment as `R` allows, made only while the process is `Parked`: blocked, with no wake that
holds. A race with a finished part is never parked; it is decided at once.

Every such run is a `Reaches` run (`Runs.reaches`), so frames proved by `Keeps` hold here as
well. The laws of this module are the ones the disciplines change: sequencing
(`finishes_bind_iff`), reads that see exactly what the last step left (`finishes_look_iff`), the
environment choosing only at a wait (`finishes_wait_iff`), loops and held resources, which run
like sequencing, and races, decided where an invariant of their two parts holds
(`Finishes.first_invariant`).
-/

namespace BrokerSession

namespace Proc

variable {σ ω : Type}

/-- The process stands at a wait or has just given way, and so does every part of it that has
not finished: a poll of it stops here, unless a wake holds. -/
inductive Blocked : {α : Type} → Proc σ α → Prop
  | wait {α : Type} {w : Wake σ} {k : Proc σ α} : Blocked (.wait w k)
  | resume {α : Type} {k : Proc σ α} : Blocked (.resume k)
  | both {α β γ : Type} {p : Proc σ β} {q : Proc σ γ} {k : β × γ → Proc σ α} :
      Blocked p → Blocked q → Blocked (.both p q k)
  | bothLeft {α β γ : Type} {p : Proc σ β} {c : γ} {k : β × γ → Proc σ α} :
      Blocked p → Blocked (.both p (.pure c) k)
  | bothRight {α β γ : Type} {b : β} {q : Proc σ γ} {k : β × γ → Proc σ α} :
      Blocked q → Blocked (.both (.pure b) q k)
  | first {α β γ : Type} {p : Proc σ β} {q : Proc σ γ} {k : β ⊕ γ → Proc σ α} :
      Blocked p → Blocked q → Blocked (.first p q k)
  | loop {α β γ : Type} {c : Proc σ (β ⊕ γ)} {b : β → Proc σ (β ⊕ γ)} {k : γ → Proc σ α} :
      Blocked c → Blocked (.loop c b k)
  | holding {α β : Type} {r : σ → σ} {p : Proc σ β} {k : β → Proc σ α} :
      Blocked p → Blocked (.holding r p k)

/-- One step the scheduler may take at time `t`: a `Step` in which the right part of a race
moves only while its left part is blocked. -/
inductive Turn (t : Nat) : {α : Type} → σ → Proc σ α → σ → Proc σ α → Prop
  | look {α : Type} {s : σ} {k : Nat → σ → Proc σ α} : Turn t s (.look k) s (k t s)
  | put {α : Type} {s s' : σ} {k : Proc σ α} : Turn t s (.put s' k) s' k
  | wait {α : Type} {s : σ} {w : Wake σ} {k : Proc σ α} :
      w.due t s = true → Turn t s (.wait w k) s k
  | yield {α : Type} {s : σ} {k : Proc σ α} : Turn t s (.yield k) s (.resume k)
  | settle {α : Type} {s : σ} {k : Proc σ α} : Turn t s (.settle k) s (.resume k)
  | resume {α : Type} {s : σ} {k : Proc σ α} : Turn t s (.resume k) s k
  | spawn {α : Type} {s : σ} {c : Proc σ Unit} {k : Proc σ α} : Turn t s (.spawn c k) s k
  | bothLeft {α β γ : Type} {s s' : σ} {p p' : Proc σ β} {q : Proc σ γ}
      {k : β × γ → Proc σ α} :
      Turn t s p s' p' → Turn t s (.both p q k) s' (.both p' q k)
  | bothRight {α β γ : Type} {s s' : σ} {p : Proc σ β} {q q' : Proc σ γ}
      {k : β × γ → Proc σ α} :
      Turn t s q s' q' → Turn t s (.both p q k) s' (.both p q' k)
  | bothDone {α β γ : Type} {s : σ} {b : β} {c : γ} {k : β × γ → Proc σ α} :
      Turn t s (.both (.pure b) (.pure c) k) s (k (b, c))
  | firstLeft {α β γ : Type} {s s' : σ} {p p' : Proc σ β} {q : Proc σ γ}
      {k : β ⊕ γ → Proc σ α} :
      Turn t s p s' p' → Turn t s (.first p q k) s' (.first p' q k)
  | firstRight {α β γ : Type} {s s' : σ} {p : Proc σ β} {q q' : Proc σ γ}
      {k : β ⊕ γ → Proc σ α} :
      Blocked p → Turn t s q s' q' → Turn t s (.first p q k) s' (.first p q' k)
  | firstDoneLeft {α β γ : Type} {s : σ} {b : β} {q : Proc σ γ} {k : β ⊕ γ → Proc σ α} :
      Turn t s (.first (.pure b) q k) (q.release s) (k (.inl b))
  | firstDoneRight {α β γ : Type} {s : σ} {p : Proc σ β} {c : γ} {k : β ⊕ γ → Proc σ α} :
      p.result? = none → Turn t s (.first p (.pure c) k) (p.release s) (k (.inr c))
  | loopIn {α β γ : Type} {s s' : σ} {c c' : Proc σ (β ⊕ γ)} {b : β → Proc σ (β ⊕ γ)}
      {k : γ → Proc σ α} :
      Turn t s c s' c' → Turn t s (.loop c b k) s' (.loop c' b k)
  | loopNext {α β γ : Type} {s : σ} {x : β} {b : β → Proc σ (β ⊕ γ)} {k : γ → Proc σ α} :
      Turn t s (.loop (.pure (.inl x)) b k) s (.loop (b x) b k)
  | loopDone {α β γ : Type} {s : σ} {y : γ} {b : β → Proc σ (β ⊕ γ)} {k : γ → Proc σ α} :
      Turn t s (.loop (.pure (.inr y)) b k) s (k y)
  | holdIn {α β : Type} {s s' : σ} {r : σ → σ} {p p' : Proc σ β} {k : β → Proc σ α} :
      Turn t s p s' p' → Turn t s (.holding r p k) s' (.holding r p' k)
  | holdDone {α β : Type} {s : σ} {r : σ → σ} {b : β} {k : β → Proc σ α} :
      Turn t s (.holding r (.pure b) k) (r s) (k b)

/-- The process cannot go on before something else happens at time `t` in world `s`: it waits
on a wake that does not hold or has just given way, and so has every part of it that has not
finished. -/
inductive Parked (t : Nat) (s : σ) : {α : Type} → Proc σ α → Prop
  | wait {α : Type} {w : Wake σ} {k : Proc σ α} : w.due t s = false → Parked t s (.wait w k)
  | resume {α : Type} {k : Proc σ α} : Parked t s (.resume k)
  | both {α β γ : Type} {p : Proc σ β} {q : Proc σ γ} {k : β × γ → Proc σ α} :
      Parked t s p → Parked t s q → Parked t s (.both p q k)
  | bothLeft {α β γ : Type} {p : Proc σ β} {c : γ} {k : β × γ → Proc σ α} :
      Parked t s p → Parked t s (.both p (.pure c) k)
  | bothRight {α β γ : Type} {b : β} {q : Proc σ γ} {k : β × γ → Proc σ α} :
      Parked t s q → Parked t s (.both (.pure b) q k)
  | first {α β γ : Type} {p : Proc σ β} {q : Proc σ γ} {k : β ⊕ γ → Proc σ α} :
      Parked t s p → Parked t s q → Parked t s (.first p q k)
  | loop {α β γ : Type} {c : Proc σ (β ⊕ γ)} {b : β → Proc σ (β ⊕ γ)} {k : γ → Proc σ α} :
      Parked t s c → Parked t s (.loop c b k)
  | holding {α β : Type} {r : σ → σ} {p : Proc σ β} {k : β → Proc σ α} :
      Parked t s p → Parked t s (.holding r p k)

/-! ## Turns -/

section Turns

variable {α β : Type} {t : Nat} {s s' : σ}

theorem Turn.step {p p' : Proc σ α} (h : Turn t s p s' p') : Step t s p s' p' := by
  induction h with
  | look => exact .look
  | put => exact .put
  | wait hd => exact .wait hd
  | yield => exact .yield
  | settle => exact .settle
  | resume => exact .resume
  | spawn => exact .spawn
  | bothLeft _ ih => exact .bothLeft ih
  | bothRight _ ih => exact .bothRight ih
  | bothDone => exact .bothDone
  | firstLeft _ ih => exact .firstLeft ih
  | firstRight _ _ ih => exact .firstRight ih
  | firstDoneLeft => exact .firstDoneLeft
  | firstDoneRight hp => exact .firstDoneRight hp
  | loopIn _ ih => exact .loopIn ih
  | loopNext => exact .loopNext
  | loopDone => exact .loopDone
  | holdIn _ ih => exact .holdIn ih
  | holdDone => exact .holdDone

theorem Turn.not_pure {a : α} {q : Proc σ α} : ¬ Turn t s (.pure a) s' q := nofun

theorem Turn.bind {p p' : Proc σ α} (h : Turn t s p s' p') (f : α → Proc σ β) :
    Turn t s (p.bind f) s' (p'.bind f) := by
  cases h with
  | look => exact .look
  | put => exact .put
  | wait hd => exact .wait hd
  | yield => exact .yield
  | settle => exact .settle
  | resume => exact .resume
  | spawn => exact .spawn
  | bothLeft h => exact .bothLeft h
  | bothRight h => exact .bothRight h
  | bothDone => exact .bothDone
  | firstLeft h => exact .firstLeft h
  | firstRight hb h => exact .firstRight hb h
  | firstDoneLeft => exact .firstDoneLeft
  | firstDoneRight hp => exact .firstDoneRight hp
  | loopIn h => exact .loopIn h
  | loopNext => exact .loopNext
  | loopDone => exact .loopDone
  | holdIn h => exact .holdIn h
  | holdDone => exact .holdDone

theorem Turn.of_bind {p : Proc σ α} {f : α → Proc σ β} {q : Proc σ β}
    (h : Turn t s (p.bind f) s' q) :
    (∃ a, p = .pure a ∧ Turn t s (f a) s' q) ∨ ∃ p', Turn t s p s' p' ∧ q = p'.bind f := by
  cases p with
  | pure a => exact .inl ⟨a, rfl, h⟩
  | look k => cases h with | look => exact .inr ⟨_, .look, rfl⟩
  | put s₀ k => cases h with | put => exact .inr ⟨_, .put, rfl⟩
  | wait w k => cases h with | wait hd => exact .inr ⟨_, .wait hd, rfl⟩
  | yield k => cases h with | yield => exact .inr ⟨_, .yield, rfl⟩
  | settle k => cases h with | settle => exact .inr ⟨_, .settle, rfl⟩
  | resume k => cases h with | resume => exact .inr ⟨_, .resume, rfl⟩
  | spawn c k => cases h with | spawn => exact .inr ⟨_, .spawn, rfl⟩
  | both p q k =>
    cases h with
    | bothLeft h => exact .inr ⟨_, .bothLeft h, rfl⟩
    | bothRight h => exact .inr ⟨_, .bothRight h, rfl⟩
    | bothDone => exact .inr ⟨_, .bothDone, rfl⟩
  | first p q k =>
    cases h with
    | firstLeft h => exact .inr ⟨_, .firstLeft h, rfl⟩
    | firstRight hb h => exact .inr ⟨_, .firstRight hb h, rfl⟩
    | firstDoneLeft => exact .inr ⟨_, .firstDoneLeft, rfl⟩
    | firstDoneRight hp => exact .inr ⟨_, .firstDoneRight hp, rfl⟩
  | loop c b k =>
    cases h with
    | loopIn h => exact .inr ⟨_, .loopIn h, rfl⟩
    | loopNext => exact .inr ⟨_, .loopNext, rfl⟩
    | loopDone => exact .inr ⟨_, .loopDone, rfl⟩
  | holding r p k =>
    cases h with
    | holdIn h => exact .inr ⟨_, .holdIn h, rfl⟩
    | holdDone => exact .inr ⟨_, .holdDone, rfl⟩

theorem turn_look_iff {k : Nat → σ → Proc σ α} {q : Proc σ α} :
    Turn t s (.look k) s' q ↔ s' = s ∧ q = k t s :=
  ⟨fun h => by cases h; exact ⟨rfl, rfl⟩, by rintro ⟨rfl, rfl⟩; exact .look⟩

theorem turn_put_iff {x : σ} {k q : Proc σ α} : Turn t s (.put x k) s' q ↔ s' = x ∧ q = k :=
  ⟨fun h => by cases h; exact ⟨rfl, rfl⟩, by rintro ⟨rfl, rfl⟩; exact .put⟩

theorem turn_wait_iff {w : Wake σ} {k q : Proc σ α} :
    Turn t s (.wait w k) s' q ↔ w.due t s = true ∧ s' = s ∧ q = k :=
  ⟨fun h => by cases h with | wait hd => exact ⟨hd, rfl, rfl⟩,
    by rintro ⟨hd, rfl, rfl⟩; exact .wait hd⟩

end Turns

/-- A run of a process among others: its own steps, and moves of the environment as `R`
allows, made only while the process is parked. -/
inductive Runs (R : Nat × σ → Nat × σ → Prop) {α : Type} :
    Nat → σ → Proc σ α → Nat → σ → Proc σ α → Prop
  | refl {t : Nat} {s : σ} {p : Proc σ α} : Runs R t s p t s p
  | step {t t' : Nat} {s s₁ s' : σ} {p p₁ q : Proc σ α} :
      Turn t s p s₁ p₁ → Runs R t s₁ p₁ t' s' q → Runs R t s p t' s' q
  | env {t t₁ t' : Nat} {s s₁ s' : σ} {p q : Proc σ α} :
      Parked t s p → R (t, s) (t₁, s₁) → Runs R t₁ s₁ p t' s' q → Runs R t s p t' s' q

/-- A run of `p` that finishes with `a`, at time `t'` in world `s'`. -/
def Finishes (R : Nat × σ → Nat × σ → Prop) {α : Type} (t : Nat) (s : σ) (p : Proc σ α)
    (t' : Nat) (s' : σ) (a : α) : Prop :=
  Runs R t s p t' s' (.pure a)

/-- A run like `Runs` that lists what the environment did: `E x y l` lets the environment move
from `x` to `y` doing `l`, and the run gathers what its moves did, in order. -/
inductive RunsWith {ℓ : Type} (E : Nat × σ → Nat × σ → List ℓ → Prop) {α : Type} :
    Nat → σ → Proc σ α → List ℓ → Nat → σ → Proc σ α → Prop
  | refl {t : Nat} {s : σ} {p : Proc σ α} : RunsWith E t s p [] t s p
  | step {t t' : Nat} {s s₁ s' : σ} {p p₁ q : Proc σ α} {ls : List ℓ} :
      Turn t s p s₁ p₁ → RunsWith E t s₁ p₁ ls t' s' q → RunsWith E t s p ls t' s' q
  | env {t t₁ t' : Nat} {s s₁ s' : σ} {p q : Proc σ α} {l ls : List ℓ} :
      Parked t s p → E (t, s) (t₁, s₁) l → RunsWith E t₁ s₁ p ls t' s' q →
        RunsWith E t s p (l ++ ls) t' s' q

section Runs

variable {R : Nat × σ → Nat × σ → Prop} {α β γ : Type} {t t' t'' : Nat} {s s' s'' : σ}

theorem Parked.not_pure {a : α} : ¬ Parked t s (.pure a : Proc σ α) := nofun

theorem eq_pure_or_result?_eq_none (p : Proc σ α) : (∃ a, p = .pure a) ∨ p.result? = none := by
  cases p with
  | pure a => exact .inl ⟨a, rfl⟩
  | _ => exact .inr rfl

theorem Runs.trans {p₁ p₂ p₃ : Proc σ α} (h₁ : Runs R t s p₁ t' s' p₂)
    (h₂ : Runs R t' s' p₂ t'' s'' p₃) : Runs R t s p₁ t'' s'' p₃ := by
  induction h₁ with
  | refl => exact h₂
  | step hs _ ih => exact .step hs (ih h₂)
  | env hp hr _ ih => exact .env hp hr (ih h₂)

theorem Runs.reaches {p q : Proc σ α} (h : Runs R t s p t' s' q) : Reaches R t s p t' s' q := by
  induction h with
  | refl => exact .refl
  | step hs _ ih => exact .step hs.step ih
  | env _ hr _ ih => exact .env hr ih

theorem Finishes.returns {p : Proc σ α} {a : α} (h : Finishes R t s p t' s' a) :
    Returns R t s p t' s' a :=
  Runs.reaches h

theorem Runs.mono {R' : Nat × σ → Nat × σ → Prop} (hR : ∀ x y, R x y → R' x y)
    {p q : Proc σ α} (h : Runs R t s p t' s' q) : Runs R' t s p t' s' q := by
  induction h with
  | refl => exact .refl
  | step hs _ ih => exact .step hs ih
  | env hp hr _ ih => exact .env hp (hR _ _ hr) ih

theorem runs_pure_iff {a : α} {q : Proc σ α} :
    Runs R t s (.pure a) t' s' q ↔ q = .pure a ∧ t' = t ∧ s' = s := by
  constructor
  · rintro (_ | ⟨hs, _⟩ | ⟨hp, _, _⟩)
    · exact ⟨rfl, rfl, rfl⟩
    · exact absurd hs Turn.not_pure
    · exact absurd hp Parked.not_pure
  · rintro ⟨rfl, rfl, rfl⟩
    exact .refl

theorem finishes_pure_iff {a b : α} :
    Finishes R t s (.pure a) t' s' b ↔ b = a ∧ t' = t ∧ s' = s := by
  rw [Finishes, runs_pure_iff, Proc.pure.injEq]

/-! ## Sequencing -/

theorem Parked.bind {p : Proc σ α} (h : Parked t s p) (f : α → Proc σ β) :
    Parked t s (p.bind f) := by
  cases h with
  | wait hd => exact .wait hd
  | resume => exact .resume
  | both hp hq => exact .both hp hq
  | bothLeft hp => exact .bothLeft hp
  | bothRight hq => exact .bothRight hq
  | first hp hq => exact .first hp hq
  | loop hc => exact .loop hc
  | holding hp => exact .holding hp

theorem Parked.of_bind {p : Proc σ α} {f : α → Proc σ β} (h : Parked t s (p.bind f))
    (hres : p.result? = none) : Parked t s p := by
  cases p with
  | pure a => cases hres
  | look k => cases h
  | put x k => cases h
  | wait w k => cases h with | wait hd => exact .wait hd
  | yield k => cases h
  | settle k => cases h
  | resume k => exact .resume
  | spawn c k => cases h
  | both p q k =>
    cases h with
    | both hl hr => exact .both hl hr
    | bothLeft hl => exact .bothLeft hl
    | bothRight hr => exact .bothRight hr
  | first p q k => cases h with | first hl hr => exact .first hl hr
  | loop c b k => cases h with | loop hc => exact .loop hc
  | holding r p k => cases h with | holding hq => exact .holding hq

theorem Runs.bind {p q : Proc σ α} (h : Runs R t s p t' s' q) (f : α → Proc σ β) :
    Runs R t s (p.bind f) t' s' (q.bind f) := by
  induction h with
  | refl => exact .refl
  | step hs _ ih => exact .step (hs.bind f) ih
  | env hp hr _ ih => exact .env (hp.bind f) hr ih

theorem Finishes.bind {p : Proc σ α} {f : α → Proc σ β} {a : α} {b : β}
    (h₁ : Finishes R t s p t' s' a) (h₂ : Finishes R t' s' (f a) t'' s'' b) :
    Finishes R t s (p.bind f) t'' s'' b :=
  (Runs.bind h₁ f).trans h₂

/-- A finished run of `p >>= f` runs `p` to its end and then `f` on its value; a move of the
environment while `p` runs happens where `p` is parked. -/
theorem Finishes.of_bind {p : Proc σ α} {f : α → Proc σ β} {b : β}
    (h : Finishes R t s (p.bind f) t'' s'' b) :
    ∃ t' s' a, Finishes R t s p t' s' a ∧ Finishes R t' s' (f a) t'' s'' b := by
  unfold Finishes at h
  generalize hq : p.bind f = q at h
  generalize hb : Proc.pure b = r at h
  induction h generalizing p with
  | refl =>
    subst hb
    obtain ⟨a, rfl, hf⟩ := bind_eq_pure hq
    exact ⟨_, _, a, .refl, hf ▸ .refl⟩
  | step hs hr ih =>
    subst hq hb
    rcases Turn.of_bind hs with ⟨a, rfl, hf⟩ | ⟨p', hp, rfl⟩
    · exact ⟨_, _, a, .refl, .step hf hr⟩
    · obtain ⟨t', s', a, h₁, h₂⟩ := ih rfl rfl
      exact ⟨t', s', a, .step hp h₁, h₂⟩
  | env hpk hR hr ih =>
    subst hq hb
    rcases eq_pure_or_result?_eq_none p with ⟨a, rfl⟩ | hres
    · -- `p` has finished: the move belongs to the run of `f`
      exact ⟨_, _, a, .refl, .env hpk hR hr⟩
    · obtain ⟨t', s', a, h₁, h₂⟩ := ih rfl rfl
      exact ⟨t', s', a, .env (hpk.of_bind hres) hR h₁, h₂⟩

theorem finishes_bind_iff {p : Proc σ α} {f : α → Proc σ β} {b : β} :
    Finishes R t s (p >>= f) t'' s'' b ↔
      ∃ t' s' a, Finishes R t s p t' s' a ∧ Finishes R t' s' (f a) t'' s'' b :=
  ⟨Finishes.of_bind, fun ⟨_, _, _, h₁, h₂⟩ => h₁.bind h₂⟩

/-- A run of `p >>= f` that stops anywhere is a run of `p` that has not finished yet, or a
run of `p` to its end followed by a run of `f` on its value. -/
theorem Runs.of_bind {p : Proc σ α} {f : α → Proc σ β} {q : Proc σ β}
    (h : Runs R t s (p >>= f) t'' s'' q) :
    (∃ p', Runs R t s p t'' s'' p' ∧ p'.result? = none ∧ q = p' >>= f) ∨
      ∃ t' s' a, Finishes R t s p t' s' a ∧ Runs R t' s' (f a) t'' s'' q := by
  generalize hq : p >>= f = r at h
  induction h generalizing p with
  | refl =>
    subst hq
    rcases eq_pure_or_result?_eq_none p with ⟨a, rfl⟩ | hres
    · exact .inr ⟨_, _, a, .refl, .refl⟩
    · exact .inl ⟨p, .refl, hres, rfl⟩
  | step hs _ ih =>
    subst hq
    rcases Turn.of_bind hs with ⟨a, rfl, hf⟩ | ⟨p', hp, rfl⟩
    · exact .inr ⟨_, _, a, .refl, .step hf ‹_›⟩
    · rcases ih rfl with ⟨p'', h₁, hres, rfl⟩ | ⟨t', s', a, h₁, h₂⟩
      · exact .inl ⟨p'', .step hp h₁, hres, rfl⟩
      · exact .inr ⟨t', s', a, .step hp h₁, h₂⟩
  | env hpk hR _ ih =>
    subst hq
    rcases eq_pure_or_result?_eq_none p with ⟨a, rfl⟩ | hres
    · -- `p` has finished: the move belongs to the run of `f`
      exact .inr ⟨_, _, a, .refl, .env hpk hR ‹_›⟩
    · rcases ih rfl with ⟨p'', h₁, hres', rfl⟩ | ⟨t', s', a, h₁, h₂⟩
      · exact .inl ⟨p'', .env (hpk.of_bind hres) hR h₁, hres', rfl⟩
      · exact .inr ⟨t', s', a, .env (hpk.of_bind hres) hR h₁, h₂⟩

/-! ## Nodes that neither park nor finish -/

theorem runs_look_iff {k : Nat → σ → Proc σ α} {q : Proc σ α} :
    Runs R t s (.look k) t' s' q ↔ (q = .look k ∧ t' = t ∧ s' = s) ∨ Runs R t s (k t s) t' s' q := by
  constructor
  · rintro (_ | ⟨hs, hr⟩ | ⟨hp, _, _⟩)
    · exact .inl ⟨rfl, rfl, rfl⟩
    · cases hs
      exact .inr hr
    · cases hp
  · rintro (⟨rfl, rfl, rfl⟩ | h)
    · exact .refl
    · exact .step .look h

theorem runs_put_iff {x : σ} {k q : Proc σ α} :
    Runs R t s (.put x k) t' s' q ↔ (q = .put x k ∧ t' = t ∧ s' = s) ∨ Runs R t x k t' s' q := by
  constructor
  · rintro (_ | ⟨hs, hr⟩ | ⟨hp, _, _⟩)
    · exact .inl ⟨rfl, rfl, rfl⟩
    · cases hs
      exact .inr hr
    · cases hp
  · rintro (⟨rfl, rfl, rfl⟩ | h)
    · exact .refl
    · exact .step .put h

theorem finishes_look_iff {k : Nat → σ → Proc σ α} {b : α} :
    Finishes R t s (.look k) t' s' b ↔ Finishes R t s (k t s) t' s' b := by
  constructor
  · intro h
    cases h with
    | step hs hr => cases hs; exact hr
    | env hp => cases hp
  · exact fun h => .step .look h

theorem finishes_put_iff {x : σ} {k : Proc σ α} {b : α} :
    Finishes R t s (.put x k) t' s' b ↔ Finishes R t x k t' s' b := by
  constructor
  · intro h
    cases h with
    | step hs hr => cases hs; exact hr
    | env hp => cases hp
  · exact fun h => .step .put h

theorem finishes_spawn_iff {c : Proc σ Unit} {k : Proc σ α} {b : α} :
    Finishes R t s (.spawn c k) t' s' b ↔ Finishes R t s k t' s' b := by
  constructor
  · intro h
    cases h with
    | step hs hr => cases hs; exact hr
    | env hp => cases hp
  · exact fun h => .step .spawn h

/-! ## Waiting -/

/-- At a wait the environment may move to any world that keeps `f`, as often as it likes,
until the wake holds; a wake that already holds is passed at once. -/
theorem finishes_wait_iff {f : σ → ω} {w : Wake σ} {k : Proc σ α} {b : α} :
    Finishes (Keeping f) t s (.wait w k) t' s' b ↔
      (w.due t s = true ∧ Finishes (Keeping f) t s k t' s' b) ∨
      (w.due t s = false ∧
        ∃ t₁ s₁, f s₁ = f s ∧ w.due t₁ s₁ = true ∧ Finishes (Keeping f) t₁ s₁ k t' s' b) := by
  constructor
  · intro h
    unfold Finishes at h
    generalize hp : Proc.wait w k = p at h
    generalize hb : Proc.pure b = r at h
    induction h with
    | refl => subst hp; cases hb
    | step hs hr =>
      subst hp hb
      cases hs with | wait hd => exact .inl ⟨hd, hr⟩
    | env hpk hR _ ih =>
      subst hp hb
      cases hpk with
      | wait hnd =>
        refine .inr ⟨hnd, ?_⟩
        -- the moves of the environment compose: each keeps `f`
        rcases ih rfl rfl with ⟨hd, hk⟩ | ⟨-, t₂, s₂, hs₂, hd, hk⟩
        · exact ⟨_, _, hR.symm, hd, hk⟩
        · exact ⟨t₂, s₂, hs₂.trans hR.symm, hd, hk⟩
  · rintro (⟨hd, hk⟩ | ⟨hnd, t₁, s₁, hs₁, hd, hk⟩)
    · exact .step (.wait hd) hk
    · exact .env (.wait hnd) hs₁.symm (.step (.wait hd) hk)

/-! ## Loops and held resources -/

theorem Runs.loop_in {c c' : Proc σ (β ⊕ γ)} (h : Runs R t s c t' s' c')
    (b : β → Proc σ (β ⊕ γ)) (k : γ → Proc σ α) :
    Runs R t s (.loop c b k) t' s' (.loop c' b k) := by
  induction h with
  | refl => exact .refl
  | step hs _ ih => exact .step (.loopIn hs) ih
  | env hp hr _ ih => exact .env (.loop hp) hr ih

/-- A finished run of a loop finishes its running round, then goes on with the next round or
with what follows the loop. -/
theorem finishes_loop_iff {c : Proc σ (β ⊕ γ)} {b : β → Proc σ (β ⊕ γ)} {k : γ → Proc σ α}
    {a : α} :
    Finishes R t s (.loop c b k) t'' s'' a ↔
      ∃ t' s' v, Finishes R t s c t' s' v ∧
        Finishes R t' s' (v.elim (fun x => .loop (b x) b k) k) t'' s'' a := by
  constructor
  · intro h
    unfold Finishes at h
    generalize hq : Proc.loop c b k = q at h
    generalize ha : Proc.pure a = r at h
    induction h generalizing c with
    | refl => subst hq; cases ha
    | step hs hr ih =>
      subst hq ha
      cases hs with
      | loopIn hc =>
        obtain ⟨t', s', v, h₁, h₂⟩ := ih rfl rfl
        exact ⟨t', s', v, .step hc h₁, h₂⟩
      | loopNext => exact ⟨_, _, .inl _, .refl, hr⟩
      | loopDone => exact ⟨_, _, .inr _, .refl, hr⟩
    | env hpk hR _ ih =>
      subst hq ha
      cases hpk with
      | loop hc =>
        obtain ⟨t', s', v, h₁, h₂⟩ := ih rfl rfl
        exact ⟨t', s', v, .env hc hR h₁, h₂⟩
  · rintro ⟨t', s', v, h₁, h₂⟩
    refine (Runs.loop_in h₁ b k).trans ?_
    cases v with
    | inl x => exact .step .loopNext h₂
    | inr y => exact .step .loopDone h₂

theorem Runs.holding_in {p p' : Proc σ β} (h : Runs R t s p t' s' p') (r : σ → σ)
    (k : β → Proc σ α) : Runs R t s (.holding r p k) t' s' (.holding r p' k) := by
  induction h with
  | refl => exact .refl
  | step hs _ ih => exact .step (.holdIn hs) ih
  | env hp hr _ ih => exact .env (.holding hp) hr ih

/-- A finished run of a part holding a resource finishes the part, gives the resource back
and goes on. -/
theorem finishes_holding_iff {r : σ → σ} {p : Proc σ β} {k : β → Proc σ α} {a : α} :
    Finishes R t s (.holding r p k) t'' s'' a ↔
      ∃ t' s' v, Finishes R t s p t' s' v ∧ Finishes R t' (r s') (k v) t'' s'' a := by
  constructor
  · intro h
    unfold Finishes at h
    generalize hq : Proc.holding r p k = q at h
    generalize ha : Proc.pure a = x at h
    induction h generalizing p with
    | refl => subst hq; cases ha
    | step hs hr ih =>
      subst hq ha
      cases hs with
      | holdIn hp =>
        obtain ⟨t', s', v, h₁, h₂⟩ := ih rfl rfl
        exact ⟨t', s', v, .step hp h₁, h₂⟩
      | holdDone => exact ⟨_, _, _, .refl, hr⟩
    | env hpk hR _ ih =>
      subst hq ha
      cases hpk with
      | holding hp =>
        obtain ⟨t', s', v, h₁, h₂⟩ := ih rfl rfl
        exact ⟨t', s', v, .env hp hR h₁, h₂⟩
  · rintro ⟨t', s', v, h₁, h₂⟩
    exact (Runs.holding_in h₁ r k).trans (.step .holdDone h₂)

/-! ## Races -/

/-- A race is decided where an invariant of its two parts holds, when the invariant is kept by
every turn of either part and by every move of the environment while both are parked. -/
theorem Finishes.first_invariant {I : Nat → σ → Proc σ β → Proc σ γ → Prop}
    {p : Proc σ β} {q : Proc σ γ} {k : β ⊕ γ → Proc σ α} {a : α}
    (left : ∀ {t s s' p p' q}, I t s p q → Turn t s p s' p' → I t s' p' q)
    (right : ∀ {t s s' p q q'}, I t s p q → Blocked p → Turn t s q s' q' → I t s' p q')
    (env : ∀ {t s t₁ s₁ p q}, I t s p q → Parked t s p → Parked t s q →
      R (t, s) (t₁, s₁) → I t₁ s₁ p q)
    (hI : I t s p q) (h : Finishes R t s (.first p q k) t'' s'' a) :
    ∃ t' s' p' q', I t' s' p' q' ∧
      ((∃ b, p' = .pure b ∧ Finishes R t' (q'.release s') (k (.inl b)) t'' s'' a) ∨
        (∃ c, q' = .pure c ∧ p'.result? = none ∧
          Finishes R t' (p'.release s') (k (.inr c)) t'' s'' a)) := by
  unfold Finishes at h
  generalize hr : Proc.first p q k = r at h
  generalize ha : Proc.pure a = z at h
  induction h generalizing p q with
  | refl => subst hr; cases ha
  | step hs hrest ih =>
    subst hr ha
    cases hs with
    | firstLeft hl => exact ih (left hI hl) rfl rfl
    | firstRight hb hq => exact ih (right hI hb hq) rfl rfl
    | firstDoneLeft => exact ⟨_, _, _, _, hI, .inl ⟨_, rfl, hrest⟩⟩
    | firstDoneRight hp => exact ⟨_, _, _, _, hI, .inr ⟨_, rfl, hp, hrest⟩⟩
  | env hpk hR _ ih =>
    subst hr ha
    cases hpk with
    | first hp hq => exact ih (env hI hp hq hR) rfl rfl

end Runs

/-! ## Processes that cannot get past a wait -/

/-- Run from worlds where `g` is `v`, `p` keeps `g` at `v`, never gets past a wait, and answers
only values satisfying `P`: a listener with nothing to hear. -/
inductive Stalled (g : σ → ω) (v : ω) : {α : Type} → (α → Prop) → Proc σ α → Prop
  | pure {α : Type} {P : α → Prop} {a : α} : P a → Stalled g v P (.pure a)
  | look {α : Type} {P : α → Prop} {k : Nat → σ → Proc σ α} :
      (∀ t s, g s = v → Stalled g v P (k t s)) → Stalled g v P (.look k)
  | put {α : Type} {P : α → Prop} {s : σ} {k : Proc σ α} :
      g s = v → Stalled g v P k → Stalled g v P (.put s k)
  | wait {α : Type} {P : α → Prop} {w : Wake σ} {k : Proc σ α} :
      (∀ t s, g s = v → w.due t s = false) → Stalled g v P (.wait w k)
  | loop {α β γ : Type} {P : α → Prop} {Q : β ⊕ γ → Prop} {c : Proc σ (β ⊕ γ)}
      {b : β → Proc σ (β ⊕ γ)} {k : γ → Proc σ α} :
      Stalled g v Q c → (∀ x, Q (.inl x) → Stalled g v Q (b x)) →
        (∀ y, Q (.inr y) → Stalled g v P (k y)) → Stalled g v P (.loop c b k)

section Stalled

variable {g : σ → ω} {v : ω} {α β : Type} {t : Nat} {s s' : σ}

theorem Stalled.bind {P : α → Prop} {Q : β → Prop} {p : Proc σ α} {f : α → Proc σ β}
    (hp : Stalled g v P p) (hf : ∀ a, P a → Stalled g v Q (f a)) : Stalled g v Q (p >>= f) := by
  induction hp with
  | pure ha => exact hf _ ha
  | look _ ih => exact .look fun t s hs => ih t s hs hf
  | put hs _ ih => exact .put hs (ih hf)
  | wait hd => exact .wait hd
  | loop hc hb _ _ _ ih => exact .loop hc hb fun y hy => ih y hy hf

theorem Stalled.turn {P : α → Prop} {p p' : Proc σ α} (hp : Stalled g v P p) (hs : g s = v)
    (h : Turn t s p s' p') : g s' = v ∧ Stalled g v P p' := by
  induction h with
  | look => cases hp with | look hk => exact ⟨hs, hk _ _ hs⟩
  | put => cases hp with | put hs' hk => exact ⟨hs', hk⟩
  | wait hd => cases hp with | wait hnd => exact absurd hd (by simp [hnd _ _ hs])
  | loopIn _ ih =>
    cases hp with
    | loop hc hb hk =>
      obtain ⟨hs', hc'⟩ := ih hc hs
      exact ⟨hs', .loop hc' hb hk⟩
  | loopNext => cases hp with | loop hc hb hk => cases hc with | pure hx => exact ⟨hs, .loop (hb _ hx) hb hk⟩
  | loopDone => cases hp with | loop hc _ hk => cases hc with | pure hy => exact ⟨hs, hk _ hy⟩
  | _ => cases hp

theorem Stalled.frozen {P : α → Prop} {p p' : Proc σ α} (hp : Stalled g v P p) (hb : Blocked p)
    (hs : g s = v) : ¬ Turn t s p s' p' := by
  intro h
  induction hb generalizing s' with
  | wait => cases hp with | wait hnd => cases h with | wait hd => simp [hnd _ _ hs] at hd
  | loop _ ih =>
    cases hp with
    | loop hc _ _ =>
      cases h with
      | loopIn h => exact ih hc h
      | loopNext => cases hc with | pure => contradiction
      | loopDone => cases hc with | pure => contradiction
  | _ => cases hp

theorem Stalled.release {P : α → Prop} {p : Proc σ α} (hp : Stalled g v P p) (s : σ) :
    p.release s = s := by
  induction hp with
  | loop _ _ _ ih => exact ih
  | _ => rfl

theorem stalled_never {P : α → Prop} : Stalled g v P (never : Proc σ α) :=
  .loop (Q := fun _ => False) (.wait fun _ _ _ => rfl) (fun _ h => h.elim) (fun _ h => h.elim)

end Stalled

/-! ## The library's processes, followed by the rest of a `do` block -/

section Library

variable {R : Nat × σ → Nat × σ → Prop} {α β : Type} {t t' : Nat} {s s' : σ}

theorem finishes_gets_bind_iff {h : σ → β} {k : β → Proc σ α} {b : α} :
    Finishes R t s (gets h >>= k) t' s' b ↔ Finishes R t s (k (h s)) t' s' b :=
  finishes_look_iff (k := fun _ x => k (h x))

theorem finishes_get_bind_iff {k : σ → Proc σ α} {b : α} :
    Finishes R t s (get >>= k) t' s' b ↔ Finishes R t s (k s) t' s' b :=
  finishes_look_iff (k := fun _ x => k x)

theorem finishes_now_bind_iff {k : Nat → Proc σ α} {b : α} :
    Finishes R t s (now >>= k) t' s' b ↔ Finishes R t s (k t) t' s' b :=
  finishes_look_iff (k := fun t₁ _ => k t₁)

theorem finishes_set_bind_iff {x : σ} {k : Unit → Proc σ α} {b : α} :
    Finishes R t s (set x >>= k) t' s' b ↔ Finishes R t x (k ()) t' s' b :=
  finishes_put_iff

theorem finishes_modify_bind_iff {g : σ → σ} {k : Unit → Proc σ α} {b : α} :
    Finishes R t s (modify g >>= k) t' s' b ↔ Finishes R t (g s) (k ()) t' s' b :=
  (finishes_look_iff (k := fun _ x => .put (g x) (k ()))).trans finishes_put_iff

theorem finishes_modifyGet_bind_iff {g : σ → β × σ} {k : β → Proc σ α} {b : α} :
    Finishes R t s (modifyGet g >>= k) t' s' b ↔ Finishes R t (g s).2 (k (g s).1) t' s' b :=
  (finishes_look_iff (k := fun _ x => .put (g x).2 (k (g x).1))).trans finishes_put_iff

theorem finishes_modifyGet_iff {g : σ → β × σ} {b : β} :
    Finishes R t s (modifyGet g) t' s' b ↔ b = (g s).1 ∧ t' = t ∧ s' = (g s).2 :=
  ((finishes_look_iff (k := fun _ x => .put (g x).2 (.pure (g x).1))).trans
    finishes_put_iff).trans finishes_pure_iff

/-- A run of `modifyGet g` stopped before its end stands at its read or at its write, where
it began: nothing comes between the two. -/
theorem runs_modifyGet_of_unfinished {g : σ → β × σ} {q : Proc σ β}
    (h : Runs R t s (modifyGet g) t' s' q) (hq : q.result? = none) :
    t' = t ∧ s' = s ∧ (q = modifyGet g ∨ q = .put (g s).2 (.pure (g s).1)) := by
  rcases (runs_look_iff (k := fun _ x => .put (g x).2 (.pure (g x).1))).1 h with
    ⟨rfl, rfl, rfl⟩ | h
  · exact ⟨rfl, rfl, .inl rfl⟩
  · rcases runs_put_iff.1 h with ⟨rfl, rfl, rfl⟩ | h
    · exact ⟨rfl, rfl, .inr rfl⟩
    · obtain ⟨rfl, -, -⟩ := runs_pure_iff.1 h
      cases hq

theorem finishes_await_bind_iff {f : σ → ω} {w : Wake σ} {k : Unit → Proc σ α} {b : α} :
    Finishes (Keeping f) t s (await w >>= k) t' s' b ↔
      (w.due t s = true ∧ Finishes (Keeping f) t s (k ()) t' s' b) ∨
      (w.due t s = false ∧
        ∃ t₁ s₁, f s₁ = f s ∧ w.due t₁ s₁ = true ∧ Finishes (Keeping f) t₁ s₁ (k ()) t' s' b) :=
  finishes_wait_iff (k := k ())

theorem not_finishes_never {b : α} : ¬ Finishes R t s never t' s' b :=
  fun h => not_returns_never h.returns

end Library

end Proc

end BrokerSession
