import BrokerSession.Proofs.Proc.Step

/-!
# Environments that keep one part of the world

`Keeping f` is the environment that may move the clock anywhere and change the world in any
way that leaves `f` of it as it was. Two such environments matter here: the one that keeps
nothing (`f` constant), under which every process of the session may be interrupted by
anything at all, and the ones that keep a counter or a field no other process touches.

Under `Keeping f` a run depends on its start and end only through `f`: the environment can
always move first or last (`Returns.restart`, `Returns.resettle`). So every read of the world
returns `f`-equal worlds of the reader's choice, and each node has a law in which the
intermediate clock and worlds have disappeared. The laws are stated for a node followed by
the rest of a `do` block, which is how the session's processes use them.
-/

namespace BrokerSession

namespace Proc

variable {σ ω : Type}

/-- Moves of an environment that may change the clock and the world in any way that leaves
`f` of the world as it was. -/
def Keeping (f : σ → ω) : Nat × σ → Nat × σ → Prop := fun x y => f x.2 = f y.2

section Keeping

variable {f : σ → ω} {α β : Type}

theorem moves_keeping_iff {t t' : Nat} {s s' : σ} :
    Relation.ReflTransGen (Keeping f) (t, s) (t', s') ↔ f s = f s' := by
  constructor
  · intro h
    suffices ∀ {x y : Nat × σ}, Relation.ReflTransGen (Keeping f) x y → f x.2 = f y.2 from this h
    intro x y h
    induction h with
    | refl => rfl
    | tail _ hr ih => exact ih.trans hr
  · exact fun h => .single h

theorem Returns.restart {t t' t₀ : Nat} {s s' s₀ : σ} {p : Proc σ α} {a : α}
    (h : Returns (Keeping f) t s p t' s' a) (hs : f s₀ = f s) :
    Returns (Keeping f) t₀ s₀ p t' s' a :=
  .env hs h

theorem Returns.resettle {t t' t'' : Nat} {s s' s'' : σ} {p : Proc σ α} {a : α}
    (h : Returns (Keeping f) t s p t' s' a) (hs : f s' = f s'') :
    Returns (Keeping f) t s p t'' s'' a :=
  Reaches.trans h (.env hs .refl)

theorem exists_keeping_restart {t t' : Nat} {s s' : σ} {g : σ → σ} {p : Proc σ α} {a : α}
    (hg : ∀ x, f x = f s → f (g x) = f (g s)) :
    (∃ x, f x = f s ∧ Returns (Keeping f) t (g x) p t' s' a) ↔ Returns (Keeping f) t (g s) p t' s' a :=
  ⟨fun ⟨x, hx, hr⟩ => hr.restart (hg x hx).symm, fun hr => ⟨s, rfl, hr⟩⟩

theorem keeping_pure_iff {t t' : Nat} {s s' : σ} {a b : α} :
    Returns (Keeping f) t s (.pure a) t' s' b ↔ b = a ∧ f s' = f s := by
  rw [returns_pure_iff, moves_keeping_iff, @eq_comm _ (f s)]

theorem keeping_look_iff {t t' : Nat} {s s' : σ} {k : Nat → σ → Proc σ α} {b : α} :
    Returns (Keeping f) t s (.look k) t' s' b ↔
      ∃ t₁ x, f x = f s ∧ Returns (Keeping f) t₁ x (k t₁ x) t' s' b := by
  rw [returns_look_iff]
  constructor
  · rintro ⟨t₁, x, hm, hr⟩
    exact ⟨t₁, x, (moves_keeping_iff.1 hm).symm, hr⟩
  · rintro ⟨t₁, x, hx, hr⟩
    exact ⟨t₁, x, moves_keeping_iff.2 hx.symm, hr⟩

theorem keeping_put_iff {t t' : Nat} {s x s' : σ} {k : Proc σ α} {b : α} :
    Returns (Keeping f) t s (.put x k) t' s' b ↔ Returns (Keeping f) t x k t' s' b := by
  rw [returns_put_iff]
  constructor
  · rintro ⟨_, _, _, hr⟩
    exact hr.restart rfl
  · exact fun hr => ⟨t, s, .refl, hr⟩

theorem keeping_wait_iff {t t' : Nat} {s s' : σ} {w : Wake σ} {k : Proc σ α} {b : α} :
    Returns (Keeping f) t s (.wait w k) t' s' b ↔
      ∃ t₁ x, f x = f s ∧ w.due t₁ x = true ∧ Returns (Keeping f) t₁ x k t' s' b := by
  rw [returns_wait_iff]
  constructor
  · rintro ⟨t₁, x, hm, hd, hr⟩
    exact ⟨t₁, x, (moves_keeping_iff.1 hm).symm, hd, hr⟩
  · rintro ⟨t₁, x, hx, hd, hr⟩
    exact ⟨t₁, x, moves_keeping_iff.2 hx.symm, hd, hr⟩

/-! ## Reading and changing the world, then going on -/

theorem keeping_gets_bind_iff {t t' : Nat} {s s' : σ} {h : σ → β} {k : β → Proc σ α}
    {b : α} :
    Returns (Keeping f) t s (gets h >>= k) t' s' b ↔
      ∃ x, f x = f s ∧ Returns (Keeping f) t x (k (h x)) t' s' b := by
  show Returns (Keeping f) t s (.look fun _ x => k (h x)) t' s' b ↔ _
  rw [keeping_look_iff]
  constructor
  · rintro ⟨_, x, hx, hr⟩
    exact ⟨x, hx, hr.restart rfl⟩
  · rintro ⟨x, hx, hr⟩
    exact ⟨t, x, hx, hr⟩

theorem keeping_get_bind_iff {t t' : Nat} {s s' : σ} {k : σ → Proc σ α} {b : α} :
    Returns (Keeping f) t s (get >>= k) t' s' b ↔
      ∃ x, f x = f s ∧ Returns (Keeping f) t x (k x) t' s' b :=
  keeping_gets_bind_iff (h := id)

theorem keeping_now_bind_iff {t t' : Nat} {s s' : σ} {k : Nat → Proc σ α} {b : α} :
    Returns (Keeping f) t s (now >>= k) t' s' b ↔
      ∃ t₁, Returns (Keeping f) t s (k t₁) t' s' b := by
  show Returns (Keeping f) t s (.look fun t₁ _ => k t₁) t' s' b ↔ _
  rw [keeping_look_iff]
  constructor
  · rintro ⟨t₁, x, hx, hr⟩
    exact ⟨t₁, hr.restart hx.symm⟩
  · rintro ⟨t₁, hr⟩
    exact ⟨t₁, s, rfl, hr.restart rfl⟩

theorem keeping_set_bind_iff {t t' : Nat} {s x s' : σ} {k : Unit → Proc σ α} {b : α} :
    Returns (Keeping f) t s (set x >>= k) t' s' b ↔ Returns (Keeping f) t x (k ()) t' s' b :=
  keeping_put_iff

theorem keeping_modify_bind_iff {t t' : Nat} {s s' : σ} {g : σ → σ} {k : Unit → Proc σ α}
    {b : α} :
    Returns (Keeping f) t s (modify g >>= k) t' s' b ↔
      ∃ x, f x = f s ∧ Returns (Keeping f) t (g x) (k ()) t' s' b := by
  show Returns (Keeping f) t s (.look fun _ x => .put (g x) (k ())) t' s' b ↔ _
  rw [keeping_look_iff]
  simp only [keeping_put_iff]
  constructor
  · rintro ⟨_, x, hx, hr⟩
    exact ⟨x, hx, hr.restart rfl⟩
  · rintro ⟨x, hx, hr⟩
    exact ⟨t, x, hx, hr⟩

theorem keeping_modifyGet_bind_iff {t t' : Nat} {s s' : σ} {g : σ → β × σ}
    {k : β → Proc σ α} {b : α} :
    Returns (Keeping f) t s (modifyGet g >>= k) t' s' b ↔
      ∃ x, f x = f s ∧ Returns (Keeping f) t (g x).2 (k (g x).1) t' s' b := by
  show Returns (Keeping f) t s (.look fun _ x => .put (g x).2 (k (g x).1)) t' s' b ↔ _
  rw [keeping_look_iff]
  simp only [keeping_put_iff]
  constructor
  · rintro ⟨_, x, hx, hr⟩
    exact ⟨x, hx, hr.restart rfl⟩
  · rintro ⟨x, hx, hr⟩
    exact ⟨t, x, hx, hr⟩

theorem keeping_await_bind_iff {t t' : Nat} {s s' : σ} {w : Wake σ} {k : Unit → Proc σ α}
    {b : α} :
    Returns (Keeping f) t s (await w >>= k) t' s' b ↔
      ∃ t₁ x, f x = f s ∧ w.due t₁ x = true ∧ Returns (Keeping f) t x (k ()) t' s' b := by
  show Returns (Keeping f) t s (.wait w (k ())) t' s' b ↔ _
  rw [keeping_wait_iff]
  constructor
  · rintro ⟨t₁, x, hx, hd, hr⟩
    exact ⟨t₁, x, hx, hd, hr.restart rfl⟩
  · rintro ⟨t₁, x, hx, hd, hr⟩
    exact ⟨t₁, x, hx, hd, hr.restart rfl⟩

/-! ## Processes that leave the kept part alone -/

/-- `p` leaves `f` of the world as it was, and its answers are the values satisfying `P`. -/
def Neutral (f : σ → ω) (p : Proc σ α) (P : α → Prop) : Prop :=
  ∀ t s t' s' a, Returns (Keeping f) t s p t' s' a ↔ f s' = f s ∧ P a

theorem Neutral.bind_iff {p : Proc σ β} {P : β → Prop} (hp : Neutral f p P)
    {k : β → Proc σ α} {t t' : Nat} {s s' : σ} {b : α} :
    Returns (Keeping f) t s (p >>= k) t' s' b ↔ ∃ a, P a ∧ Returns (Keeping f) t s (k a) t' s' b := by
  rw [returns_bind_iff]
  constructor
  · rintro ⟨t₁, s₁, a, h₁, h₂⟩
    obtain ⟨hs, ha⟩ := (hp _ _ _ _ _).1 h₁
    exact ⟨a, ha, h₂.restart hs.symm⟩
  · rintro ⟨a, ha, h₂⟩
    exact ⟨t, s, a, (hp _ _ _ _ _).2 ⟨rfl, ha⟩, h₂⟩

end Keeping

end Proc

end BrokerSession
