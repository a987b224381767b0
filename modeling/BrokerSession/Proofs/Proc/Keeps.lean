import BrokerSession.Proofs.Proc.Keeping
import Mathlib.Data.List.Forall2

/-!
# Processes that leave one part of the world alone

`Keeps f v p` says that `p`, run from a world where `f` is `v`, only ever writes worlds where
`f` is still `v`, and that every resource it may give back is given back the same way. It is
read off the tree of `p`, node by node, as the frame predicates of a statement language are:
a `put` must keep `f`, and every part and continuation must keep it too. The children `p`
spawns are not its concern; they run beside it, as part of the environment.

Two things follow. A run of such a process among an environment that keeps `f` ends where
`f` is `v` (`Keeps.reaches`). And when the parts of `both` keep `f`, each is, for the other,
just more environment: the runs of `both p q k` are exactly a run of `p`, a run of `q`, and a
run of `k` on the two answers (`returns_both_iff`), so the answers of `all ps` are the lists
of answers of the parts, whatever order their steps came in (`returns_all_iff`).
-/

namespace BrokerSession

namespace Proc

variable {σ ω : Type} {f : σ → ω} {v : ω}

/-- Run from a world where `f` is `v`, `p` writes only worlds where `f` is `v`, and so does
every release of a resource it holds. -/
inductive Keeps (f : σ → ω) (v : ω) : {α : Type} → Proc σ α → Prop
  | pure {α : Type} {a : α} : Keeps f v (.pure a)
  | look {α : Type} {k : Nat → σ → Proc σ α} :
      (∀ t s, f s = v → Keeps f v (k t s)) → Keeps f v (.look k)
  | put {α : Type} {s : σ} {k : Proc σ α} : f s = v → Keeps f v k → Keeps f v (.put s k)
  | wait {α : Type} {w : Wake σ} {k : Proc σ α} : Keeps f v k → Keeps f v (.wait w k)
  | yield {α : Type} {k : Proc σ α} : Keeps f v k → Keeps f v (.yield k)
  | settle {α : Type} {k : Proc σ α} : Keeps f v k → Keeps f v (.settle k)
  | resume {α : Type} {k : Proc σ α} : Keeps f v k → Keeps f v (.resume k)
  | spawn {α : Type} {c : Proc σ Unit} {k : Proc σ α} : Keeps f v k → Keeps f v (.spawn c k)
  | both {α β γ : Type} {p : Proc σ β} {q : Proc σ γ} {k : β × γ → Proc σ α} :
      Keeps f v p → Keeps f v q → (∀ x, Keeps f v (k x)) → Keeps f v (.both p q k)
  | first {α β γ : Type} {p : Proc σ β} {q : Proc σ γ} {k : β ⊕ γ → Proc σ α} :
      Keeps f v p → Keeps f v q → (∀ x, Keeps f v (k x)) → Keeps f v (.first p q k)
  | loop {α β γ : Type} {c : Proc σ (β ⊕ γ)} {b : β → Proc σ (β ⊕ γ)} {k : γ → Proc σ α} :
      Keeps f v c → (∀ x, Keeps f v (b x)) → (∀ y, Keeps f v (k y)) → Keeps f v (.loop c b k)
  | holding {α β : Type} {r : σ → σ} {p : Proc σ β} {k : β → Proc σ α} :
      (∀ s, f s = v → f (r s) = v) → Keeps f v p → (∀ b, Keeps f v (k b)) →
        Keeps f v (.holding r p k)

/-! ## What a step keeps -/

section Steps

variable {α β : Type}

theorem Keeps.release {p : Proc σ α} (hp : Keeps f v p) {s : σ} (hs : f s = v) :
    f (p.release s) = v := by
  induction hp generalizing s with
  | holding hr _ _ ih _ => exact hr _ (ih hs)
  | both _ _ _ ihp ihq _ => exact ihq (ihp hs)
  | first _ _ _ ihp ihq _ => exact ihq (ihp hs)
  | loop _ _ _ ih _ _ => exact ih hs
  | _ => exact hs

theorem Keeps.step {t : Nat} {s s' : σ} {p p' : Proc σ α} (hp : Keeps f v p) (hs : f s = v)
    (h : Step t s p s' p') : f s' = v ∧ Keeps f v p' := by
  induction h with
  | look => cases hp with | look hk => exact ⟨hs, hk _ _ hs⟩
  | put => cases hp with | put hs' hk => exact ⟨hs', hk⟩
  | wait => cases hp with | wait hk => exact ⟨hs, hk⟩
  | yield => cases hp with | yield hk => exact ⟨hs, .resume hk⟩
  | settle => cases hp with | settle hk => exact ⟨hs, .resume hk⟩
  | resume => cases hp with | resume hk => exact ⟨hs, hk⟩
  | spawn => cases hp with | spawn hk => exact ⟨hs, hk⟩
  | bothLeft _ ih =>
    cases hp with
    | both hl hr hk =>
      obtain ⟨hs', hl'⟩ := ih hl hs
      exact ⟨hs', .both hl' hr hk⟩
  | bothRight _ ih =>
    cases hp with
    | both hl hr hk =>
      obtain ⟨hs', hr'⟩ := ih hr hs
      exact ⟨hs', .both hl hr' hk⟩
  | bothDone => cases hp with | both _ _ hk => exact ⟨hs, hk _⟩
  | firstLeft _ ih =>
    cases hp with
    | first hl hr hk =>
      obtain ⟨hs', hl'⟩ := ih hl hs
      exact ⟨hs', .first hl' hr hk⟩
  | firstRight _ ih =>
    cases hp with
    | first hl hr hk =>
      obtain ⟨hs', hr'⟩ := ih hr hs
      exact ⟨hs', .first hl hr' hk⟩
  | firstDoneLeft => cases hp with | first _ hr hk => exact ⟨hr.release hs, hk _⟩
  | firstDoneRight => cases hp with | first hl _ hk => exact ⟨hl.release hs, hk _⟩
  | loopIn _ ih =>
    cases hp with
    | loop hc hb hk =>
      obtain ⟨hs', hc'⟩ := ih hc hs
      exact ⟨hs', .loop hc' hb hk⟩
  | loopNext => cases hp with | loop _ hb hk => exact ⟨hs, .loop (hb _) hb hk⟩
  | loopDone => cases hp with | loop _ _ hk => exact ⟨hs, hk _⟩
  | holdIn _ ih =>
    cases hp with
    | holding hr hq hk =>
      obtain ⟨hs', hq'⟩ := ih hq hs
      exact ⟨hs', .holding hr hq' hk⟩
  | holdDone => cases hp with | holding hr _ hk => exact ⟨hr _ hs, hk _⟩

theorem Keeps.reaches {t t' : Nat} {s s' : σ} {p q : Proc σ α} (hp : Keeps f v p)
    (hs : f s = v) (h : Reaches (Keeping f) t s p t' s' q) : f s' = v ∧ Keeps f v q := by
  induction h with
  | refl => exact ⟨hs, hp⟩
  | step hst _ ih =>
    obtain ⟨hs₁, hp₁⟩ := hp.step hs hst
    exact ih hp₁ hs₁
  | env hr _ ih => exact ih hp (hr.symm.trans hs)

theorem Keeps.bind {p : Proc σ α} {k : α → Proc σ β} (hp : Keeps f v p)
    (hk : ∀ a, Keeps f v (k a)) : Keeps f v (p >>= k) := by
  induction hp with
  | pure => exact hk _
  | look _ ih => exact .look fun t s hs => ih t s hs hk
  | put hs _ ih => exact .put hs (ih hk)
  | wait _ ih => exact .wait (ih hk)
  | yield _ ih => exact .yield (ih hk)
  | settle _ ih => exact .settle (ih hk)
  | resume _ ih => exact .resume (ih hk)
  | spawn _ ih => exact .spawn (ih hk)
  | both hl hr _ _ _ ih => exact .both hl hr fun x => ih x hk
  | first hl hr _ _ _ ih => exact .first hl hr fun x => ih x hk
  | loop hc hb _ _ _ ih => exact .loop hc hb fun y => ih y hk
  | holding hr hq _ _ ih => exact .holding hr hq fun b => ih b hk

end Steps

/-! ## The library's processes -/

section Library

variable {α β γ : Type}

theorem keeps_gets {h : σ → α} : Keeps f v (gets h) := .look fun _ _ _ => .pure

theorem keeps_get : Keeps f v (get : Proc σ σ) := .look fun _ _ _ => .pure

theorem keeps_now : Keeps f v (now : Proc σ Nat) := .look fun _ _ _ => .pure

theorem keeps_get_bind {k : σ → Proc σ α} (hk : ∀ s, f s = v → Keeps f v (k s)) :
    Keeps f v (get >>= k) :=
  .look fun _ s hs => hk s hs

theorem keeps_set_bind {s : σ} {k : Unit → Proc σ α} (hs : f s = v) (hk : Keeps f v (k ())) :
    Keeps f v (set s >>= k) :=
  .put hs hk

theorem keeps_modify {g : σ → σ} (hg : ∀ s, f (g s) = f s) : Keeps f v (modify g) :=
  .look fun _ s hs => .put ((hg s).trans hs) .pure

theorem keeps_modifyGet {g : σ → α × σ} (hg : ∀ s, f (g s).2 = f s) :
    Keeps f v (modifyGet g) :=
  .look fun _ s hs => .put ((hg s).trans hs) .pure

theorem keeps_await {w : Wake σ} : Keeps f v (await w) := .wait .pure

theorem keeps_sleep {ms : Nat} : Keeps f v (sleep ms : Proc σ Unit) :=
  .look fun _ _ _ => keeps_await

theorem keeps_never : Keeps f v (never : Proc σ α) :=
  .loop (.wait .pure) (fun _ => .wait .pure) nofun

theorem keeps_never_bind {k : α → Proc σ β} : Keeps f v (never >>= k) :=
  .loop (.wait .pure) (fun _ => .wait .pure) nofun

theorem keeps_iterate {init : β} {body : β → Proc σ (β ⊕ γ)}
    (hb : ∀ b, Keeps f v (body b)) : Keeps f v (iterate init body) :=
  .loop (hb init) hb fun _ => .pure

theorem keeps_race {p : Proc σ β} {q : Proc σ γ} (hp : Keeps f v p) (hq : Keeps f v q) :
    Keeps f v (race p q) :=
  .first hp hq fun _ => .pure

theorem keeps_hold {r : σ → σ} {p : Proc σ β} (hr : ∀ s, f (r s) = f s) (hp : Keeps f v p) :
    Keeps f v (hold r p) :=
  .holding (fun s hs => (hr s).trans hs) hp fun _ => .pure

theorem keeps_all {ps : List (Proc σ β)} (h : ∀ p ∈ ps, Keeps f v p) : Keeps f v (all ps) := by
  induction ps with
  | nil => exact .pure
  | cons p ps ih =>
    exact .both (h p (List.mem_cons_self ..)) (ih fun q hq => h q (List.mem_cons_of_mem _ hq))
      fun _ => .pure

theorem keeps_forIn {f' : γ → β → Proc σ (ForInStep β)} (h : ∀ x b, Keeps f v (f' x b)) :
    ∀ (l : List γ) (b : β), Keeps f v (forIn l b f')
  | [], _ => .pure
  | x :: l, b => by
    rw [List.forIn_cons]
    refine (h x b).bind fun y => ?_
    cases y with
    | done b' => exact .pure
    | yield b' => exact keeps_forIn h l b'

end Library

/-! ## Parts side by side -/

/-- The answers `p` may give when run from a world where `f` is `v`, among an environment
that keeps `f`. -/
def Answers (f : σ → ω) (v : ω) {α : Type} (p : Proc σ α) (a : α) : Prop :=
  ∃ t s t' s', f s = v ∧ Returns (Keeping f) t s p t' s' a

section Both

variable {α β γ : Type}

theorem Answers.returns {p : Proc σ α} {a : α} (h : Answers f v p a) (hp : Keeps f v p)
    {t : Nat} {s : σ} (hs : f s = v) : ∃ t' s', f s' = v ∧ Returns (Keeping f) t s p t' s' a := by
  obtain ⟨t₁, s₁, t', s', hs₁, hr⟩ := h
  exact ⟨t', s', (hp.reaches hs₁ hr).1, hr.restart (hs.trans hs₁.symm)⟩

theorem Reaches.both_left {R : Nat × σ → Nat × σ → Prop} {t t' : Nat} {s s' : σ}
    {p p' : Proc σ β} (h : Reaches R t s p t' s' p') (q : Proc σ γ) (k : β × γ → Proc σ α) :
    Reaches R t s (.both p q k) t' s' (.both p' q k) := by
  induction h with
  | refl => exact .refl
  | step hst _ ih => exact .step (.bothLeft hst) ih
  | env hr _ ih => exact .env hr ih

theorem Reaches.both_right {R : Nat × σ → Nat × σ → Prop} {t t' : Nat} {s s' : σ}
    {q q' : Proc σ γ} (h : Reaches R t s q t' s' q') (p : Proc σ β) (k : β × γ → Proc σ α) :
    Reaches R t s (.both p q k) t' s' (.both p q' k) := by
  induction h with
  | refl => exact .refl
  | step hst _ ih => exact .step (.bothRight hst) ih
  | env hr _ ih => exact .env hr ih

/-- A run of `both p q k` whose parts keep `f` is a run of `p`, a run of `q` and a run of the
continuation on their answers. -/
theorem answers_of_returns_both {p : Proc σ β} {q : Proc σ γ} {k : β × γ → Proc σ α}
    {t t' : Nat} {s s' : σ} {c : α} (hp : Keeps f v p) (hq : Keeps f v q) (hs : f s = v)
    (h : Returns (Keeping f) t s (.both p q k) t' s' c) :
    ∃ b d, Answers f v p b ∧ Answers f v q d ∧
      ∃ t₁ s₁, f s₁ = v ∧ Returns (Keeping f) t₁ s₁ (k (b, d)) t' s' c := by
  -- the run is taken apart step by step, its parts' steps going to the part that took them
  unfold Returns at h
  generalize hr : Proc.both p q k = r at h
  generalize he : (Proc.pure c : Proc σ α) = e at h
  induction h generalizing p q with
  | refl => subst hr; cases he
  | step hst hrest ih =>
    subst hr he
    cases hst with
    | bothLeft hl =>
      obtain ⟨hs₁, hp₁⟩ := hp.step hs hl
      obtain ⟨b, d, ⟨t₂, s₂, t₃, s₃, hs₂, hrb⟩, hd, hc⟩ := ih hp₁ hq hs₁ rfl rfl
      exact ⟨b, d, ⟨_, _, t₃, s₃, hs, .step hl (.env (hs₁.trans hs₂.symm) hrb)⟩, hd, hc⟩
    | bothRight hr' =>
      obtain ⟨hs₁, hq₁⟩ := hq.step hs hr'
      obtain ⟨b, d, hb, ⟨t₂, s₂, t₃, s₃, hs₂, hrd⟩, hc⟩ := ih hp hq₁ hs₁ rfl rfl
      exact ⟨b, d, hb, ⟨_, _, t₃, s₃, hs, .step hr' (.env (hs₁.trans hs₂.symm) hrd)⟩, hc⟩
    | bothDone => exact ⟨_, _, ⟨0, _, 0, _, hs, .refl⟩, ⟨0, _, 0, _, hs, .refl⟩, _, _, hs, hrest⟩
  | env hm _ ih => exact ih hp hq (hm.symm.trans hs) hr he

/-- The runs of `both p q k` whose parts keep `f`: a run of `p`, a run of `q`, in whatever
interleaving, then a run of the continuation on their answers. -/
theorem returns_both_iff {p : Proc σ β} {q : Proc σ γ} {k : β × γ → Proc σ α} {t t' : Nat}
    {s s' : σ} {c : α} (hp : Keeps f v p) (hq : Keeps f v q) (hs : f s = v) :
    Returns (Keeping f) t s (.both p q k) t' s' c ↔
      ∃ b d, Answers f v p b ∧ Answers f v q d ∧
        ∃ t₁ s₁, f s₁ = v ∧ Returns (Keeping f) t₁ s₁ (k (b, d)) t' s' c := by
  refine ⟨answers_of_returns_both hp hq hs, ?_⟩
  rintro ⟨b, d, hb, hd, t₁, s₁, hs₁, hc⟩
  obtain ⟨t₂, s₂, hs₂, hrb⟩ := hb.returns hp hs
  obtain ⟨t₃, s₃, hs₃, hrd⟩ := hd.returns hq hs₂
  exact (hrb.both_left q k).trans ((hrd.both_right _ k).trans
    (.step .bothDone (.env (hs₃.trans hs₁.symm) hc)))

/-- The runs of parts side by side that keep `f`: each part gives one of its answers, and the
answers come in the order of the parts, whatever order the parts finished in. -/
theorem returns_all_iff {ps : List (Proc σ β)} {t t' : Nat} {s s' : σ} {rs : List β}
    (h : ∀ p ∈ ps, Keeps f v p) (hs : f s = v) :
    Returns (Keeping f) t s (all ps) t' s' rs ↔ f s' = v ∧ List.Forall₂ (Answers f v) ps rs := by
  induction ps generalizing t s t' s' rs with
  | nil =>
    rw [all, keeping_pure_iff, List.forall₂_nil_left_iff, hs]
    exact And.comm
  | cons p ps ih =>
    have hps : ∀ q ∈ ps, Keeps f v q := fun q hq => h q (List.mem_cons_of_mem _ hq)
    rw [all, returns_both_iff (h p (List.mem_cons_self ..)) (keeps_all hps) hs]
    constructor
    · rintro ⟨b, bs, hb, ⟨t₂, s₂, t₃, s₃, hs₂, hbs⟩, t₁, s₁, hs₁, hr⟩
      obtain ⟨rfl, hs'⟩ := keeping_pure_iff.1 hr
      exact ⟨hs'.trans hs₁, .cons hb ((ih hps hs₂).1 hbs).2⟩
    · rintro ⟨hs', hf⟩
      cases hf with
      | cons hb hf =>
        exact ⟨_, _, hb, ⟨t, s, t, s, hs, (ih hps hs).2 ⟨hs, hf⟩⟩, t, s', hs',
          keeping_pure_iff.2 ⟨rfl, rfl⟩⟩

/-- Parts that keep `f` run side by side as if alone, and what follows them may as well start
where they did. -/
theorem returns_all_bind_iff {ps : List (Proc σ β)} {k : List β → Proc σ α} {t t' : Nat}
    {s s' : σ} {a : α} (h : ∀ p ∈ ps, Keeps f v p) (hs : f s = v) :
    Returns (Keeping f) t s (all ps >>= k) t' s' a ↔
      ∃ rs, List.Forall₂ (Answers f v) ps rs ∧ Returns (Keeping f) t s (k rs) t' s' a := by
  rw [returns_bind_iff]
  constructor
  · rintro ⟨t₁, s₁, rs, hall, hk⟩
    obtain ⟨hs₁, hf⟩ := (returns_all_iff h hs).1 hall
    exact ⟨rs, hf, hk.restart (hs.trans hs₁.symm)⟩
  · rintro ⟨rs, hf, hk⟩
    exact ⟨t, s, rs, (returns_all_iff h hs).2 ⟨hs, hf⟩, hk⟩

end Both

end Proc

end BrokerSession
