import BrokerSession.Proofs.Proc.Step

/-!
# Where an answer comes from

`Traced P G p` says that each run of `p` either reads a world where `P` holds or finishes with
an answer where `G` holds. It is read off the tree of `p` node by node, the way a weakest
precondition is read off a program: a `look` must be traced in every world it may read but
those where `P` holds, and every part hands its answers, with what is shown of them, to what
follows it. The parts of `both`, of a race and of a loop carry predicates of their own, each
what its continuation needs of its answers.

Read the other way, this is provenance. To show that an answer `a` comes only out of worlds
where `P` holds, take for `G` "the answer is not `a`": a run that answers `a` then reads such
a world, and `Traced.returns` says where: at some point of that very run, which goes on from
there to its end. The run may interleave any moves of the environment, and the children the
process spawns are part of that environment.
-/

namespace BrokerSession

namespace Proc

variable {σ : Type} {P : σ → Prop}

/-- Each run of the process reads a world where `P` holds, or answers where `G` holds. -/
inductive Traced (P : σ → Prop) : {α : Type} → (α → Prop) → Proc σ α → Prop
  | pure {α : Type} {G : α → Prop} {a : α} : G a → Traced P G (.pure a)
  | look {α : Type} {G : α → Prop} {k : Nat → σ → Proc σ α} :
      (∀ t s, ¬ P s → Traced P G (k t s)) → Traced P G (.look k)
  | put {α : Type} {G : α → Prop} {s : σ} {k : Proc σ α} :
      Traced P G k → Traced P G (.put s k)
  | wait {α : Type} {G : α → Prop} {w : Wake σ} {k : Proc σ α} :
      Traced P G k → Traced P G (.wait w k)
  | yield {α : Type} {G : α → Prop} {k : Proc σ α} : Traced P G k → Traced P G (.yield k)
  | settle {α : Type} {G : α → Prop} {k : Proc σ α} : Traced P G k → Traced P G (.settle k)
  | resume {α : Type} {G : α → Prop} {k : Proc σ α} : Traced P G k → Traced P G (.resume k)
  | spawn {α : Type} {G : α → Prop} {c : Proc σ Unit} {k : Proc σ α} :
      Traced P G k → Traced P G (.spawn c k)
  | both {α β γ : Type} {G : α → Prop} {Gp : β → Prop} {Gq : γ → Prop} {p : Proc σ β}
      {q : Proc σ γ} {k : β × γ → Proc σ α} :
      Traced P Gp p → Traced P Gq q → (∀ b d, Gp b → Gq d → Traced P G (k (b, d))) →
        Traced P G (.both p q k)
  | first {α β γ : Type} {G : α → Prop} {Gp : β → Prop} {Gq : γ → Prop} {p : Proc σ β}
      {q : Proc σ γ} {k : β ⊕ γ → Proc σ α} :
      Traced P Gp p → Traced P Gq q → (∀ x, Sum.elim Gp Gq x → Traced P G (k x)) →
        Traced P G (.first p q k)
  | loop {α β γ : Type} {G : α → Prop} {H : β ⊕ γ → Prop} {c : Proc σ (β ⊕ γ)}
      {b : β → Proc σ (β ⊕ γ)} {k : γ → Proc σ α} :
      Traced P H c → (∀ x, H (.inl x) → Traced P H (b x)) →
        (∀ y, H (.inr y) → Traced P G (k y)) → Traced P G (.loop c b k)
  | holding {α β : Type} {G : α → Prop} {Gp : β → Prop} {r : σ → σ} {p : Proc σ β}
      {k : β → Proc σ α} :
      Traced P Gp p → (∀ b, Gp b → Traced P G (k b)) → Traced P G (.holding r p k)

/-! ## Runs of a traced process -/

section Runs

variable {α β : Type} {G : α → Prop}

theorem Traced.step {t : Nat} {s s' : σ} {p p' : Proc σ α} (hp : Traced P G p)
    (h : Step t s p s' p') : P s ∨ Traced P G p' := by
  induction h with
  | look => cases hp with | look hk => exact (Classical.em _).imp_right (hk _ _)
  | put => cases hp with | put hk => exact .inr hk
  | wait => cases hp with | wait hk => exact .inr hk
  | yield => cases hp with | yield hk => exact .inr (.resume hk)
  | settle => cases hp with | settle hk => exact .inr (.resume hk)
  | resume => cases hp with | resume hk => exact .inr hk
  | spawn => cases hp with | spawn hk => exact .inr hk
  | bothLeft _ ih => cases hp with | both hl hr hk => exact (ih hl).imp_right (.both · hr hk)
  | bothRight _ ih => cases hp with | both hl hr hk => exact (ih hr).imp_right (.both hl · hk)
  | bothDone =>
    cases hp with
    | both hl hr hk =>
      cases hl with
      | pure hb => cases hr with | pure hd => exact .inr (hk _ _ hb hd)
  | firstLeft _ ih =>
    cases hp with | first hl hr hk => exact (ih hl).imp_right (.first · hr hk)
  | firstRight _ ih =>
    cases hp with | first hl hr hk => exact (ih hr).imp_right (.first hl · hk)
  | firstDoneLeft =>
    cases hp with | first hl _ hk => cases hl with | pure hb => exact .inr (hk (.inl _) hb)
  | firstDoneRight =>
    cases hp with | first _ hr hk => cases hr with | pure hd => exact .inr (hk (.inr _) hd)
  | loopIn _ ih => cases hp with | loop hc hb hk => exact (ih hc).imp_right (.loop · hb hk)
  | loopNext =>
    cases hp with
    | loop hc hb hk => cases hc with | pure hx => exact .inr (.loop (hb _ hx) hb hk)
  | loopDone =>
    cases hp with | loop hc _ hk => cases hc with | pure hy => exact .inr (hk _ hy)
  | holdIn _ ih => cases hp with | holding hq hk => exact (ih hq).imp_right (.holding · hk)
  | holdDone =>
    cases hp with | holding hq hk => cases hq with | pure hb => exact .inr (hk _ hb)

/-- A run of a traced process reads, at some point, a world where `P` holds, or it stops at a
traced process. -/
theorem Traced.reaches {R : Nat × σ → Nat × σ → Prop} {t t' : Nat} {s s' : σ}
    {p q : Proc σ α} (hp : Traced P G p) (h : Reaches R t s p t' s' q) :
    (∃ tm sm pm, Reaches R t s p tm sm pm ∧ P sm ∧ Reaches R tm sm pm t' s' q) ∨
      Traced P G q := by
  induction h with
  | refl => exact .inr hp
  | step hst hrest ih =>
    rcases hp.step hst with hP | hp₁
    · exact .inl ⟨_, _, _, .refl, hP, .step hst hrest⟩
    · rcases ih hp₁ with ⟨tm, sm, pm, h₁, hP, h₂⟩ | hq
      · exact .inl ⟨tm, sm, pm, .step hst h₁, hP, h₂⟩
      · exact .inr hq
  | env hr _ ih =>
    rcases ih hp with ⟨tm, sm, pm, h₁, hP, h₂⟩ | hq
    · exact .inl ⟨tm, sm, pm, .env hr h₁, hP, h₂⟩
    · exact .inr hq

/-- A finished run of a traced process answers where `G` holds, or it goes through a world
where `P` holds: the process read that world there, and the run goes on from there to the
same end. -/
theorem Traced.returns {R : Nat × σ → Nat × σ → Prop} {t t' : Nat} {s s' : σ} {p : Proc σ α}
    {a : α} (hp : Traced P G p) (h : Returns R t s p t' s' a) :
    G a ∨ ∃ tm sm pm, Reaches R t s p tm sm pm ∧ P sm ∧ Returns R tm sm pm t' s' a := by
  rcases hp.reaches h with hm | ha
  · exact .inr hm
  · cases ha with
    | pure hg => exact .inl hg

theorem Traced.bind {G' : β → Prop} {p : Proc σ α} {k : α → Proc σ β} (hp : Traced P G p)
    (hk : ∀ a, G a → Traced P G' (k a)) : Traced P G' (p >>= k) := by
  induction hp with
  | pure hg => exact hk _ hg
  | look _ ih => exact .look fun t s hs => ih t s hs hk
  | put _ ih => exact .put (ih hk)
  | wait _ ih => exact .wait (ih hk)
  | yield _ ih => exact .yield (ih hk)
  | settle _ ih => exact .settle (ih hk)
  | resume _ ih => exact .resume (ih hk)
  | spawn _ ih => exact .spawn (ih hk)
  | both hl hr _ _ _ ih => exact .both hl hr fun b d hb hd => ih b d hb hd hk
  | first hl hr _ _ _ ih => exact .first hl hr fun x hx => ih x hx hk
  | loop hc hb _ _ _ ih => exact .loop hc hb fun y hy => ih y hy hk
  | holding hq _ _ ih => exact .holding hq fun b hb => ih b hb hk

theorem Traced.map {G' : β → Prop} {p : Proc σ α} {f : α → β} (hp : Traced P G p)
    (hf : ∀ a, G a → G' (f a)) : Traced P G' (f <$> p) :=
  hp.bind fun a ha => .pure (hf a ha)

theorem traced_true (p : Proc σ α) : Traced P (fun _ => True) p := by
  induction p with
  | pure a => exact .pure trivial
  | look k ih => exact .look fun t s _ => ih t s
  | put s k ih => exact .put ih
  | wait w k ih => exact .wait ih
  | yield k ih => exact .yield ih
  | settle k ih => exact .settle ih
  | resume k ih => exact .resume ih
  | spawn c k _ ih => exact .spawn ih
  | both p q k ihp ihq ihk => exact .both ihp ihq fun b d _ _ => ihk (b, d)
  | first p q k ihp ihq ihk => exact .first ihp ihq fun x _ => ihk x
  | loop c b k ihc ihb ihk => exact .loop ihc (fun x _ => ihb x) fun y _ => ihk y
  | holding r p k ihp ihk => exact .holding ihp fun b _ => ihk b

theorem traced_then {p : Proc σ α} {k : α → Proc σ β} {G' : β → Prop}
    (hk : ∀ a, Traced P G' (k a)) : Traced P G' (p >>= k) :=
  (traced_true p).bind fun a _ => hk a

end Runs

/-! ## The library's processes -/

section Library

variable {α β γ : Type} {G : α → Prop}

theorem traced_get_bind {k : σ → Proc σ α} (hk : ∀ s, ¬ P s → Traced P G (k s)) :
    Traced P G (get >>= k) :=
  .look fun _ s hs => hk s hs

theorem traced_gets_bind {h : σ → β} {k : β → Proc σ α} (hk : ∀ s, ¬ P s → Traced P G (k (h s))) :
    Traced P G (gets h >>= k) :=
  .look fun _ s hs => hk s hs

theorem traced_modifyGet_bind {g : σ → β × σ} {k : β → Proc σ α}
    (hk : ∀ s, ¬ P s → Traced P G (k (g s).1)) : Traced P G (modifyGet g >>= k) :=
  .look fun _ s hs => .put (hk s hs)

theorem traced_never : Traced P G (never : Proc σ α) :=
  .loop (H := fun _ => True) (.wait (.pure trivial)) (fun _ _ => .wait (.pure trivial)) nofun

theorem traced_race {Gp : β → Prop} {Gq : γ → Prop} {p : Proc σ β} {q : Proc σ γ}
    (hp : Traced P Gp p) (hq : Traced P Gq q) : Traced P (Sum.elim Gp Gq) (race p q) :=
  .first hp hq fun _ hx => .pure hx

theorem traced_hold {r : σ → σ} {p : Proc σ α} (hp : Traced P G p) : Traced P G (hold r p) :=
  .holding hp fun _ hb => .pure hb

theorem traced_iterate {H : β ⊕ γ → Prop} {init : β} {body : β → Proc σ (β ⊕ γ)}
    (hb : ∀ x, Traced P H (body x)) : Traced P (fun y => H (.inr y)) (iterate init body) :=
  .loop (hb init) (fun x _ => hb x) fun _ hy => .pure hy

theorem traced_all {ps : List (Proc σ α)} (h : ∀ p ∈ ps, Traced P G p) :
    Traced P (fun rs => ∀ r ∈ rs, G r) (all ps) := by
  induction ps with
  | nil => exact .pure fun _ hr => absurd hr List.not_mem_nil
  | cons p ps ih =>
    refine .both (h p (List.mem_cons_self ..)) (ih fun q hq => h q (List.mem_cons_of_mem _ hq))
      fun b bs hb hbs => .pure fun r hr => ?_
    rcases List.mem_cons.1 hr with rfl | hr
    · exact hb
    · exact hbs r hr

theorem traced_forIn {I : β → Prop} {f : γ → β → Proc σ (ForInStep β)} :
    ∀ (l : List γ) {b : β}, (∀ x ∈ l, ∀ b, I b → Traced P (fun y => I y.value) (f x b)) →
      I b → Traced P I (forIn l b f)
  | [], _, _, hb => .pure hb
  | x :: l, b, hf, hb => by
    rw [List.forIn_cons]
    refine (hf x (List.mem_cons_self ..) b hb).bind fun y hy => ?_
    cases y with
    | done b' => exact .pure hy
    | yield b' => exact traced_forIn l (fun z hz => hf z (List.mem_cons_of_mem _ hz)) hy

end Library

end Proc

end BrokerSession
