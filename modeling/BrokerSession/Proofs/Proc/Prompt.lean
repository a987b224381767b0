import BrokerSession.Proofs.Proc.Atomic

/-!
# Races decided as soon as a part finishes

A poll of a race polls its left part and then its right part, and a right part that finishes
during its poll decides the race at once: the left part is not polled again. `Turn` forgets
the last of these: after the right part has finished, its left part may go on moving, and may
even finish first. A `Prompt` turn keeps it: the right part of a race moves only while the left
part is blocked, and its last move decides the race (`Prompt.firstRightDone`). A race whose
right part was finished from the start is still decided for whichever part the scheduler
takes, as under `Turn`.

The parts of a race still move by turns, and so does a process nested inside them: only the
races not inside another race's part are decided promptly. That is all the statements about a
raced operation need, and every prompt turn is one turn or two (`Prompt.turns`).

Runs made of prompt turns (`PromptRuns`) come apart like runs: reads and writes are passed
one at a time, a held resource is given back when its part finishes, and a race is decided
where an invariant of its two parts holds (`PromptFinishes.first_invariant`), now with the
right part's winning move seen as a turn from a state where the invariant holds.
-/

namespace BrokerSession

namespace Proc

variable {σ : Type}

theorem Parked.blocked {α : Type} {t : Nat} {s : σ} {p : Proc σ α} (h : Parked t s p) :
    Blocked p := by
  induction h with
  | wait => exact .wait
  | resume => exact .resume
  | both _ _ ihp ihq => exact .both ihp ihq
  | bothLeft _ ih => exact .bothLeft ih
  | bothRight _ ih => exact .bothRight ih
  | first _ _ ihp ihq => exact .first ihp ihq
  | loop _ ih => exact .loop ih
  | holding _ ih => exact .holding ih

theorem Blocked.result?_eq_none {α : Type} {p : Proc σ α} (h : Blocked p) : p.result? = none := by
  cases h <;> rfl

theorem Blocked.of_bind {α β : Type} {p : Proc σ α} {f : α → Proc σ β} (h : Blocked (p.bind f))
    (hres : p.result? = none) : Blocked p := by
  cases p with
  | pure a => cases hres
  | wait w k => exact .wait
  | resume k => exact .resume
  | both p q k =>
    cases h with
    | both hl hr => exact .both hl hr
    | bothLeft hl => exact .bothLeft hl
    | bothRight hr => exact .bothRight hr
  | first p q k => cases h with | first hl hr => exact .first hl hr
  | loop c b k => cases h with | loop hc => exact .loop hc
  | holding r p k => cases h with | holding hq => exact .holding hq
  | look k => cases h
  | put x k => cases h
  | yield k => cases h
  | settle k => cases h
  | spawn c k => cases h

theorem parked_never {α : Type} (t : Nat) (s : σ) : Parked t s (never : Proc σ α) :=
  .loop (.wait (due_empty t s))

theorem not_turn_never {α : Type} {t : Nat} {s s' : σ} {q : Proc σ α} : ¬ Turn t s never s' q := by
  intro h
  cases h with
  | loopIn hc => cases hc with | wait hd => exact absurd hd (by simp [due_empty])

/-- One step the scheduler may take at time `t`, deciding a race for its right part in the
move that finishes that part. -/
inductive Prompt (t : Nat) : {α : Type} → σ → Proc σ α → σ → Proc σ α → Prop
  | look {α : Type} {s : σ} {k : Nat → σ → Proc σ α} : Prompt t s (.look k) s (k t s)
  | put {α : Type} {s s' : σ} {k : Proc σ α} : Prompt t s (.put s' k) s' k
  | wait {α : Type} {s : σ} {w : Wake σ} {k : Proc σ α} :
      w.due t s = true → Prompt t s (.wait w k) s k
  | yield {α : Type} {s : σ} {k : Proc σ α} : Prompt t s (.yield k) s (.resume k)
  | settle {α : Type} {s : σ} {k : Proc σ α} : Prompt t s (.settle k) s (.resume k)
  | resume {α : Type} {s : σ} {k : Proc σ α} : Prompt t s (.resume k) s k
  | spawn {α : Type} {s : σ} {c : Proc σ Unit} {k : Proc σ α} : Prompt t s (.spawn c k) s k
  | bothLeft {α β γ : Type} {s s' : σ} {p p' : Proc σ β} {q : Proc σ γ}
      {k : β × γ → Proc σ α} :
      Prompt t s p s' p' → Prompt t s (.both p q k) s' (.both p' q k)
  | bothRight {α β γ : Type} {s s' : σ} {p : Proc σ β} {q q' : Proc σ γ}
      {k : β × γ → Proc σ α} :
      Prompt t s q s' q' → Prompt t s (.both p q k) s' (.both p q' k)
  | bothDone {α β γ : Type} {s : σ} {b : β} {c : γ} {k : β × γ → Proc σ α} :
      Prompt t s (.both (.pure b) (.pure c) k) s (k (b, c))
  | firstLeft {α β γ : Type} {s s' : σ} {p p' : Proc σ β} {q : Proc σ γ}
      {k : β ⊕ γ → Proc σ α} :
      Turn t s p s' p' → Prompt t s (.first p q k) s' (.first p' q k)
  | firstRight {α β γ : Type} {s s' : σ} {p : Proc σ β} {q q' : Proc σ γ}
      {k : β ⊕ γ → Proc σ α} :
      Blocked p → Turn t s q s' q' → q'.result? = none → Prompt t s (.first p q k) s' (.first p q' k)
  | firstRightDone {α β γ : Type} {s s' : σ} {p : Proc σ β} {q : Proc σ γ} {c : γ}
      {k : β ⊕ γ → Proc σ α} :
      Blocked p → Turn t s q s' (.pure c) → Prompt t s (.first p q k) (p.release s') (k (.inr c))
  | firstDoneLeft {α β γ : Type} {s : σ} {b : β} {q : Proc σ γ} {k : β ⊕ γ → Proc σ α} :
      Prompt t s (.first (.pure b) q k) (q.release s) (k (.inl b))
  | firstDoneRight {α β γ : Type} {s : σ} {p : Proc σ β} {c : γ} {k : β ⊕ γ → Proc σ α} :
      p.result? = none → Prompt t s (.first p (.pure c) k) (p.release s) (k (.inr c))
  | loopIn {α β γ : Type} {s s' : σ} {c c' : Proc σ (β ⊕ γ)} {b : β → Proc σ (β ⊕ γ)}
      {k : γ → Proc σ α} :
      Prompt t s c s' c' → Prompt t s (.loop c b k) s' (.loop c' b k)
  | loopNext {α β γ : Type} {s : σ} {x : β} {b : β → Proc σ (β ⊕ γ)} {k : γ → Proc σ α} :
      Prompt t s (.loop (.pure (.inl x)) b k) s (.loop (b x) b k)
  | loopDone {α β γ : Type} {s : σ} {y : γ} {b : β → Proc σ (β ⊕ γ)} {k : γ → Proc σ α} :
      Prompt t s (.loop (.pure (.inr y)) b k) s (k y)
  | holdIn {α β : Type} {s s' : σ} {r : σ → σ} {p p' : Proc σ β} {k : β → Proc σ α} :
      Prompt t s p s' p' → Prompt t s (.holding r p k) s' (.holding r p' k)
  | holdDone {α β : Type} {s : σ} {r : σ → σ} {b : β} {k : β → Proc σ α} :
      Prompt t s (.holding r (.pure b) k) (r s) (k b)

/-- A run of a process among others whose races are decided promptly. -/
inductive PromptRuns (R : Nat × σ → Nat × σ → Prop) {α : Type} :
    Nat → σ → Proc σ α → Nat → σ → Proc σ α → Prop
  | refl {t : Nat} {s : σ} {p : Proc σ α} : PromptRuns R t s p t s p
  | step {t t' : Nat} {s s₁ s' : σ} {p p₁ q : Proc σ α} :
      Prompt t s p s₁ p₁ → PromptRuns R t s₁ p₁ t' s' q → PromptRuns R t s p t' s' q
  | env {t t₁ t' : Nat} {s s₁ s' : σ} {p q : Proc σ α} :
      Parked t s p → R (t, s) (t₁, s₁) → PromptRuns R t₁ s₁ p t' s' q → PromptRuns R t s p t' s' q

/-- A run whose races are decided promptly and that finishes with `a`, at time `t'` in world
`s'`. -/
def PromptFinishes (R : Nat × σ → Nat × σ → Prop) {α : Type} (t : Nat) (s : σ) (p : Proc σ α)
    (t' : Nat) (s' : σ) (a : α) : Prop :=
  PromptRuns R t s p t' s' (.pure a)

section Laws

variable {R : Nat × σ → Nat × σ → Prop} {α β γ : Type} {t t' t'' : Nat} {s s' s'' : σ}

theorem Runs.both_left {p p' : Proc σ β} {q : Proc σ γ} {k : β × γ → Proc σ α}
    (h : Runs (fun _ _ => False) t s p t' s' p') :
    Runs (fun _ _ => False) t s (.both p q k) t' s' (.both p' q k) := by
  induction h with
  | refl => exact .refl
  | step hs _ ih => exact .step (.bothLeft hs) ih
  | env _ hr => exact hr.elim

theorem Runs.both_right {p : Proc σ β} {q q' : Proc σ γ} {k : β × γ → Proc σ α}
    (h : Runs (fun _ _ => False) t s q t' s' q') :
    Runs (fun _ _ => False) t s (.both p q k) t' s' (.both p q' k) := by
  induction h with
  | refl => exact .refl
  | step hs _ ih => exact .step (.bothRight hs) ih
  | env _ hr => exact hr.elim

theorem Runs.first_left {p p' : Proc σ β} {q : Proc σ γ} {k : β ⊕ γ → Proc σ α}
    (h : Runs (fun _ _ => False) t s p t' s' p') :
    Runs (fun _ _ => False) t s (.first p q k) t' s' (.first p' q k) := by
  induction h with
  | refl => exact .refl
  | step hs _ ih => exact .step (.firstLeft hs) ih
  | env _ hr => exact hr.elim

/-- Turns of the right part of a race while its left part is blocked, with nothing else
moving. -/
theorem Runs.first_right {p : Proc σ β} {q q' : Proc σ γ} {k : β ⊕ γ → Proc σ α}
    (hb : Blocked p) (h : Runs (fun _ _ => False) t s q t' s' q') :
    Runs (fun _ _ => False) t s (.first p q k) t' s' (.first p q' k) := by
  induction h with
  | refl => exact .refl
  | step hs _ ih => exact .step (.firstRight hb hs) ih
  | env _ hr => exact hr.elim

/-- A prompt turn is a turn, or a turn of a race's right part followed by the turn that
decides the race, with nothing else moving in between. -/
theorem Prompt.turns {p p' : Proc σ α} (h : Prompt t s p s' p') :
    Runs (fun _ _ => False) t s p t s' p' := by
  induction h with
  | look => exact .step .look .refl
  | put => exact .step .put .refl
  | wait hd => exact .step (.wait hd) .refl
  | yield => exact .step .yield .refl
  | settle => exact .step .settle .refl
  | resume => exact .step .resume .refl
  | spawn => exact .step .spawn .refl
  | bothLeft _ ih => exact ih.both_left
  | bothRight _ ih => exact ih.both_right
  | bothDone => exact .step .bothDone .refl
  | firstLeft h => exact .step (.firstLeft h) .refl
  | firstRight hb h _ => exact .step (.firstRight hb h) .refl
  | firstRightDone hb h =>
    exact .step (.firstRight hb h) (.step (.firstDoneRight hb.result?_eq_none) .refl)
  | firstDoneLeft => exact .step .firstDoneLeft .refl
  | firstDoneRight hp => exact .step (.firstDoneRight hp) .refl
  | loopIn _ ih => exact ih.loop_in _ _
  | loopNext => exact .step .loopNext .refl
  | loopDone => exact .step .loopDone .refl
  | holdIn _ ih => exact ih.holding_in _ _
  | holdDone => exact .step .holdDone .refl

theorem PromptRuns.trans {p₁ p₂ p₃ : Proc σ α} (h₁ : PromptRuns R t s p₁ t' s' p₂)
    (h₂ : PromptRuns R t' s' p₂ t'' s'' p₃) : PromptRuns R t s p₁ t'' s'' p₃ := by
  induction h₁ with
  | refl => exact h₂
  | step hs _ ih => exact .step hs (ih h₂)
  | env hp hr _ ih => exact .env hp hr (ih h₂)

theorem Prompt.not_pure {a : α} {q : Proc σ α} : ¬ Prompt t s (.pure a) s' q := by
  intro h
  cases h

theorem promptFinishes_look_iff {k : Nat → σ → Proc σ α} {b : α} :
    PromptFinishes R t s (.look k) t' s' b ↔ PromptFinishes R t s (k t s) t' s' b := by
  constructor
  · intro h
    cases h with
    | step hs hr => cases hs; exact hr
    | env hp => cases hp
  · exact fun h => .step .look h

theorem promptFinishes_put_iff {x : σ} {k : Proc σ α} {b : α} :
    PromptFinishes R t s (.put x k) t' s' b ↔ PromptFinishes R t x k t' s' b := by
  constructor
  · intro h
    cases h with
    | step hs hr => cases hs; exact hr
    | env hp => cases hp
  · exact fun h => .step .put h

theorem promptFinishes_modify_bind_iff {g : σ → σ} {k : Unit → Proc σ α} {b : α} :
    PromptFinishes R t s (modify g >>= k) t' s' b ↔ PromptFinishes R t (g s) (k ()) t' s' b :=
  (promptFinishes_look_iff (k := fun _ x => .put (g x) (k ()))).trans promptFinishes_put_iff

theorem promptFinishes_modifyGet_bind_iff {g : σ → β × σ} {k : β → Proc σ α} {b : α} :
    PromptFinishes R t s (modifyGet g >>= k) t' s' b ↔
      PromptFinishes R t (g s).2 (k (g s).1) t' s' b :=
  (promptFinishes_look_iff (k := fun _ x => .put (g x).2 (k (g x).1))).trans promptFinishes_put_iff

theorem promptFinishes_pure_iff {a b : α} :
    PromptFinishes R t s (.pure a) t' s' b ↔ b = a ∧ t' = t ∧ s' = s := by
  constructor
  · intro h
    cases h with
    | refl => exact ⟨rfl, rfl, rfl⟩
    | step hs => exact absurd hs Prompt.not_pure
    | env hp => exact absurd hp Parked.not_pure
  · rintro ⟨rfl, rfl, rfl⟩
    exact .refl

theorem PromptRuns.holding_in {r : σ → σ} {p p' : Proc σ β} {k : β → Proc σ α}
    (h : PromptRuns R t s p t' s' p') :
    PromptRuns R t s (.holding r p k) t' s' (.holding r p' k) := by
  induction h with
  | refl => exact .refl
  | step hs _ ih => exact .step (.holdIn hs) ih
  | env hp hr _ ih => exact .env (.holding hp) hr ih

/-- A finished run of a part holding a resource finishes the part, gives the resource back and
goes on. -/
theorem promptFinishes_holding_iff {r : σ → σ} {p : Proc σ β} {k : β → Proc σ α} {a : α} :
    PromptFinishes R t s (.holding r p k) t'' s'' a ↔
      ∃ t' s' v, PromptFinishes R t s p t' s' v ∧ PromptFinishes R t' (r s') (k v) t'' s'' a := by
  constructor
  · intro h
    unfold PromptFinishes at h
    generalize hq : Proc.holding r p k = q at h
    generalize ha : Proc.pure a = x at h
    induction h generalizing p with
    | refl => subst hq; cases ha
    | step hs hr ih =>
      subst hq ha
      cases hs with
      | holdIn hp =>
        obtain ⟨t', s', v, h₁, h₂⟩ := ih rfl rfl
        exact ⟨t', s', v, .step hp h₁, h₂⟩
      | holdDone => exact ⟨_, _, _, .refl, hr⟩
    | env hpk hR _ ih =>
      subst hq ha
      cases hpk with
      | holding hp =>
        obtain ⟨t', s', v, h₁, h₂⟩ := ih rfl rfl
        exact ⟨t', s', v, .env hp hR h₁, h₂⟩
  · rintro ⟨t', s', v, h₁, h₂⟩
    exact h₁.holding_in.trans (.step .holdDone h₂)

/-- A prompt race is decided where an invariant of its two parts holds, if the invariant survives
the left part's turns, the right part's unfinishing turns while the left is blocked, and the
environment's moves while both are parked. -/
theorem PromptFinishes.first_invariant {I : Nat → σ → Proc σ β → Proc σ γ → Prop}
    {p : Proc σ β} {q : Proc σ γ} {k : β ⊕ γ → Proc σ α} {a : α}
    (left : ∀ {t s s' p p' q}, I t s p q → Turn t s p s' p' → I t s' p' q)
    (right : ∀ {t s s' p q q'}, I t s p q → Blocked p → Turn t s q s' q' → q'.result? = none →
      I t s' p q')
    (env : ∀ {t s t₁ s₁ p q}, I t s p q → Parked t s p → Parked t s q →
      R (t, s) (t₁, s₁) → I t₁ s₁ p q)
    (hI : I t s p q) (h : PromptFinishes R t s (.first p q k) t'' s'' a) :
    ∃ t' s' p' q', I t' s' p' q' ∧
      ((∃ b, p' = .pure b ∧ PromptFinishes R t' (q'.release s') (k (.inl b)) t'' s'' a) ∨
        (∃ s₁ c, Blocked p' ∧ Turn t' s' q' s₁ (.pure c) ∧
          PromptFinishes R t' (p'.release s₁) (k (.inr c)) t'' s'' a) ∨
        (∃ c, q' = .pure c ∧ p'.result? = none ∧
          PromptFinishes R t' (p'.release s') (k (.inr c)) t'' s'' a)) := by
  unfold PromptFinishes at h
  generalize hr : Proc.first p q k = r at h
  generalize ha : Proc.pure a = z at h
  induction h generalizing p q with
  | refl => subst hr; cases ha
  | step hs hrest ih =>
    subst hr ha
    cases hs with
    | firstLeft hl => exact ih (left hI hl) rfl rfl
    | firstRight hb hq hq' => exact ih (right hI hb hq hq') rfl rfl
    | firstRightDone hb hq => exact ⟨_, _, _, _, hI, .inr (.inl ⟨_, _, hb, hq, hrest⟩)⟩
    | firstDoneLeft => exact ⟨_, _, _, _, hI, .inl ⟨_, rfl, hrest⟩⟩
    | firstDoneRight hp => exact ⟨_, _, _, _, hI, .inr (.inr ⟨_, rfl, hp, hrest⟩)⟩
  | env hpk hR _ ih =>
    subst hr ha
    cases hpk with
    | first hp hq => exact ih (env hI hp hq hR) rfl rfl

end Laws

end Proc

end BrokerSession
