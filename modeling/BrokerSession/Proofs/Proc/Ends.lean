import BrokerSession.Proofs.Proc.Prompt
import BrokerSession.Proofs.Proc.Keeps

/-!
# Runs that finish

`Finishes` says what a run answers once it has finished; that a process does finish needs a run
to exist. `Ends t s p Q` says so: from world `s` at time `t`, `p` has a finished run among an
environment that only lets time pass (`Passing`), ending in a world and with an answer that `Q`
accepts. This is the calm run: nothing else touches the world, and the clock moves on only while
the process waits.

`Ends` composes as a program logic does, with one rule per node and `Ends.bind` for sequencing.
A wait with a deadline ends, at its deadline at the latest (`ends_await`). A race ends with its
right part when its left part stays parked in every world the right part passes through
(`ends_race_right`), as a stalled left part does once its own turns have brought it to a stop
(`ends_race_stalled`).
-/

namespace BrokerSession

namespace Proc

variable {σ ω : Type} {α β γ : Type}

/-- The environment that lets time pass and changes nothing. -/
def Passing : Nat × σ → Nat × σ → Prop := fun x y => x.1 ≤ y.1 ∧ y.2 = x.2

/-- From `s` at time `t`, `p` has a finished run that nothing else disturbs, ending in a world
and with an answer that `Q` accepts. -/
def Ends (t : Nat) (s : σ) (p : Proc σ α) (Q : σ → α → Prop) : Prop :=
  ∃ t' s' a, Finishes Passing t s p t' s' a ∧ Q s' a

section Rules

variable {t : Nat} {s : σ} {Q Q' : σ → α → Prop}

theorem Ends.mono {p : Proc σ α} (h : Ends t s p Q) (hQ : ∀ s a, Q s a → Q' s a) :
    Ends t s p Q' := by
  obtain ⟨t', s', a, hp, hq⟩ := h
  exact ⟨t', s', a, hp, hQ s' a hq⟩

theorem ends_pure {a : α} (h : Q s a) : Ends t s (.pure a) Q :=
  ⟨t, s, a, finishes_pure_iff.2 ⟨rfl, rfl, rfl⟩, h⟩

theorem Ends.bind {p : Proc σ α} {f : α → Proc σ β} {P : σ → β → Prop} (h : Ends t s p Q)
    (hf : ∀ t' s' a, Q s' a → Ends t' s' (f a) P) : Ends t s (p >>= f) P := by
  obtain ⟨t₁, s₁, a, hp, hq⟩ := h
  obtain ⟨t', s', b, hf', hP⟩ := hf t₁ s₁ a hq
  exact ⟨t', s', b, finishes_bind_iff.2 ⟨t₁, s₁, a, hp, hf'⟩, hP⟩

theorem ends_look_iff {k : Nat → σ → Proc σ α} : Ends t s (.look k) Q ↔ Ends t s (k t s) Q := by
  simp only [Ends, finishes_look_iff]

theorem ends_put_iff {x : σ} {k : Proc σ α} : Ends t s (.put x k) Q ↔ Ends t x k Q := by
  simp only [Ends, finishes_put_iff]

theorem ends_gets_bind_iff {h : σ → β} {k : β → Proc σ α} :
    Ends t s (gets h >>= k) Q ↔ Ends t s (k (h s)) Q :=
  ends_look_iff

theorem ends_get_bind_iff {k : σ → Proc σ α} : Ends t s (get >>= k) Q ↔ Ends t s (k s) Q :=
  ends_look_iff

theorem ends_now_bind_iff {k : Nat → Proc σ α} : Ends t s (now >>= k) Q ↔ Ends t s (k t) Q :=
  ends_look_iff

theorem ends_modify_bind_iff {g : σ → σ} {k : Unit → Proc σ α} :
    Ends t s (modify g >>= k) Q ↔ Ends t (g s) (k ()) Q :=
  ends_look_iff.trans ends_put_iff

theorem ends_modifyGet_bind_iff {g : σ → β × σ} {k : β → Proc σ α} :
    Ends t s (modifyGet g >>= k) Q ↔ Ends t (g s).2 (k (g s).1) Q :=
  ends_look_iff.trans ends_put_iff

/-- A wait with a deadline ends, at its deadline at the latest, in the world it began in. -/
theorem ends_await {w : Wake σ} {d : Nat} (hd : w.deadline = some d) :
    Ends t s (await w) fun s' _ => s' = s := by
  cases hdue : w.due t s with
  | true => exact ⟨t, s, (), .step (.wait hdue) .refl, rfl⟩
  | false =>
    -- the clock moves on to the deadline, where the wake holds
    have hdue' : w.due (max t d) s = true := by
      simp only [Wake.due, hd, Bool.or_eq_true, decide_eq_true_eq]
      exact .inl (Nat.le_max_right t d)
    have hmove : Passing (t, s) (max t d, s) := ⟨Nat.le_max_left t d, rfl⟩
    exact ⟨max t d, s, (), .env (.wait hdue) hmove (.step (.wait hdue') .refl), rfl⟩

theorem ends_sleep {ms : Nat} : Ends t s (sleep ms : Proc σ Unit) fun s' _ => s' = s :=
  ends_look_iff.2 (ends_await rfl)

/-- Steps taken in a calm run before a process ends are part of its run. -/
theorem Ends.of_runs {p p' : Proc σ α} {t' : Nat} {s' : σ} (hr : Runs Passing t s p t' s' p')
    (h : Ends t' s' p' Q) : Ends t s p Q := by
  obtain ⟨t'', s'', a, hp, hq⟩ := h
  exact ⟨t'', s'', a, hr.trans hp, hq⟩

end Rules

/-! ## A race won by its right part -/

section Race

variable {g : σ → ω} {v : ω} {p : Proc σ β} {k : β ⊕ γ → Proc σ α}

/-- The right part of a race runs on while its left part stays parked in every world where `g`
is `v`, and the right part leaves `g` alone. -/
theorem Runs.first_right_parked (hp : ∀ t w, g w = v → Parked t w p) {t t' : Nat} {s s' : σ}
    {q q' : Proc σ γ} (hq : Keeps g v q) (hs : g s = v) (h : Runs Passing t s q t' s' q') :
    Runs Passing t s (.first p q k) t' s' (.first p q' k) ∧ g s' = v := by
  induction h with
  | refl => exact ⟨.refl, hs⟩
  | step ht _ ih =>
    obtain ⟨hs₁, hq₁⟩ := hq.step hs ht.step
    obtain ⟨hr, hs'⟩ := ih hq₁ hs₁
    exact ⟨.step (.firstRight (hp 0 _ hs).blocked ht) hr, hs'⟩
  | env hpk hR _ ih =>
    obtain ⟨hle, rfl⟩ := hR
    obtain ⟨hr, hs'⟩ := ih hq hs
    exact ⟨.env (.first (hp _ _ hs) hpk) ⟨hle, rfl⟩ hr, hs'⟩

/-- A race whose left part stays parked in every world where `g` is as it was, against a right
part that leaves `g` alone, ends as the right part does, the left part dropped there. -/
theorem ends_race_right {t : Nat} {s : σ} {q : Proc σ γ} {Q : σ → γ → Prop}
    (hp : ∀ t w, g w = g s → Parked t w p) (hq : Keeps g (g s) q) (h : Ends t s q Q) :
    Ends t s (race p q) fun s' r => ∃ w c, Q w c ∧ r = .inr c ∧ s' = p.release w := by
  obtain ⟨t', s', c, hrun, hQ⟩ := h
  obtain ⟨hfirst, hs'⟩ := Runs.first_right_parked (k := Proc.pure) hp hq rfl hrun
  exact ⟨t', p.release s', .inr c,
    hfirst.trans (.step (.firstDoneRight (hp t' s' hs').blocked.result?_eq_none) .refl),
    s', c, hQ, rfl, rfl⟩

/-- A stalled process stopped at its wait is parked in every world where `g` is as it was. -/
theorem Stalled.parked {P : β → Prop} (hp : Stalled g v P p) (hb : Blocked p) {t : Nat} {w : σ}
    (hw : g w = v) : Parked t w p := by
  induction hb with
  | wait => cases hp with | wait hnd => exact .wait (hnd t w hw)
  | loop _ ih => cases hp with | loop hc _ _ => exact .loop (ih hc)
  | _ => cases hp

/-- The turns of a stalled process keep `g` and leave it stalled. -/
theorem Stalled.runs {P : β → Prop} (hp : Stalled g v P p) {t t' : Nat} {s s' : σ} {p' : Proc σ β}
    (hs : g s = v) (h : Runs (fun _ _ => False) t s p t' s' p') : g s' = v ∧ Stalled g v P p' := by
  induction h with
  | refl => exact ⟨hs, hp⟩
  | step ht _ ih =>
    obtain ⟨hs₁, hp₁⟩ := hp.turn hs ht
    exact ih hp₁ hs₁
  | env _ hR => exact hR.elim

/-- A race against a stalled left part, which its own turns bring to a stop, ends as its right
part does when the right part leaves `g` alone. -/
theorem ends_race_stalled {P : β → Prop} {t : Nat} {s : σ} {p₁ : Proc σ β} {q : Proc σ γ}
    {Q : σ → γ → Prop} (hst : Stalled g (g s) P p) (hr : Runs (fun _ _ => False) t s p t s p₁)
    (hb : Blocked p₁) (hq : Keeps g (g s) q) (h : Ends t s q Q) :
    Ends t s (race p q) fun s' r => ∃ c, Q s' c ∧ r = .inr c := by
  obtain ⟨-, hst₁⟩ := hst.runs rfl hr
  have hrace := ends_race_right (fun _ _ hw => hst₁.parked hb hw) hq h
  refine Ends.of_runs (Runs.mono (fun _ _ hf => hf.elim) hr.first_left) (hrace.mono ?_)
  rintro s' r ⟨w, c, hQ, rfl, rfl⟩
  exact ⟨c, by rwa [hst₁.release], rfl⟩

end Race

end Proc

end BrokerSession
