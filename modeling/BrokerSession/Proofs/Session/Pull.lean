import BrokerSession.Proofs.Proc.Atomic
import BrokerSession.Proofs.Session.Untouched

/-!
# One pull of a window

A window of `consume` pulls in rounds; a round is the pull `pullUntil deadline wanted`, run
under the retry executor with the pre-check and raced against a client error on the bus. This
module says what one round does to the pull script, among an environment that leaves the
script, the offset window and the byte count alone (`Keeping World.held`).

A pull takes the entry at the front of the script (`takePull`): an error as it is, or at most
`wanted` messages of a batch, whose rest goes back to the front. The race decides for the pull
as soon as it has taken something: the listener it races against waits on a receiver that
has nothing to read, and cannot get past its wait until the environment moves, which it does
only once the pull parks. So a batch the pull took is the round's answer, never lost and never
taken twice (`finishes_raceWithEvent_pullUntil`). Only an empty script makes the pull park: it
waits until the deadline, and the listener may then win with an error.

Over the retries of a round (`finishes_retryRacing_pullUntil`): failed pulls take the errors at
the front of the script, and the round ends with the batch the last pull took, with nothing
once the deadline has passed on an empty script, or without a batch (`Pulled`).
-/

namespace BrokerSession

/-! ## What a pull takes from the script -/

/-- What one pull of at most `n` messages takes from a pull script, and the script it leaves:
nothing from an empty script, an error as it is, and at most `n` messages of a batch, whose
rest goes back to the front. -/
def takePull (n : Nat) : List (Except Fault (List Message)) →
    Option (Except Fault (List Message)) × List (Except Fault (List Message))
  | [] => (none, [])
  | .error e :: rest => (some (.error e), rest)
  | .ok ms :: rest =>
    if n < ms.length then (some (.ok (ms.take n)), .ok (ms.drop n) :: rest)
    else (some (.ok ms), rest)

namespace ScriptedConsumer

/-- A pull takes what `takePull` takes and counts itself. -/
theorem pull_eq (c : ScriptedConsumer) (n : Nat) :
    c.pull n = ((takePull n c.pulls).1,
      { c with pullCount := c.pullCount + 1, pulls := (takePull n c.pulls).2 }) := by
  unfold pull
  rcases c.pulls with _ | ⟨e | ms, rest⟩
  · rfl
  · rfl
  · by_cases hlt : n < ms.length
    · simp only [takePull, if_pos hlt]
    · simp only [takePull, if_neg hlt]

theorem pull_fst (c : ScriptedConsumer) (n : Nat) : (c.pull n).1 = (takePull n c.pulls).1 := by
  rw [pull_eq]

theorem pull_pulls (c : ScriptedConsumer) (n : Nat) :
    (c.pull n).2.pulls = (takePull n c.pulls).2 := by
  rw [pull_eq]

end ScriptedConsumer

/-! ## What a window owns -/

/-- What a window reads and writes: the pull script, the offset window and the bytes consumed. -/
def World.consumption (w : World) : List (Except Fault (List Message)) × OffsetWindow × Nat :=
  (w.consumer.pulls, w.window, w.bytesConsumed)

/-- What no process but the window's touches: what the window reads and writes, and whether the
bus's receiver numbers are fresh. -/
def World.held (w : World) : (List (Except Fault (List Message)) × OffsetWindow × Nat) × Bool :=
  (w.consumption, w.bus.fresh)

/-- What a wait for events reads: the bus and the cancellation tokens. -/
def World.signals (w : World) : Bus × Tokens := (w.bus, w.tokens)

theorem untouched_consumption (v : List (Except Fault (List Message)) × OffsetWindow × Nat) :
    Untouched World.consumption v where
  emit _ _ hw := hw
  subscribe _ hw := hw
  unsubscribe _ _ hw := hw
  scan _ _ _ hw := hw
  tokens _ _ hw := hw
  backoff _ _ hw _ := hw
  halted _ _ hw := hw
  connect w hw := by
    rw [← hw]
    simp only [World.consumption, ScriptedConsumer.connect_pulls]

theorem untouched_held (v : List (Except Fault (List Message)) × OffsetWindow × Nat) :
    Untouched World.held (v, true) :=
  (untouched_consumption v).prod untouched_fresh

/-! ## The pull -/

namespace Act

/-- A pull of at most `n` messages from the world's connection: what it got, and the world
after. -/
def takeMessages (n : Nat) (w : World) : Option (Except Fault (List Message)) × World :=
  let (r, c) := w.consumer.pull n
  (r, { w with consumer := c })

/-- What a pull does with what it got: an empty script is waited out for `timeoutMs`. -/
def afterPull (timeoutMs : Nat) :
    Option (Except Fault (List Message)) → Act (Except Fault (List Message))
  | none => do
    Proc.sleep timeoutMs
    pure (.ok [])
  | some r => pure r

theorem consumerPull_eq (n timeoutMs : Nat) :
    consumerPull n timeoutMs = Proc.modifyGet (takeMessages n) >>= afterPull timeoutMs := rfl

@[simp] theorem takeMessages_fst (n : Nat) (w : World) :
    (takeMessages n w).1 = (takePull n w.consumer.pulls).1 :=
  ScriptedConsumer.pull_fst _ _

@[simp] theorem consumption_takeMessages (n : Nat) (w : World) :
    (takeMessages n w).2.consumption = ((takePull n w.consumer.pulls).2, w.window, w.bytesConsumed) := by
  simp only [World.consumption, takeMessages, ScriptedConsumer.pull_pulls]

@[simp] theorem signals_takeMessages (n : Nat) (w : World) :
    (takeMessages n w).2.signals = w.signals := rfl

@[simp] theorem fresh_takeMessages (n : Nat) (w : World) :
    (takeMessages n w).2.bus.fresh = w.bus.fresh := rfl

/-- The left part of `raceWithEvent`: a wait for a faulty event of `kind` on `rx` that answers
the event's fault and otherwise never finishes. -/
def faultListener (rx : Nat) (kind : EventKind) (token : Nat) : Act Fault := do
  match ← awaitOnce rx kind none false token with
  | .error e => pure e
  | .ok _ => Proc.never

theorem raceWithEvent_eq {β : Type} (kind : EventKind) (scope : Nat) (op : Act (Except Fault β)) :
    raceWithEvent kind scope op = (do
      let rx ← subscribe
      let token ← childToken scope
      let r ← withReceiver rx (Proc.race (faultListener rx kind token) op)
      cancel token
      pure (match r with
        | .inl e => .error e
        | .inr v => v)) := rfl

end Act

theorem Untouched.keeps_faultListener {ω : Type} {f : World → ω} {v : ω} (hf : Untouched f v)
    (rx : Nat) (kind : EventKind) (token : Nat) : Proc.Keeps f v (Act.faultListener rx kind token) := by
  refine (hf.keeps_awaitOnce rx kind none false token).bind fun r => ?_
  cases r with
  | error e => exact .pure
  | ok _ => exact Proc.keeps_never

namespace Proc

section Turns

variable {t : Nat} {s s' : World} {d n tm : Nat} {q : Act (Except Fault (List Message))}

theorem turn_pullUntil_iff :
    Turn t s (Act.pullUntil d n) s' q ↔ s' = s ∧ q = Act.consumerPull n (d - t) :=
  turn_look_iff

theorem turn_consumerPull_iff :
    Turn t s (Act.consumerPull n tm) s' q ↔
      s' = s ∧ q = .put (Act.takeMessages n s).2 (Act.afterPull tm (Act.takeMessages n s).1) :=
  turn_look_iff

theorem turn_afterPull_none_iff :
    Turn t s (Act.afterPull tm none) s' q ↔
      s' = s ∧ q = .wait { deadline := some (t + tm) } (.pure (.ok [])) :=
  turn_look_iff

end Turns

/-! ## A listener with nothing to hear -/

/-- A listener whose receiver has read everything hears nothing: among worlds with the same bus
and tokens it keeps them, never gets past its wait and never finishes. -/
theorem stalled_faultListener {w₀ : World} {rx : Nat} (hc : w₀.bus.CaughtUp rx)
    (kind : EventKind) (token : Nat) :
    Stalled World.signals w₀.signals (fun _ => False) (Act.faultListener rx kind token) := by
  have hbus : ∀ s : World, s.signals = w₀.signals → s.bus = w₀.bus := fun s hs =>
    (Prod.mk.inj hs).1
  unfold Act.faultListener Act.awaitOnce
  -- the wait answers only `ok`, for a cancelled token or a closed bus, and never hears an event
  refine Stalled.bind (P := fun r : Except Fault Resolution => ∃ res, r = .ok res) ?_
    fun r ⟨res, hr⟩ => by subst hr; exact stalled_never
  refine Stalled.bind (P := fun _ => True) (.look fun _ _ _ => .pure trivial) fun start _ => ?_
  refine .loop (Q := fun v => ∃ res, v = .inr (.ok res)) ?_ (fun _ ⟨_, h⟩ => nomatch h)
    fun y ⟨res, hy⟩ => .pure ⟨res, by cases hy; rfl⟩
  -- one read finds nothing new, or the end of the bus, and writes the bus back as it was
  refine Stalled.bind (P := fun f => f = if w₀.bus.sending then .nothing else .closed)
    (.look fun _ s hs => ?_) fun f hf => ?_
  · have hscan := Bus.scan_of_caughtUp (hbus s hs ▸ hc) kind
    rw [hbus s hs] at hscan
    refine .put ?_ (.pure ?_)
    · show ({ s with bus := (s.bus.scan rx kind).2 } : World).signals = _
      rw [hbus s hs, hscan, ← hbus s hs]
      exact hs
    · show (s.bus.scan rx kind).1 = _
      rw [hbus s hs, hscan]
  · subst hf
    cases hsend : w₀.bus.sending
    · exact .pure ⟨_, rfl⟩
    · refine .look fun _ s₂ hs₂ => .look fun t _ _ => ?_
      dsimp only
      split
      · exact .pure ⟨_, rfl⟩
      · next hcan =>
        -- nothing new and no cancellation in any world with the same bus and tokens
        refine .wait fun _ s₃ hs₃ => ?_
        have htok : s₃.tokens = s₂.tokens := (Prod.mk.inj hs₃).2.trans (Prod.mk.inj hs₂).2.symm
        simp only [Wake.due, Act.listenWake, Option.map_none, Bool.false_or, Bool.or_eq_false_iff]
        refine ⟨?_, ?_⟩
        · rw [hbus s₃ hs₃, Bus.hasNews_of_caughtUp hc, hsend]
          rfl
        · simpa [World.isCancelled, htok] using hcan

theorem keeps_pullUntil {ω : Type} {f : World → ω} {v : ω}
    (hf : ∀ n w, f (Act.takeMessages n w).2 = f w) (d n : Nat) : Keeps f v (Act.pullUntil d n) := by
  refine .look fun t _ _ => ?_
  show Keeps f v (Act.consumerPull n (d - t))
  rw [Act.consumerPull_eq]
  refine Keeps.bind (.look fun _ w hw => .put ((hf n w).trans hw) .pure) fun r => ?_
  cases r with
  | none => exact keeps_sleep.bind fun _ => .pure
  | some r => exact .pure

/-! ## The race of a pull that takes something -/

section Race

variable {d n : Nat}

/-- Where a pull of at most `n` messages until `d` stands once it has begun at time `t`, in a
window whose script, window and byte count were `F`, when its take gets `r`: it has read the
world, it has taken `r`, or it has answered. -/
inductive PullBegun (d n t : Nat) (F : List (Except Fault (List Message)) × OffsetWindow × Nat)
    (r : Except Fault (List Message)) : World → Act (Except Fault (List Message)) → Prop
  | read {w : World} : w.consumption = F → PullBegun d n t F r w (Act.consumerPull n (d - t))
  | took {w x : World} : x.consumption = F → x.signals = w.signals →
      PullBegun d n t F r w
        (.put (Act.takeMessages n x).2 (Act.afterPull (d - t) (Act.takeMessages n x).1))
  | done {w : World} : w.consumption = ((takePull n F.1).2, F.2) → PullBegun d n t F r w (.pure r)

variable {t : Nat} {F : List (Except Fault (List Message)) × OffsetWindow × Nat}
  {r : Except Fault (List Message)} {w w' : World} {q q' : Act (Except Fault (List Message))}

theorem PullBegun.turn (hr : (takePull n F.1).1 = some r) (hq : PullBegun d n t F r w q)
    (h : Turn t w q w' q') : w'.signals = w.signals ∧ PullBegun d n t F r w' q' := by
  cases hq with
  | read hF =>
    obtain ⟨rfl, rfl⟩ := turn_consumerPull_iff.1 h
    exact ⟨rfl, .took hF rfl⟩
  | @took x hF hsig =>
    obtain ⟨rfl, rfl⟩ := turn_put_iff.1 h
    subst hF
    have htake : (Act.takeMessages n x).1 = some r := (Act.takeMessages_fst n x).trans hr
    refine ⟨(Act.signals_takeMessages n _).trans hsig, ?_⟩
    rw [htake]
    exact .done (Act.consumption_takeMessages n x)
  | done => exact absurd h Turn.not_pure

theorem PullBegun.not_parked (hq : PullBegun d n t F r w q) : ¬ Parked t w q := by
  intro hp
  cases hq <;> cases hp

/-- The two parts of a race between a listener with nothing to hear and a pull that takes
something: at the first moment, the listener runs alone and keeps what the window holds;
once the pull has begun, the listener stands frozen at its wait. -/
def RaceTaking (d n t : Nat) (g : Bus × Tokens) (F : List (Except Fault (List Message)) × OffsetWindow × Nat)
    (r : Except Fault (List Message)) (t' : Nat) (w : World) (p : Act Fault)
    (q : Act (Except Fault (List Message))) : Prop :=
  t' = t ∧ w.signals = g ∧ Stalled World.signals g (fun _ => False) p ∧
    ((q = Act.pullUntil d n ∧ w.consumption = F ∧ Keeps World.consumption F p) ∨
      (Blocked p ∧ PullBegun d n t F r w q))

/-- A pull that takes something from the script wins its race at once: the race answers what
the pull took, at the time it started, and the script is what the take left. -/
theorem finishes_race_of_takes {R : Nat × World → Nat × World → Prop} {rx token : Nat}
    {kind : EventKind} {s s' : World} {t' : Nat} {x : Fault ⊕ Except Fault (List Message)}
    (hc : s.bus.CaughtUp rx) (hr : (takePull n s.consumer.pulls).1 = some r)
    (h : Finishes R t s (Proc.race (Act.faultListener rx kind token) (Act.pullUntil d n)) t' s' x) :
    x = .inr r ∧ t' = t ∧
      s'.consumption = ((takePull n s.consumer.pulls).2, s.window, s.bytesConsumed) := by
  have hr' : (takePull n s.consumption.1).1 = some r := hr
  have hI : RaceTaking d n t s.signals s.consumption r t s (Act.faultListener rx kind token)
      (Act.pullUntil d n) :=
    ⟨rfl, rfl, stalled_faultListener hc kind token,
      .inl ⟨rfl, rfl, (untouched_consumption _).keeps_faultListener rx kind token⟩⟩
  obtain ⟨t₁, s₁, p₁, q₁, ⟨rfl, hsig, hst, hphase⟩, hwin⟩ := Finishes.first_invariant
    (I := RaceTaking d n t s.signals s.consumption r)
    (fun ⟨ht, hsig, hst, hphase⟩ hturn => by
      -- the listener moves only before the pull has begun, and keeps the window's part then
      obtain ⟨hsig', hst'⟩ := hst.turn hsig hturn
      rcases hphase with ⟨hq, hF, hk⟩ | ⟨hb, _⟩
      · obtain ⟨hF', hk'⟩ := hk.step hF hturn.step
        exact ⟨ht, hsig', hst', .inl ⟨hq, hF', hk'⟩⟩
      · exact absurd hturn (hst.frozen hb hsig))
    (fun ⟨ht, hsig, hst, hphase⟩ hb hturn => by
      subst ht
      rcases hphase with ⟨rfl, hF, _⟩ | ⟨_, hq⟩
      · obtain ⟨rfl, rfl⟩ := turn_pullUntil_iff.1 hturn
        exact ⟨rfl, hsig, hst, .inr ⟨hb, .read hF⟩⟩
      · obtain ⟨hsig', hq'⟩ := hq.turn hr' hturn
        exact ⟨rfl, hsig'.trans hsig, hst, .inr ⟨hb, hq'⟩⟩)
    (fun ⟨ht, _, _, hphase⟩ _ hpq _ => by
      -- the pull never parks, so the environment never moves
      subst ht
      rcases hphase with ⟨rfl, _⟩ | ⟨_, hq⟩
      · cases hpq
      · exact absurd hpq hq.not_parked)
    hI h
  rcases hwin with ⟨b, rfl, -⟩ | ⟨c, rfl, -, hk⟩
  · cases hst with | pure hb => exact hb.elim
  · rcases hphase with ⟨hq, -⟩ | ⟨-, hq⟩
    · cases hq
    · cases hq with
      | done hF =>
        obtain ⟨rfl, rfl, rfl⟩ := finishes_pure_iff.1 hk
        exact ⟨rfl, rfl, by rw [hst.release]; exact hF⟩

/-! ## The race of a pull on an empty script -/

/-- Where a pull of at most `n` messages until `d` stands at time `t` in a window whose script,
window and byte count are `F`, with the script empty: it takes nothing, sleeps until the
deadline and answers an empty batch. -/
inductive PullIdle (d n : Nat) (F : List (Except Fault (List Message)) × OffsetWindow × Nat) :
    Nat → Act (Except Fault (List Message)) → Prop
  | start {t : Nat} : PullIdle d n F t (Act.pullUntil d n)
  | read {t : Nat} : PullIdle d n F t (Act.consumerPull n (d - t))
  | took {t : Nat} {x : World} : x.consumption = F →
      PullIdle d n F t
        (.put (Act.takeMessages n x).2 (Act.afterPull (d - t) (Act.takeMessages n x).1))
  | sleep {t : Nat} : PullIdle d n F t (Act.afterPull (d - t) none)
  | wait {t t₀ : Nat} :
      PullIdle d n F t (.wait { deadline := some (t₀ + (d - t₀)) } (.pure (.ok [])))
  | done {t : Nat} : d ≤ t → PullIdle d n F t (.pure (.ok []))

theorem PullIdle.turn (hP : F.1 = []) (hq : PullIdle d n F t q) (hw : w.consumption = F)
    (h : Turn t w q w' q') : w'.consumption = F ∧ PullIdle d n F t q' := by
  cases hq with
  | start =>
    obtain ⟨rfl, rfl⟩ := turn_pullUntil_iff.1 h
    exact ⟨hw, .read⟩
  | read =>
    obtain ⟨rfl, rfl⟩ := turn_consumerPull_iff.1 h
    exact ⟨hw, .took hw⟩
  | @took x hx =>
    obtain ⟨rfl, rfl⟩ := turn_put_iff.1 h
    subst hx
    -- the pull took nothing, so its write only counted it
    have hpulls : x.consumer.pulls = [] := hP
    have htake : (Act.takeMessages n x).1 = none := by
      rw [Act.takeMessages_fst, hpulls]
      rfl
    refine ⟨?_, by rw [htake]; exact .sleep⟩
    rw [Act.consumption_takeMessages, hpulls]
    simp only [World.consumption, hpulls]
    rfl
  | sleep =>
    obtain ⟨rfl, rfl⟩ := turn_afterPull_none_iff.1 h
    exact ⟨hw, .wait⟩
  | wait =>
    obtain ⟨hd, rfl, rfl⟩ := turn_wait_iff.1 h
    refine ⟨hw, .done ?_⟩
    simp only [Wake.due, Bool.or_false, decide_eq_true_eq] at hd
    omega
  | done => exact absurd h Turn.not_pure

theorem PullIdle.env {t₁ : Nat} (hq : PullIdle d n F t q) (hp : Parked t w q) :
    PullIdle d n F t₁ q := by
  cases hq with
  | wait => exact .wait
  | _ => cases hp

/-- A pull on an empty script leaves the window's part as it was, and answers an empty batch
only once the deadline has passed, unless the listener wins with an error. -/
theorem finishes_race_of_empty {rx token : Nat} {kind : EventKind} {s s' : World} {t' : Nat}
    {x : Fault ⊕ Except Fault (List Message)} (hP : s.consumer.pulls = [])
    (h : Finishes (Keeping World.held) t s
      (Proc.race (Act.faultListener rx kind token) (Act.pullUntil d n)) t' s' x) :
    s'.consumption = s.consumption ∧ (x = .inr (.ok []) ∧ d ≤ t' ∨ ∃ e, x = .inl e) := by
  have hP' : s.consumption.1 = [] := hP
  obtain ⟨t₁, s₁, p₁, q₁, ⟨hF, hk, hq⟩, hwin⟩ := Finishes.first_invariant
    (I := fun t w p q => w.consumption = s.consumption ∧ Keeps World.consumption s.consumption p ∧
      PullIdle d n s.consumption t q)
    (fun ⟨hF, hk, hq⟩ hturn => by
      obtain ⟨hF', hk'⟩ := hk.step hF hturn.step
      exact ⟨hF', hk', hq⟩)
    (fun ⟨hF, hk, hq⟩ _ hturn => by
      obtain ⟨hF', hq'⟩ := hq.turn hP' hF hturn
      exact ⟨hF', hk, hq'⟩)
    (fun ⟨hF, hk, hq⟩ _ hpq hR => ⟨(congrArg Prod.fst hR).symm.trans hF, hk, hq.env hpq⟩)
    ⟨rfl, (untouched_consumption _).keeps_faultListener rx kind token, .start⟩ h
  rcases hwin with ⟨b, rfl, hk'⟩ | ⟨c, rfl, -, hk'⟩
  · obtain ⟨rfl, rfl, rfl⟩ := finishes_pure_iff.1 hk'
    -- the pull is dropped where it stands, holding nothing
    refine ⟨?_, .inr ⟨b, rfl⟩⟩
    cases hq <;> exact hF
  · obtain ⟨rfl, rfl, rfl⟩ := finishes_pure_iff.1 hk'
    cases hq with
    | done hd => exact ⟨hk.release hF, .inl ⟨rfl, hd⟩⟩

end Race

/-! ## The raced pull -/

/-- A frame kept by a process and by its environment holds where a run of it finishes. -/
theorem Finishes.keeps {ω : Type} {R : Nat × World → Nat × World → Prop} {f : World → ω} {v : ω}
    {α : Type} {p : Act α} {t t' : Nat} {s s' : World} {a : α} (hp : Keeps f v p) (hs : f s = v)
    (hR : ∀ x y, R x y → f x.2 = f y.2) (h : Finishes R t s p t' s' a) : f s' = v :=
  (hp.reaches hs (h.returns.mono hR)).1

theorem takePull_fst_eq_none_iff {n : Nat} {P : List (Except Fault (List Message))} :
    (takePull n P).1 = none ↔ P = [] := by
  unfold takePull
  split
  · exact ⟨fun _ => rfl, fun _ => rfl⟩
  · exact ⟨nofun, nofun⟩
  · split <;> exact ⟨nofun, nofun⟩

end Proc

/-- What one raced pull of at most `n` messages until `d` does to the pull script `P`, leaving
`P'` and answering `r` at time `t'`: it takes the entry at the front; on an empty script it
answers an empty batch once the deadline has passed, or loses to a client error. -/
inductive PullOutcome (n d t' : Nat) :
    List (Except Fault (List Message)) → List (Except Fault (List Message)) →
      Except Fault (List Message) → Prop
  | took {P P' : List (Except Fault (List Message))} {r : Except Fault (List Message)} :
      takePull n P = (some r, P') → PullOutcome n d t' P P' r
  | waited : d ≤ t' → PullOutcome n d t' [] [] (.ok [])
  | interrupted {e : Fault} : PullOutcome n d t' [] [] (.error e)

namespace Proc

/-- A raced pull on a fresh bus: it takes the entry at the front of the script at once and
answers it, or, on an empty script, answers an empty batch once the deadline has passed unless
a client error wins; the offset window and the byte count are left alone. -/
theorem finishes_raceWithEvent_pullUntil {t t' scope d n : Nat} {s s' : World}
    {r : Except Fault (List Message)} (hs : s.bus.fresh = true)
    (h : Finishes (Keeping World.held) t s
      (Act.raceWithEvent .clientError scope (Act.pullUntil d n)) t' s' r) :
    s'.bus.fresh = true ∧ s'.window = s.window ∧ s'.bytesConsumed = s.bytesConsumed ∧
      PullOutcome n d t' s.consumer.pulls s'.consumer.pulls r := by
  have hfresh : s'.bus.fresh = true :=
    h.keeps (untouched_fresh.keeps_raceWithEvent _ _ (keeps_pullUntil (fun _ _ => rfl) d n)) hs
      fun _ _ hR => congrArg Prod.snd hR
  refine ⟨hfresh, ?_⟩
  have hc := Bus.caughtUp_subscribe hs
  rcases hsub : s.bus.subscribe with ⟨rx, b₁⟩
  rcases htok : s.tokens.child scope with ⟨token, ts⟩
  rw [hsub] at hc
  -- subscribe, take a child token, race while holding the receiver, cancel the token
  rw [Act.raceWithEvent_eq, Act.subscribe, finishes_modifyGet_bind_iff, Act.childToken,
    finishes_modifyGet_bind_iff, finishes_bind_iff] at h
  simp only [hsub, htok] at h
  obtain ⟨t₃, s₃, x, hhold, hk⟩ := h
  obtain ⟨t₄, s₄, v, hrace, hrel⟩ := finishes_holding_iff.1 hhold
  obtain ⟨rfl, rfl, rfl⟩ := finishes_pure_iff.1 hrel
  rw [Act.cancel, finishes_modify_bind_iff, pure_eq, finishes_pure_iff] at hk
  obtain ⟨rfl, rfl, rfl⟩ := hk
  cases htake : takePull n s.consumer.pulls with
  | mk got rest =>
    cases got with
    | some y =>
      obtain ⟨rfl, rfl, hF⟩ := finishes_race_of_takes (s := { s with bus := b₁, tokens := ts }) hc
        (by rw [htake]) hrace
      simp only [World.consumption, htake, Prod.mk.injEq] at hF
      obtain ⟨hP, hW, hB⟩ := hF
      exact ⟨hW, hB, hP ▸ .took htake⟩
    | none =>
      have hP : s.consumer.pulls = [] := takePull_fst_eq_none_iff.1 (by rw [htake])
      obtain ⟨hF, hx⟩ := finishes_race_of_empty (s := { s with bus := b₁, tokens := ts }) hP hrace
      simp only [World.consumption, Prod.mk.injEq] at hF
      obtain ⟨hP', hW, hB⟩ := hF
      refine ⟨hW, hB, ?_⟩
      rw [hP', hP]
      rcases hx with ⟨rfl, hd⟩ | ⟨e, rfl⟩
      · exact .waited hd
      · exact .interrupted

end Proc


/-! ## A round of retried pulls -/

/-- What the retried pulls of one round, of at most `n` messages each, do to the script: failed
pulls take the errors at the front, and the round ends without a batch, with its last pull's batch,
or with nothing, `waited`, from an empty script past the deadline. -/
inductive Pulled (n : Nat) (waited : Prop) :
    List (Except Fault (List Message)) → List (Except Fault (List Message)) →
      Option (List Message) → Prop
  | stop {P : List (Except Fault (List Message))} : Pulled n waited P P none
  | skip {e : Fault} {P P' : List (Except Fault (List Message))} {b : Option (List Message)} :
      Pulled n waited P P' b → Pulled n waited (.error e :: P) P' b
  | batch {ms : List Message} {P : List (Except Fault (List Message))} :
      Pulled n waited (.ok ms :: P) (if n < ms.length then .ok (ms.drop n) :: P else P)
        (some (ms.take n))
  | idle : waited → Pulled n waited [] [] (some [])

namespace PullOutcome

variable {n d t' : Nat} {P P' : List (Except Fault (List Message))}

/-- A pull that answered a batch ends its round with that batch. -/
theorem pulled_ok {ms : List Message} (h : PullOutcome n d t' P P' (.ok ms)) :
    Pulled n (d ≤ t') P P' (some ms) := by
  cases h with
  | took ht =>
    unfold takePull at ht
    split at ht
    · cases ht
    · cases ht
    · next ms₀ rest =>
      split at ht
      · next hlt =>
        cases ht
        have := @Pulled.batch n (d ≤ t') ms₀ rest
        rwa [if_pos hlt] at this
      · next hle =>
        cases ht
        have := @Pulled.batch n (d ≤ t') ms P'
        rwa [if_neg hle, List.take_of_length_le (Nat.le_of_not_lt hle)] at this
  | waited hd => exact .idle hd

/-- A pull that failed took at most an error from the front of the script; the round goes on
from what it left. -/
theorem pulled_error {e : Fault} {W : Prop} {Q : List (Except Fault (List Message))}
    {b : Option (List Message)} (h : PullOutcome n d t' P P' (.error e)) (hrest : Pulled n W P' Q b) :
    Pulled n W P Q b := by
  cases h with
  | took ht =>
    unfold takePull at ht
    split at ht
    · cases ht
    · cases ht
      exact .skip hrest
    · split at ht <;> cases ht
  | interrupted => exact hrest

end PullOutcome

namespace Proc

variable {t t' : Nat} {s s' : World}

theorem held_eq_iff {w w' : World} :
    w'.held = w.held ↔ w'.consumer.pulls = w.consumer.pulls ∧ w'.window = w.window ∧
      w'.bytesConsumed = w.bytesConsumed ∧ w'.bus.fresh = w.bus.fresh := by
  simp only [World.held, World.consumption, Prod.mk.injEq, and_assoc]

theorem fresh_of_held {w w' : World} (h : w'.held = w.held) (hw : w.bus.fresh = true) :
    w'.bus.fresh = true :=
  (congrArg Prod.snd h).trans hw

theorem Finishes.held {α : Type} {p : Act α} {a : α} (hp : ∀ v, Keeps World.held (v, true) p)
    (hs : s.bus.fresh = true) (h : Finishes (Keeping World.held) t s p t' s' a) :
    s'.held = s.held := by
  have hv : s.held = (s.consumption, true) := by rw [World.held, hs]
  rw [hv]
  exact h.keeps (hp _) hv fun _ _ hR => hR

/-- How a round ends after a failed pull: the round's answer is a failure or nothing, and what
the window holds is as it was, or the next round runs from where what it holds is as it was. -/
theorem finishes_retryOrFail {β : Type} {kind : ActionKind} {canRetry : Bool}
    {again : Unit → Act (Except Fault (Option β))} {e : Fault} {r : Except Fault (Option β)}
    (hs : s.bus.fresh = true)
    (h : Finishes (Keeping World.held) t s (Act.retryOrFail kind canRetry again e) t' s' r) :
    (s'.held = s.held ∧ ∀ b, r ≠ .ok (some b)) ∨
      ∃ t₁ s₁, s₁.held = s.held ∧ Finishes (Keeping World.held) t₁ s₁ (again ()) t' s' r := by
  unfold Act.retryOrFail at h
  dsimp only at h
  split at h
  · obtain ⟨t₁, s₁, dl, hgrow, h⟩ := finishes_bind_iff.1 h
    have h₁ := hgrow.held (fun v => (untouched_held v).keeps_growBackoff) hs
    obtain ⟨t₂, s₂, c, hsleep, h⟩ := finishes_bind_iff.1 h
    have h₂ := hsleep.held (fun _ => Untouched.keeps_sleepUnlessCancelled dl) (fresh_of_held h₁ hs)
    cases c
    · -- not cancelled during the sleep: the next round
      simp only [Bool.false_eq_true, if_false] at h
      exact .inr ⟨t₂, s₂, h₂.trans h₁, h⟩
    · simp only [if_true, pure_eq, finishes_pure_iff] at h
      obtain ⟨rfl, rfl, rfl⟩ := h
      exact .inl ⟨h₂.trans h₁, fun _ => nofun⟩
  · obtain ⟨t₁, s₁, u, hreset, h⟩ := finishes_bind_iff.1 h
    have h₁ := hreset.held (fun v => (untouched_held v).keeps_resetBackoff) hs
    simp only [pure_eq, finishes_pure_iff] at h
    obtain ⟨rfl, rfl, rfl⟩ := h
    exact .inl ⟨h₁, fun _ => nofun⟩

theorem finishes_onFault {β : Type} {kind : ActionKind} {canRetry : Bool}
    {again : Unit → Act (Except Fault (Option β))} {e : Fault} {r : Except Fault (Option β)}
    (hs : s.bus.fresh = true)
    (h : Finishes (Keeping World.held) t s (Act.onFault kind canRetry again e) t' s' r) :
    (s'.held = s.held ∧ ∀ b, r ≠ .ok (some b)) ∨
      ∃ t₁ s₁, s₁.held = s.held ∧ Finishes (Keeping World.held) t₁ s₁ (again ()) t' s' r := by
  unfold Act.onFault at h
  split at h
  · simp only [pure_eq, finishes_pure_iff] at h
    obtain ⟨rfl, rfl, rfl⟩ := h
    exact .inl ⟨rfl, fun _ => nofun⟩
  · -- a wrong state grows the backoff and is counted before the retry or the failure
    obtain ⟨t₁, s₁, dl, hgrow, h⟩ := finishes_bind_iff.1 h
    have h₁ := hgrow.held (fun v => (untouched_held v).keeps_growBackoff) hs
    obtain ⟨t₂, s₂, u, hcount, h⟩ := finishes_bind_iff.1 h
    have h₂ := hcount.held (fun v => (untouched_held v).keeps_countWrongState) (fresh_of_held h₁ hs)
    rcases finishes_retryOrFail (fresh_of_held (h₂.trans h₁) hs) h with ⟨h₃, hr⟩ | ⟨t₃, s₃, h₃, ha⟩
    · exact .inl ⟨h₃.trans (h₂.trans h₁), hr⟩
    · exact .inr ⟨t₃, s₃, h₃.trans (h₂.trans h₁), ha⟩
  · exact finishes_retryOrFail hs h

/-- What a round of retried pulls did, seen from its start `s` and its end `s'` at time `t'`:
the bus is still fresh, the offset window and the byte count are as they were, and the pull
script went as `Pulled` says, ending with the round's batch. -/
def PullRound (n d t' : Nat) (s s' : World) (r : Except Fault (Option (List Message))) : Prop :=
  s'.bus.fresh = true ∧ s'.window = s.window ∧ s'.bytesConsumed = s.bytesConsumed ∧
    ∃ b, Pulled n (d ≤ t') s.consumer.pulls s'.consumer.pulls b ∧
      ∀ ms, r = .ok (some ms) ↔ b = some ms

/-- A round that pulled nothing, and left what the window holds as it was. -/
theorem PullRound.of_held {n d : Nat} {r : Except Fault (Option (List Message))}
    (h : s'.held = s.held) (hs : s.bus.fresh = true) (hr : ∀ ms, r ≠ .ok (some ms)) :
    PullRound n d t' s s' r := by
  obtain ⟨hP, hW, hB, -⟩ := held_eq_iff.1 h
  exact ⟨fresh_of_held h hs, hW, hB, none, hP ▸ .stop, fun ms => ⟨fun h => absurd h (hr ms), nofun⟩⟩

/-- A round after one failed pull: the pull took at most the error at the front, and the rest of
the round runs from there. -/
theorem PullRound.of_error {n d t₂ : Nat} {s₁ s₂ : World} {e : Fault}
    {r : Except Fault (Option (List Message))} (hout : PullOutcome n d t₂ s.consumer.pulls s₁.consumer.pulls (.error e))
    (hW : s₁.window = s.window) (hB : s₁.bytesConsumed = s.bytesConsumed) (h₂ : s₂.held = s₁.held)
    (hr : PullRound n d t' s₂ s' r) : PullRound n d t' s s' r := by
  obtain ⟨hP₂, hW₂, hB₂, -⟩ := held_eq_iff.1 h₂
  obtain ⟨hf, hW', hB', b, hb, hrb⟩ := hr
  exact ⟨hf, hW'.trans (hW₂.trans hW), hB'.trans (hB₂.trans hB), b, hout.pulled_error (hP₂ ▸ hb), hrb⟩

/-- One round: the session closed, a failed pre-check, or a pull; a failed pull is retried by
`again` or ends the round. -/
theorem finishes_retryRound_pullUntil {c : SessionConfig} {scope d n : Nat} {canRetry : Bool}
    {again : Unit → Act (Except Fault (Option (List Message)))} {r : Except Fault (Option (List Message))}
    (hagain : ∀ t₁ s₁ s₂ r, s₁.bus.fresh = true →
      Finishes (Keeping World.held) t₁ s₁ (again ()) t' s₂ r → PullRound n d t' s₁ s₂ r)
    (hs : s.bus.fresh = true)
    (h : Finishes (Keeping World.held) t s
      (Act.retryRound .consume (some (Act.consumerCheck c))
        (Act.raceWithEvent .clientError scope (Act.pullUntil d n)) canRetry again) t' s' r) :
    PullRound n d t' s s' r := by
  unfold Act.retryRound at h
  rw [finishes_gets_bind_iff] at h
  split at h
  · simp only [pure_eq, finishes_pure_iff] at h
    obtain ⟨rfl, rfl, rfl⟩ := h
    exact PullRound.of_held rfl hs fun _ => nofun
  obtain ⟨t₁, s₁, x, hcheck, h⟩ := finishes_bind_iff.1 h
  have h₁ := hcheck.held (fun v => (untouched_held v).keeps_consumerCheck c) hs
  cases x with
  | error e =>
    simp only [pure_eq, finishes_pure_iff] at h
    obtain ⟨rfl, rfl, rfl⟩ := h
    exact PullRound.of_held h₁ hs fun _ => nofun
  | ok u =>
    obtain ⟨hP₁, hW₁, hB₁, -⟩ := held_eq_iff.1 h₁
    obtain ⟨t₂, s₂, y, hpull, h⟩ := finishes_bind_iff.1 h
    obtain ⟨hf₂, hW₂, hB₂, hout⟩ := finishes_raceWithEvent_pullUntil (fresh_of_held h₁ hs) hpull
    rw [hP₁] at hout
    cases y with
    | ok ms =>
      -- a pull that answered ends the round with its batch, after resetting the backoff
      simp only [bne_iff_ne, ne_eq, reduceCtorEq, not_false_eq_true, if_true] at h
      rw [Act.resetBackoff, finishes_modify_bind_iff, pure_eq, finishes_pure_iff] at h
      obtain ⟨rfl, rfl, rfl⟩ := h
      exact ⟨hf₂, hW₂.trans hW₁, hB₂.trans hB₁, some ms, hout.pulled_ok, fun _ => by simp⟩
    | error e =>
      rcases finishes_onFault hf₂ h with ⟨h₃, hr⟩ | ⟨t₃, s₃, h₃, ha⟩
      · exact PullRound.of_error hout (hW₂.trans hW₁) (hB₂.trans hB₁) h₃
          (PullRound.of_held rfl (fresh_of_held h₃ hf₂) hr)
      · exact PullRound.of_error hout (hW₂.trans hW₁) (hB₂.trans hB₁) h₃
          (hagain t₃ s₃ s' r (fresh_of_held h₃ hf₂) ha)

theorem finishes_retry_pullUntil {c : SessionConfig} {scope d n : Nat} :
    ∀ (k : Nat) {t : Nat} {s s' : World} {r : Except Fault (Option (List Message))},
      s.bus.fresh = true →
      Finishes (Keeping World.held) t s (Act.retry .consume (some (Act.consumerCheck c))
        (Act.raceWithEvent .clientError scope (Act.pullUntil d n)) k) t' s' r →
      PullRound n d t' s s' r
  | 0, _, _, _, _, hs, h =>
    finishes_retryRound_pullUntil (fun _ _ _ _ hs₁ ha => by
      simp only [pure_eq, finishes_pure_iff] at ha
      obtain ⟨rfl, rfl, rfl⟩ := ha
      exact PullRound.of_held rfl hs₁ fun _ => nofun) hs h
  | k + 1, _, _, _, _, hs, h =>
    finishes_retryRound_pullUntil (fun _ _ _ _ hs₁ ha => finishes_retry_pullUntil k hs₁ ha) hs h

/-- A round of a window: retried pulls raced against a client error, with the pre-check, leave the
offset window and the byte count alone and take from the script as `Pulled` says. -/
theorem finishes_retryRacing_pullUntil {c : SessionConfig} {d n k : Nat}
    {r : Except Fault (Option (List Message))} (hs : s.bus.fresh = true)
    (h : Finishes (Keeping World.held) t s (Act.retryRacing .clientError .consume
      (some (Act.consumerCheck c)) (Act.pullUntil d n) k) t' s' r) :
    PullRound n d t' s s' r := by
  unfold Act.retryRacing at h
  rw [finishes_gets_bind_iff] at h
  exact finishes_retry_pullUntil k hs h

end Proc

end BrokerSession
