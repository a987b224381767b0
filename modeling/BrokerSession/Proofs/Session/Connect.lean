import BrokerSession.Proofs.Session.Race
import BrokerSession.Session.Producer

/-!
# Connecting when the connection's fault is benign

`connect` answers the closed fault for every `ok none` of its retried, raced connect. The retry
executor answers `ok none` for a closed session, but also for a fault that is okay for
connecting (the end of a partition, or no error at all): such a round counts as nothing done.
So on an open session whose next connect fails with such a fault, `connect` answers the closed
fault while the session stays open (`connect_reports_closed_on_benign_fault`), for the consuming
and the producing session alike.

The path is short and never waits, so the environment cannot move along it. The one step with
two parts is the race of the connect against a listener for connect errors: the connect takes
the connection's answer, emits its connect error and answers it, and the listener can hear no
other fault, since that error is the only event emitted since it subscribed
(`finishes_race_connect`). Whichever part wins, the race answers the connect's fault.

Such a run exists. Both sessions' connects are one definition with the session's bridge and
connection as parameters (`Act.connectWith`), so one argument covers both. The listener stands
on a receiver that has read everything, so it stops at once (`faultListener_blocks`). Then the
connect runs to its end and decides the race (`exists_finishes_race_connect`).

A benign fault also reaches a connection that succeeds, as a connect error that another task
emits while the race listens. Only an interleaved run (`Returns`) lets that task move before
the connect does: the listener hears the error first and the race answers it
(`returns_race_heard`), so connect answers the closed fault whatever the connection answers
(`exists_returns_connectWith_heard`).
-/

namespace BrokerSession

open Proc

namespace Act

/-- What a connect does with the connection's answer: success emits `ready`, a fault emits
`connect_error` and is the answer. -/
def connectAnswer : Option Fault → Act (Except Fault Unit)
  | none => do emit .ready; Pure.pure (.ok ())
  | some e => do emit (.connectError e); Pure.pure (.error e)

/-- The bridge start both sessions share: once per session, forks `bridge` holding a receiver
of its own. -/
def startBridge (bridge : Nat → Act Unit) : Act Unit := do
  if ← Proc.gets (·.bridged) then return
  Proc.modify fun w => { w with bridged := true }
  let rx ← subscribe
  Proc.fork (withReceiver rx (bridge rx))

/-- The connect both sessions share, with the session's bridge start and connection. -/
def connectWith (start : Act Unit) (conn : Act (Except Fault Unit)) (c : SessionConfig) :
    Act (Except Fault Unit) := do
  if ← Proc.gets (·.closed) then return .error Fault.closed
  start
  let rx ← subscribe
  let token ← childToken (← Proc.gets (·.scope))
  withReceiver rx do
  match ← retryRacing .connectError .connect none conn c.maxRetries with
  | .ok (some ()) =>
    let r ← awaitOnce rx .ready (some c.connectTimeout) true token
    Pure.pure (match r with
      | .error e => .error e
      | .ok (.fired _) => .ok ()
      | .ok .cancelled => .error Fault.closed
      | .ok .timedOut => .error (Fault.timeout c.connectTimeout))
  | .ok none =>
    cancel token
    Pure.pure (.error Fault.closed)
  | .error e =>
    cancel token
    Pure.pure (.error e)

end Act

theorem connectConsumer_eq (c : SessionConfig) :
    Act.connectConsumer c =
      Act.connectWith (Act.startBridge (Act.consumerBridge c)) Act.consumerConnect c :=
  rfl

theorem connectProducer_eq (c : SessionConfig) :
    Act.connectProducer c =
      Act.connectWith (Act.startBridge Act.producerBridge) Act.producerConnect c :=
  rfl

/-- The consumer connection's answer to a connect, and the world once it has answered. -/
def World.takeConsumerConnect (w : World) : Option Fault × World :=
  (w.consumer.connect.1, { w with consumer := w.consumer.connect.2 })

/-- The producer connection's answer to a connect, and the world once it has answered. -/
def World.takeProducerConnect (w : World) : Option Fault × World :=
  (w.producer.connect.1, { w with producer := w.producer.connect.2 })

theorem consumerConnect_eq :
    Act.consumerConnect = Proc.modifyGet World.takeConsumerConnect >>= Act.connectAnswer := by
  unfold Act.consumerConnect
  congr 1

theorem producerConnect_eq :
    Act.producerConnect = Proc.modifyGet World.takeProducerConnect >>= Act.connectAnswer := by
  unfold Act.producerConnect
  congr 1

/-- A connection answering a connect: its answer is read off the world without the bus and the
tokens, and the world it writes back has the same bus and closed flag. -/
structure Connector (g : World → Option Fault × World) : Prop where
  answer_bus : ∀ w b, (g { w with bus := b }).1 = (g w).1
  answer_tokens : ∀ w ts, (g { w with tokens := ts }).1 = (g w).1
  answer_bridged : ∀ w x, (g { w with bridged := x }).1 = (g w).1
  bus : ∀ w, (g w).2.bus = w.bus
  closed : ∀ w, (g w).2.closed = w.closed

theorem connector_consumer : Connector World.takeConsumerConnect :=
  ⟨fun _ _ => rfl, fun _ _ => rfl, fun _ _ => rfl, fun _ => rfl, fun _ => rfl⟩

theorem connector_producer : Connector World.takeProducerConnect :=
  ⟨fun _ _ => rfl, fun _ _ => rfl, fun _ _ => rfl, fun _ => rfl, fun _ => rfl⟩

theorem untouched_closed : Untouched World.closed false where
  emit _ _ hw := hw
  subscribe _ hw := hw
  unsubscribe _ _ hw := hw
  scan _ _ _ hw := hw
  tokens _ _ hw := hw
  backoff _ _ hw _ := hw
  halted _ _ hw := hw
  connect _ hw := hw

namespace Bus

variable {b b' : Bus} {p₀ : Nat} {ev : BrokerEvent}

/-- Every event emitted at or after position `p₀` is `ev`. -/
def OnlySince (b : Bus) (p₀ : Nat) (ev : BrokerEvent) : Prop :=
  ∀ j (hj : j < b.log.size), p₀ ≤ j → b.log[j] = ev

theorem onlySince_of_size (h : b.log.size = p₀) : b.OnlySince p₀ ev :=
  fun _ hj h₀ => absurd hj (by omega)

theorem OnlySince.of_log_eq (h : b.OnlySince p₀ ev) (hlog : b'.log = b.log) :
    b'.OnlySince p₀ ev := by
  unfold OnlySince
  rw [hlog]
  exact h

/-- An event emitted at the end of a log that ends at `p₀` is the only one since. -/
theorem onlySince_emit (h : b.log.size = p₀) : (b.emit ev).OnlySince p₀ ev := by
  unfold emit
  split
  · exact onlySince_of_size h
  · intro j hj h₀
    have hj' : j = b.log.size := by
      simp only [Array.size_push] at hj
      omega
    subst hj'
    exact Array.getElem_push_eq

/-- The first event of a kind since `p₀` is the only event emitted since. -/
theorem FirstOfKind.eq_of_onlySince {kind : EventKind} {e : BrokerEvent}
    (h : b.FirstOfKind kind p₀ e) (ho : b.OnlySince p₀ ev) : e = ev := by
  obtain ⟨i, hi, hp₀, -, he, -⟩ := h
  rw [← he]
  exact ho i hi hp₀

/-- An event emitted to a receiver that has read everything is what its next scan finds. -/
theorem scan_emit_of_caughtUp {rx : Nat} {kind : EventKind} (hc : b.CaughtUp rx)
    (hk : ev.kind = kind) : ((b.emit ev).scan rx kind).1 = .event ev := by
  have hne : b.receivers.isEmpty = false := by
    unfold CaughtUp at hc
    cases h : b.receivers with
    | nil => simp [h] at hc
    | cons => rfl
  have hlog : (b.emit ev).log = b.log.push ev := by simp [emit, hne]
  have hp : (b.emit ev).receivers.lookup rx = some b.log.size := by
    rw [receivers_emit]
    exact hc
  have hrecv : (b.emit ev).recv rx =
      (.event ev, (b.emit ev).seekReceiver rx (b.log.size + 1)) := by
    rw [recv_of_lt_size hp (by simp [oldest, hlog, busCapacity]) (by simp [hlog])]
    simp [hlog]
  -- the scan's first read gets the event, which is of its kind
  show (scanFor rx kind ((b.emit ev).log.size + 1 + 1) (b.emit ev)).1 = _
  simp only [scanFor, hrecv, hk, beq_self_eq_true, if_true]

end Bus

/-! ## The connect, step by step -/

section Stages

variable (g : World → Option Fault × World) (e : Fault) (p₀ : Nat)

/-- Where a connect whose connection fails with `e` stands in world `s`: nothing is emitted
since `p₀` until its last write, which emits its connect error and finishes it. -/
inductive Connecting (s : World) : Act (Except Fault Unit) → Prop
  /-- about to ask the connection, which answers `e` -/
  | start : (g s).1 = some e → s.bus.log.size = p₀ →
      Connecting s (Proc.modifyGet g >>= Act.connectAnswer)
  /-- writing back the world the connection answered in -/
  | taken {w : World} : (g w).1 = some e → (g w).2.bus.log.size = p₀ → (g w).2.closed = false →
      s.bus.log.size = p₀ → Connecting s (.put (g w).2 (Act.connectAnswer (g w).1))
  /-- about to emit the connect error -/
  | answering : s.bus.log.size = p₀ → Connecting s (Act.connectAnswer (some e))
  /-- writing the connect error onto the bus, which finishes it -/
  | emitting {w : World} : w.bus.log.size = p₀ → w.closed = false → s.bus.log.size = p₀ →
      Connecting s (.put { w with bus := w.bus.emit (.connectError e) } (.pure (.error e)))
  /-- answered `e`, its connect error the only event emitted since `p₀` -/
  | done : s.bus.OnlySince p₀ (.connectError e) → Connecting s (.pure (.error e))

end Stages

section Steps

variable {g : World → Option Fault × World} {e : Fault} {p₀ t : Nat} {s s' : World}
  {q q' : Act (Except Fault Unit)}

theorem Connecting.onlySince (hq : Connecting g e p₀ s q) :
    s.bus.OnlySince p₀ (.connectError e) := by
  cases hq with
  | start _ h => exact Bus.onlySince_of_size h
  | taken _ _ _ h => exact Bus.onlySince_of_size h
  | answering h => exact Bus.onlySince_of_size h
  | emitting _ _ h => exact Bus.onlySince_of_size h
  | done h => exact h

theorem Connecting.not_parked (hq : Connecting g e p₀ s q) : ¬ Parked t s q := by
  intro hp
  cases hq <;> cases hp

theorem Connecting.release (hq : Connecting g e p₀ s q) (w : World) : q.release w = w := by
  cases hq <;> rfl

theorem Connecting.eq_of_pure {c : Except Fault Unit} (hq : Connecting g e p₀ s (.pure c)) :
    c = .error e := by
  cases hq with
  | done => rfl

theorem Connecting.scanned (hg : Connector g) (hq : Connecting g e p₀ s q) (rx : Nat)
    (kind : EventKind) : Connecting g e p₀ (s.afterScan rx kind) q := by
  have hlog : (s.afterScan rx kind).bus.log = s.bus.log := Bus.log_scan _ _
  have hsize : (s.afterScan rx kind).bus.log.size = s.bus.log.size := congrArg Array.size hlog
  cases hq with
  | start ha h => exact .start ((hg.answer_bus _ _).trans ha) (hsize.trans h)
  | taken ha hw hc h => exact .taken ha hw hc (hsize.trans h)
  | answering h => exact .answering (hsize.trans h)
  | emitting hw hc h => exact .emitting hw hc (hsize.trans h)
  | done h => exact .done (h.of_log_eq hlog)

theorem Connecting.turn (hg : Connector g) (hq : Connecting g e p₀ s q) (hc : s.closed = false)
    (h : Turn t s q s' q') : Connecting g e p₀ s' q' ∧ s'.closed = false := by
  cases hq with
  | start ha hsize =>
    obtain ⟨rfl, rfl⟩ := turn_look_iff.1 h
    have hw : (g s').2.bus.log.size = p₀ := by rw [hg.bus]; exact hsize
    exact ⟨.taken ha hw ((hg.closed s').trans hc) hsize, hc⟩
  | taken ha hsize hc' _ =>
    obtain ⟨rfl, rfl⟩ := turn_put_iff.1 h
    rw [ha]
    exact ⟨.answering hsize, hc'⟩
  | answering hsize =>
    obtain ⟨rfl, rfl⟩ := turn_look_iff.1 h
    exact ⟨.emitting hsize hc hsize, hc⟩
  | emitting hsize hc' _ =>
    obtain ⟨rfl, rfl⟩ := turn_put_iff.1 h
    exact ⟨.done (Bus.onlySince_emit hsize), hc'⟩
  | done => exact absurd h Turn.not_pure

end Steps

/-! ## The race around the connect -/

section Race

variable (g : World → Option Fault × World) (e : Fault) (rx token p₀ t₀ : Nat)

/-- The invariant of the race around a failing connect: where the listener `p` and the connect
`q` stand, with the session open. -/
def RacingConnect (t : Nat) (s : World) (p : Act Fault) (q : Act (Except Fault Unit)) : Prop :=
  Hearing rx .connectError token p₀ t₀ t s q p ∧ Keeps World.closed false p ∧
    Connecting g e p₀ s q ∧ s.closed = false

end Race

section RaceSteps

variable {g : World → Option Fault × World} {e : Fault} {rx token p₀ t₀ t : Nat}
  {s s' : World} {p p' : Act Fault} {q q' : Act (Except Fault Unit)}

theorem RacingConnect.left (hg : Connector g) (hI : RacingConnect g e rx token p₀ t₀ t s p q)
    (h : Turn t s p s' p') : RacingConnect g e rx token p₀ t₀ t s' p' q := by
  obtain ⟨hh, hp, hq, hc⟩ := hI
  obtain ⟨hs, hh'⟩ := hh.left h
  obtain ⟨hc', hp'⟩ := hp.step hc h.step
  refine ⟨hh', hp', ?_, hc'⟩
  rcases hs with rfl | rfl
  · exact hq
  · exact hq.scanned hg rx .connectError

theorem RacingConnect.right (hg : Connector g) (hI : RacingConnect g e rx token p₀ t₀ t s p q)
    (hb : Blocked p) (h : Turn t s q s' q') : RacingConnect g e rx token p₀ t₀ t s' p q' := by
  obtain ⟨hh, hp, hq, hc⟩ := hI
  obtain ⟨hq', hc'⟩ := hq.turn hg hc h
  exact ⟨hh.right hb h, hp, hq', hc'⟩

/-- The race around a failing connect answers the connect's fault, whichever part wins, and
leaves the session open. -/
theorem finishes_race_connect (hg : Connector g) {R : Nat × World → Nat × World → Prop}
    {t' : Nat} {v : Fault ⊕ Except Fault Unit} (hI : RacingConnect g e rx token p₀ t₀ t s p q)
    (h : Finishes R t s (Proc.race p q) t' s' v) :
    (v = .inl e ∨ v = .inr (.error e)) ∧ s'.closed = false := by
  obtain ⟨t₁, s₁, p₁, q₁, ⟨hh, hp, hq, hc⟩, hend⟩ :=
    h.first_invariant (I := RacingConnect g e rx token p₀ t₀)
      (fun hI hs => hI.left hg hs) (fun hI hb hs => hI.right hg hb hs)
      (fun hI _ hq _ => absurd hq hI.2.2.1.not_parked) hI
  rcases hend with ⟨f, rfl, hk⟩ | ⟨c, rfl, -, hk⟩
  · -- the listener heard a fault: the connect's own error, the only event since the race began
    obtain ⟨ev, hfirst, hf⟩ := hh.heard_of_pure
    obtain rfl := hfirst.eq_of_onlySince hq.onlySince
    cases hf
    obtain ⟨rfl, rfl, rfl⟩ := finishes_pure_iff.1 hk
    exact ⟨.inl rfl, by rw [hq.release]; exact hc⟩
  · -- the connect finished with its connection's fault
    obtain ⟨rfl, rfl, rfl⟩ := finishes_pure_iff.1 hk
    rw [hq.eq_of_pure]
    exact ⟨.inr rfl, hp.release hc⟩

end RaceSteps

section Rounds

variable {g : World → Option Fault × World} {e : Fault} {R : Nat × World → Nat × World → Prop}
  {t t' : Nat} {s s' : World}

theorem spares_connect (hg : Connector g) (rx : Nat) :
    SparesReceiver rx (Proc.modifyGet g >>= Act.connectAnswer) := by
  intro P hP
  -- either answer is one emit and then the answer
  have hans : ∀ a, Keeps (fun w : World => P w.bus) True (Act.connectAnswer a) := by
    intro a
    cases a <;> exact .look fun _ w hw => .put (eq_true (hP _ _ (of_eq_true hw) (.emit _))) .pure
  refine .look fun _ w hw => .put ?_ (hans _)
  show P (g w).2.bus = True
  rw [hg.bus]
  exact hw

theorem finishes_raceWithEvent_connect (hg : Connector g) {scope : Nat} {r : Except Fault Unit}
    (hs : s.bus.fresh = true) (hc : s.closed = false) (ha : (g s).1 = some e)
    (h : Finishes R t s (Act.raceWithEvent .connectError scope
      (Proc.modifyGet g >>= Act.connectAnswer)) t' s' r) :
    r = .error e ∧ s'.closed = false := by
  obtain ⟨s₁, v, hrace, rfl, rfl⟩ := finishes_raceWithEvent_iff.1 h
  -- the listener's receiver starts where the log ends, and the connect is about to ask
  have hl : (s.raceBegun scope).bus.Listening s.bus.nextReceiver .connectError s.bus.log.size :=
    Bus.behind_of_caughtUp (Bus.caughtUp_subscribe hs)
  have hop := spares_connect hg s.bus.nextReceiver
  have hI : RacingConnect g e s.bus.nextReceiver s.tokens.nodes.size s.bus.log.size t t
      (s.raceBegun scope) (Act.faultListener s.bus.nextReceiver .connectError s.tokens.nodes.size)
      (Proc.modifyGet g >>= Act.connectAnswer) := by
    refine ⟨?_, untouched_closed.keeps_faultListener _ _ _, .start ?_ rfl, hc⟩
    · rw [faultListener_eq]
      exact .listening (.start hl) rfl
        (hop (fun b => b.Listening s.bus.nextReceiver .connectError s.bus.log.size)
          fun _ _ h ha => h.aside ha)
        (hop (fun b => b.Unfaulted s.bus.nextReceiver .connectError s.bus.log.size)
          fun _ _ h ha => h.aside ha)
    · exact (hg.answer_tokens _ _).trans ((hg.answer_bus _ _).trans ha)
  obtain ⟨hv, hc₁⟩ := finishes_race_connect hg hI hrace
  refine ⟨?_, hc₁⟩
  rcases hv with rfl | rfl <;> rfl

theorem finishes_retryRound_open_iff {β : Type} {kind : ActionKind}
    {action : Act (Except Fault β)} {canRetry : Bool}
    {again : Unit → Act (Except Fault (Option β))} {r : Except Fault (Option β)}
    (hc : s.closed = false) :
    Finishes R t s (Act.retryRound kind none action canRetry again) t' s' r ↔
      Finishes R t s (Act.attempt kind action canRetry again) t' s' r := by
  unfold Act.retryRound
  rw [finishes_gets_bind_iff]
  simp only [hc, Bool.false_eq_true, if_false]

theorem finishes_onFault_benign_iff {β : Type} {kind : ActionKind} {canRetry : Bool}
    {again : Unit → Act (Except Fault (Option β))} {r : Except Fault (Option β)}
    (hb : e.classify kind = .benign) :
    Finishes R t s (Act.onFault kind canRetry again e) t' s' r ↔
      r = .ok none ∧ t' = t ∧ s' = s := by
  simp only [Act.onFault, hb, pure_eq, finishes_pure_iff]

/-- A round of retried connects, on an open session whose connection fails with a benign
fault, counts as nothing done: it answers `ok none` and leaves the session open. -/
theorem finishes_retryRound_connect (hg : Connector g) {scope : Nat} {canRetry : Bool}
    {again : Unit → Act (Except Fault (Option Unit))} {r : Except Fault (Option Unit)}
    (hs : s.bus.fresh = true) (hc : s.closed = false) (ha : (g s).1 = some e)
    (hb : e.classify .connect = .benign)
    (h : Finishes R t s (Act.retryRound .connect none (Act.raceWithEvent .connectError scope
      (Proc.modifyGet g >>= Act.connectAnswer)) canRetry again) t' s' r) :
    r = .ok none ∧ s'.closed = false := by
  obtain ⟨t₁, s₁, x, hrace, hk⟩ := finishes_bind_iff.1 ((finishes_retryRound_open_iff hc).1 h)
  obtain ⟨rfl, hc₁⟩ := finishes_raceWithEvent_connect hg hs hc ha hrace
  obtain ⟨rfl, -, rfl⟩ := (finishes_onFault_benign_iff hb).1 hk
  exact ⟨rfl, hc₁⟩

theorem finishes_retryRacing_connect (hg : Connector g) {n : Nat}
    {r : Except Fault (Option Unit)} (hs : s.bus.fresh = true) (hc : s.closed = false)
    (ha : (g s).1 = some e) (hb : e.classify .connect = .benign)
    (h : Finishes R t s (Act.retryRacing .connectError .connect none
      (Proc.modifyGet g >>= Act.connectAnswer) n) t' s' r) :
    r = .ok none ∧ s'.closed = false := by
  rw [Act.retryRacing, finishes_gets_bind_iff] at h
  cases n with
  | zero => exact finishes_retryRound_connect hg hs hc ha hb h
  | succ n => exact finishes_retryRound_connect hg hs hc ha hb h

end Rounds

section Connect

variable {g : World → Option Fault × World} {e : Fault} {R : Nat × World → Nat × World → Prop}
  {t t' : Nat} {s s' : World}

/-- Starting the bridge takes no time, and keeps the closed flag, the connection's answer and
the freshness of the receivers. -/
theorem finishes_startBridge (hg : Connector g) {bridge : Nat → Act Unit} {u : Unit}
    (hs : s.bus.fresh = true) (h : Finishes R t s (Act.startBridge bridge) t' s' u) :
    t' = t ∧ s'.closed = s.closed ∧ (g s').1 = (g s).1 ∧ s'.bus.fresh = true := by
  unfold Act.startBridge at h
  rw [finishes_gets_bind_iff] at h
  split at h
  · simp only [pure_eq, finishes_pure_iff] at h
    obtain ⟨-, rfl, rfl⟩ := h
    exact ⟨rfl, rfl, rfl, hs⟩
  · rw [finishes_modify_bind_iff, Act.subscribe, finishes_modifyGet_bind_iff, Proc.fork,
      finishes_spawn_iff, finishes_pure_iff] at h
    obtain ⟨-, rfl, rfl⟩ := h
    exact ⟨rfl, rfl, (hg.answer_bus _ _).trans (hg.answer_bridged _ _), Bus.fresh_subscribe hs⟩

/-- A connect on an open session whose connection fails with a benign fault answers the closed
fault, and leaves the session open. -/
theorem finishes_connectWith_benign (hg : Connector g) {bridge : Nat → Act Unit}
    {c : SessionConfig} {r : Except Fault Unit} (hs : s.bus.fresh = true)
    (hc : s.closed = false) (ha : (g s).1 = some e) (hb : e.classify .connect = .benign)
    (h : Finishes R t s (Act.connectWith (Act.startBridge bridge)
      (Proc.modifyGet g >>= Act.connectAnswer) c) t' s' r) :
    r = .error Fault.closed ∧ s'.closed = false := by
  unfold Act.connectWith at h
  rw [finishes_gets_bind_iff] at h
  simp only [hc, Bool.false_eq_true, if_false] at h
  obtain ⟨t₁, s₁, u, hstart, h⟩ := finishes_bind_iff.1 h
  obtain ⟨-, hc₁, ha₁, hs₁⟩ := finishes_startBridge hg hs hstart
  rw [Act.subscribe, finishes_modifyGet_bind_iff, finishes_gets_bind_iff, Act.childToken,
    finishes_modifyGet_bind_iff] at h
  obtain ⟨t₂, s₂, x, h, hrel⟩ := finishes_holding_iff.1 h
  obtain ⟨t₃, s₃, y, hretry, hk⟩ := finishes_bind_iff.1 h
  -- the receiver and the token of the connect leave the connection's answer as it was
  have ha₂ : (g { { s₁ with bus := s₁.bus.subscribe.2 } with
      tokens := (s₁.tokens.child s₁.scope).2 }).1 = some e :=
    (hg.answer_tokens _ _).trans ((hg.answer_bus _ _).trans (ha₁.trans ha))
  obtain ⟨rfl, hc₃⟩ := finishes_retryRacing_connect hg (by exact Bus.fresh_subscribe hs₁)
    (by exact hc₁.trans hc) ha₂ hb hretry
  rw [Act.cancel, finishes_modify_bind_iff, pure_eq, finishes_pure_iff] at hk
  obtain ⟨rfl, -, rfl⟩ := hk
  rw [finishes_pure_iff] at hrel
  obtain ⟨rfl, -, rfl⟩ := hrel
  exact ⟨rfl, hc₃⟩

end Connect

/-! ## The connect does answer -/

section Answers

variable {g : World → Option Fault × World} {e : Fault} {R : Nat × World → Nat × World → Prop}
  {t : Nat} {s : World}

/-- A listener on a receiver that has read everything comes to a stop at once and leaves the
world as it was: it waits for news, or for good once its token is cancelled or the bus has
closed. -/
theorem faultListener_blocks {rx : Nat} {kind : EventKind} {token : Nat}
    (hc : s.bus.CaughtUp rx) :
    ∃ p, Runs (fun _ _ => False) t s (Act.faultListener rx kind token) t s p ∧ Blocked p := by
  -- its first round answers that the wait is cancelled, or parks at the wait for news
  have hround : Runs (fun _ _ => False) t s (Act.listenRound rx kind none false token none) t s
        (.pure (.inr (.ok .cancelled))) ∨
      Runs (fun _ _ => False) t s (Act.listenRound rx kind none false token none) t s
        (.wait (Act.listenWake rx token none) (.pure (.inl ()))) := by
    have hscan : Runs (fun _ _ => False) t s (Act.listenRound rx kind none false token none) t
        (s.afterScan rx kind) (Act.onFound rx token none false none (s.bus.scan rx kind).1) :=
      .step .look (.step .put .refl)
    have hsame : s.afterScan rx kind = s := by
      rw [World.afterScan, Bus.scan_of_caughtUp hc]
    rw [hsame, Bus.scan_of_caughtUp hc] at hscan
    cases hs : s.bus.sending with
    | false =>
      simp only [hs, Bool.false_eq_true, if_false] at hscan
      exact .inl hscan
    | true =>
      simp only [hs, if_true, Act.onFound] at hscan
      cases hcan : s.isCancelled token with
      | true => exact .inl (hscan.trans (finishes_afterNothing_cancelled hcan))
      | false =>
        refine .inr (hscan.trans ?_)
        unfold Act.afterNothing
        refine .step .look (.step .look ?_)
        simp only [hcan, Bool.false_eq_true, if_false]
        exact .refl
  rw [faultListener_eq]
  rcases hround with h | h
  · refine ⟨_, .step .look (((h.loop_in _ .pure).bind faultOf).trans (.step .loopDone .refl)), ?_⟩
    exact (parked_never t s).blocked
  · exact ⟨_, .step .look ((h.loop_in _ .pure).bind faultOf), .loop .wait⟩

/-- A connect whose connection fails with `e` emits its connect error and answers `e`, by its
own turns alone. -/
theorem connect_turns (ha : (g s).1 = some e) :
    Runs (fun _ _ => False) t s (Proc.modifyGet g >>= Act.connectAnswer) t
      { (g s).2 with bus := (g s).2.bus.emit (.connectError e) } (.pure (.error e)) := by
  refine .step .look (.step .put ?_)
  rw [ha]
  exact .step .look (.step .put .refl)

/-- The race around a failing connect has a run: the listener stops at once, and the connect
then runs to its end and decides the race. -/
theorem exists_finishes_race_connect {rx token : Nat} (hc : s.bus.CaughtUp rx)
    (ha : (g s).1 = some e) :
    ∃ s', Finishes R t s (Proc.race (Act.faultListener rx .connectError token)
      (Proc.modifyGet g >>= Act.connectAnswer)) t s' (.inr (.error e)) := by
  have hblocks : ∃ p, Runs (fun _ _ => False) t s (Act.faultListener rx .connectError token) t s p ∧
      Blocked p := faultListener_blocks hc
  obtain ⟨p, hp, hb⟩ := hblocks
  -- the listener's turns, then the connect's while the listener is blocked, then the decision
  have hrun : Runs (fun _ _ => False) t s (Proc.race (Act.faultListener rx .connectError token)
      (Proc.modifyGet g >>= Act.connectAnswer)) t _ (.pure (.inr (.error e))) :=
    (hp.first_left.trans ((connect_turns ha).first_right hb)).trans
      (.step (.firstDoneRight hb.result?_eq_none) .refl)
  exact ⟨_, Runs.mono (fun _ _ (h : False) => h.elim) hrun⟩

theorem exists_finishes_raceWithEvent_connect (hg : Connector g) {scope : Nat}
    (hs : s.bus.fresh = true) (ha : (g s).1 = some e) :
    ∃ s', Finishes R t s (Act.raceWithEvent .connectError scope
      (Proc.modifyGet g >>= Act.connectAnswer)) t s' (.error e) := by
  have hc : (s.raceBegun scope).bus.CaughtUp s.bus.nextReceiver := Bus.caughtUp_subscribe hs
  have ha' : (g (s.raceBegun scope)).1 = some e :=
    (hg.answer_tokens _ _).trans ((hg.answer_bus _ _).trans ha)
  obtain ⟨s₁, hrace⟩ := exists_finishes_race_connect (R := R) (t := t) hc ha'
  exact ⟨_, finishes_raceWithEvent_iff.2 ⟨s₁, _, hrace, rfl, rfl⟩⟩

/-- A round of retried connects, on an open session whose connection fails with a benign
fault, has a run, answering `ok none`. -/
theorem exists_finishes_retryRound_connect (hg : Connector g) {scope : Nat} {canRetry : Bool}
    {again : Unit → Act (Except Fault (Option Unit))} (hs : s.bus.fresh = true)
    (hc : s.closed = false) (ha : (g s).1 = some e) (hb : e.classify .connect = .benign) :
    ∃ s', Finishes R t s (Act.retryRound .connect none (Act.raceWithEvent .connectError scope
      (Proc.modifyGet g >>= Act.connectAnswer)) canRetry again) t s' (.ok none) := by
  obtain ⟨s₁, hrace⟩ := exists_finishes_raceWithEvent_connect (R := R) (t := t) hg hs ha
  have hk : Finishes R t s₁ (Act.onFault .connect canRetry again e) t s₁ (.ok none) :=
    (finishes_onFault_benign_iff hb).2 ⟨rfl, rfl, rfl⟩
  exact ⟨s₁, (finishes_retryRound_open_iff hc).2 (finishes_bind_iff.2 ⟨t, s₁, .error e, hrace, hk⟩)⟩

theorem exists_finishes_retryRacing_connect (hg : Connector g) {n : Nat}
    (hs : s.bus.fresh = true) (hc : s.closed = false) (ha : (g s).1 = some e)
    (hb : e.classify .connect = .benign) :
    ∃ s', Finishes R t s (Act.retryRacing .connectError .connect none
      (Proc.modifyGet g >>= Act.connectAnswer) n) t s' (.ok none) := by
  rw [Act.retryRacing]
  simp only [finishes_gets_bind_iff]
  cases n with
  | zero => exact exists_finishes_retryRound_connect hg hs hc ha hb
  | succ n => exact exists_finishes_retryRound_connect hg hs hc ha hb

theorem exists_finishes_startBridge (bridge : Nat → Act Unit) :
    ∃ s', Finishes R t s (Act.startBridge bridge) t s' () := by
  unfold Act.startBridge
  simp only [finishes_gets_bind_iff]
  split
  · exact ⟨s, finishes_pure_iff.2 ⟨rfl, rfl, rfl⟩⟩
  · -- it marks the session bridged, subscribes and forks the bridge
    exact ⟨_, finishes_modify_bind_iff.2 (finishes_modifyGet_bind_iff.2
      (finishes_spawn_iff.2 (finishes_pure_iff.2 ⟨rfl, rfl, rfl⟩)))⟩

/-- A connect on an open session whose connection fails with a benign fault has a run,
answering the closed fault. -/
theorem exists_finishes_connectWith_benign (hg : Connector g) {bridge : Nat → Act Unit}
    {c : SessionConfig} (hs : s.bus.fresh = true) (hc : s.closed = false)
    (ha : (g s).1 = some e) (hb : e.classify .connect = .benign) :
    ∃ t' s', Finishes R t s (Act.connectWith (Act.startBridge bridge)
      (Proc.modifyGet g >>= Act.connectAnswer) c) t' s' (.error Fault.closed) := by
  obtain ⟨s₁, hstart⟩ := exists_finishes_startBridge (R := R) (t := t) (s := s) bridge
  obtain ⟨-, hc₁, ha₁, hs₁⟩ := finishes_startBridge hg hs hstart
  -- the connect's receiver and token, and then its retried connects
  have ha₂ : (g { { s₁ with bus := s₁.bus.subscribe.2 } with
      tokens := (s₁.tokens.child s₁.scope).2 }).1 = some e :=
    (hg.answer_tokens _ _).trans ((hg.answer_bus _ _).trans (ha₁.trans ha))
  obtain ⟨s₃, hretry⟩ := exists_finishes_retryRacing_connect (R := R) (t := t)
    (n := c.maxRetries) hg (by exact Bus.fresh_subscribe hs₁) (by exact hc₁.trans hc) ha₂ hb
  refine ⟨t, { { s₃ with tokens := s₃.tokens.cancel (s₁.tokens.child s₁.scope).1 } with
    bus := s₃.bus.unsubscribe s₁.bus.subscribe.1 }, ?_⟩
  unfold Act.connectWith
  rw [finishes_gets_bind_iff]
  simp only [hc, Bool.false_eq_true, if_false]
  refine finishes_bind_iff.2 ⟨t, s₁, (), hstart, ?_⟩
  rw [Act.subscribe, finishes_modifyGet_bind_iff, finishes_gets_bind_iff, Act.childToken,
    finishes_modifyGet_bind_iff]
  refine finishes_holding_iff.2
    ⟨t, { s₃ with tokens := s₃.tokens.cancel (s₁.tokens.child s₁.scope).1 }, .error Fault.closed,
      finishes_bind_iff.2 ⟨t, s₃, .ok none, hretry, ?_⟩, ?_⟩
  · rw [Act.cancel, finishes_modify_bind_iff, pure_eq]
    exact finishes_pure_iff.2 ⟨rfl, rfl, rfl⟩
  · exact finishes_pure_iff.2 ⟨rfl, rfl, rfl⟩

/-- A connect on an open session whose connection fails with a benign fault answers the closed
fault: it has a run, and every run answers so and leaves the session open. -/
theorem connectWith_answers_closed (hg : Connector g) {bridge : Nat → Act Unit}
    {c : SessionConfig} (hs : s.bus.fresh = true) (hc : s.closed = false)
    (ha : (g s).1 = some e) (hb : e.classify .connect = .benign) :
    (∃ t' s', Finishes R t s (Act.connectWith (Act.startBridge bridge)
      (Proc.modifyGet g >>= Act.connectAnswer) c) t' s' (.error Fault.closed)) ∧
    ∀ t' s' r, Finishes R t s (Act.connectWith (Act.startBridge bridge)
      (Proc.modifyGet g >>= Act.connectAnswer) c) t' s' r →
        r = .error Fault.closed ∧ s'.closed = false :=
  ⟨exists_finishes_connectWith_benign hg hs hc ha hb,
    fun _ _ _ h => finishes_connectWith_benign hg hs hc ha hb h⟩

end Answers

/-! ## A connect error heard from elsewhere -/

/-- The world once another task has emitted connect error `e`. -/
def World.connectErrorEmitted (w : World) (e : Fault) : World :=
  { w with bus := w.bus.emit (.connectError e) }

section Heard

variable {R : Nat × World → Nat × World → Prop} {t : Nat} {s : World} {e : Fault}

theorem finishes_faultListener_heard {rx token : Nat} {kind : EventKind} {ev : BrokerEvent}
    {f : Fault} (hscan : (s.bus.scan rx kind).1 = .event ev) (hf : ev.fault? = some f) :
    Finishes R t s (Act.faultListener rx kind token) t (s.afterScan rx kind) f := by
  rw [faultListener_eq]
  refine finishes_bind_iff.2 ⟨t, s.afterScan rx kind, .error f, ?_,
    finishes_pure_iff.2 ⟨rfl, rfl, rfl⟩⟩
  refine finishes_look_iff.2 (finishes_loop_iff.2 ⟨_, _, .inr (.error f),
    finishes_listenRound_of_found ?_, finishes_pure_iff.2 ⟨rfl, rfl, rfl⟩⟩)
  rw [hscan]
  simp only [Act.onFound, hf, Proc.pure_eq]
  exact finishes_pure_iff.2 ⟨rfl, rfl, rfl⟩

/-- Another task emits a connect error before either part of the race moves: the listener,
which had read everything, hears it and wins, and the operation, not begun, is dropped. -/
theorem returns_race_heard {β : Type} (rx token : Nat) {op : Act (Except Fault β)}
    (hR : ∀ t w, R (t, w) (t, w.connectErrorEmitted e)) (hc : s.bus.CaughtUp rx)
    (hop : ∀ w, op.release w = w) :
    Returns R t s (Proc.race (Act.faultListener rx .connectError token) op) t
      ((s.connectErrorEmitted e).afterScan rx .connectError) (.inl e) := by
  have hscan : ((s.connectErrorEmitted e).bus.scan rx .connectError).1 =
      .event (.connectError e) :=
    Bus.scan_emit_of_caughtUp hc rfl
  have hheard : Finishes R t (s.connectErrorEmitted e) (Act.faultListener rx .connectError token) t
      ((s.connectErrorEmitted e).afterScan rx .connectError) e :=
    finishes_faultListener_heard hscan rfl
  refine .env (hR t s) (hheard.returns.first_left ?_)
  rw [hop]
  exact .refl

/-- A run of the race is a run of `raceWithEvent`, which subscribes and takes its token before,
and drops the receiver and cancels the token after. -/
theorem Returns.raceWithEvent {β : Type} {kind : EventKind} {op : Act (Except Fault β)}
    {scope t' : Nat} {s₁ : World} {v : Fault ⊕ Except Fault β}
    (h : Returns R t (s.raceBegun scope)
      (Proc.race (Act.faultListener s.bus.nextReceiver kind s.tokens.nodes.size) op) t' s₁ v) :
    Returns R t s (Act.raceWithEvent kind scope op) t'
      (s₁.raceEnded s.bus.nextReceiver s.tokens.nodes.size) (v.elim .error id) := by
  rw [Act.raceWithEvent_eq]
  refine .step .look (.step .put (.step .look (.step .put (Returns.holding h ?_))))
  refine .step .look (.step .put ?_)
  cases v <;> exact .refl

/-- A round on an open session whose attempt answers a benign fault counts as nothing done. -/
theorem Returns.retryRound_benign {β : Type} {kind : ActionKind} {action : Act (Except Fault β)}
    {canRetry : Bool} {again : Unit → Act (Except Fault (Option β))} {t' : Nat} {s' : World}
    (hc : s.closed = false) (hb : e.classify kind = .benign)
    (h : Returns R t s action t' s' (.error e)) :
    Returns R t s (Act.retryRound kind none action canRetry again) t' s' (.ok none) := by
  unfold Act.retryRound
  refine .step .look ?_
  simp only [hc, Proc.pure_bind, Bool.false_eq_true, if_false]
  refine Returns.bind h ?_
  simp only [Act.onFault, hb]
  exact .refl

/-- Retried connects whose first race hears a benign connect error from elsewhere answer
`ok none`, whatever retries are left. -/
theorem exists_returns_retryRacing_heard {g : World → Option Fault × World} {n : Nat}
    (hR : ∀ t w, R (t, w) (t, w.connectErrorEmitted e)) (hs : s.bus.fresh = true)
    (hc : s.closed = false) (hb : e.classify .connect = .benign) :
    ∃ s', Returns R t s (Act.retryRacing .connectError .connect none
      (Proc.modifyGet g >>= Act.connectAnswer) n) t s' (.ok none) ∧ s'.closed = false := by
  -- the race's world differs from `s` in the bus and the tokens alone
  obtain ⟨w, hrace, hw⟩ : ∃ w, Returns R t s (Act.raceWithEvent .connectError s.scope
      (Proc.modifyGet g >>= Act.connectAnswer)) t w (.error e) ∧ w.closed = false :=
    ⟨_, Returns.raceWithEvent (returns_race_heard s.bus.nextReceiver s.tokens.nodes.size hR
      (Bus.caughtUp_subscribe hs) fun _ => rfl), hc⟩
  refine ⟨w, ?_, hw⟩
  unfold Act.retryRacing
  refine .step .look ?_
  simp only [Proc.pure_bind]
  -- the first round answers whether or not a retry is left
  cases n <;> exact Returns.retryRound_benign hc hb hrace

/-- A connect on an open session whose race hears a benign connect error, emitted by another
task once the listener has subscribed, answers the closed fault and leaves the session open,
whatever the connection would have answered. -/
theorem exists_returns_connectWith_heard {g : World → Option Fault × World} (hg : Connector g)
    {bridge : Nat → Act Unit} {c : SessionConfig}
    (hR : ∀ t w, R (t, w) (t, w.connectErrorEmitted e)) (hs : s.bus.fresh = true)
    (hc : s.closed = false) (hb : e.classify .connect = .benign) :
    ∃ t' s', Returns R t s (Act.connectWith (Act.startBridge bridge)
      (Proc.modifyGet g >>= Act.connectAnswer) c) t' s' (.error Fault.closed) ∧
      s'.closed = false := by
  obtain ⟨s₁, hstart⟩ := exists_finishes_startBridge (R := R) (t := t) (s := s) bridge
  obtain ⟨-, hc₁, -, hs₁⟩ := finishes_startBridge hg hs hstart
  -- the connect's receiver and token, and then its retried connects
  obtain ⟨s₃, hretry, hc₃⟩ := exists_returns_retryRacing_heard (R := R) (t := t) (g := g)
    (n := c.maxRetries) hR (s := { { s₁ with bus := s₁.bus.subscribe.2 } with
      tokens := (s₁.tokens.child s₁.scope).2 }) (Bus.fresh_subscribe hs₁) (hc₁.trans hc) hb
  refine ⟨t, { { s₃ with tokens := s₃.tokens.cancel (s₁.tokens.child s₁.scope).1 } with
    bus := s₃.bus.unsubscribe s₁.bus.subscribe.1 }, ?_, hc₃⟩
  unfold Act.connectWith
  refine .step .look ?_
  simp only [hc, Proc.pure_bind, Bool.false_eq_true, if_false]
  refine Returns.bind hstart.returns ?_
  refine .step .look (.step .put (.step .look (.step .look (.step .put ?_))))
  exact Returns.holding (Returns.bind hretry (.step .look (.step .put .refl))) .refl

end Heard

/-- **A benign connect fault is reported as a closed session.** On an open session whose connection
answers a fault benign for connecting, every run of connect answers the closed fault and leaves the
session open, and one exists; a run where another task emits such a connect error during the connect
does the same. Both sessions alike. -/
theorem connect_reports_closed_on_benign_fault {R : Nat × World → Nat × World → Prop}
    {c : SessionConfig} {t : Nat} {s : World} {e : Fault} (hc : s.closed = false)
    (hs : s.bus.fresh = true) (hb : e.classify .connect = .benign) :
    (s.consumer.connect.1 = some e →
      (∃ t' s', Finishes R t s (Act.connectConsumer c) t' s' (.error Fault.closed)) ∧
      ∀ t' s' r, Finishes R t s (Act.connectConsumer c) t' s' r →
        r = .error Fault.closed ∧ s'.closed = false) ∧
    (s.producer.connect.1 = some e →
      (∃ t' s', Finishes R t s (Act.connectProducer c) t' s' (.error Fault.closed)) ∧
      ∀ t' s' r, Finishes R t s (Act.connectProducer c) t' s' r →
        r = .error Fault.closed ∧ s'.closed = false) ∧
    ((∀ t w, R (t, w) (t, w.connectErrorEmitted e)) →
      (∃ t' s', Returns R t s (Act.connectConsumer c) t' s' (.error Fault.closed) ∧
        s'.closed = false) ∧
      ∃ t' s', Returns R t s (Act.connectProducer c) t' s' (.error Fault.closed) ∧
        s'.closed = false) := by
  refine ⟨fun ha => ?_, fun ha => ?_, fun hR => ⟨?_, ?_⟩⟩
  · rw [connectConsumer_eq, consumerConnect_eq]
    exact connectWith_answers_closed connector_consumer hs hc ha hb
  · rw [connectProducer_eq, producerConnect_eq]
    exact connectWith_answers_closed connector_producer hs hc ha hb
  · rw [connectConsumer_eq, consumerConnect_eq]
    exact exists_returns_connectWith_heard connector_consumer hR hs hc hb
  · rw [connectProducer_eq, producerConnect_eq]
    exact exists_returns_connectWith_heard connector_producer hR hs hc hb

/-- A session whose consumer's first connect ends a partition reports a closed session from
that connect; and a producing session whose connection succeeds does too, in a run where
another task emits that fault as a connect error while it connects. -/
theorem connect_reports_closed_on_benign_fault_eof :
    (∃ t' s', Finishes (fun _ _ => False) 0
        { World.fresh "orders" {} with
          consumer := { connectResults := [some (Fault.broker (-191) "eof")] } }
        (Act.connectConsumer { topic := "orders" }) t' s' (.error Fault.closed)) ∧
    ∃ t' s', Returns (fun x y => y = (x.1, x.2.connectErrorEmitted (Fault.broker (-191) "eof"))) 0
        (World.fresh "orders" {}) (Act.connectProducer { topic := "orders" }) t' s'
        (.error Fault.closed) ∧ s'.closed = false :=
  have hconsumer := connect_reports_closed_on_benign_fault (R := fun _ _ => False)
    (c := { topic := "orders" }) (t := 0) (e := Fault.broker (-191) "eof")
    (s := { World.fresh "orders" {} with
      consumer := { connectResults := [some (Fault.broker (-191) "eof")] } })
    rfl rfl (by decide)
  have hproducer := connect_reports_closed_on_benign_fault
    (R := fun x y => y = (x.1, x.2.connectErrorEmitted (Fault.broker (-191) "eof")))
    (c := { topic := "orders" }) (t := 0) (e := Fault.broker (-191) "eof")
    (s := World.fresh "orders" {}) rfl rfl (by decide)
  ⟨(hconsumer.1 rfl).1, (hproducer.2.2 fun _ _ => rfl).2⟩

end BrokerSession
