import BrokerSession.Session.Consumer
import BrokerSession.Proofs.Proc.Keeps
import BrokerSession.Proofs.Broker.Bus
import BrokerSession.Proofs.Backoff.Calls

/-!
# What the session's machinery leaves alone

The retry executor, the pre-check and the waits for events write only a few parts of the
world: the bus (emitting, subscribing, reading, dropping a receiver), the cancellation tokens,
the backoff (growing or resetting the delay, recording a wrong state, never forgiving one), the
panic flag and the connection's connect state. `Untouched f v` says that each of these writes
keeps `f` at `v`. For such an `f`, every process the machinery builds around an
action that keeps `f` keeps it too: a retried, raced action with the consumer's pre-check keeps
`f` as soon as the action does (`Untouched.keeps_retryRacing`).

The freshness of the bus's receiver numbers is untouched (`untouched_fresh`), and so is every
part of the world the machinery never writes, such as the pull script and the offset window
(`untouched_window`). The window is written by consuming, committing, rolling back and seeking:
a commit attempt and a seek keep it as well, which is what lets the partitions of a commit or a
rollback run side by side without any of them seeing the others.
-/

namespace BrokerSession

/-- The writes of the session's machinery keep `f` at `v`. -/
structure Untouched {ω : Type} (f : World → ω) (v : ω) : Prop where
  emit : ∀ w e, f w = v → f { w with bus := w.bus.emit e } = v
  subscribe : ∀ w, f w = v → f { w with bus := w.bus.subscribe.2 } = v
  unsubscribe : ∀ w rx, f w = v → f { w with bus := w.bus.unsubscribe rx } = v
  scan : ∀ w rx kind, f w = v → f { w with bus := (w.bus.scan rx kind).2 } = v
  tokens : ∀ w ts, f w = v → f { w with tokens := ts } = v
  backoff : ∀ w b, f w = v → w.backoff.invalidCount ≤ b.invalidCount →
    f { w with backoff := b } = v
  halted : ∀ w h, f w = v → f { w with halted := h } = v
  connect : ∀ w, f w = v → f { w with consumer := w.consumer.connect.2 } = v

/-- Connecting leaves the pull script alone. -/
@[simp] theorem ScriptedConsumer.connect_pulls (c : ScriptedConsumer) :
    c.connect.2.pulls = c.pulls := by
  unfold ScriptedConsumer.connect
  dsimp only
  split
  · split <;> rfl
  · split <;> rfl

theorem untouched_fresh : Untouched (fun w : World => w.bus.fresh) true where
  emit _ e hw := (Bus.fresh_emit e).trans hw
  subscribe _ hw := Bus.fresh_subscribe hw
  unsubscribe _ rx hw := Bus.fresh_unsubscribe hw rx
  scan _ rx kind hw := Bus.fresh_scan hw rx kind
  tokens _ _ hw := hw
  backoff _ _ hw _ := hw
  halted _ _ hw := hw
  connect _ hw := hw

theorem untouched_window (v : OffsetWindow) : Untouched World.window v where
  emit _ _ hw := hw
  subscribe _ hw := hw
  unsubscribe _ _ hw := hw
  scan _ _ _ hw := hw
  tokens _ _ hw := hw
  backoff _ _ hw _ := hw
  halted _ _ hw := hw
  connect _ hw := hw

namespace Untouched

open Proc

variable {ω : Type} {f : World → ω} {v : ω} {α β : Type}

/-- Two untouched parts make an untouched pair. -/
theorem prod {ω' : Type} {g : World → ω'} {u : ω'} (hf : Untouched f v) (hg : Untouched g u) :
    Untouched (fun w => (f w, g w)) (v, u) where
  emit w e hw := by
    simp only [Prod.mk.injEq] at hw ⊢
    exact ⟨hf.emit w e hw.1, hg.emit w e hw.2⟩
  subscribe w hw := by
    simp only [Prod.mk.injEq] at hw ⊢
    exact ⟨hf.subscribe w hw.1, hg.subscribe w hw.2⟩
  unsubscribe w rx hw := by
    simp only [Prod.mk.injEq] at hw ⊢
    exact ⟨hf.unsubscribe w rx hw.1, hg.unsubscribe w rx hw.2⟩
  scan w rx kind hw := by
    simp only [Prod.mk.injEq] at hw ⊢
    exact ⟨hf.scan w rx kind hw.1, hg.scan w rx kind hw.2⟩
  tokens w ts hw := by
    simp only [Prod.mk.injEq] at hw ⊢
    exact ⟨hf.tokens w ts hw.1, hg.tokens w ts hw.2⟩
  backoff w b hw hb := by
    simp only [Prod.mk.injEq] at hw ⊢
    exact ⟨hf.backoff w b hw.1 hb, hg.backoff w b hw.2 hb⟩
  halted w h hw := by
    simp only [Prod.mk.injEq] at hw ⊢
    exact ⟨hf.halted w h hw.1, hg.halted w h hw.2⟩
  connect w hw := by
    simp only [Prod.mk.injEq] at hw ⊢
    exact ⟨hf.connect w hw.1, hg.connect w hw.2⟩

variable (hf : Untouched f v)
include hf

/-! ## Nodes -/

theorem keeps_emit (e : BrokerEvent) : Keeps f v (Act.emit e) :=
  .look fun _ w hw => .put (hf.emit w e hw) .pure

theorem keeps_halt (h : Halt) : Keeps f v (Act.halt h : Act α) :=
  Keeps.bind (.look fun _ w hw => .put (hf.halted w _ hw) .pure) fun _ => keeps_never

theorem keeps_halt_bind (h : Halt) {k : α → Act β} : Keeps f v (Act.halt h >>= k) :=
  .look fun _ w hw => .put (hf.halted w _ hw) keeps_never_bind

theorem keeps_orHalt (e : Except Halt α) : Keeps f v (Act.orHalt e) := by
  cases e with
  | ok a => exact .pure
  | error h => exact hf.keeps_halt h

theorem keeps_subscribe : Keeps f v Act.subscribe :=
  .look fun _ w hw => .put (hf.subscribe w hw) .pure

theorem keeps_childToken (parent : Nat) : Keeps f v (Act.childToken parent) :=
  .look fun _ w hw => .put (hf.tokens w _ hw) .pure

theorem keeps_cancel (token : Nat) : Keeps f v (Act.cancel token) :=
  .look fun _ w hw => .put (hf.tokens w _ hw) .pure

/-! ## The retry executor -/

theorem keeps_growBackoff : Keeps f v Act.growBackoff := by
  refine keeps_get_bind fun w hw => ?_
  cases h : w.backoff.increase with
  | error e => exact hf.keeps_halt_bind e
  | ok x =>
    -- growing the delay leaves the wrong-state count
    obtain ⟨d, b⟩ := x
    obtain ⟨-, -, -, hb⟩ := Backoff.growBy_eq_ok h
    exact keeps_set_bind (hf.backoff w b hw (by rw [hb])) .pure

theorem keeps_countWrongState : Keeps f v Act.countWrongState := by
  refine keeps_get_bind fun w hw => ?_
  cases h : w.backoff.recordInvalid with
  | error e => exact hf.keeps_halt_bind e
  | ok x =>
    -- recording a wrong state raises the count
    obtain ⟨n, b⟩ := x
    exact .put (hf.backoff w b hw (by rw [Backoff.recordInvalid_eq_ok h]; exact Nat.le_succ _)) .pure

theorem keeps_resetBackoff : Keeps f v Act.resetBackoff :=
  .look fun _ w hw => .put (hf.backoff w _ hw le_rfl) .pure

omit hf in
theorem keeps_sleepUnlessCancelled (d : Span) : Keeps f v (Act.sleepUnlessCancelled d) :=
  keeps_now.bind fun _ => keeps_await.bind fun _ => keeps_gets

section Retry

variable {kind : ActionKind} {check : Option (Act (Except Fault Unit))}
  {action : Act (Except Fault β)}

theorem keeps_retryOrFail {canRetry : Bool} {again : Unit → Act (Except Fault (Option β))}
    (ha : Keeps f v (again ())) (e : Fault) :
    Keeps f v (Act.retryOrFail kind canRetry again e) := by
  unfold Act.retryOrFail
  dsimp only
  split
  · refine hf.keeps_growBackoff.bind fun d => (keeps_sleepUnlessCancelled d).bind fun c => ?_
    cases c
    · exact ha
    · exact .pure
  · exact hf.keeps_resetBackoff.bind fun _ => .pure

theorem keeps_onFault {canRetry : Bool} {again : Unit → Act (Except Fault (Option β))}
    (ha : Keeps f v (again ())) (e : Fault) :
    Keeps f v (Act.onFault kind canRetry again e) := by
  unfold Act.onFault
  split
  · exact .pure
  · exact hf.keeps_growBackoff.bind fun _ =>
      hf.keeps_countWrongState.bind fun _ => hf.keeps_retryOrFail ha e
  · exact hf.keeps_retryOrFail ha e

theorem keeps_retry (hc : ∀ c ∈ check, Keeps f v c) (ha : Keeps f v action) (n : Nat) :
    Keeps f v (Act.retry kind check action n) := by
  -- every round checks, calls the action and handles its fault; `again` is the next round
  have round : ∀ canRetry (again : Unit → Act (Except Fault (Option β))),
      Keeps f v (again ()) → Keeps f v (Act.retryRound kind check action canRetry again) := by
    intro canRetry again hag
    have hat : Keeps f v (Act.attempt kind action canRetry again) := by
      refine ha.bind fun r => ?_
      cases r with
      | ok a =>
        dsimp only
        split
        · exact hf.keeps_resetBackoff.bind fun _ => .pure
        · exact .pure
      | error e => exact hf.keeps_onFault hag e
    refine keeps_gets.bind fun closed => ?_
    cases closed
    · cases check with
      | none => exact hat
      | some c =>
        refine (hc c rfl).bind fun r => ?_
        cases r with
        | ok u => exact hat
        | error e => exact .pure
    · exact .pure
  induction n with
  | zero => exact round false _ .pure
  | succ n ih => exact round true _ ih

end Retry

/-! ## Waiting for events -/

theorem keeps_awaitOnce (rx : Nat) (kind : EventKind) (timeout : Option Span) (hard : Bool)
    (token : Nat) : Keeps f v (Act.awaitOnce rx kind timeout hard token) := by
  unfold Act.awaitOnce
  refine keeps_now.bind fun start => keeps_iterate fun _ => ?_
  refine Keeps.bind (.look fun _ w hw => .put (hf.scan w rx kind hw) .pure) fun found => ?_
  cases found with
  | event e => exact .pure
  | closed => exact .pure
  | nothing =>
    refine keeps_get.bind fun w => keeps_now.bind fun t => ?_
    split
    · exact .pure
    · -- the deadline, if any, has passed, or the wait parks until news or cancellation
      dsimp only
      repeat' split
      all_goals first | exact .pure | exact keeps_await.bind fun _ => .pure

theorem keeps_raceWithEvent (kind : EventKind) (scope : Nat) {op : Act (Except Fault β)}
    (hop : Keeps f v op) : Keeps f v (Act.raceWithEvent kind scope op) := by
  unfold Act.raceWithEvent
  refine hf.keeps_subscribe.bind fun rx => (hf.keeps_childToken scope).bind fun token => ?_
  refine Keeps.bind (.holding (fun w hw => hf.unsubscribe w rx hw) (keeps_race ?_ hop)
    fun _ => .pure) fun r => (hf.keeps_cancel token).bind fun _ => .pure
  -- the listener: a fault it reads is its answer, anything else leaves it waiting for ever
  refine (hf.keeps_awaitOnce rx kind none false token).bind fun r => ?_
  cases r with
  | error e => exact .pure
  | ok _ => exact keeps_never

/-! ## The consumer's pre-check -/

theorem keeps_consumerConnect : Keeps f v Act.consumerConnect := by
  unfold Act.consumerConnect
  refine Keeps.bind (.look fun _ w hw => .put (hf.connect w hw) .pure) fun r => ?_
  cases r with
  | none => exact (hf.keeps_emit _).bind fun _ => .pure
  | some e => exact (hf.keeps_emit _).bind fun _ => .pure

omit hf in
theorem keeps_awaitStable (ceiling : Span) : Keeps f v (Act.awaitStable ceiling) := by
  unfold Act.awaitStable
  refine keeps_get.bind fun w => ?_
  split
  · exact .pure
  · exact keeps_now.bind fun _ => keeps_await

omit hf in
theorem keeps_judgeClient (c : SessionConfig) : Keeps f v (Act.judgeClient c) := by
  unfold Act.judgeClient
  dsimp only
  refine (keeps_awaitStable _).bind fun _ => keeps_gets.bind fun invalid => ?_
  split
  · refine (keeps_sleepUnlessCancelled _).bind fun cancelled => ?_
    split
    · exact .pure
    · refine keeps_get.bind fun w => ?_
      split
      · exact .pure
      · exact .pure
  · refine keeps_get.bind fun w => ?_
    split
    · exact .pure
    · exact .pure

theorem keeps_consumerCheck (c : SessionConfig) : Keeps f v (Act.consumerCheck c) := by
  unfold Act.consumerCheck
  dsimp only
  refine keeps_gets.bind fun closed => ?_
  split
  · exact .pure
  · refine keeps_gets.bind fun connected => ?_
    split
    · refine hf.keeps_consumerConnect.bind fun r => ?_
      cases r with
      | error e => exact .pure
      | ok u => exact keeps_judgeClient c
    · exact keeps_judgeClient c

/-- A consumer action run under the retry executor with the pre-check keeps what the action
keeps. -/
theorem keeps_retryChecked (kind : ActionKind) (c : SessionConfig)
    {action : Act (Except Fault β)} (ha : Keeps f v action) (n : Nat) :
    Keeps f v (Act.retry kind (some (Act.consumerCheck c)) action n) :=
  hf.keeps_retry (fun _ h => by cases h; exact hf.keeps_consumerCheck c) ha n

/-- A consumer action run under the retry executor, raced against an event and with the
pre-check, keeps what the action keeps. -/
theorem keeps_retryRacing (event : EventKind) (kind : ActionKind) (c : SessionConfig)
    {action : Act (Except Fault β)} (ha : Keeps f v action) (n : Nat) :
    Keeps f v (Act.retryRacing event kind (some (Act.consumerCheck c)) action n) :=
  keeps_gets.bind fun scope => hf.keeps_retryChecked kind c (hf.keeps_raceWithEvent event scope ha) n

/-! ## Commits and seeks -/

section Commits

variable (hc : ∀ w x, f { w with consumer := x } = f w)
include hc

/-- A commit attempt writes only the pending commits and the connection, and may emit the
broker's answer. -/
theorem keeps_commitAttempt (hp : ∀ w x, f { w with pending := x } = f w) (pos : Position) :
    Keeps f v (Act.commitAttempt pos) := by
  unfold Act.commitAttempt Act.trackCommit Act.consumerCommit
  refine Keeps.bind (keeps_modify fun w => hp w _) fun _ =>
    Keeps.bind (keeps_modifyGet fun w => hc w _) fun _ => keeps_gets.bind fun ack => ?_
  cases ack
  · exact .pure
  · exact (hf.keeps_emit _).bind fun _ => .pure

theorem keeps_commitPartition (hp : ∀ w x, f { w with pending := x } = f w) (c : SessionConfig)
    (pos : Position) (d : Span) : Keeps f v (Act.commitPartition c pos d) := by
  unfold Act.commitPartition
  exact keeps_sleep.bind fun _ => hf.keeps_retryChecked _ c (hf.keeps_commitAttempt hc hp pos) _

omit hf in
theorem keeps_consumerSeek (pos : Position) : Keeps f v (Act.consumerSeek pos) := by
  unfold Act.consumerSeek
  exact Keeps.bind (keeps_modifyGet fun w => hc w _) fun _ => .pure

end Commits

end Untouched

end BrokerSession
