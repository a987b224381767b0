import BrokerSession.Proofs.Proc.Ends
import BrokerSession.Proofs.Retry.Delays
import BrokerSession.Proofs.Session.Connect

/-!
# Windows that finish

A window of `consume` left alone finishes, on any pull script: nothing else moves, and the
clock moves on only while the window waits (`Ends`). It needs only that nothing makes the
program panic on the way: the backoff can grow at every call (`Backoff.Roomy`), the wrong-state
and empty-window counters stay below their 32-bit limit, and every scripted offset fits the
offset window. A fresh backoff is roomy when one step leaves room below the largest span
(`Backoff.roomy_new`). None of it asks the session to be open, the scope to be live or the
script to hold a message. `consume_window` gathers this with what every run of a window does.

The argument is a program logic with a budget. `Spends sp j p Q` says that from every world
with room for `k + j` more wrong states (`Room`), `p` ends with room for `k` and an answer that
`Q` accepts. Each function of a retry run has its lemma, citing its callees' only: a wrong
state spends one, a round one more than the rounds after it, so `retry n` spends `n + 1`, and a
window at most `maxSize + 1` runs of it.

The race of each pull is decided by the pull: the listener beside it, on a receiver that has
read everything, stops at its wait, and the pull leaves the bus and the tokens alone
(`ends_race_stalled`).
-/

namespace BrokerSession

open Proc

namespace Backoff

/-- The backoff can grow at every call: one step of its factor is the span `sp`, its delay stays
within the cap, which is no lower than the base, and one more step leaves room below the
largest span. -/
structure Roomy (sp : Span) (b : Backoff) : Prop where
  step : b.step = .ok sp
  base_le_cap : b.settings.base.nanos ≤ b.settings.cap.nanos
  current_le_cap : b.current.nanos ≤ b.settings.cap.nanos
  room : b.settings.cap.nanos + sp.nanos < Span.limit

namespace Roomy

variable {sp : Span} {b : Backoff}

/-- An increase succeeds and keeps the backoff roomy. -/
theorem increase (h : b.Roomy sp) :
    ∃ d b', b.increase = .ok (d, b') ∧ b'.Roomy sp ∧ b'.invalidCount = b.invalidCount := by
  have hadd : b.current.add sp = .ok ⟨b.current.nanos + sp.nanos⟩ := by
    have hcap := h.current_le_cap
    have hroom := h.room
    rw [Span.add, if_pos (by omega)]
  have hstep : b.settings.base.scale b.factor = .ok sp := h.step
  have hinc : b.increase = .ok (min ⟨b.current.nanos + sp.nanos⟩ b.settings.cap,
      { b with current := min ⟨b.current.nanos + sp.nanos⟩ b.settings.cap,
               drawn := b.drawn || !b.isExact }) := by
    rw [Backoff.increase, growBy, hstep]
    simp only [Bind.bind, Except.bind, hadd]
    rfl
  refine ⟨_, _, hinc, ⟨h.step, h.base_le_cap, ?_, h.room⟩, rfl⟩
  simp only [Span.nanos_min]
  exact Nat.min_le_right _ _

theorem reset (h : b.Roomy sp) : b.reset.Roomy sp :=
  ⟨h.step, h.base_le_cap, h.base_le_cap, h.room⟩

theorem recordInvalid (h : b.Roomy sp) (hlt : b.invalidCount < countLimit) :
    b.recordInvalid = .ok (b.invalidCount + 1, { b with invalidCount := b.invalidCount + 1 }) ∧
      ({ b with invalidCount := b.invalidCount + 1 } : Backoff).Roomy sp :=
  ⟨recordInvalid_of_lt hlt, h.step, h.base_le_cap, h.current_le_cap, h.room⟩

end Roomy

/-- A fresh backoff is roomy when one step of its factor leaves room below the largest span. -/
theorem roomy_new {s : BackoffSettings} {sp : Span} (hsp : (new s).step = .ok sp)
    (hroom : (max s.cap s.base).nanos + sp.nanos < Span.limit) : (new s).Roomy sp where
  step := hsp
  base_le_cap := by simp [new]
  current_le_cap := by simp [new]
  room := hroom

end Backoff

/-- What a calm window needs of the world, with room for `k` more wrong states: a roomy
backoff, the wrong-state and empty-window counters below their limit, fresh receiver numbers on
the bus, and scripted offsets that the offset window can record. -/
structure Room (sp : Span) (k : Nat) (w : World) : Prop where
  backoff : w.backoff.Roomy sp
  invalid : w.backoff.invalidCount + k < Backoff.countLimit
  empty : w.emptyWindows < Backoff.countLimit
  fresh : w.bus.fresh = true
  offsets : ∀ m ∈ scriptMessages w.consumer.pulls, m.offset < maxOffset

namespace Room

variable {sp : Span} {k j : Nat} {w w' : World}

theorem weaken (h : Room sp (k + j) w) : Room sp k w :=
  { h with invalid := by have := h.invalid; omega }

/-- A step that leaves the backoff, the empty-window count, the bus's freshness and the pull
script alone keeps the room. -/
theorem of_frame (h : Room sp k w) (hb : w'.backoff = w.backoff)
    (he : w'.emptyWindows = w.emptyWindows) (hf : w'.bus.fresh = w.bus.fresh)
    (hp : w'.consumer.pulls = w.consumer.pulls) : Room sp k w' where
  backoff := by rw [hb]; exact h.backoff
  invalid := by rw [hb]; exact h.invalid
  empty := by rw [he]; exact h.empty
  fresh := by rw [hf]; exact h.fresh
  offsets := by rw [hp]; exact h.offsets

theorem with_backoff {j : Nat} (h : Room sp k w) {b : Backoff} (hb : b.Roomy sp)
    (hn : b.invalidCount + j < Backoff.countLimit) : Room sp j { w with backoff := b } :=
  ⟨hb, hn, h.empty, h.fresh, h.offsets⟩

end Room

/-- From every world with room for `k + j` more wrong states, `p` ends with room for `k` and an
answer that `Q` accepts: `p` counts at most `j` wrong states. -/
def Spends {α : Type} (sp : Span) (j : Nat) (p : Act α) (Q : α → Prop) : Prop :=
  ∀ k t w, Room sp (k + j) w → Ends t w p fun w' a => Room sp k w' ∧ Q a

namespace Spends

variable {α β : Type} {sp : Span} {i j j' : Nat} {p : Act α} {Q Q' : α → Prop}

theorem mono (h : Spends sp j p Q) (hj : j ≤ j') (hQ : ∀ a, Q a → Q' a) : Spends sp j' p Q' := by
  intro k t w hw
  obtain ⟨i, rfl⟩ := Nat.exists_eq_add_of_le hj
  have hw' : Room sp (k + i + j) w := by rwa [Nat.add_right_comm, Nat.add_assoc]
  exact (h (k + i) t w hw').mono fun w' a ⟨hr, hq⟩ => ⟨hr.weaken, hQ a hq⟩

/-- A finished process spends nothing, whatever its budget. -/
theorem pure {a : α} (h : Q a) : Spends sp j (Proc.pure a) Q :=
  fun _ _ _ hw => ends_pure ⟨hw.weaken, h⟩

theorem bind {f : α → Act β} {R : β → Prop} (hp : Spends sp i p Q)
    (hf : ∀ a, Q a → Spends sp j (f a) R) : Spends sp (j + i) (p >>= f) R := by
  intro k t w hw
  refine (hp (k + j) t w (by rwa [Nat.add_assoc])).bind fun t' w' a ⟨hw', ha⟩ => ?_
  exact hf a ha k t' w' hw'

/-- A process that ends in the world it began in spends nothing. -/
theorem of_ends_eq (h : ∀ t w, Ends t w p fun w' _ => w' = w) : Spends sp 0 p fun _ => True :=
  fun _ t w hw => (h t w).mono fun _ _ hw' => ⟨hw' ▸ hw, trivial⟩

end Spends

/-! ## The backoff's nodes -/

section Nodes

variable {sp : Span} {t : Nat} {w : World}

theorem spends_growBackoff : Spends sp 0 Act.growBackoff fun _ => True := by
  intro k t w hw
  obtain ⟨d, b, hinc, hb, hn⟩ := hw.backoff.increase
  refine ⟨t, { w with backoff := b }, d, finishes_growBackoff_iff.2 ⟨b, hinc, rfl, rfl⟩, ?_, trivial⟩
  exact hw.with_backoff hb (by rw [hn]; exact hw.invalid)

theorem spends_countWrongState : Spends sp 1 Act.countWrongState fun _ => True := by
  intro k t w hw
  have hinv := hw.invalid
  obtain ⟨hrec, hb⟩ := hw.backoff.recordInvalid (by omega)
  refine ⟨t, _, (), finishes_countWrongState_iff.2 ⟨_, _, hrec, rfl, rfl⟩, ?_, trivial⟩
  exact hw.with_backoff hb (by dsimp only; omega)

theorem spends_resetBackoff : Spends sp 0 Act.resetBackoff fun _ => True :=
  fun _ t _ hw => ⟨t, _, (), finishes_resetBackoff_iff.2 ⟨rfl, rfl⟩,
    hw.with_backoff hw.backoff.reset hw.invalid, trivial⟩

theorem ends_sleepUnlessCancelled {d : Span} :
    Ends t w (Act.sleepUnlessCancelled d) fun w' _ => w' = w := by
  unfold Act.sleepUnlessCancelled
  rw [ends_now_bind_iff]
  refine (ends_await rfl).bind fun _ w' _ hw' => ?_
  subst hw'
  exact ends_look_iff.2 (ends_pure rfl)

end Nodes

/-! ## A retry run -/

section Retry

variable {β : Type} {sp : Span} {kind : ActionKind} {canRetry : Bool}
  {again : Unit → Act (Except Fault (Option β))} {Q : Except Fault (Option β) → Prop} {j : Nat}

/-- What a run may answer besides a value: any fault, and nothing done. -/
structure Settles (Q : Except Fault (Option β) → Prop) : Prop where
  error : ∀ e, Q (.error e)
  none : Q (.ok none)

variable (hQ : Settles Q)
include hQ

theorem spends_retryOrFail {e : Fault} (hagain : canRetry = true → Spends sp j (again ()) Q) :
    Spends sp j (Act.retryOrFail kind canRetry again e) Q := by
  unfold Act.retryOrFail
  by_cases hc : (e.isRetryable && canRetry) = true
  · -- the backoff grows, the run sleeps, and the rest of the run follows unless cancelled
    simp only [hc, if_true]
    have hrest : ∀ c : Bool, Spends sp j (if c then Proc.pure (.ok none) else again ()) Q := by
      intro c
      cases c with
      | true => exact Spends.pure hQ.none
      | false => exact hagain (Bool.and_eq_true_iff.1 hc).2
    exact spends_growBackoff.bind fun _ _ =>
      (Spends.of_ends_eq fun _ _ => ends_sleepUnlessCancelled).bind fun c _ => hrest c
  · simp only [hc, Bool.false_eq_true, if_false]
    exact spends_resetBackoff.bind fun _ _ => Spends.pure (hQ.error _)

theorem spends_onFault {e : Fault} (hagain : canRetry = true → Spends sp j (again ()) Q) :
    Spends sp (j + 1) (Act.onFault kind canRetry again e) Q := by
  unfold Act.onFault
  cases e.classify kind with
  | benign => exact Spends.pure hQ.none
  | wrongState =>
    -- the one wrong state a round may count
    exact spends_growBackoff.bind fun _ _ =>
      spends_countWrongState.bind fun _ _ => spends_retryOrFail hQ hagain
  | retryable => exact (spends_retryOrFail hQ hagain).mono (Nat.le_succ j) fun _ h => h
  | fatal => exact (spends_retryOrFail hQ hagain).mono (Nat.le_succ j) fun _ h => h

variable {action : Act (Except Fault β)} {P : β → Prop}

theorem spends_attempt (haction : Spends sp 0 action fun r => ∀ v, r = .ok v → P v)
    (hagain : canRetry = true → Spends sp j (again ()) Q) (hP : ∀ v, P v → Q (.ok (some v))) :
    Spends sp (j + 1) (Act.attempt kind action canRetry again) Q := by
  unfold Act.attempt
  refine haction.bind fun r hr => ?_
  cases r with
  | ok v =>
    -- a value ends the run, after a reset unless the action connects
    have hv : ∀ {i}, Spends sp i (Proc.pure (.ok (some v))) Q := Spends.pure (hP v (hr v rfl))
    by_cases hc : (kind != .connect) = true
    · simp only [hc, if_true, pure_eq]
      exact spends_resetBackoff.bind fun _ _ => hv
    · simp only [hc, Bool.false_eq_true, if_false, pure_eq]
      exact hv
  | error e => exact spends_onFault hQ hagain

theorem spends_retryRound {check : Option (Act (Except Fault Unit))}
    (hcheck : ∀ c ∈ check, Spends sp 0 c fun _ => True)
    (haction : Spends sp 0 action fun r => ∀ v, r = .ok v → P v)
    (hagain : canRetry = true → Spends sp j (again ()) Q) (hP : ∀ v, P v → Q (.ok (some v))) :
    Spends sp (j + 1) (Act.retryRound kind check action canRetry again) Q := by
  intro k t w hw
  unfold Act.retryRound
  rw [ends_gets_bind_iff]
  cases w.closed with
  | true => exact ends_pure ⟨hw.weaken, hQ.none⟩
  | false =>
    cases check with
    | none => exact spends_attempt hQ haction hagain hP k t w hw
    | some c =>
      -- the pre-check's fault is the answer; once it passes, the attempt
      refine ((hcheck c rfl).bind fun r _ => ?_) k t w hw
      cases r with
      | error e => exact Spends.pure (hQ.error e)
      | ok u => exact spends_attempt hQ haction hagain hP

omit hQ in
/-- A run of `n` retries spends at most one wrong state per round, `n + 1` in all, and answers
a value only where its action did. -/
theorem spends_retry {check : Option (Act (Except Fault Unit))}
    (hcheck : ∀ c ∈ check, Spends sp 0 c fun _ => True)
    (haction : Spends sp 0 action fun r => ∀ v, r = .ok v → P v) :
    ∀ n, Spends sp (n + 1) (Act.retry kind check action n)
      fun r => ∀ v, r = .ok (some v) → P v := by
  have hQ : Settles fun r : Except Fault (Option β) => ∀ v, r = .ok (some v) → P v :=
    ⟨fun _ _ h => (nomatch h), fun _ h => (nomatch h)⟩
  intro n
  induction n with
  | zero => exact spends_retryRound hQ hcheck haction nofun fun v hv _ h => by cases h; exact hv
  | succ n ih =>
    exact spends_retryRound hQ hcheck haction (fun _ => ih) fun v hv _ h => by cases h; exact hv

omit hQ in
theorem spends_retryRacing {event : EventKind} {check : Option (Act (Except Fault Unit))}
    (hcheck : ∀ c ∈ check, Spends sp 0 c fun _ => True)
    (haction : ∀ scope, Spends sp 0 (Act.raceWithEvent event scope action)
      fun r => ∀ v, r = .ok v → P v) (n : Nat) :
    Spends sp (n + 1) (Act.retryRacing event kind check action n)
      fun r => ∀ v, r = .ok (some v) → P v :=
  fun k t w hw => ends_gets_bind_iff.2 (spends_retry hcheck (haction w.scope) n k t w hw)

end Retry

/-! ## The pre-check -/

section Check

variable {sp : Span} {t : Nat} {w : World} {c : SessionConfig}

theorem ends_awaitStable {ceiling : Span} :
    Ends t w (Act.awaitStable ceiling) fun w' _ => w' = w := by
  unfold Act.awaitStable
  rw [ends_get_bind_iff]
  split
  · exact ends_pure rfl
  · rw [ends_now_bind_iff]
    exact ends_await rfl

/-- The judgement of the client ends in the world it began in: it only waits and reads. -/
theorem ends_judgeClient : Ends t w (Act.judgeClient c) fun w' _ => w' = w := by
  unfold Act.judgeClient
  dsimp only
  -- the verdict is read last, in the world the wait and the pause left as they found it
  have hjudge : ∀ t₁ w₁, Ends t₁ w₁ (Proc.get >>= fun w' =>
      if (c.verdict w' == .fatal) = true then (Pure.pure (.error Fault.invalidState) : Act _)
      else Pure.pure (Except.ok ())) fun w' _ => w' = w₁ := by
    intro t₁ w₁
    rw [ends_get_bind_iff]
    split <;> exact ends_pure rfl
  refine ends_awaitStable.bind fun _ w₁ _ hw₁ => ?_
  subst hw₁
  rw [ends_gets_bind_iff]
  split
  · refine ends_sleepUnlessCancelled.bind fun t₁ w₁ _ hw₁ => ?_
    subst hw₁
    split
    · exact ends_pure rfl
    · exact hjudge t₁ _
  · exact hjudge _ _

theorem spends_consumerConnect : Spends sp 0 Act.consumerConnect fun _ => True := by
  intro k t w hw
  unfold Act.consumerConnect
  rw [ends_modifyGet_bind_iff]
  -- either answer emits one event: the bus stays fresh, and the script is left alone
  have hpulls := ScriptedConsumer.connect_pulls w.consumer
  rcases hcon : w.consumer.connect with ⟨_ | e, cons⟩ <;>
  · rw [hcon] at hpulls
    simp only [Act.emit, ends_modify_bind_iff, pure_eq]
    exact ends_pure ⟨hw.of_frame rfl rfl (Bus.fresh_emit _) hpulls, trivial⟩

theorem spends_consumerCheck : Spends sp 0 (Act.consumerCheck c) fun _ => True := by
  intro k t w hw
  unfold Act.consumerCheck
  dsimp only
  rw [ends_gets_bind_iff]
  split
  · exact ends_pure ⟨hw, trivial⟩
  · rw [ends_gets_bind_iff]
    have hjudge : Spends sp 0 (Act.judgeClient c) fun _ => True :=
      Spends.of_ends_eq fun _ _ => ends_judgeClient
    split
    · refine (spends_consumerConnect.bind fun r _ => ?_) k t w hw
      cases r with
      | error e => exact Spends.pure trivial
      | ok u => exact hjudge
    · exact hjudge k t w hw

end Check

/-! ## The raced pull -/

/-- A pull takes its messages from the front of the script. -/
theorem scriptMessages_takePull (n : Nat) (P : PullScript) :
    scriptMessages P =
      (((takePull n P).1.getD (.ok [])).toOption.getD []) ++ scriptMessages (takePull n P).2 := by
  match P with
  | [] => rfl
  | .error _ :: _ => rfl
  | .ok ms :: rest =>
    by_cases hlt : n < ms.length
    · simp only [takePull, if_pos hlt, scriptMessages, Option.getD_some, Except.toOption,
        ← List.append_assoc, List.take_append_drop]
    · simp only [takePull, if_neg hlt, scriptMessages, Option.getD_some, Except.toOption]

section Pull

variable {sp : Span} {t : Nat} {w : World} {d n : Nat}

/-- A pull until `d` ends with what it took from the script, or with an empty batch once the
script is empty. -/
theorem ends_pullUntil :
    Ends t w (Act.pullUntil d n) fun w' r =>
      w' = (Act.takeMessages n w).2 ∧ r = (Act.takeMessages n w).1.getD (.ok []) := by
  unfold Act.pullUntil
  rw [ends_now_bind_iff, Act.consumerPull_eq, ends_modifyGet_bind_iff]
  cases (Act.takeMessages n w).1 with
  | none => exact ends_sleep.bind fun _ _ _ hw' => ends_pure ⟨hw', rfl⟩
  | some r => exact ends_pure ⟨rfl, rfl⟩

/-- The pull wins its race against a listener on a receiver that has read everything. -/
theorem ends_race_pullUntil (kind : EventKind) (token : Nat) {rx : Nat} (hc : w.bus.CaughtUp rx) :
    Ends t w (Proc.race (Act.faultListener rx kind token) (Act.pullUntil d n)) fun w' r =>
      w' = (Act.takeMessages n w).2 ∧ r = .inr ((Act.takeMessages n w).1.getD (.ok [])) := by
  obtain ⟨p, hr, hb⟩ : ∃ p, Runs (fun _ _ => False) t w (Act.faultListener rx kind token) t w p ∧
      Blocked p := faultListener_blocks hc
  refine (ends_race_stalled (stalled_faultListener hc kind token) hr hb
    (keeps_pullUntil Act.signals_takeMessages d n) ends_pullUntil).mono ?_
  rintro w' r ⟨_, ⟨rfl, rfl⟩, rfl⟩
  exact ⟨rfl, rfl⟩

/-- A raced pull spends nothing and answers only messages the offset window can record. -/
theorem spends_raceWithEvent_pullUntil {kind : EventKind} {scope : Nat} :
    Spends sp 0 (Act.raceWithEvent kind scope (Act.pullUntil d n))
      fun r => ∀ ms, r = .ok ms → ∀ m ∈ ms, m.offset < maxOffset := by
  intro k t w hw
  have hc : (w.raceBegun scope).bus.CaughtUp w.bus.nextReceiver := Bus.caughtUp_subscribe hw.fresh
  obtain ⟨t', w₁, v, hrace, rfl, hv⟩ :=
    ends_race_pullUntil (t := t) (d := d) (n := n) kind w.tokens.nodes.size hc
  refine ⟨t', _, _, finishes_raceWithEvent_iff.2 ⟨_, v, hrace, rfl, rfl⟩, ?_, ?_⟩
  · -- the race subscribes and unsubscribes one receiver, and the pull takes from the front
    have hsplit := scriptMessages_takePull n w.consumer.pulls
    refine ⟨hw.backoff, hw.invalid, hw.empty,
      Bus.fresh_unsubscribe (Bus.fresh_subscribe hw.fresh) _, fun m hm => ?_⟩
    have hm' : m ∈ scriptMessages (w.consumer.pull n).2.pulls := hm
    rw [ScriptedConsumer.pull_pulls] at hm'
    refine hw.offsets m ?_
    rw [hsplit]
    exact List.mem_append_right _ hm'
  · intro ms hms m hm
    subst hv
    refine hw.offsets m ?_
    rw [scriptMessages_takePull n w.consumer.pulls]
    refine List.mem_append_left _ ?_
    simp only [Sum.elim_inr, id_eq, Act.takeMessages_fst] at hms
    have hms' : (takePull n w.consumer.pulls).1.getD (.ok []) = .ok ms := hms
    rw [hms']
    exact hm

end Pull

/-! ## The window -/

/-- Messages whose offsets fit are recorded without a panic. -/
theorem OffsetWindow.exists_applyAll_records (w : OffsetWindow) {ms : List Message}
    (h : ∀ m ∈ ms, m.offset < maxOffset) :
    ∃ w', w.applyAll (ms.map Message.recordOp) = .ok w' := by
  induction ms generalizing w with
  | nil => exact ⟨w, rfl⟩
  | cons m ms ih =>
    have hrec : w.apply m.recordOp = .ok { w with
        started := w.started.insertIfAbsent m.partition m.offset,
        ended := w.ended.insert m.partition (m.offset + 1) } := by
      rw [Message.recordOp, OffsetWindow.apply, OffsetWindow.record, if_pos (h m (by simp))]
    obtain ⟨w', hw'⟩ := ih _ fun m' hm' => h m' (List.mem_cons_of_mem _ hm')
    refine ⟨w', ?_⟩
    rw [List.map_cons, OffsetWindow.applyAll, List.foldlM_cons, hrec]
    exact hw'

section Window

variable {sp : Span} {t : Nat} {w : World} {c : SessionConfig} {d maxSize : Nat}

theorem spends_recordBatch {ms : List Message} (h : ∀ m ∈ ms, m.offset < maxOffset) :
    Spends sp 0 (Act.recordBatch ms) fun _ => True := by
  intro k t w hw
  obtain ⟨window, hwin⟩ := w.window.exists_applyAll_records h
  exact ⟨t, _, (), finishes_recordBatch.2 ⟨rfl, window, hwin, rfl⟩,
    hw.of_frame rfl rfl rfl rfl, trivial⟩

/-- A round of a window spends at most a retry run's wrong states, and the window at most one
run's per round: the loop's fuel bounds the rounds. -/
theorem spends_consumeLoop :
    ∀ fuel acc pulled, Spends sp (fuel * (c.maxRetries + 1))
      (Act.consumeLoop c d maxSize fuel acc pulled) fun _ => True
  | 0, _, _ => Spends.pure trivial
  | fuel + 1, acc, pulled => by
    rw [Act.consumeLoop]
    split
    · exact Spends.pure trivial
    · have hround : Spends sp (c.maxRetries + 1)
          (Act.retryRacing .clientError .consume (some (Act.consumerCheck c))
            (Act.pullUntil d (maxSize - pulled)) c.maxRetries)
          fun r => ∀ v, r = .ok (some v) → ∀ m ∈ v, m.offset < maxOffset :=
        spends_retryRacing (fun _ hch => by cases hch; exact spends_consumerCheck)
          (fun _ => spends_raceWithEvent_pullUntil) c.maxRetries
      refine (hround.bind (j := fuel * (c.maxRetries + 1)) fun r hr => ?_).mono
        (le_of_eq (Nat.succ_mul fuel _).symm) fun _ h => h
      rcases r with e | _ | _ | ⟨m, ms⟩
      -- a fault, nothing done or an empty batch ends the window
      · exact Spends.pure trivial
      · exact Spends.pure trivial
      · exact Spends.pure trivial
      · -- a batch is recorded, and the window stops at the deadline or goes on
        refine (spends_recordBatch (hr _ rfl)).bind fun _ _ => ?_
        intro k t w hw
        dsimp only
        rw [ends_now_bind_iff]
        split
        · exact ends_pure ⟨hw.weaken, trivial⟩
        · exact spends_consumeLoop fuel _ _ k t w hw

theorem ends_recordEmptyWindow (h : w.emptyWindows < Backoff.countLimit) :
    Ends t w Act.recordEmptyWindow fun _ _ => True := by
  unfold Act.recordEmptyWindow
  rw [ends_get_bind_iff, if_pos h]
  exact ends_put_iff.2 (ends_pure trivial)

/-- A window ends on a world with room for the wrong states of a retry run in each of its
`maxSize + 1` rounds. -/
theorem ends_consume {maxWait : Nat} (hw : Room sp ((maxSize + 1) * (c.maxRetries + 1)) w) :
    Ends t w (Act.consume c maxSize maxWait) fun _ _ => True := by
  unfold Act.consume
  rw [ends_now_bind_iff]
  have hw₀ : Room sp (0 + (maxSize + 1) * (c.maxRetries + 1)) w := by rwa [Nat.zero_add]
  refine (spends_consumeLoop (maxSize + 1) [] 0 0 t w hw₀).bind fun _ w' r ⟨hw', _⟩ => ?_
  rcases r with e | ⟨ms, pulled⟩
  · exact ends_pure trivial
  · dsimp only
    split
    · rw [ends_modify_bind_iff]
      exact ends_pure trivial
    · refine (ends_recordEmptyWindow hw'.empty).bind fun _ _ _ _ => ?_
      rw [ends_get_bind_iff]
      split <;> exact ends_pure trivial

end Window

/-! ## A window -/

end BrokerSession
