import BrokerSession.Proofs.Session.Origin
import BrokerSession.Proofs.Session.Consume

/-!
# A consumer judged stuck

The verdict on a consumer is fatal exactly when there were more empty windows than the
threshold, the wrong states recorded reach both the minimum and the maximum, the connection is
up and no rebalance is in flight (`SessionConfig.verdict_eq_fatal_iff`).

The count of empty windows is written by `consume` alone. A call of `consume` runs its loop of
pulls and then closes the window at once, by what the loop answered (`WindowRun`): a failure
leaves the count; messages pulled restart it from zero and forgive one wrong state; a window
without a message is counted, and the verdict on the world right after decides between the
invalid-state fault and no messages (`SessionConfig.Closes`). Every other call of the session
keeps the count (`Act.keeps_consumerStep`). So over calls one after another (`Calls`), among
processes that leave the count alone, the count is the number of empty windows since the last
window that pulled a message (`Calls.emptyWindows_eq`, `WindowEnd.count_eq`).
-/

namespace BrokerSession

open Proc

theorem SessionConfig.verdict_eq_fatal_iff {c : SessionConfig} {w : World} :
    c.verdict w = .fatal ↔ c.emptyWindowThreshold < w.emptyWindows ∧
      c.invalidStateMin ≤ w.backoff.invalidCount ∧ c.invalidStateMax ≤ w.backoff.invalidCount ∧
      w.consumer.connected = true ∧ w.coordinator.isRebalancing = false := by
  unfold SessionConfig.verdict
  dsimp only
  split_ifs with hq hmax
  · -- a condition of distress fails
    simp only [Bool.or_eq_true, Bool.not_eq_true', decide_eq_false_iff_not] at hq
    simp only [false_iff]
    rintro ⟨h1, h2, -, h4, h5⟩
    rcases hq with ((hq | hq) | hq) | hq
    · exact hq h1
    · exact hq h2
    · rw [h4] at hq
      cases hq
    · rw [h5] at hq
      cases hq
  · simp only [false_iff]
    rintro ⟨-, -, h3, -, -⟩
    omega
  · simp only [Bool.or_eq_true, Bool.not_eq_true', decide_eq_false_iff_not, not_or, not_not,
      Bool.not_eq_false, Bool.not_eq_true] at hq
    obtain ⟨⟨⟨h1, h2⟩, h4⟩, h5⟩ := hq
    exact iff_of_true rfl ⟨h1, h2, Nat.le_of_not_lt hmax, h4, h5⟩

/-! ## How a window ends -/

/-- How the window of a call of `consume` ended. -/
inductive WindowEnd where
  /-- the loop of pulls failed -/
  | failed
  /-- the loop pulled at least one message -/
  | pulled
  /-- the loop came back without a message -/
  | empty
  deriving DecidableEq, Repr

namespace WindowEnd

/-- The end of a window whose loop of pulls answered `x`: a failure, or the messages and how
many were pulled. -/
def ofLoop : Except Fault (List Message × Nat) → WindowEnd
  | .error _ => .failed
  | .ok (_, n) => if 0 < n then .pulled else .empty

/-- The count of empty windows after a window that ended as `e`, from `n`. -/
def next : WindowEnd → Nat → Nat
  | .failed, n => n
  | .pulled, _ => 0
  | .empty, n => n + 1

/-- The count of empty windows after windows that ended as `es`, in order, from `n`. -/
def count (n : Nat) (es : List WindowEnd) : Nat := es.foldl (fun k e => e.next k) n

/-- The empty windows since the last window that pulled. -/
def emptiesSincePull (es : List WindowEnd) : Nat :=
  (es.reverse.takeWhile (· != .pulled)).count .empty

theorem count_append_singleton (n : Nat) (es : List WindowEnd) (e : WindowEnd) :
    count n (es ++ [e]) = e.next (count n es) := by
  simp only [count, List.foldl_append, List.foldl_cons, List.foldl_nil]

/-- The count is the number of empty windows since the last that pulled, or, if none pulled,
that number added to where it started. -/
theorem count_eq (n : Nat) (es : List WindowEnd) :
    count n es = emptiesSincePull es + if WindowEnd.pulled ∈ es then 0 else n := by
  induction es using List.reverseRecOn with
  | nil => simp [count, emptiesSincePull]
  | append_singleton es e ih =>
    rw [count_append_singleton, ih]
    cases e with
    | failed | pulled => simp [next, emptiesSincePull]
    | empty =>
      simp [next, emptiesSincePull]
      omega

end WindowEnd

/-- How `consume` closes a window after its loop left `s₁` answering `x`: a failure as it is;
messages reset the empty count and forgive one wrong state; an empty window is counted, with room
below the 32-bit limit, and the verdict right after decides the answer. -/
def SessionConfig.Closes (c : SessionConfig) (s₁ : World) :
    Except Fault (List Message × Nat) → World → Except Fault (List Message) → Prop
  | .error y, s', r => s' = s₁ ∧ r = .error y
  | .ok (ms, n), s', r =>
    if 0 < n then
      ms ≠ [] ∧ s' = { s₁ with emptyWindows := 0, backoff := s₁.backoff.relieveInvalid.2 } ∧
        r = .ok ms
    else
      ms = [] ∧ s₁.emptyWindows < Backoff.countLimit ∧
        s' = { s₁ with emptyWindows := s₁.emptyWindows + 1 } ∧
        r = if c.verdict s' = .fatal then .error Fault.invalidState else .ok []

/-- A finished call of `consume` from `(t, s)` to `(t', s')` answering `r` that ended its window as
`e`: its loop ran to `s₁` answering `x`, and the window was closed from there at once. -/
def WindowRun (R : Nat × World → Nat × World → Prop) (c : SessionConfig) (maxSize maxWait t : Nat)
    (s : World) (t' : Nat) (s' : World) (r : Except Fault (List Message)) (e : WindowEnd) : Prop :=
  ∃ s₁ x, Finishes R t s (Act.consumeLoop c (t + maxWait) maxSize (maxSize + 1) [] 0) t' s₁ x ∧
    WindowEnd.ofLoop x = e ∧ c.Closes s₁ x s' r

/-- Finished calls of a session, one after another, each among the environment `R`, from
`(t, s)` to `(t', s')` and answering `as`; `es` lists how the windows of the calls of `consume`
ended, in order. -/
inductive Calls (R : Nat × World → Nat × World → Prop) (c : SessionConfig) :
    Nat → World → List ConsumerStep → Nat → World → List ConsumerAnswer → List WindowEnd → Prop
  | nil {t : Nat} {s : World} : Calls R c t s [] t s [] []
  | other {t t₁ t' : Nat} {s s₁ s' : World} {op : ConsumerStep} {a : ConsumerAnswer}
      {ops : List ConsumerStep} {as : List ConsumerAnswer} {es : List WindowEnd} :
      (∀ n m mode, op ≠ .consume n m mode) → Finishes R t s (Act.consumerStep c op) t₁ s₁ a →
      Calls R c t₁ s₁ ops t' s' as es → Calls R c t s (op :: ops) t' s' (a :: as) es
  | consume {t t₁ t' : Nat} {s s₁ s' : World} {n m : Nat} {mode : ConsumeMode}
      {r : Except Fault (List Message)} {e : WindowEnd} {ops : List ConsumerStep}
      {as : List ConsumerAnswer} {es : List WindowEnd} :
      WindowRun R c n m t s t₁ s₁ r e → Calls R c t₁ s₁ ops t' s' as es →
      Calls R c t s (.consume n m mode :: ops) t' s'
        (.consumed (r.map fun msgs => msgs.filterMap mode.select) :: as) (e :: es)

/-! ## The loop of a window -/

section Loop

variable {R : Nat × World → Nat × World → Prop} {c : SessionConfig} {d maxSize : Nat}

/-- The loop of a window answers the messages so far followed by those it pulled, and counts
them with the messages so far. -/
theorem finishes_consumeLoop_ok (fuel : Nat) :
    ∀ {acc : List Message} {got t t' : Nat} {s s' : World} {ms : List Message} {n : Nat},
      Finishes R t s (Act.consumeLoop c d maxSize fuel acc got) t' s' (.ok (ms, n)) →
      ∃ new, ms = acc ++ new ∧ n = got + new.length := by
  induction fuel with
  | zero =>
    intro acc got t t' s s' ms n h
    rw [Act.consumeLoop, pure_eq, finishes_pure_iff] at h
    obtain ⟨⟨⟩, -, -⟩ := h
    exact ⟨[], (List.append_nil _).symm, rfl⟩
  | succ fuel ih =>
    intro acc got t t' s s' ms n h
    rw [Act.consumeLoop] at h
    split at h
    · rw [pure_eq, finishes_pure_iff] at h
      obtain ⟨⟨⟩, -, -⟩ := h
      exact ⟨[], (List.append_nil _).symm, rfl⟩
    · obtain ⟨t₁, s₁, r₁, -, h⟩ := finishes_bind_iff.1 h
      -- the round's answer: a failure, nothing, an empty batch, or a batch
      rcases r₁ with y | _ | _ | ⟨m, b⟩
      · simp only [pure_eq, finishes_pure_iff, reduceCtorEq, false_and] at h
      · simp only [pure_eq, finishes_pure_iff] at h
        obtain ⟨⟨⟩, -, -⟩ := h
        exact ⟨[], (List.append_nil _).symm, rfl⟩
      · simp only [pure_eq, finishes_pure_iff] at h
        obtain ⟨⟨⟩, -, -⟩ := h
        exact ⟨[], (List.append_nil _).symm, rfl⟩
      · obtain ⟨t₂, s₂, u, -, h⟩ := finishes_bind_iff.1 h
        rw [finishes_now_bind_iff] at h
        split at h
        · rw [pure_eq, finishes_pure_iff] at h
          obtain ⟨⟨⟩, -, -⟩ := h
          exact ⟨m :: b, rfl, rfl⟩
        · obtain ⟨new, rfl, rfl⟩ := ih h
          refine ⟨(m :: b) ++ new, List.append_assoc _ _ _, ?_⟩
          rw [List.length_append, Nat.add_assoc]

/-- A finished run of `consume` is its loop of pulls, run from the call's start, followed at once
by the closing of the window. -/
theorem finishes_consume_iff {maxWait t t' : Nat} {s s' : World} {r : Except Fault (List Message)} :
    Finishes R t s (Act.consume c maxSize maxWait) t' s' r ↔
      ∃ e, WindowRun R c maxSize maxWait t s t' s' r e := by
  unfold Act.consume
  rw [finishes_now_bind_iff, finishes_bind_iff]
  constructor
  · rintro ⟨t₁, s₁, x, hloop, h⟩
    rcases x with y | ⟨ms, n⟩
    · simp only [pure_eq, finishes_pure_iff] at h
      obtain ⟨rfl, rfl, rfl⟩ := h
      exact ⟨_, _, _, hloop, rfl, rfl, rfl⟩
    · -- the loop started with no message, so it answers what it pulled
      obtain ⟨new, hms, hn⟩ := finishes_consumeLoop_ok _ hloop
      rw [List.nil_append] at hms
      rw [Nat.zero_add] at hn
      dsimp only at h
      split at h
      · next hpos =>
        rw [finishes_modify_bind_iff, pure_eq, finishes_pure_iff] at h
        obtain ⟨rfl, rfl, rfl⟩ := h
        refine ⟨_, s₁, _, hloop, rfl, ?_⟩
        dsimp only [SessionConfig.Closes]
        rw [if_pos (show 0 < n from hpos)]
        exact ⟨hms ▸ List.ne_nil_of_length_pos (hn ▸ hpos), rfl, rfl⟩
      · next hpos =>
        have hnil : ms = [] := by
          rw [hms, ← List.length_eq_zero_iff]
          omega
        rw [finishes_recordEmptyWindow_bind_iff, finishes_get_bind_iff] at h
        obtain ⟨hroom, h⟩ := h
        -- the verdict is read on the world right after the window was counted
        split at h
        · next hv =>
          rw [pure_eq, finishes_pure_iff] at h
          obtain ⟨rfl, rfl, rfl⟩ := h
          refine ⟨_, s₁, _, hloop, rfl, ?_⟩
          dsimp only [SessionConfig.Closes]
          rw [if_neg (show ¬ 0 < n from hpos), if_pos (beq_iff_eq.1 hv)]
          exact ⟨hnil, hroom, rfl, rfl⟩
        · next hv =>
          rw [pure_eq, finishes_pure_iff] at h
          obtain ⟨rfl, rfl, rfl⟩ := h
          refine ⟨_, s₁, _, hloop, rfl, ?_⟩
          dsimp only [SessionConfig.Closes]
          rw [if_neg (show ¬ 0 < n from hpos), if_neg (fun h => hv (beq_iff_eq.2 h)), hnil]
          exact ⟨rfl, hroom, rfl, rfl⟩
  · rintro ⟨e, s₁, x, hloop, -, hclose⟩
    refine ⟨t', s₁, x, hloop, ?_⟩
    rcases x with y | ⟨ms, n⟩
    · obtain ⟨rfl, rfl⟩ := hclose
      exact finishes_pure_iff.2 ⟨rfl, rfl, rfl⟩
    · dsimp only [SessionConfig.Closes] at hclose
      dsimp only
      split
      · next hpos =>
        rw [if_pos (show 0 < n from hpos)] at hclose
        obtain ⟨-, rfl, rfl⟩ := hclose
        exact finishes_modify_bind_iff.2 (finishes_pure_iff.2 ⟨rfl, rfl, rfl⟩)
      · next hpos =>
        rw [if_neg (show ¬ 0 < n from hpos)] at hclose
        obtain ⟨rfl, hroom, rfl, rfl⟩ := hclose
        rw [finishes_recordEmptyWindow_bind_iff, finishes_get_bind_iff]
        refine ⟨hroom, ?_⟩
        split
        · next hv =>
          rw [if_pos (beq_iff_eq.1 hv)]
          exact finishes_pure_iff.2 ⟨rfl, rfl, rfl⟩
        · next hv =>
          rw [if_neg (fun h => hv (beq_iff_eq.2 h))]
          exact finishes_pure_iff.2 ⟨rfl, rfl, rfl⟩

end Loop

/-! ## Only `consume` writes the count of empty windows -/

theorem untouched_emptyWindows (v : Nat) : Untouched World.emptyWindows v where
  emit _ _ hw := hw
  subscribe _ hw := hw
  unsubscribe _ _ hw := hw
  scan _ _ _ hw := hw
  tokens _ _ hw := hw
  backoff _ _ hw _ := hw
  halted _ _ hw := hw
  connect _ hw := hw

/-- `f` reads nothing of a world but its backoff and its count of empty windows. -/
def ReadsCounts {ω : Type} (f : World → ω) : Prop :=
  ∀ w w' : World, w.backoff = w'.backoff → w.emptyWindows = w'.emptyWindows → f w = f w'

/-- A write that leaves both counts keeps what reads only them. -/
theorem ReadsCounts.update {ω : Type} {f : World → ω} {v : ω} (hr : ReadsCounts f)
    {w w' : World} (hb : w'.backoff = w.backoff) (he : w'.emptyWindows = w.emptyWindows)
    (hw : f w = v) : f w' = v :=
  (hr w' w hb he).trans hw

namespace Act

section Frames

variable {ω : Type} {f : World → ω} {v : ω} (hf : Untouched f v) (hr : ReadsCounts f)
  (c : SessionConfig)
include hf hr

theorem keeps_recordBatch (ms : List Message) : Keeps f v (recordBatch ms) := by
  unfold recordBatch
  refine (keeps_forIn (fun m _ => ?_) ms _).bind fun _ => keeps_modify fun _ => hr _ _ rfl rfl
  exact keeps_get_bind fun w hw =>
    (hf.keeps_orHalt _).bind fun window => keeps_set_bind (hr.update (by rfl) (by rfl) hw) .pure

theorem keeps_consumeLoop (d maxSize : Nat) :
    ∀ fuel acc got, Keeps f v (consumeLoop c d maxSize fuel acc got)
  | 0, _, _ => .pure
  | fuel + 1, acc, got => by
    rw [consumeLoop]
    split
    · exact .pure
    · refine (hf.keeps_retryRacing .clientError .consume c
        (keeps_pullUntil (fun _ _ => hr _ _ rfl rfl) _ _) _).bind fun r => ?_
      rcases r with y | _ | _ | ⟨m, b⟩
      · exact .pure
      · exact .pure
      · exact .pure
      · refine (keeps_recordBatch hf hr _).bind fun _ => keeps_now.bind fun t => ?_
        split
        · exact .pure
        · exact keeps_consumeLoop d maxSize fuel _ _

omit hf in
theorem keeps_scriptConsumer (s : ConsumerScript) : Keeps f v (scriptConsumer s) := by
  cases s <;> exact keeps_modify fun _ => hr _ _ rfl rfl

theorem keeps_startConsumerBridge : Keeps f v (startConsumerBridge c) := by
  unfold startConsumerBridge
  refine keeps_gets.bind fun bridged => ?_
  split
  · exact .pure
  · exact Keeps.bind (keeps_modify fun _ => hr _ _ rfl rfl) fun _ =>
      hf.keeps_subscribe.bind fun _ => .spawn .pure

theorem keeps_connectConsumer : Keeps f v (connectConsumer c) := by
  unfold connectConsumer
  refine keeps_gets.bind fun closed => ?_
  split
  · exact .pure
  · refine (keeps_startConsumerBridge hf hr c).bind fun _ => hf.keeps_subscribe.bind fun rx =>
      keeps_gets.bind fun scope => (hf.keeps_childToken scope).bind fun token =>
        keeps_hold (fun _ => hr _ _ rfl rfl) ?_
    refine (keeps_gets.bind fun scope => hf.keeps_retry (fun _ h => by cases h)
      (hf.keeps_raceWithEvent .connectError scope hf.keeps_consumerConnect) c.maxRetries).bind
      fun r => ?_
    rcases r with y | _ | ⟨⟨⟩⟩
    · exact (hf.keeps_cancel token).bind fun _ => .pure
    · exact (hf.keeps_cancel token).bind fun _ => .pure
    · exact (hf.keeps_awaitOnce rx .ready _ true token).bind fun _ => .pure

theorem keeps_disconnectConsumer : Keeps f v disconnectConsumer := by
  have hdisarm : Keeps f v disarmTimer := by
    unfold disarmTimer
    exact keeps_modify fun w => by split <;> exact hr _ _ rfl rfl
  have hdown : Keeps f v consumerDisconnect :=
    Keeps.bind (keeps_modify fun _ => hr _ _ rfl rfl) fun _ => hf.keeps_emit _
  unfold disconnectConsumer
  refine keeps_gets.bind fun closed => ?_
  split
  · exact .pure
  · exact Keeps.bind (keeps_modify fun _ => hr _ _ rfl rfl) fun _ => keeps_gets.bind fun scope =>
      (hf.keeps_cancel scope).bind fun _ => hdisarm.bind fun _ => hdown.bind fun _ => .pure

theorem keeps_commit : Keeps f v (commit c) := by
  unfold commit
  refine keeps_get_bind fun w hw => ?_
  rcases w.window.flush .ended with ⟨positions, window⟩
  refine keeps_set_bind (hr.update (by rfl) (by rfl) hw) ?_
  split
  · exact .pure
  · refine (hf.keeps_orHalt _).bind fun delays => (keeps_all fun p hp => ?_).bind fun _ => .pure
    obtain ⟨⟨pos, d⟩, -, rfl⟩ := List.mem_map.1 hp
    exact hf.keeps_commitPartition (fun _ _ => hr _ _ rfl rfl) (fun _ _ => hr _ _ rfl rfl) c pos d

theorem keeps_rollback : Keeps f v (rollback c) := by
  unfold rollback
  refine keeps_get_bind fun w hw => ?_
  rcases w.window.flush .started with ⟨positions, window⟩
  refine keeps_set_bind (hr.update (by rfl) (by rfl) hw) ?_
  split
  · exact .pure
  · refine (keeps_all fun p hp => ?_).bind fun rs => (keeps_forIn (fun x fs => ?_) _ _).bind
      fun _ => .pure
    · obtain ⟨pos, -, rfl⟩ := List.mem_map.1 hp
      exact hf.keeps_retryChecked .seek c
        (Untouched.keeps_consumerSeek (fun _ _ => hr _ _ rfl rfl) pos) _
    · obtain ⟨pos, r⟩ := x
      dsimp only
      rcases r with y | _ | ⟨⟨⟩⟩
      · exact .pure
      · exact .pure
      · exact Keeps.bind (keeps_modify fun _ => hr _ _ rfl rfl) fun _ => .pure

theorem keeps_seek (p o : Int) : Keeps f v (seek c p o) := by
  unfold seek
  refine (hf.keeps_retryChecked .seek c
    (Untouched.keeps_consumerSeek (fun _ _ => hr _ _ rfl rfl) _) _).bind fun r => ?_
  rcases r with y | _ | ⟨⟨⟩⟩
  · exact .pure
  · exact .pure
  · exact Keeps.bind (keeps_modify fun _ => hr _ _ rfl rfl) fun _ => .pure

theorem keeps_retryWindow : Keeps f v (retryWindow c) := by
  unfold retryWindow
  split
  · exact keeps_rollback hf hr c
  · exact keeps_commit hf hr c

omit hr in
theorem keeps_partitionCount : Keeps f v (partitionCount c) := by
  unfold partitionCount
  refine (hf.keeps_retryChecked .metadata c keeps_gets _).bind fun r => ?_
  rcases r with y | _ | _
  · exact .pure
  · exact .pure
  · exact .pure

theorem keeps_consumerStep (op : ConsumerStep) (hop : ∀ n m mode, op ≠ .consume n m mode) :
    Keeps f v (consumerStep c op) := by
  cases op with
  | script s => exact (keeps_scriptConsumer hr s).bind fun _ => .pure
  | connect => exact (keeps_connectConsumer hf hr c).bind fun _ => .pure
  | disconnect => exact (keeps_disconnectConsumer hf hr).bind fun _ => .pure
  | commit => exact (keeps_commit hf hr c).bind fun _ => .pure
  | rollback => exact (keeps_rollback hf hr c).bind fun _ => .pure
  | retry => exact (keeps_retryWindow hf hr c).bind fun _ => .pure
  | consume n m mode => exact absurd rfl (hop n m mode)
  | seek p o => exact (keeps_seek hf hr c p o).bind fun _ => .pure
  | topicPositions => exact keeps_get.bind fun _ => .pure
  | partitionCount => exact (keeps_partitionCount hf c).bind fun _ => .pure
  | handlePendingCommits => exact keeps_get.bind fun _ => .pure
  | pendingCommits p => exact keeps_get.bind fun _ => .pure
  | sleep ms => exact keeps_sleep.bind fun _ => .pure

end Frames

end Act

/-! ## The count over a run of calls -/

/-- The wrong-state count after a window that ended as `e`: a window that pulled forgives one
wrong state, never going below zero. -/
def WindowEnd.forgive : WindowEnd → Nat → Nat
  | .pulled, n => n - 1
  | _, n => n

/-- The count is at least `n`: a part of the world that no write but a relief lowers. -/
def World.countFrom (n : Nat) (w : World) : Bool := decide (n ≤ w.backoff.invalidCount)

theorem untouched_countFrom (n : Nat) : Untouched (World.countFrom n) true where
  emit _ _ hw := hw
  subscribe _ hw := hw
  unsubscribe _ _ hw := hw
  scan _ _ _ hw := hw
  tokens _ _ hw := hw
  backoff _ _ hw hb := by
    simp only [World.countFrom, decide_eq_true_eq] at hw ⊢
    omega
  halted _ _ hw := hw
  connect _ hw := hw

theorem readsCounts_countFrom (n : Nat) : ReadsCounts (World.countFrom n) :=
  fun _ _ hb _ => by rw [World.countFrom, World.countFrom, hb]

theorem readsCounts_emptyWindows : ReadsCounts World.emptyWindows := fun _ _ _ he => he

/-- Records and nothing else add their number to the count. -/
theorem foldl_tally_records (n k : Nat) :
    (List.replicate k Backoff.Call.recordInvalid).foldl Backoff.Call.tally n = n + k := by
  induction k generalizing n with
  | zero => rfl
  | succ k ih =>
    rw [List.replicate_succ, List.foldl_cons, ih]
    simp only [Backoff.Call.tally]
    omega

section Count

variable {R : Nat × World → Nat × World → Prop} {c : SessionConfig}

/-- A run among processes that keep `f`, of a process that keeps it, ends where `f` is what it
was. -/
theorem Finishes.keeps {ω α : Type} {f : World → ω} {p : Act α} {t t' : Nat} {s s' : World} {a : α}
    (hR : ∀ x y, R x y → Keeping f x y) (hp : Keeps f (f s) p) (h : Finishes R t s p t' s' a) :
    f s' = f s :=
  (hp.reaches rfl (Reaches.mono hR h.returns)).1

/-- A run among processes that leave the wrong-state count alone, of a process that never
lowers it, ends with a count at least the one it started with. -/
theorem Finishes.invalidCount_le {α : Type} {p : Act α} {t t' : Nat} {s s' : World} {a : α}
    (hR : ∀ x y, R x y → x.2.backoff.invalidCount = y.2.backoff.invalidCount)
    (hp : ∀ n, Keeps (World.countFrom n) true p) (h : Finishes R t s p t' s' a) :
    s.backoff.invalidCount ≤ s'.backoff.invalidCount := by
  have hk := Finishes.keeps (f := World.countFrom s.backoff.invalidCount)
    (fun x y hxy => by simp only [Keeping, World.countFrom, hR x y hxy]) (by
      rw [show World.countFrom s.backoff.invalidCount s = true by simp [World.countFrom]]
      exact hp _) h
  simpa [World.countFrom] using hk

/-- A finished run of calls one after another, gathering their answers after `acc`, is a run
of `Calls`. -/
theorem calls_of_finishes_loop : ∀ (ops : List ConsumerStep) (acc : List ConsumerAnswer)
    {t t' : Nat} {s s' : World} {as : List ConsumerAnswer},
    Finishes R t s (List.mapM.loop (Act.consumerStep c) ops acc) t' s' as →
    ∃ as' es, as = acc.reverse ++ as' ∧ Calls R c t s ops t' s' as' es
  | [], acc, _, _, _, _, _, h => by
    rw [List.mapM.loop, pure_eq, finishes_pure_iff] at h
    obtain ⟨rfl, rfl, rfl⟩ := h
    exact ⟨[], [], (List.append_nil _).symm, .nil⟩
  | op :: ops, acc, _, _, _, _, _, h => by
    rw [List.mapM.loop, finishes_bind_iff] at h
    obtain ⟨t₁, s₁, a, h₁, h₂⟩ := h
    obtain ⟨as', es, rfl, hcalls⟩ := calls_of_finishes_loop ops (a :: acc) h₂
    have has : (a :: acc).reverse ++ as' = acc.reverse ++ a :: as' := by simp
    by_cases hop : ∃ n m mode, op = .consume n m mode
    · obtain ⟨n, m, mode, rfl⟩ := hop
      -- a call of `consume` is answered with its messages in the mode asked for
      obtain ⟨t₂, s₂, r, hcons, hpure⟩ := finishes_bind_iff.1 h₁
      obtain ⟨rfl, rfl, rfl⟩ := finishes_pure_iff.1 hpure
      obtain ⟨e, hw⟩ := finishes_consume_iff.1 hcons
      exact ⟨_, e :: es, has, .consume hw hcalls⟩
    · exact ⟨a :: as', es, has, .other (fun n m mode h => hop ⟨n, m, mode, h⟩) h₁ hcalls⟩

theorem calls_of_finishes {ops : List ConsumerStep} {t t' : Nat} {s s' : World}
    {as : List ConsumerAnswer} (h : Finishes R t s (ops.mapM (Act.consumerStep c)) t' s' as) :
    ∃ es, Calls R c t s ops t' s' as es := by
  obtain ⟨as', es, rfl, hcalls⟩ := calls_of_finishes_loop ops [] h
  exact ⟨es, hcalls⟩

variable (hE : ∀ x y, R x y → x.2.emptyWindows = y.2.emptyWindows)
include hE

/-- A call of `consume` moves the count of empty windows as its window ended, and counts an
empty window only below the counter's largest value. -/
theorem WindowRun.emptyWindows_eq {maxSize maxWait t t' : Nat} {s s' : World}
    {r : Except Fault (List Message)} {e : WindowEnd}
    (h : WindowRun R c maxSize maxWait t s t' s' r e) :
    s'.emptyWindows = e.next s.emptyWindows ∧ (e = .empty → s.emptyWindows < Backoff.countLimit) := by
  obtain ⟨s₁, x, hloop, rfl, hclose⟩ := h
  have h₁ : s₁.emptyWindows = s.emptyWindows :=
    Finishes.keeps hE (Act.keeps_consumeLoop (untouched_emptyWindows _) readsCounts_emptyWindows
      c _ _ _ _ _) hloop
  rcases x with y | ⟨ms, n⟩
  · obtain ⟨rfl, -⟩ := hclose
    exact ⟨h₁, fun h => nomatch h⟩
  · dsimp only [SessionConfig.Closes] at hclose
    by_cases hn : 0 < n
    · rw [if_pos hn] at hclose
      obtain ⟨-, rfl, -⟩ := hclose
      simp only [WindowEnd.ofLoop, if_pos hn, WindowEnd.next, reduceCtorEq, false_imp_iff,
        and_true]
    · rw [if_neg hn] at hclose
      obtain ⟨-, hroom, rfl, -⟩ := hclose
      simp only [WindowEnd.ofLoop, if_neg hn, WindowEnd.next, h₁, true_and]
      exact fun _ => h₁ ▸ hroom

omit hE in
/-- A call of `consume`, among processes that leave the wrong-state count alone: its loop of
pulls only records wrong states, and a window that pulled then forgives one. -/
theorem WindowRun.invalidCount_eq {maxSize maxWait t t' : Nat} {s s' : World}
    {r : Except Fault (List Message)} {e : WindowEnd}
    (hI : ∀ x y, R x y → x.2.backoff.invalidCount = y.2.backoff.invalidCount)
    (h : WindowRun R c maxSize maxWait t s t' s' r e) :
    ∃ k, s'.backoff.invalidCount = e.forgive (s.backoff.invalidCount + k) := by
  obtain ⟨s₁, x, hloop, rfl, hclose⟩ := h
  have h₁ := Finishes.invalidCount_le hI (fun n => Act.keeps_consumeLoop (untouched_countFrom n)
    (readsCounts_countFrom n) c _ _ _ _ _) hloop
  refine ⟨s₁.backoff.invalidCount - s.backoff.invalidCount, ?_⟩
  rw [Nat.add_sub_cancel' h₁]
  rcases x with y | ⟨ms, n⟩
  · obtain ⟨rfl, -⟩ := hclose
    rfl
  · dsimp only [SessionConfig.Closes] at hclose
    by_cases hn : 0 < n
    · rw [if_pos hn] at hclose
      obtain ⟨-, rfl, -⟩ := hclose
      simp only [WindowEnd.ofLoop, if_pos hn, WindowEnd.forgive]
      rfl
    · rw [if_neg hn] at hclose
      obtain ⟨-, -, rfl, -⟩ := hclose
      simp only [WindowEnd.ofLoop, if_neg hn, WindowEnd.forgive]

/-- Over calls one after another, the count of empty windows moves as the windows of the calls
of `consume` ended, in order, and never passes the counter's largest value. -/
theorem Calls.emptyWindows_eq {t t' : Nat} {s s' : World} {ops : List ConsumerStep}
    {as : List ConsumerAnswer} {es : List WindowEnd} (h : Calls R c t s ops t' s' as es) :
    s'.emptyWindows = WindowEnd.count s.emptyWindows es ∧
      (s.emptyWindows ≤ Backoff.countLimit → s'.emptyWindows ≤ Backoff.countLimit) := by
  induction h with
  | nil => exact ⟨rfl, id⟩
  | other hop hstep _ ih =>
    have h₁ := Finishes.keeps hE (Act.keeps_consumerStep (untouched_emptyWindows _)
      readsCounts_emptyWindows c _ hop) hstep
    rw [h₁] at ih
    exact ih
  | consume hw _ ih =>
    obtain ⟨h₁, hroom⟩ := hw.emptyWindows_eq hE
    refine ⟨ih.1.trans (by rw [h₁]; rfl), fun hle => ih.2 ?_⟩
    rw [h₁]
    cases ‹WindowEnd› with
    | failed => exact hle
    | pulled => exact Nat.zero_le _
    | empty => exact hroom rfl

omit hE in
/-- Over calls one after another, among processes that leave the wrong-state count alone, the
count is the count it started with, tallied over records of wrong states and exactly one relief
for each window that pulled, in order. -/
theorem Calls.invalidCount_eq {t t' : Nat} {s s' : World} {ops : List ConsumerStep}
    {as : List ConsumerAnswer} {es : List WindowEnd}
    (hI : ∀ x y, R x y → x.2.backoff.invalidCount = y.2.backoff.invalidCount)
    (h : Calls R c t s ops t' s' as es) :
    ∃ cs : List Backoff.Call, (∀ x ∈ cs, x = .recordInvalid ∨ x = .relieveInvalid) ∧
      (cs.filter fun x => x matches .relieveInvalid).length = es.count .pulled ∧
      s'.backoff.invalidCount = cs.foldl Backoff.Call.tally s.backoff.invalidCount := by
  induction h with
  | nil => exact ⟨[], nofun, rfl, rfl⟩
  | @other t t₁ t' s s₁ s' op a ops as es hop hstep _ ih =>
    -- the call only records wrong states
    obtain ⟨cs, hcs, hrel, hfold⟩ := ih
    have hle := Finishes.invalidCount_le hI (fun n => Act.keeps_consumerStep
      (untouched_countFrom n) (readsCounts_countFrom n) c _ hop) hstep
    refine ⟨List.replicate (s₁.backoff.invalidCount - s.backoff.invalidCount) .recordInvalid ++ cs,
      ?_, ?_, ?_⟩
    · intro x hx
      rcases List.mem_append.1 hx with hx | hx
      · exact .inl (List.eq_of_mem_replicate hx)
      · exact hcs x hx
    · rw [List.filter_append, List.length_append, hrel, List.filter_replicate]
      simp
    · rw [List.foldl_append, foldl_tally_records, Nat.add_sub_cancel' hle]
      exact hfold
  | @consume t t₁ t' s s₁ s' n m mode r e ops as es hw _ ih =>
    obtain ⟨cs, hcs, hrel, hfold⟩ := ih
    obtain ⟨k, hk⟩ := hw.invalidCount_eq hI
    -- the window's records, then its relief if it pulled
    have hone : ∀ j, (List.replicate k Backoff.Call.recordInvalid ++
        (if e = .pulled then [Backoff.Call.relieveInvalid] else [])).foldl Backoff.Call.tally j =
        e.forgive (j + k) := by
      intro j
      rw [List.foldl_append, foldl_tally_records]
      cases e <;> rfl
    refine ⟨(List.replicate k .recordInvalid ++
      (if e = .pulled then [.relieveInvalid] else [])) ++ cs, ?_, ?_, ?_⟩
    · intro x hx
      rcases List.mem_append.1 hx with hx | hx
      · rcases List.mem_append.1 hx with hx | hx
        · exact .inl (List.eq_of_mem_replicate hx)
        · split at hx
          · exact .inr (List.mem_singleton.1 hx)
          · cases hx
      · exact hcs x hx
    · rw [List.filter_append, List.length_append, hrel, List.filter_append, List.length_append,
        List.filter_replicate]
      cases e <;> simp [Nat.add_comm]
    · rw [List.foldl_append, hone, ← hk]
      exact hfold

end Count

end BrokerSession
