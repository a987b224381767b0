import BrokerSession.Proofs.Session.Closed

/-!
# Producing a batch

A produce on an open session enqueues its records one by one, each to its own topic or else to
the session's, keeping every enqueue failure in order; then it flushes once, through the retry
executor with action `any`; and it answers the flush's fault if the flush failed, otherwise the
first enqueue failure under `Failure to produce k of n messages` when `k` of the `n` enqueues
failed, and otherwise `n`. The records are whatever the caller's map made of its items, in the
items' order.

As for the other operations of a session, the environment may do anything but touch the
session's ledger (`Keeping World.ledger`): it moves the clock, cancels tokens and publishes any
event on the bus, client errors included, at any moment. The main statement, `produce_answers`,
takes every run of a produce apart into the enqueues (`ScriptedProducer.enqueueAll`), one run of
the retried flush from the connection they leave, and the answer `produceAnswer` makes of the
two; and it puts every such pair back together into a run. Nothing else reaches the answer, so
a client error published meanwhile never changes it.

The receiver the produce holds is given back off the ledger, so holding it is invisible here
(`keeping_withReceiver_iff`); each read and change of the world off the ledger is a step the
environment could have taken (`keeping_ledger_gets_bind_iff`, `keeping_ledger_modifyGet_bind_iff`).
-/

namespace BrokerSession

namespace ScriptedProducer

/-- Enqueues the records in order, each to its own topic or else to `topic`: the failures in
order, and the connection after the last. -/
def enqueueAll (topic : String) : List Record → ScriptedProducer → List Fault × ScriptedProducer
  | [], p => ([], p)
  | r :: rs, p =>
    let first := p.enqueue (r.topic.getD topic) r
    let rest := enqueueAll topic rs first.2
    (first.1.toList ++ rest.1, rest.2)

end ScriptedProducer

/-- The answer of a produce of `n` records whose enqueues failed with `failures` and whose flush
answered `flushed`: the flush's fault first, then the first enqueue failure, wrapped. -/
def produceAnswer (flushed : Except Fault (Option Unit)) (failures : List Fault) (n : Nat) :
    Except Fault Nat :=
  match flushed, failures with
  | .error e, _ => .error e
  | .ok _, [] => .ok n
  | .ok _, first :: _ =>
    .error (Fault.wrap s!"Failure to produce {failures.length} of {n} messages" first)

namespace Proc

variable {σ ω : Type} {f : σ → ω} {α β : Type} {t t' : Nat} {s s' : σ}

theorem bind_pure_eq_self (p : Proc σ α) : p.bind .pure = p := by
  induction p with
  | pure a => rfl
  | look k ih => exact congrArg Proc.look (funext fun t => funext fun s => ih t s)
  | put s k ih => exact congrArg (Proc.put s) ih
  | wait w k ih => exact congrArg (Proc.wait w) ih
  | yield k ih => exact congrArg Proc.yield ih
  | settle k ih => exact congrArg Proc.settle ih
  | resume k ih => exact congrArg Proc.resume ih
  | spawn c k _ ih => exact congrArg (Proc.spawn c) ih
  | both p q k _ _ ih => exact congrArg (Proc.both p q) (funext ih)
  | first p q k _ _ ih => exact congrArg (Proc.first p q) (funext ih)
  | loop c b k _ _ ih => exact congrArg (Proc.loop c b) (funext ih)
  | holding r p k _ ih => exact congrArg (Proc.holding r p) (funext ih)

/-- A resource given back without touching `f` is, among an environment that keeps `f`, one
more move of the environment: holding it changes no run. -/
theorem keeping_holding_iff {r : σ → σ} (hr : ∀ x, f (r x) = f x) {p : Proc σ β}
    {k : β → Proc σ α} {a : α} :
    Returns (Keeping f) t s (.holding r p k) t' s' a ↔ Returns (Keeping f) t s (p.bind k) t' s' a := by
  constructor
  · intro h
    unfold Returns at h ⊢
    generalize hq : Proc.holding r p k = q at h
    generalize he : (Proc.pure a : Proc σ α) = e at h
    induction h generalizing p with
    | refl => subst hq; cases he
    | step hst hrest ih =>
      subst hq
      cases hst with
      | holdIn hp => exact .step (hp.bind k) (ih rfl he)
      -- the release is the environment's move to the same `f`
      | holdDone => exact .env (hr _).symm hrest
    | env hm _ ih => exact .env hm (ih hq he)
  · intro h
    unfold Returns at h ⊢
    generalize hq : p.bind k = q at h
    generalize he : (Proc.pure a : Proc σ α) = e at h
    induction h generalizing p with
    | refl =>
      subst he
      obtain ⟨b, rfl, hb⟩ := bind_eq_pure hq
      exact .step .holdDone (.env (hr _) (by rw [hb]; exact .refl))
    | step hst hrest ih =>
      subst hq
      -- a step of the continuation comes after the release, which the environment undoes
      rcases Step.of_bind hst with ⟨b, rfl, hk⟩ | ⟨p', hp, rfl⟩
      · exact .step .holdDone (.env (hr _) (.step hk hrest))
      · exact .step (.holdIn hp) (ih rfl he)
    | env hm _ ih => exact .env hm (ih hq he)

theorem keeping_hold_iff {r : σ → σ} (hr : ∀ x, f (r x) = f x) {p : Proc σ β} {a : β} :
    Returns (Keeping f) t s (hold r p) t' s' a ↔ Returns (Keeping f) t s p t' s' a := by
  rw [hold, keeping_holding_iff hr, bind_pure_eq_self]

end Proc

open Proc

/-! ## Steps off the ledger -/

section Ledger

variable {α β : Type} {t t' : Nat} {s s' : World}

theorem keeping_withReceiver_iff {rx : Nat} {p : Act α} {a : α} :
    Returns (Keeping World.ledger) t s (Act.withReceiver rx p) t' s' a ↔
      Returns (Keeping World.ledger) t s p t' s' a := by
  unfold Act.withReceiver
  exact keeping_hold_iff fun w =>
    show ({ w with bus := w.bus.unsubscribe rx } : World).ledger = w.ledger from rfl

/-- A read of the world, then a rest whose runs from every world with the ledger of `s` are
those `Q` describes. -/
theorem keeping_ledger_gets_bind_iff {h : World → β} {k : β → Act α} {a : α} {Q : Prop}
    (hk : ∀ x, x.ledger = s.ledger → (Returns (Keeping World.ledger) t x (k (h x)) t' s' a ↔ Q)) :
    Returns (Keeping World.ledger) t s (gets h >>= k) t' s' a ↔ Q := by
  rw [keeping_gets_bind_iff]
  constructor
  · rintro ⟨x, hx, hr⟩
    exact (hk x hx).1 hr
  · intro hQ
    exact ⟨s, rfl, (hk s rfl).2 hQ⟩

/-- A change of the world off the ledger, then a rest whose runs from every world with the
ledger of `s`, whatever the change answered, are those `Q` describes. -/
theorem keeping_ledger_modifyGet_bind_iff {g : World → β × World}
    (hg : ∀ x, (g x).2.ledger = x.ledger) {k : β → Act α} {a : α} {Q : Prop}
    (hk : ∀ b x, x.ledger = s.ledger → (Returns (Keeping World.ledger) t x (k b) t' s' a ↔ Q)) :
    Returns (Keeping World.ledger) t s (modifyGet g >>= k) t' s' a ↔ Q := by
  rw [keeping_modifyGet_bind_iff]
  constructor
  · rintro ⟨x, hx, h⟩
    exact (hk _ _ ((hg x).trans hx)).1 h
  · intro hQ
    exact ⟨s, rfl, (hk _ _ (hg s)).2 hQ⟩

/-- A run, then a rest that only computes the answer from the run's off the ledger: the run may
as well end where the whole does. -/
theorem returns_bind_settle_iff {p : Act β} {k : β → Act α} {g : β → α}
    (hk : ∀ b {t t' : Nat} {s s' : World} {a : α},
      Returns (Keeping World.ledger) t s (k b) t' s' a ↔ s'.ledger = s.ledger ∧ a = g b) {a : α} :
    Returns (Keeping World.ledger) t s (p >>= k) t' s' a ↔
      ∃ b, Returns (Keeping World.ledger) t s p t' s' b ∧ a = g b := by
  rw [returns_bind_iff]
  constructor
  · rintro ⟨t₁, s₁, b, hp, hkb⟩
    obtain ⟨hs', rfl⟩ := (hk b).1 hkb
    exact ⟨b, hp.resettle hs'.symm, rfl⟩
  · rintro ⟨b, hp, rfl⟩
    exact ⟨t', s', b, hp, (hk b).2 ⟨rfl, rfl⟩⟩

end Ledger

/-! ## The enqueues -/

section Enqueue

variable {α : Type} {t t' : Nat} {s s' : World} (topic : String)
  {f : Record → List Fault → Act (ForInStep (List Fault))}

/-- A loop whose every round enqueues one record, to its own topic or else to `topic`, and
adds its failure, if any, to the loop's list, runs the enqueues of all the records. -/
theorem returns_enqueueLoop_iff
    (hf : ∀ r acc {t t' : Nat} {s s' : World} {y : ForInStep (List Fault)},
      Returns (Keeping World.ledger) t s (f r acc) t' s' y ↔
        s'.ledger = { s.ledger with producer := (s.producer.enqueue (r.topic.getD topic) r).2 } ∧
        y = .yield (acc ++ (s.producer.enqueue (r.topic.getD topic) r).1.toList))
    (records : List Record) {acc y : List Fault} :
    Returns (Keeping World.ledger) t s (forIn records acc f) t' s' y ↔
      s'.ledger = { s.ledger with producer := (s.producer.enqueueAll topic records).2 } ∧
      y = acc ++ (s.producer.enqueueAll topic records).1 := by
  induction records generalizing acc t s with
  | nil =>
    rw [List.forIn_nil, pure_eq, keeping_pure_iff]
    simp [ScriptedProducer.enqueueAll, World.ledger, and_comm]
  | cons r rs ih =>
    rw [List.forIn_cons, returns_bind_iff]
    constructor
    · rintro ⟨t₁, s₁, z, hz, hrest⟩
      obtain ⟨hs₁, rfl⟩ := (hf r acc).1 hz
      obtain ⟨hs', rfl⟩ := ih.1 hrest
      have hp : s₁.producer = (s.producer.enqueue (r.topic.getD topic) r).2 :=
        congrArg Ledger.producer hs₁
      refine ⟨?_, ?_⟩
      · rw [hs', hs₁, hp]
        rfl
      · simp [ScriptedProducer.enqueueAll, hp]
    · rintro ⟨hs', rfl⟩
      let s₁ : World := { s with producer := (s.producer.enqueue (r.topic.getD topic) r).2 }
      refine ⟨t, s₁, _, (hf r acc).2 ⟨rfl, rfl⟩, ih.2 ⟨?_, ?_⟩⟩
      · rw [hs']
        rfl
      · simp [s₁, ScriptedProducer.enqueueAll]

theorem returns_enqueueLoop_bind_iff
    (hf : ∀ r acc {t t' : Nat} {s s' : World} {y : ForInStep (List Fault)},
      Returns (Keeping World.ledger) t s (f r acc) t' s' y ↔
        s'.ledger = { s.ledger with producer := (s.producer.enqueue (r.topic.getD topic) r).2 } ∧
        y = .yield (acc ++ (s.producer.enqueue (r.topic.getD topic) r).1.toList))
    (records : List Record) {acc : List Fault} {k : List Fault → Act α} {a : α} :
    Returns (Keeping World.ledger) t s (forIn records acc f >>= k) t' s' a ↔
      Returns (Keeping World.ledger) t { s with producer := (s.producer.enqueueAll topic records).2 }
        (k (acc ++ (s.producer.enqueueAll topic records).1)) t' s' a := by
  rw [returns_bind_iff]
  constructor
  · rintro ⟨t₁, s₁, y, hl, hk⟩
    obtain ⟨hs₁, rfl⟩ := (returns_enqueueLoop_iff topic hf records).1 hl
    exact hk.restart hs₁.symm
  · intro hk
    exact ⟨t, _, _, (returns_enqueueLoop_iff topic hf records).2 ⟨rfl, rfl⟩, hk⟩

end Enqueue

/-! ## The whole produce -/

section Produce

variable {t t' : Nat} {s s' : World}

/-- On an open session a produce enqueues every record, runs the retried flush once from the
connection the enqueues leave, and answers from the two. -/
theorem returns_produce_open (c : SessionConfig) (records : List Record) {r : Except Fault Nat}
    (hs : s.closed = false) :
    Returns (Keeping World.ledger) t s (Act.produce c records) t' s' r ↔
      ∃ flushed, Returns (Keeping World.ledger) t
          { s with producer := (s.producer.enqueueAll c.topic records).2 }
          (Act.retry .any none Act.producerFlush c.maxRetries) t' s' flushed ∧
        r = produceAnswer flushed (s.producer.enqueueAll c.topic records).1 records.length := by
  unfold Act.produce
  refine keeping_ledger_gets_bind_iff fun x hx => ?_
  rw [show x.closed = false from (congrArg Ledger.closed hx).trans hs]
  simp only [Bool.false_eq_true, if_false]
  -- the receiver, the scope and the child token are all off the ledger
  refine keeping_ledger_modifyGet_bind_iff (fun _ => rfl) fun rx x₁ hx₁ => ?_
  refine keeping_ledger_gets_bind_iff fun x₂ hx₂ => ?_
  refine keeping_ledger_modifyGet_bind_iff (fun _ => rfl) fun token x₃ hx₃ => ?_
  rw [keeping_withReceiver_iff, returns_enqueueLoop_bind_iff c.topic ?_ records]
  · have hl : x₃.ledger = s.ledger := hx₃.trans (hx₂.trans (hx₁.trans hx))
    rw [show x₃.producer = s.producer from congrArg Ledger.producer hl]
    generalize s.producer.enqueueAll c.topic records = q
    rw [returns_bind_settle_iff (g := fun fr => produceAnswer fr ([] ++ q.1) records.length) ?_]
    · simp only [List.nil_append]
      -- the flush starts from a world with the ledger of `s` and the records enqueued
      have hq : ({ x₃ with producer := q.2 } : World).ledger =
          ({ s with producer := q.2 } : World).ledger := by
        show ({ x₃.ledger with producer := q.2 } : Ledger) = { s.ledger with producer := q.2 }
        rw [hl]
      exact exists_congr fun _ => and_congr_left' ⟨fun h => h.restart hq.symm, fun h => h.restart hq⟩
    · intro b t₁ t₂ y y' a
      rcases q with ⟨fs, p⟩
      -- cancelling the token is off the ledger; then the answer is read off the flush's
      have hd : ∀ v : Except Fault Nat,
          Does (fun _ => True) (Act.cancel token >>= fun _ => Pure.pure v) id v :=
        fun v => (does_modify fun _ => rfl).id_bind does_pure
      rcases b with e | o
      · exact hd _ trivial
      · rcases fs with _ | ⟨first, rest⟩
        · exact hd _ trivial
        · exact hd _ trivial
  · -- one round of the loop: one enqueue, and its failure kept
    intro rec acc t₁ t₂ y y' z
    rw [keeping_modifyGet_bind_iff]
    constructor
    · rintro ⟨x, hx, h⟩
      rw [show x.producer = y.producer from congrArg Ledger.producer hx] at h
      generalize y.producer.enqueue (rec.topic.getD c.topic) rec = q at h ⊢
      rcases q with ⟨_ | e, p⟩ <;>
        simp only [pure_eq, keeping_pure_iff, Option.toList, List.append_nil] at h ⊢ <;>
        rw [h.2, ← hx] <;> exact ⟨rfl, h.1⟩
    · rintro ⟨hy', rfl⟩
      refine ⟨y, rfl, ?_⟩
      generalize y.producer.enqueue (rec.topic.getD c.topic) rec = q at hy' ⊢
      rcases q with ⟨_ | e, p⟩ <;>
        simp only [pure_eq, keeping_pure_iff, Option.toList, List.append_nil, true_and] <;>
        exact hy'

/-- **Producing a batch.** On an open session a produce enqueues the records in order, each once,
then runs the retried flush once; it answers the flush's fault, else the first enqueue failure
wrapped as `Failure to produce k of n messages`, else `n`, whatever the bus carries. A closed
session answers `0` and is left as it was. -/
theorem produce_answers {α : Type} (c : SessionConfig) (items : List α) (map : α → Record)
    {r : Except Fault Nat} :
    Returns (Keeping World.ledger) t s (Act.produce c (items.map map)) t' s' r ↔
      if s.closed then s'.ledger = s.ledger ∧ r = .ok 0
      else ∃ flushed, Returns (Keeping World.ledger) t
          { s with producer := (s.producer.enqueueAll c.topic (items.map map)).2 }
          (Act.retry .any none Act.producerFlush c.maxRetries) t' s' flushed ∧
        r = produceAnswer flushed (s.producer.enqueueAll c.topic (items.map map)).1 items.length := by
  by_cases hs : s.closed = true
  · rw [if_pos hs]
    exact does_produce c _ hs
  · rw [if_neg hs, returns_produce_open c _ (Bool.of_not_eq_true hs), List.length_map]

end Produce

end BrokerSession
