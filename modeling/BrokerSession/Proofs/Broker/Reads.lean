import Mathlib
import BrokerSession.Proofs.Broker.Bus

/-!
# What a receiver reads

A receiver of the bus reads while anything else happens on the bus: events emitted, receivers
subscribing, leaving and reading, the sending side dropped (`Bus.Aside`). Its reads
(`Bus.Reads`) pass over the log from its position, in order (`Passes`): an event read is the
next event of the log, and a lag report skips, unread, as many of the oldest unread events as it
counts (`Bus.Reads.passes`). So a receiver reads each event at most once and in the order
emitted, and every one of them unless it is told that it lagged.

It lags once it falls more than `busCapacity` events behind: with an event and `busCapacity`
more unread, its next read is a lag report of one, and it moves past that event for good
(`Bus.recv_lags_past_first`).
-/

namespace BrokerSession

/-- The events among the reads of a receiver, in order. -/
def eventsRead : List Received → List BrokerEvent
  | [] => []
  | .event e :: rs => e :: eventsRead rs
  | .lagged _ :: rs => eventsRead rs
  | .closed :: rs => eventsRead rs
  | .empty :: rs => eventsRead rs

/-- Reads pass over the events `es` of the log, in order: an event read is the next one, a lag
report skips as many as it counts, and a read that finds nothing new, or the end of the bus,
passes none. -/
inductive Passes : List Received → List BrokerEvent → Prop
  | nil : Passes [] []
  | event {rs : List Received} {es : List BrokerEvent} (e : BrokerEvent) :
      Passes rs es → Passes (.event e :: rs) (e :: es)
  | lagged {rs : List Received} {es skipped : List BrokerEvent} {k : Nat} :
      skipped.length = k → Passes rs es → Passes (.lagged k :: rs) (skipped ++ es)
  | empty {rs : List Received} {es : List BrokerEvent} : Passes rs es → Passes (.empty :: rs) es
  | closed {rs : List Received} {es : List BrokerEvent} : Passes rs es → Passes (.closed :: rs) es

namespace Passes

variable {rs : List Received} {es : List BrokerEvent}

theorem events_sublist (h : Passes rs es) : List.Sublist (eventsRead rs) es := by
  induction h with
  | nil => exact .slnil
  | event e _ ih => exact ih.cons_cons e
  | lagged _ _ ih => exact ih.trans (List.sublist_append_right _ _)
  | empty _ ih => exact ih
  | closed _ ih => exact ih

theorem events_eq (h : Passes rs es) (hl : ∀ k, .lagged k ∉ rs) : eventsRead rs = es := by
  induction h with
  | nil => rfl
  | event e _ ih => exact congrArg (e :: ·) (ih fun k hk => hl k (List.mem_cons_of_mem _ hk))
  | lagged _ _ _ => exact absurd List.mem_cons_self (hl _)
  | empty _ ih => exact ih fun k hk => hl k (List.mem_cons_of_mem _ hk)
  | closed _ ih => exact ih fun k hk => hl k (List.mem_cons_of_mem _ hk)

end Passes

namespace Bus

/-- The events of the log from position `p` up to position `q`. -/
def between (b : Bus) (p q : Nat) : List BrokerEvent := (b.log.toList.take q).drop p

/-! ## Where each move leaves a receiver -/

section Lookup

variable {b : Bus} {rx : Nat}

theorem lookup_seekReceiver (b : Bus) (id pos k : Nat) :
    (b.seekReceiver id pos).receivers.lookup k =
      if k = id then (b.receivers.lookup k).map fun _ => pos else b.receivers.lookup k := by
  unfold seekReceiver
  induction b.receivers with
  | nil => split <;> rfl
  | cons x l ih =>
    obtain ⟨r, p⟩ := x
    by_cases hr : r = id
    · subst hr
      by_cases hk : k = r
      · subst hk
        simp
      · simp only [List.map_cons, beq_self_eq_true, if_true, List.lookup_cons,
          beq_eq_false_iff_ne.2 hk, hk, if_false] at ih ⊢
        exact ih
    · have hb : (r == id) = false := beq_eq_false_iff_ne.2 hr
      simp only [List.map_cons, hb, Bool.false_eq_true, if_false, List.lookup_cons]
      by_cases hk : k = r
      · subst hk
        simp [hr]
      · simpa [beq_eq_false_iff_ne.2 hk] using ih

theorem lookup_unsubscribe_of_ne {id k : Nat} (h : id ≠ k) :
    (b.unsubscribe id).receivers.lookup k = b.receivers.lookup k := by
  unfold unsubscribe
  induction b.receivers with
  | nil => rfl
  | cons x l ih =>
    obtain ⟨r, p⟩ := x
    by_cases hr : r = id
    · subst hr
      have hk : (k == r) = false := beq_eq_false_iff_ne.2 (Ne.symm h)
      simp only [List.filter_cons, bne_self_eq_false, Bool.false_eq_true, if_false,
        List.lookup_cons, hk] at ih ⊢
      exact ih
    · simp only [List.filter_cons, bne_iff_ne, ne_eq, hr, not_false_eq_true, if_true,
        List.lookup_cons]
      cases k == r
      · exact ih
      · rfl

theorem lookup_subscribe {p : Nat} (h : b.receivers.lookup rx = some p) :
    b.subscribe.2.receivers.lookup rx = some p := by
  simp [subscribe, List.lookup_append, h]

theorem receivers_emit (e : BrokerEvent) : (b.emit e).receivers = b.receivers := by
  unfold emit
  split <;> rfl

theorem log_prefix_emit (e : BrokerEvent) : b.log.toList <+: (b.emit e).log.toList := by
  unfold emit
  split
  · exact List.prefix_refl _
  · rw [Array.toList_push]
    exact List.prefix_append _ _

theorem log_seekReceiver (id pos : Nat) : (b.seekReceiver id pos).log = b.log := rfl

theorem recv_frame (id : Nat) :
    (b.recv id).2.log = b.log ∧ ∀ k, id ≠ k → (b.recv id).2.receivers.lookup k = b.receivers.lookup k := by
  unfold recv
  split
  · exact ⟨rfl, fun _ _ => rfl⟩
  · split
    · exact ⟨rfl, fun k hk => by rw [lookup_seekReceiver, if_neg (Ne.symm hk)]⟩
    · split
      · exact ⟨rfl, fun k hk => by rw [lookup_seekReceiver, if_neg (Ne.symm hk)]⟩
      · split <;> exact ⟨rfl, fun _ _ => rfl⟩

theorem scanFor_frame {id : Nat} {kind : EventKind} :
    ∀ (fuel : Nat) (b : Bus), (scanFor id kind fuel b).2.log = b.log ∧
      ∀ k, id ≠ k → (scanFor id kind fuel b).2.receivers.lookup k = b.receivers.lookup k
  | 0, _ => ⟨rfl, fun _ _ => rfl⟩
  | fuel + 1, b => by
    obtain ⟨hlog, hrx⟩ := recv_frame (b := b) id
    unfold scanFor
    generalize b.recv id = x at hlog hrx ⊢
    obtain ⟨r, b'⟩ := x
    -- a read that goes on scans from where it left the bus
    have hgo := @scanFor_frame id kind fuel b'
    cases r with
    | event e =>
      dsimp only
      split
      · exact ⟨hlog, hrx⟩
      · exact ⟨hgo.1.trans hlog, fun k hk => (hgo.2 k hk).trans (hrx k hk)⟩
    | lagged n => exact ⟨hgo.1.trans hlog, fun k hk => (hgo.2 k hk).trans (hrx k hk)⟩
    | closed => exact ⟨hlog, hrx⟩
    | empty => exact ⟨hlog, hrx⟩

end Lookup

/-! ## Runs of one receiver among other moves -/

/-- The moves of the bus that leave receiver `rx` where it is: an event emitted, a receiver
subscribing, another one leaving, reading or scanning, the sending side dropped. -/
inductive Aside (rx : Nat) : Bus → Bus → Prop
  | emit {b : Bus} (e : BrokerEvent) : Aside rx b (b.emit e)
  | subscribe {b : Bus} : Aside rx b b.subscribe.2
  | unsubscribe {b : Bus} {id : Nat} : id ≠ rx → Aside rx b (b.unsubscribe id)
  | recv {b : Bus} {id : Nat} : id ≠ rx → Aside rx b (b.recv id).2
  | scan {b : Bus} {id : Nat} (kind : EventKind) : id ≠ rx → Aside rx b (b.scan id kind).2
  | close {b : Bus} : Aside rx b b.close

/-- Receiver `rx` reads `rs`, in order, on the way from `b` to `b'`, between moves of the bus
that leave it where it is. -/
inductive Reads (rx : Nat) : Bus → Bus → List Received → Prop
  | refl {b : Bus} : Reads rx b b []
  | aside {b b₁ b' : Bus} {rs : List Received} : Aside rx b b₁ → Reads rx b₁ b' rs → Reads rx b b' rs
  | recv {b b' : Bus} {rs : List Received} :
      Reads rx (b.recv rx).2 b' rs → Reads rx b b' ((b.recv rx).1 :: rs)

variable {rx p : Nat} {b b' : Bus}

theorem Reads.trans {b₁ : Bus} {rs₁ rs₂ : List Received} (h₁ : Reads rx b b₁ rs₁)
    (h₂ : Reads rx b₁ b' rs₂) : Reads rx b b' (rs₁ ++ rs₂) := by
  induction h₁ with
  | refl => exact h₂
  | aside ha _ ih => exact .aside ha (ih h₂)
  | recv _ ih => exact .recv (ih h₂)

theorem Aside.keeps (h : Aside rx b b') (hp : b.receivers.lookup rx = some p) :
    b'.receivers.lookup rx = some p ∧ b.log.toList <+: b'.log.toList := by
  cases h with
  | emit e => exact ⟨(receivers_emit e).symm ▸ hp, log_prefix_emit e⟩
  | subscribe => exact ⟨lookup_subscribe hp, List.prefix_refl _⟩
  | unsubscribe hid => exact ⟨(lookup_unsubscribe_of_ne hid).trans hp, List.prefix_refl _⟩
  | recv hid =>
    obtain ⟨hlog, hrx⟩ := recv_frame (b := b) _
    exact ⟨(hrx rx hid).trans hp, hlog ▸ List.prefix_refl _⟩
  | scan kind hid =>
    obtain ⟨hlog, hrx⟩ := @scanFor_frame _ kind (b.log.size + 2) b
    exact ⟨(hrx rx hid).trans hp, hlog ▸ List.prefix_refl _⟩
  | close => exact ⟨hp, List.prefix_refl _⟩

/-! ## Segments of the log -/

section Segments

variable {L : List BrokerEvent} {q r : Nat}

theorem take_drop_append (hpq : p ≤ q) (hqr : q ≤ r) (hq : q ≤ L.length) :
    (L.take r).drop p = (L.take q).drop p ++ (L.take r).drop q := by
  have hsplit : L.take r = L.take q ++ (L.take r).drop q := by
    conv_lhs => rw [← List.take_append_drop q (L.take r)]
    rw [List.take_take, Nat.min_eq_left hqr]
  conv_lhs => rw [hsplit]
  exact List.drop_append_of_le_length (by rw [List.length_take]; omega)

theorem length_take_drop (hq : q ≤ L.length) : ((L.take q).drop p).length = q - p := by
  rw [List.length_drop, List.length_take, Nat.min_eq_left hq]

theorem take_drop_cons (hpq : p < q) (hq : q ≤ L.length) :
    (L.take q).drop p = L.get ⟨p, by omega⟩ :: (L.take q).drop (p + 1) := by
  have hone : (L.take (p + 1)).drop p = [L.get ⟨p, by omega⟩] := by
    rw [List.drop_take, Nat.add_sub_cancel_left, List.drop_eq_getElem_cons (by omega)]
    rfl
  rw [take_drop_append (Nat.le_succ p) (Nat.succ_le_of_lt hpq) (by omega), hone]
  rfl

end Segments

/-! ## What a receiver reads -/

/-- A read of a receiver that is more than `busCapacity` events behind: it is told how many
it missed and moves to the oldest event kept. -/
theorem recv_of_lt_oldest (hp : b.receivers.lookup rx = some p) (h : p < b.oldest) :
    b.recv rx = (.lagged (b.oldest - p), b.seekReceiver rx b.oldest) := by
  simp only [recv, hp, if_pos h]

/-- The reads of a receiver pass over the log from its position to where they leave it, and
the log only grows. -/
theorem Reads.passes {rs : List Received} (h : Reads rx b b' rs) :
    ∀ {p : Nat}, b.receivers.lookup rx = some p → p ≤ b.log.size →
      ∃ p', b'.receivers.lookup rx = some p' ∧ p ≤ p' ∧ p' ≤ b'.log.size ∧
        b.log.toList <+: b'.log.toList ∧ Passes rs (b'.between p p') := by
  induction h with
  | refl =>
    intro p hp hle
    exact ⟨p, hp, le_rfl, hle, List.prefix_refl _, by simp [between]; exact .nil⟩
  | aside ha _ ih =>
    intro p hp hle
    obtain ⟨hp₁, hpre₁⟩ := ha.keeps hp
    obtain ⟨p', hp', hpp', hle', hpre, hpass⟩ := ih hp₁ (hle.trans (by
      simpa using hpre₁.length_le))
    exact ⟨p', hp', hpp', hle', hpre₁.trans hpre, hpass⟩
  | @recv b b' rs _ ih =>
    intro p hp hle
    -- the read moves the receiver to a new position, so the rest of the run passes from there
    have hat : ∀ pos, (b.seekReceiver rx pos).receivers.lookup rx = some pos := fun pos => by
      rw [lookup_seekReceiver, if_pos rfl, hp]
      rfl
    by_cases hlag : p < b.oldest
    · -- more than the capacity behind: the oldest unread events are skipped
      rw [recv_of_lt_oldest hp hlag] at ih ⊢
      simp only [log_seekReceiver] at ih
      obtain ⟨p', hp', hop', hle', hpre, hpass⟩ := ih (hat b.oldest) (Nat.sub_le _ _)
      have hsize : b.log.size ≤ b'.log.size := by simpa using hpre.length_le
      have hold : b.oldest ≤ b'.log.toList.length := by
        rw [Array.length_toList]
        exact (Nat.sub_le _ _).trans hsize
      refine ⟨p', hp', by omega, hle', hpre, ?_⟩
      unfold between at hpass ⊢
      rw [take_drop_append hlag.le hop' hold]
      exact .lagged (length_take_drop hold) hpass
    · by_cases hev : p < b.log.size
      · -- the next event is read
        have hrecv : b.recv rx = (.event b.log[p], b.seekReceiver rx (p + 1)) := by
          simp only [Bus.recv, hp, if_neg hlag, dif_pos hev]
        rw [hrecv] at ih ⊢
        simp only [log_seekReceiver] at ih
        obtain ⟨p', hp', hpp', hle', hpre, hpass⟩ := ih (hat (p + 1)) hev
        have hp'len : p' ≤ b'.log.toList.length := by simpa using hle'
        refine ⟨p', hp', by omega, hle', hpre, ?_⟩
        unfold between at hpass ⊢
        rw [take_drop_cons (by omega) hp'len]
        have hget : b'.log.toList.get ⟨p, by omega⟩ = b.log[p] := by
          rw [List.get_eq_getElem, ← hpre.getElem (by simpa using hev), Array.getElem_toList]
        rw [hget]
        exact .event _ hpass
      · -- nothing new: the read finds nothing, or the end of the bus, and moves nothing
        have hrecv : (b.recv rx).2 = b ∧ ((b.recv rx).1 = .empty ∨ (b.recv rx).1 = .closed) := by
          simp only [Bus.recv, hp, if_neg hlag, dif_neg hev]
          split <;> simp
        obtain ⟨hb, hr⟩ := hrecv
        rw [hb] at ih
        obtain ⟨p', hp', hpp', hle', hpre, hpass⟩ := ih hp hle
        refine ⟨p', hp', hpp', hle', hpre, ?_⟩
        rcases hr with hr | hr <;> rw [hr]
        · exact .empty hpass
        · exact .closed hpass

/-! ## Falling behind -/

theorem emit_log_of_ne_nil (h : b.receivers ≠ []) (e : BrokerEvent) :
    (b.emit e).log = b.log.push e := by
  unfold emit
  rw [if_neg (by simpa using h)]

theorem foldl_emit (h : b.receivers ≠ []) (es : List BrokerEvent) :
    (es.foldl Bus.emit b).receivers = b.receivers ∧
      (es.foldl Bus.emit b).log.size = b.log.size + es.length := by
  induction es generalizing b with
  | nil => exact ⟨rfl, rfl⟩
  | cons e es ih =>
    obtain ⟨hr, hs⟩ := ih (b := b.emit e) (by rwa [receivers_emit])
    refine ⟨hr.trans (receivers_emit e), ?_⟩
    rw [List.foldl_cons, hs, emit_log_of_ne_nil h, Array.size_push, List.length_cons]
    omega

/-- A receiver at the end of the log, and then an event and `busCapacity` more emitted before
it reads: its read is a lag report of one, and moves it past that event. -/
theorem recv_lags_past_first (hp : b.receivers.lookup rx = some b.log.size) (e : BrokerEvent)
    {es : List BrokerEvent} (hes : es.length = busCapacity) :
    (es.foldl Bus.emit (b.emit e)).recv rx =
      (.lagged 1, (es.foldl Bus.emit (b.emit e)).seekReceiver rx (b.log.size + 1)) := by
  have hne : b.receivers ≠ [] := fun h => by rw [h] at hp; cases hp
  obtain ⟨hr, hs⟩ := foldl_emit (b := b.emit e) (by rwa [receivers_emit]) es
  have hold : (es.foldl Bus.emit (b.emit e)).oldest = b.log.size + 1 := by
    rw [oldest, hs, emit_log_of_ne_nil hne, Array.size_push, hes]
    omega
  rw [recv_of_lt_oldest (by rw [hr, receivers_emit]; exact hp) (by omega), hold,
    Nat.add_sub_cancel_left]

end Bus

end BrokerSession
