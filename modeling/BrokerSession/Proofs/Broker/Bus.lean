import BrokerSession.Session.Wait

/-!
# Receivers of the event bus

The bus numbers its receivers in the order they subscribe, and no two receivers share a
number: every receiver's number is below the next one to be handed out (`Bus.fresh`), and
emitting, subscribing, reading and dropping a receiver keep it so. On a fresh bus a new
receiver starts at the end of the log (`caughtUp_subscribe`), so until something is emitted it
has nothing to read: a read finds nothing new, or the end of the bus once the sending side is
gone (`scan_of_caughtUp`), and it changes nothing.
-/

namespace BrokerSession

namespace Bus

/-- Every receiver's number is below the next one to be handed out. -/
def fresh (b : Bus) : Bool := b.receivers.all (·.1 < b.nextReceiver)

/-- Receiver `rx` has read every event of the log. -/
def CaughtUp (b : Bus) (rx : Nat) : Prop := b.receivers.lookup rx = some b.log.size

variable {b : Bus}

theorem fresh_iff : b.fresh = true ↔ ∀ r ∈ b.receivers, r.1 < b.nextReceiver := by
  simp [fresh]

/-! ## Freshness is kept -/

@[simp] theorem fresh_emit (e : BrokerEvent) : (b.emit e).fresh = b.fresh := by
  unfold emit
  split <;> rfl

theorem fresh_subscribe (h : b.fresh = true) : b.subscribe.2.fresh = true := by
  rw [fresh_iff] at h ⊢
  intro r hr
  simp only [subscribe, List.mem_append, List.mem_singleton] at hr
  rcases hr with hr | rfl
  · exact Nat.lt_succ_of_lt (h r hr)
  · exact Nat.lt_succ_self _

theorem fresh_unsubscribe (h : b.fresh = true) (id : Nat) : (b.unsubscribe id).fresh = true := by
  rw [fresh_iff] at h ⊢
  intro r hr
  exact h r (List.mem_filter.1 hr).1

theorem fresh_seekReceiver (h : b.fresh = true) (id pos : Nat) :
    (b.seekReceiver id pos).fresh = true := by
  rw [fresh_iff] at h ⊢
  intro r hr
  obtain ⟨⟨r₀, p₀⟩, hr₀, rfl⟩ := List.mem_map.1 hr
  have := h _ hr₀
  dsimp only
  split <;> exact this

theorem fresh_recv (h : b.fresh = true) (id : Nat) : (b.recv id).2.fresh = true := by
  unfold recv
  split
  · exact h
  · split
    · exact fresh_seekReceiver h _ _
    · split
      · exact fresh_seekReceiver h _ _
      · split <;> exact h

theorem fresh_scanFor {rx : Nat} {kind : EventKind} :
    ∀ (fuel : Nat) {b : Bus}, b.fresh = true → (scanFor rx kind fuel b).2.fresh = true
  | 0, _, h => h
  | fuel + 1, b, h => by
    have hr := fresh_recv h rx
    unfold scanFor
    generalize b.recv rx = x at hr ⊢
    obtain ⟨r, b'⟩ := x
    cases r with
    | event e =>
      dsimp only
      split
      · exact hr
      · exact fresh_scanFor fuel hr
    | lagged n => exact fresh_scanFor fuel hr
    | closed => exact hr
    | empty => exact hr

theorem fresh_scan (h : b.fresh = true) (rx : Nat) (kind : EventKind) :
    (b.scan rx kind).2.fresh = true :=
  fresh_scanFor _ h

/-! ## A new receiver has nothing to read -/

/-- On a fresh bus a new receiver is the only one with its number, and starts at the end of
the log. -/
theorem caughtUp_subscribe (h : b.fresh = true) : b.subscribe.2.CaughtUp b.subscribe.1 := by
  rw [fresh_iff] at h
  have hnone : b.receivers.lookup b.nextReceiver = none := by
    rw [List.lookup_eq_none_iff]
    intro r hr
    simpa using (Nat.ne_of_lt (h r hr)).symm
  simp [CaughtUp, subscribe, List.lookup_append, hnone]

theorem hasNews_of_caughtUp {rx : Nat} (h : b.CaughtUp rx) : b.hasNews rx = !b.sending := by
  simp [hasNews, show b.receivers.lookup rx = some b.log.size from h]

/-- A receiver that has read everything finds nothing new, or the end of the bus once the
sending side is gone, and its read changes nothing. -/
theorem recv_of_caughtUp {rx : Nat} (h : b.CaughtUp rx) :
    b.recv rx = (if b.sending then .empty else .closed, b) := by
  have hold : ¬ b.log.size < b.oldest := by simp [oldest]
  simp only [recv, show b.receivers.lookup rx = some b.log.size from h, hold, if_false,
    Nat.lt_irrefl, dite_false]
  split <;> rfl

theorem scan_of_caughtUp {rx : Nat} (h : b.CaughtUp rx) (kind : EventKind) :
    b.scan rx kind = (if b.sending then .nothing else .closed, b) := by
  unfold scan scanFor
  rw [recv_of_caughtUp h]
  cases b.sending <;> rfl

end Bus

end BrokerSession
