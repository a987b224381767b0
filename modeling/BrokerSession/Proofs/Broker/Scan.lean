import BrokerSession.Proofs.Broker.Reads

/-!
# What a scan of a receiver finds

A wait listens from the position its receiver had when it began, `p₀`. What it has passed over
since then is told by `Bus.KeptBetween`: every event of its kind between `p₀` and a position,
among those the channel still keeps, satisfies a property. A receiver that has heard nothing
has passed no kept event of the kind (`Bus.Listening`): an event of the kind that it went past
had already been dropped from the channel.

Such facts survive every other move of the bus (`Bus.Behind.asides`): the log only grows, the
oldest kept position only moves on, and the receiver stays where it is.

A scan reads up to the first event of the kind and stops there, or at the end of the log. From
a listening receiver it finds (`Bus.heard_scan`) the first event of the kind from `p₀` on that
the channel still keeps (`Bus.FirstOfKind`), with the receiver just past it; or, with the
receiver at the end of the log and nothing of the kind left to hear, nothing new, or the end of
the bus once the sending side is gone. Every read moves the receiver past an event except one
lag report and the last read, so the `log.size + 2` reads a scan may take always suffice.
-/

namespace BrokerSession

namespace Bus

/-- Every event of `kind` that the channel still keeps, at a position from `p₀` up to `p`,
satisfies `Q`. -/
def KeptBetween (b : Bus) (kind : EventKind) (p₀ p : Nat) (Q : BrokerEvent → Prop) : Prop :=
  ∀ j (hj : j < b.log.size), p₀ ≤ j → j < p → b.oldest ≤ j → b.log[j].kind = kind → Q b.log[j]

/-- Receiver `rx` stands between `p₀` and the end of the log, and every event of `kind` it has
passed since `p₀` that the channel still keeps satisfies `Q`. -/
def Behind (b : Bus) (rx : Nat) (kind : EventKind) (p₀ : Nat) (Q : BrokerEvent → Prop) : Prop :=
  ∃ p, b.receivers.lookup rx = some p ∧ p₀ ≤ p ∧ p ≤ b.log.size ∧ b.KeptBetween kind p₀ p Q

/-- Receiver `rx` has passed no event of `kind` since `p₀` that the channel still keeps. -/
abbrev Listening (b : Bus) (rx : Nat) (kind : EventKind) (p₀ : Nat) : Prop :=
  b.Behind rx kind p₀ fun _ => False

/-- `e` is the first event of `kind` from position `p₀` on that the channel still keeps. -/
def FirstOfKind (b : Bus) (kind : EventKind) (p₀ : Nat) (e : BrokerEvent) : Prop :=
  ∃ i, ∃ hi : i < b.log.size, p₀ ≤ i ∧ b.oldest ≤ i ∧ b.log[i] = e ∧ e.kind = kind ∧
    b.KeptBetween kind p₀ i fun _ => False

/-- An event of `kind` that the channel still keeps waits for receiver `rx` to read it. -/
def Queued (b : Bus) (rx : Nat) (kind : EventKind) : Prop :=
  ∃ p, b.receivers.lookup rx = some p ∧
    ∃ j, ∃ hj : j < b.log.size, p ≤ j ∧ b.oldest ≤ j ∧ b.log[j].kind = kind

/-- What a scan of receiver `rx` for `kind` may find, read off the bus it leaves. -/
inductive Heard (rx : Nat) (kind : EventKind) (p₀ : Nat) (b : Bus) : Found → Prop
  /-- the first event of the kind still kept, with the receiver just past it -/
  | event {e : BrokerEvent} : b.FirstOfKind kind p₀ e → b.Behind rx kind p₀ (· = e) →
      Heard rx kind p₀ b (.event e)
  /-- everything read, and the sending side gone -/
  | closed : b.CaughtUp rx → b.Listening rx kind p₀ → b.sending = false → Heard rx kind p₀ b .closed
  /-- everything read -/
  | nothing : b.CaughtUp rx → b.Listening rx kind p₀ → b.sending = true →
      Heard rx kind p₀ b .nothing

variable {b b' : Bus} {rx p p₀ : Nat} {kind : EventKind} {Q Q' : BrokerEvent → Prop}

/-! ## What survives the other moves of the bus -/

theorem KeptBetween.mono (h : b.KeptBetween kind p₀ p Q) (hQ : ∀ e, Q e → Q' e) :
    b.KeptBetween kind p₀ p Q' :=
  fun j hj h₀ hjp hold hk => hQ _ (h j hj h₀ hjp hold hk)

theorem getElem_of_grows {j : Nat} (hpre : b.log.toList <+: b'.log.toList) (hj : j < b.log.size)
    (hj' : j < b'.log.size) : b'.log[j] = b.log[j] := by
  have h := hpre.getElem (by simpa using hj : j < b.log.toList.length)
  simp only [Array.getElem_toList] at h
  exact h.symm

theorem KeptBetween.grow (h : b.KeptBetween kind p₀ p Q) (hp : p ≤ b.log.size)
    (hpre : b.log.toList <+: b'.log.toList) : b'.KeptBetween kind p₀ p Q := by
  intro j hj' h₀ hjp hold hk
  have hj : j < b.log.size := by omega
  have hsize : b.log.size ≤ b'.log.size := by simpa using hpre.length_le
  rw [getElem_of_grows hpre hj hj'] at hk ⊢
  exact h j hj h₀ hjp (by unfold oldest at hold ⊢; omega) hk

theorem Behind.mono (h : b.Behind rx kind p₀ Q) (hQ : ∀ e, Q e → Q' e) :
    b.Behind rx kind p₀ Q' :=
  let ⟨p, hp, h₀, hle, hk⟩ := h
  ⟨p, hp, h₀, hle, hk.mono hQ⟩

theorem Behind.aside (h : b.Behind rx kind p₀ Q) (ha : Aside rx b b') : b'.Behind rx kind p₀ Q := by
  obtain ⟨p, hp, h₀, hle, hk⟩ := h
  obtain ⟨hp', hpre⟩ := ha.keeps hp
  have hsize : b.log.size ≤ b'.log.size := by simpa using hpre.length_le
  exact ⟨p, hp', h₀, hle.trans hsize, hk.grow hle hpre⟩

theorem Behind.asides (h : b.Behind rx kind p₀ Q) (ha : Relation.ReflTransGen (Aside rx) b b') :
    b'.Behind rx kind p₀ Q := by
  induction ha with
  | refl => exact h
  | tail _ hstep ih => exact ih.aside hstep

/-! ## One read -/

@[simp] theorem oldest_seekReceiver (id pos : Nat) :
    (b.seekReceiver id pos).oldest = b.oldest := rfl

theorem lookup_seekReceiver_self (hp : b.receivers.lookup rx = some p) (pos : Nat) :
    (b.seekReceiver rx pos).receivers.lookup rx = some pos := by
  rw [lookup_seekReceiver, if_pos rfl, hp]
  rfl

/-- A read of a receiver that is not behind the channel and has an event left gets that event
and moves past it. -/
theorem recv_of_lt_size (hp : b.receivers.lookup rx = some p) (hold : b.oldest ≤ p)
    (hlt : p < b.log.size) : b.recv rx = (.event b.log[p], b.seekReceiver rx (p + 1)) := by
  simp only [recv, hp, if_neg (Nat.not_lt.2 hold), dif_pos hlt]

theorem sending_recv (id : Nat) : (b.recv id).2.sending = b.sending := by
  unfold recv
  split
  · rfl
  · split
    · rfl
    · split
      · rfl
      · split <;> rfl

/-! ## A scan -/

theorem sending_scanFor {id : Nat} {kind : EventKind} :
    ∀ (fuel : Nat) (b : Bus), (scanFor id kind fuel b).2.sending = b.sending
  | 0, _ => rfl
  | fuel + 1, b => by
    have hr := sending_recv (b := b) id
    unfold scanFor
    generalize b.recv id = x at hr ⊢
    obtain ⟨r, b'⟩ := x
    cases r with
    | event e =>
      dsimp only
      split
      · exact hr
      · exact (sending_scanFor fuel b').trans hr
    | lagged n => exact (sending_scanFor fuel b').trans hr
    | closed => exact hr
    | empty => exact hr

theorem sending_scan (rx : Nat) (kind : EventKind) : (b.scan rx kind).2.sending = b.sending :=
  sending_scanFor _ b

theorem log_scan (rx : Nat) (kind : EventKind) : (b.scan rx kind).2.log = b.log :=
  (scanFor_frame _ b).1

/-- A scan from a listening receiver with enough reads left finds what `Heard` allows. The
induction is on the reads left; each read keeps the receiver listening, and a lag report moves
it only over events the channel has dropped. -/
theorem heard_scanFor : ∀ (fuel : Nat) {b : Bus} {p : Nat}, b.receivers.lookup rx = some p →
    p₀ ≤ p → p ≤ b.log.size → b.KeptBetween kind p₀ p (fun _ => False) →
    b.log.size - p + 2 ≤ fuel →
    Heard rx kind p₀ (scanFor rx kind fuel b).2 (scanFor rx kind fuel b).1
  | 0, _, _, _, _, _, _, hf => absurd hf (by omega)
  | fuel + 1, b, p, hp, h₀, hle, hk, hf => by
    by_cases hlag : p < b.oldest
    · -- behind the channel: the read reports the lag and moves to the oldest kept event
      have hos : b.oldest ≤ b.log.size := Nat.sub_le _ _
      have hgo := heard_scanFor fuel (b := b.seekReceiver rx b.oldest)
        (lookup_seekReceiver_self hp _) (h₀.trans hlag.le) hos
        (fun j _ _ hjp hold _ => absurd hold (Nat.not_le.2 hjp))
        (show b.log.size - b.oldest + 2 ≤ fuel by omega)
      simpa only [scanFor, recv_of_lt_oldest hp hlag] using hgo
    · by_cases hlt : p < b.log.size
      · have hrecv := recv_of_lt_size hp (Nat.not_lt.1 hlag) hlt
        by_cases hkind : b.log[p].kind = kind
        · -- the first event of the kind still kept: the scan stops just past it
          simp only [scanFor, hrecv, beq_iff_eq, hkind, if_true]
          have hkp : (b.seekReceiver rx (p + 1)).KeptBetween kind p₀ p (fun _ => False) := hk
          refine .event ⟨p, hlt, h₀, Nat.not_lt.1 hlag, rfl, hkind, hkp⟩
            ⟨p + 1, lookup_seekReceiver_self hp _, by omega, hlt, ?_⟩
          intro j hj hj₀ hjp hold hjk
          rcases Nat.lt_succ_iff_lt_or_eq.1 hjp with hjp | rfl
          · exact (hk j hj hj₀ hjp hold hjk).elim
          · rfl
        · -- another kind: the scan goes on past it
          have hgo := heard_scanFor fuel (b := b.seekReceiver rx (p + 1))
            (lookup_seekReceiver_self hp _) (by omega) hlt ?_
            (show b.log.size - (p + 1) + 2 ≤ fuel by omega)
          · simpa only [scanFor, hrecv, beq_iff_eq, hkind, if_false] using hgo
          · intro j hj hj₀ hjp hold hjk
            rcases Nat.lt_succ_iff_lt_or_eq.1 hjp with hjp | rfl
            · exact hk j hj hj₀ hjp hold hjk
            · exact hkind hjk
      · -- at the end of the log: nothing new, or the end of the bus
        have hc : b.CaughtUp rx := by
          rw [CaughtUp, hp]
          congr 1
          omega
        have hl : b.Listening rx kind p₀ := ⟨p, hp, h₀, hle, hk⟩
        cases hs : b.sending with
        | false =>
          have hrecv : b.recv rx = (.closed, b) := by rw [recv_of_caughtUp hc, hs]; rfl
          simpa only [scanFor, hrecv] using Heard.closed hc hl hs
        | true =>
          have hrecv : b.recv rx = (.empty, b) := by rw [recv_of_caughtUp hc, hs]; rfl
          simpa only [scanFor, hrecv] using Heard.nothing hc hl hs

theorem heard_scan (h : b.Listening rx kind p₀) :
    Heard rx kind p₀ (b.scan rx kind).2 (b.scan rx kind).1 := by
  obtain ⟨p, hp, h₀, hle, hk⟩ := h
  exact heard_scanFor _ hp h₀ hle hk (by omega)

theorem scan_event_of_queued (hl : b.Listening rx kind p₀) (hq : b.Queued rx kind) :
    ∃ e, (b.scan rx kind).1 = .event e := by
  obtain ⟨p', hp', j, hj, hpj, hold, hkind⟩ := hq
  have h₀ : p₀ ≤ p' := by
    obtain ⟨p, hp, h₀, -, -⟩ := hl
    obtain rfl : p' = p := Option.some.inj (hp'.symm.trans hp)
    exact h₀
  have hlog := log_scan (b := b) rx kind
  have hh := heard_scan hl
  generalize (b.scan rx kind).1 = f at hh ⊢
  -- a scan that stops at the end of the log has passed the queued event, which it cannot have
  have hend : ∀ {b' : Bus}, b'.log = b.log → b'.CaughtUp rx → b'.Listening rx kind p₀ → False := by
    intro b' hlog' hc ⟨p'', hp'', _, hle, hk⟩
    obtain rfl : p'' = b'.log.size := Option.some.inj (hp''.symm.trans hc)
    have hk' : b.KeptBetween kind p₀ b'.log.size (fun _ => False) := hk.grow hle (by rw [hlog'])
    rw [hlog'] at hk'
    exact hk' j hj (h₀.trans hpj) hj hold hkind
  cases hh with
  | event => exact ⟨_, rfl⟩
  | closed hc hl => exact (hend hlog hc hl).elim
  | nothing hc hl => exact (hend hlog hc hl).elim

end Bus

end BrokerSession
