import Mathlib
import BrokerSession.Proofs.Offsets.Window
import BrokerSession.Proofs.Retry.Run
import BrokerSession.Proofs.Session.Pull

/-!
# A window of messages

`consume` pulls in rounds until it has `maxSize` messages, until the deadline once a batch is
in, or until a round brings no message, and records every message of a batch in the offset
window, and its payload in the byte count, as soon as the batch is in. This module follows a
window round by round, over `finishes_retryRacing_pullUntil`, which says what one round does
to the pull script.

`Rounds` is the relation of the rounds of a window: each round asks for what is still missing,
so for one message at least, and the loop stops only where the relation says. The loop's bound
of `maxSize + 1` rounds is never what stops it, since every round that goes on brings a
message (`finishes_consumeLoop`). What a window takes from the script is its batches, in order
(`Rounds.messages`), so a sequence of windows takes the script's messages in order, each once
(`finishes_consumeAll_loop`). That a window finishes at all is shown in `Proofs/Session/Calm`,
where `consume_window` gathers what a window does.
-/

namespace BrokerSession

open Proc

/-- A script of pull answers: batches of messages and failures. -/
abbrev PullScript := List (Except Fault (List Message))

/-- The window operation that records a consumed message. -/
def Message.recordOp (m : Message) : WindowOp := .record m.partition m.offset

/-- The payload bytes of messages. -/
def Message.payloadTotal (ms : List Message) : Nat := (ms.map Message.payloadSize).sum

/-- The messages a pull script holds, in order. -/
def scriptMessages : PullScript → List Message
  | [] => []
  | .ok ms :: P => ms ++ scriptMessages P
  | .error _ :: P => scriptMessages P

@[simp] theorem payloadTotal_nil : Message.payloadTotal [] = 0 := rfl

theorem payloadTotal_append (ms ms' : List Message) :
    Message.payloadTotal (ms ++ ms') = Message.payloadTotal ms + Message.payloadTotal ms' := by
  simp only [Message.payloadTotal, List.map_append, List.sum_append]

theorem OffsetWindow.applyAll_append (w : OffsetWindow) (ops ops' : List WindowOp) :
    w.applyAll (ops ++ ops') = w.applyAll ops >>= fun w' => w'.applyAll ops' :=
  List.foldlM_append

/-! ## What the rounds of a window take -/

namespace Pulled

variable {n : Nat} {W W' : Prop} {P P' : PullScript}

theorem messages {b : Option (List Message)} (h : Pulled n W P P' b) :
    scriptMessages P = b.getD [] ++ scriptMessages P' := by
  induction h with
  | stop => rfl
  | skip _ ih => exact ih
  | @batch ms P =>
    by_cases hlt : n < ms.length
    · rw [if_pos hlt]
      simp only [scriptMessages, Option.getD_some, ← List.append_assoc, List.take_append_drop]
    · rw [if_neg hlt, List.take_of_length_le (Nat.le_of_not_lt hlt)]
      rfl
  | idle _ => rfl

theorem length_le {ms : List Message} (h : Pulled n W P P' (some ms)) : ms.length ≤ n := by
  generalize hb : some ms = b at h
  induction h with
  | stop => cases hb
  | skip _ ih => exact ih hb
  | batch => cases hb; exact List.length_take_le n _
  | idle _ => cases hb; exact Nat.zero_le n

/-- A round that brought a message did not wait for the deadline. -/
theorem of_ne_nil {ms : List Message} (h : Pulled n W P P' (some ms)) (hms : ms ≠ []) :
    Pulled n W' P P' (some ms) := by
  generalize hb : some ms = b at h
  induction h with
  | stop => cases hb
  | skip _ ih => exact .skip (ih hb)
  | batch => exact .batch
  | idle _ => cases hb; exact absurd rfl hms

end Pulled

/-- The rounds of a window still wanting `n` messages, taking the script from `P` to `P'` and
bringing the batches `bs`; it ends once nothing is wanted, after a round without a message, or after
a batch once `late`. -/
inductive Rounds (late : Prop) : Nat → PullScript → PullScript → List (List Message) → Prop
  | full {P : PullScript} : Rounds late 0 P P []
  | empty {n : Nat} {P P' : PullScript} {b : Option (List Message)} :
      0 < n → Pulled n late P P' b → (∀ ms, b = some ms → ms = []) → Rounds late n P P' []
  | last {n : Nat} {P P' : PullScript} {ms : List Message} :
      0 < n → ms ≠ [] → Pulled n late P P' (some ms) → late → Rounds late n P P' [ms]
  | more {n : Nat} {P P₁ P' : PullScript} {ms : List Message} {bs : List (List Message)} :
      0 < n → ms ≠ [] → Pulled n late P P₁ (some ms) → Rounds late (n - ms.length) P₁ P' bs →
        Rounds late n P P' (ms :: bs)

namespace Rounds

variable {late : Prop} {n : Nat} {P P' : PullScript} {bs : List (List Message)}

theorem messages (h : Rounds late n P P' bs) :
    scriptMessages P = bs.flatten ++ scriptMessages P' := by
  induction h with
  | full => rfl
  | @empty n P P' b _ hp hb =>
    rw [hp.messages]
    cases b with
    | none => rfl
    | some ms => rw [hb ms rfl]; rfl
  | last _ _ hp _ => rw [hp.messages, List.flatten_singleton, Option.getD_some]
  | more _ _ hp _ ih => rw [hp.messages, ih, Option.getD_some, List.flatten_cons, List.append_assoc]

/-- A window brings at most the messages it wants. -/
theorem length_flatten_le (h : Rounds late n P P' bs) : bs.flatten.length ≤ n := by
  induction h with
  | full | empty => exact Nat.zero_le _
  | last _ _ hp _ => simpa using hp.length_le
  | more _ _ hp _ ih =>
    have := hp.length_le
    rw [List.flatten_cons, List.length_append]
    omega

theorem ne_nil (h : Rounds late n P P' bs) : ∀ ms ∈ bs, ms ≠ [] := by
  induction h with
  | full | empty => exact fun _ h => absurd h List.not_mem_nil
  | last _ hms _ _ => simpa using hms
  | more _ hms _ _ ih => exact List.forall_mem_cons.2 ⟨hms, ih⟩

theorem length_le (h : Rounds late n P P' bs) : bs.length ≤ n := by
  induction h with
  | full | empty => exact Nat.zero_le _
  | last hn _ _ _ => exact hn
  | more hn hms hp _ ih =>
    have h₁ := hp.length_le
    have h₂ := List.length_pos_iff.2 hms
    rw [List.length_cons]
    omega

end Rounds

/-! ## Recording a batch -/

namespace Proc

section Record

variable {R : Nat × World → Nat × World → Prop} {t t' : Nat} {s s' : World}

/-- A panic never finishes. -/
theorem not_finishes_halt {α : Type} {h : Halt} {a : α} :
    ¬ Finishes R t s (Act.halt h : Act α) t' s' a :=
  fun hf => not_returns_halt hf.returns

theorem finishes_recordEmptyWindow_bind_iff {α : Type} {k : Unit → Act α} {t t' : Nat}
    {s s' : World} {a : α} :
    Finishes R t s (Act.recordEmptyWindow >>= k) t' s' a ↔
      s.emptyWindows < Backoff.countLimit ∧
        Finishes R t { s with emptyWindows := s.emptyWindows + 1 } (k ()) t' s' a := by
  rw [finishes_bind_iff]
  constructor
  · rintro ⟨t₁, s₁, u, h₁, h₂⟩
    unfold Act.recordEmptyWindow at h₁
    rw [finishes_get_bind_iff] at h₁
    split at h₁
    · next hlt =>
      rw [Proc.set, finishes_put_iff, finishes_pure_iff] at h₁
      obtain ⟨rfl, rfl, rfl⟩ := h₁
      exact ⟨hlt, h₂⟩
    · exact absurd h₁ not_finishes_halt
  · rintro ⟨hlt, h⟩
    refine ⟨t, { s with emptyWindows := s.emptyWindows + 1 }, (), ?_, h⟩
    unfold Act.recordEmptyWindow
    rw [finishes_get_bind_iff, if_pos hlt, Proc.set, finishes_put_iff, finishes_pure_iff]
    exact ⟨rfl, rfl, rfl⟩

theorem finishes_orHalt_bind_iff {α β : Type} {e : Except Halt β} {k : β → Act α} {a : α} :
    Finishes R t s (Act.orHalt e >>= k) t' s' a ↔ ∃ v, e = .ok v ∧ Finishes R t s (k v) t' s' a := by
  cases e with
  | ok v => exact ⟨fun h => ⟨v, rfl, h⟩, fun ⟨_, hv, h⟩ => by cases hv; exact h⟩
  | error e =>
    refine ⟨fun h => ?_, fun ⟨_, hv, _⟩ => by cases hv⟩
    obtain ⟨_, _, _, hh, -⟩ := finishes_bind_iff.1 h
    exact absurd hh not_finishes_halt

/-- A loop over `l` whose body finishes at once, changing the offset window by the partial step
`g` and nothing else, finishes at once with the window changed by `g` over all of `l`. -/
theorem finishes_forIn_window_iff {γ : Type} {f : γ → PUnit → Act (ForInStep PUnit)}
    (g : OffsetWindow → γ → Except Halt OffsetWindow)
    (hf : ∀ x {t t' : Nat} {s s' : World} {y : ForInStep PUnit},
      Finishes R t s (f x ⟨⟩) t' s' y ↔
        t' = t ∧ y = .yield ⟨⟩ ∧ ∃ window, g s.window x = .ok window ∧ s' = { s with window })
    (l : List γ) {y : PUnit} :
    Finishes R t s (forIn l ⟨⟩ f) t' s' y ↔
      t' = t ∧ ∃ window, l.foldlM g s.window = .ok window ∧ s' = { s with window } := by
  induction l generalizing t s with
  | nil =>
    rw [List.forIn_nil, pure_eq, finishes_pure_iff]
    constructor
    · rintro ⟨-, rfl, rfl⟩
      exact ⟨rfl, _, rfl, rfl⟩
    · rintro ⟨rfl, window, hw, rfl⟩
      cases hw
      exact ⟨rfl, rfl, rfl⟩
  | cons x l ih =>
    rw [List.forIn_cons, finishes_bind_iff, List.foldlM_cons]
    constructor
    · rintro ⟨t₁, s₁, y₁, h₁, h₂⟩
      obtain ⟨rfl, rfl, w₁, hg, rfl⟩ := (hf x).1 h₁
      obtain ⟨rfl, w, hw, rfl⟩ := ih.1 h₂
      exact ⟨rfl, w, by rw [hg]; exact hw, rfl⟩
    · rintro ⟨rfl, w, hw, rfl⟩
      cases hg : g s.window x with
      | error e => rw [hg] at hw; cases hw
      | ok w₁ =>
        rw [hg] at hw
        exact ⟨_, { s with window := w₁ }, .yield ⟨⟩, (hf x).2 ⟨rfl, rfl, w₁, hg, rfl⟩,
          ih.2 ⟨rfl, w, hw, rfl⟩⟩

theorem finishes_forIn_window_bind_iff {γ α : Type} {f : γ → PUnit → Act (ForInStep PUnit)}
    (g : OffsetWindow → γ → Except Halt OffsetWindow)
    (hf : ∀ x {t t' : Nat} {s s' : World} {y : ForInStep PUnit},
      Finishes R t s (f x ⟨⟩) t' s' y ↔
        t' = t ∧ y = .yield ⟨⟩ ∧ ∃ window, g s.window x = .ok window ∧ s' = { s with window })
    (l : List γ) {k : PUnit → Act α} {a : α} :
    Finishes R t s (forIn l ⟨⟩ f >>= k) t' s' a ↔
      ∃ window, l.foldlM g s.window = .ok window ∧ Finishes R t { s with window } (k ⟨⟩) t' s' a := by
  rw [finishes_bind_iff]
  constructor
  · rintro ⟨t₁, s₁, u, hl, hk⟩
    obtain ⟨rfl, w, hw, rfl⟩ := (finishes_forIn_window_iff g hf l).1 hl
    exact ⟨w, hw, hk⟩
  · rintro ⟨w, hw, hk⟩
    exact ⟨_, _, ⟨⟩, (finishes_forIn_window_iff g hf l).2 ⟨rfl, w, hw, rfl⟩, hk⟩

/-- Recording a batch finishes at once exactly when its records keep the offset window within
bounds; it records the messages in order and adds up their payloads. -/
theorem finishes_recordBatch {ms : List Message} {u : Unit} :
    Finishes R t s (Act.recordBatch ms) t' s' u ↔
      t' = t ∧ ∃ window, s.window.applyAll (ms.map Message.recordOp) = .ok window ∧
        s' = { s with window, bytesConsumed := s.bytesConsumed + Message.payloadTotal ms } := by
  unfold Act.recordBatch
  rw [finishes_forIn_window_bind_iff (fun (w : OffsetWindow) (m : Message) => w.apply m.recordOp)
    ?body, OffsetWindow.applyAll, List.foldlM_map]
  · simp only [Proc.modify, finishes_look_iff, finishes_put_iff, finishes_pure_iff, true_and,
      ← List.sum_eq_foldl_nat]
    constructor
    · rintro ⟨w, hw, rfl, rfl⟩
      exact ⟨rfl, w, hw, rfl⟩
    · rintro ⟨rfl, w, hw, rfl⟩
      exact ⟨w, hw, rfl, rfl⟩
  case body =>
    intro m t t' s s' y
    rw [finishes_get_bind_iff, finishes_orHalt_bind_iff]
    simp only [finishes_set_bind_iff, pure_eq, finishes_pure_iff]
    constructor
    · rintro ⟨w, hw, rfl, rfl, rfl⟩
      exact ⟨rfl, rfl, w, hw, rfl⟩
    · rintro ⟨rfl, rfl, w, hw, rfl⟩
      exact ⟨w, hw, rfl, rfl, rfl⟩

end Record

/-! ## A window, round by round -/

/-- What a window did from `s` to `s'`, ending at `t'` with deadline `d` and `n` wanted: the bus
stays fresh, the rounds went as `Rounds` says, and the batches' messages and payloads are recorded
in order. -/
def Windowed (d n t' : Nat) (s s' : World) (bs : List (List Message)) : Prop :=
  s'.bus.fresh = true ∧ Rounds (d ≤ t') n s.consumer.pulls s'.consumer.pulls bs ∧
    s.window.applyAll (bs.flatten.map Message.recordOp) = .ok s'.window ∧
    s'.bytesConsumed = s.bytesConsumed + Message.payloadTotal bs.flatten

namespace Windowed

variable {d n t₁ t' : Nat} {s s₁ s₂ s' : World} {ms : List Message} {w : OffsetWindow}
  {bs : List (List Message)}

theorem full (hs : s.bus.fresh = true) : Windowed d 0 t' s s [] :=
  ⟨hs, .full, rfl, (Nat.add_zero _).symm⟩

theorem empty {r : Except Fault (Option (List Message))} (hn : 0 < n)
    (hround : PullRound n d t' s s' r) (hr : ∀ ms, r = .ok (some ms) → ms = []) :
    Windowed d n t' s s' [] := by
  obtain ⟨hf, hW, hB, b, hP, hrb⟩ := hround
  exact ⟨hf, .empty hn hP fun ms hb => hr ms ((hrb ms).2 hb), by rw [hW]; rfl,
    by rw [hB]; rfl⟩

/-- A round that brought a batch once the deadline has passed ends the window, the batch
recorded. -/
theorem last (hn : 0 < n) (hms : ms ≠ []) (hround : PullRound n d t' s s₁ (.ok (some ms)))
    (hw : s₁.window.applyAll (ms.map Message.recordOp) = .ok w) (hd : d ≤ t') :
    Windowed d n t' s
      { s₁ with window := w, bytesConsumed := s₁.bytesConsumed + Message.payloadTotal ms } [ms] := by
  obtain ⟨hf, hW, hB, b, hP, hrb⟩ := hround
  obtain rfl := (hrb ms).1 rfl
  refine ⟨hf, .last hn hms hP hd, ?_, ?_⟩
  · rw [List.flatten_singleton, ← hW]
    exact hw
  · rw [List.flatten_singleton, hB]

theorem cons (hn : 0 < n) (hms : ms ≠ []) (hround : PullRound n d t₁ s s₁ (.ok (some ms)))
    (hw : s₁.window.applyAll (ms.map Message.recordOp) = .ok w)
    (rest : Windowed d (n - ms.length) t'
      { s₁ with window := w, bytesConsumed := s₁.bytesConsumed + Message.payloadTotal ms } s' bs) :
    Windowed d n t' s s' (ms :: bs) := by
  obtain ⟨hf, hW, hB, b, hP, hrb⟩ := hround
  obtain rfl := (hrb ms).1 rfl
  obtain ⟨hf', hR, hw', hB'⟩ := rest
  refine ⟨hf', .more hn hms (hP.of_ne_nil hms) hR, ?_, ?_⟩
  · rw [List.flatten_cons, List.map_append, OffsetWindow.applyAll_append, ← hW, hw]
    exact hw'
  · rw [hB', List.flatten_cons, payloadTotal_append, hB, Nat.add_assoc]

theorem held (h : Windowed d n t' s s₁ bs) (h₂ : s₂.held = s₁.held) : Windowed d n t' s s₂ bs := by
  obtain ⟨hP, hW, hB, hf⟩ := held_eq_iff.1 h₂
  obtain ⟨hf₁, hR, hw, hb⟩ := h
  exact ⟨hf.trans hf₁, hP ▸ hR, hW ▸ hw, hB ▸ hb⟩

end Windowed

/-- The loop of a window, with `got` messages so far and more rounds left than messages wanted:
it runs as `Rounds` says, and its answer, unless a round failed, is the messages so far followed
by the batches, in order. -/
theorem finishes_consumeLoop {c : SessionConfig} {d maxSize : Nat} (fuel : Nat) :
    ∀ {acc : List Message} {got t t' : Nat} {s s' : World} {r : Except Fault (List Message × Nat)},
      maxSize - got < fuel → s.bus.fresh = true →
      Finishes (Keeping World.held) t s (Act.consumeLoop c d maxSize fuel acc got) t' s' r →
      ∃ bs, Windowed d (maxSize - got) t' s s' bs ∧
        ∀ x, r = .ok x → x = (acc ++ bs.flatten, got + bs.flatten.length) := by
  induction fuel with
  | zero => exact fun h => absurd h (Nat.not_lt_zero _)
  | succ fuel ih =>
    intro acc got t t' s s' r hfuel hs h
    rw [Act.consumeLoop] at h
    split at h
    · next hge =>
      rw [pure_eq, finishes_pure_iff] at h
      obtain ⟨rfl, rfl, rfl⟩ := h
      refine ⟨[], ?_, fun x hx => by cases hx; simp⟩
      rw [Nat.sub_eq_zero_of_le hge]
      exact Windowed.full hs
    · next hlt =>
      have hn : 0 < maxSize - got := by omega
      obtain ⟨t₁, s₁, r₁, hround, h⟩ := finishes_bind_iff.1 h
      have hR := finishes_retryRacing_pullUntil hs hround
      -- the round's answer: a failure, nothing, an empty batch, or a batch
      rcases r₁ with e | _ | _ | ⟨m, ms⟩
      · simp only [pure_eq, finishes_pure_iff] at h
        obtain ⟨rfl, rfl, rfl⟩ := h
        exact ⟨[], Windowed.empty hn hR (fun _ h => by cases h), fun _ h => by cases h⟩
      · simp only [pure_eq, finishes_pure_iff] at h
        obtain ⟨rfl, rfl, rfl⟩ := h
        exact ⟨[], Windowed.empty hn hR (fun _ h => by cases h), fun x hx => by cases hx; simp⟩
      · simp only [pure_eq, finishes_pure_iff] at h
        obtain ⟨rfl, rfl, rfl⟩ := h
        exact ⟨[], Windowed.empty hn hR (fun _ h => by cases h; rfl), fun x hx => by cases hx; simp⟩
      · obtain ⟨t₂, s₂, u, hrec, h⟩ := finishes_bind_iff.1 h
        obtain ⟨rfl, w, hw, rfl⟩ := finishes_recordBatch.1 hrec
        simp only [finishes_now_bind_iff] at h
        split at h
        · next hd =>
          rw [pure_eq, finishes_pure_iff] at h
          obtain ⟨rfl, rfl, rfl⟩ := h
          exact ⟨[m :: ms], Windowed.last hn (List.cons_ne_nil m ms) hR hw hd,
            fun x hx => by cases hx; simp⟩
        · have hfuel' : maxSize - (got + (m :: ms).length) < fuel := by
            simp only [List.length_cons]
            omega
          obtain ⟨bs, hbs, hx⟩ := ih hfuel' (by exact hR.1) h
          refine ⟨(m :: ms) :: bs, Windowed.cons hn (List.cons_ne_nil m ms) hR hw ?_, ?_⟩
          · rwa [Nat.sub_sub]
          · intro x hr
            rw [hx x hr, List.flatten_cons, List.length_append, List.append_assoc, Nat.add_assoc]

/-- A call of `consume`: its rounds went as `Rounds` says, from the deadline `maxWait` after its
start, and on success it answers the batches' messages, in order. -/
theorem finishes_consume {c : SessionConfig} {maxSize maxWait t t' : Nat} {s s' : World}
    {r : Except Fault (List Message)} (hs : s.bus.fresh = true)
    (h : Finishes (Keeping World.held) t s (Act.consume c maxSize maxWait) t' s' r) :
    ∃ bs, Windowed (t + maxWait) maxSize t' s s' bs ∧ ∀ ms, r = .ok ms → ms = bs.flatten := by
  unfold Act.consume at h
  rw [finishes_now_bind_iff, finishes_bind_iff] at h
  obtain ⟨t₁, s₁, x, hloop, h⟩ := h
  obtain ⟨bs, hW, hx⟩ := finishes_consumeLoop (maxSize + 1) (by omega) hs hloop
  rw [Nat.sub_zero] at hW
  refine ⟨bs, ?_⟩
  rcases x with e | ⟨ms, pulled⟩
  · simp only [pure_eq, finishes_pure_iff] at h
    obtain ⟨rfl, rfl, rfl⟩ := h
    exact ⟨hW, fun _ h => by cases h⟩
  · obtain ⟨rfl, -⟩ := Prod.mk.inj (hx _ rfl)
    -- the counters of empty windows and the backoff are not held by the window
    dsimp only at h
    split at h
    · rw [finishes_modify_bind_iff, pure_eq, finishes_pure_iff] at h
      obtain ⟨rfl, rfl, rfl⟩ := h
      exact ⟨hW.held rfl, fun _ h => by cases h; rfl⟩
    · rw [finishes_recordEmptyWindow_bind_iff, finishes_get_bind_iff] at h
      obtain ⟨-, h⟩ := h
      split at h <;> rw [pure_eq, finishes_pure_iff] at h <;> obtain ⟨rfl, rfl, rfl⟩ := h
      · exact ⟨hW.held rfl, fun _ h => by cases h⟩
      · exact ⟨hW.held rfl, fun _ h => by cases h; rfl⟩

/-- Calls of `consume` one after another, gathering their answers after `acc`: what they record
in the offset window, in order, followed by what is left of the script, is what the script
held. -/
theorem finishes_consumeAll_loop {c : SessionConfig} :
    ∀ (calls : List (Nat × Nat)) {acc : List (Except Fault (List Message))} {t t' : Nat}
      {s s' : World} {rs : List (Except Fault (List Message))},
      s.bus.fresh = true →
      Finishes (Keeping World.held) t s
        (List.mapM.loop (fun x => Act.consume c x.1 x.2) calls acc) t' s' rs →
      s'.bus.fresh = true ∧ ∃ ms, scriptMessages s.consumer.pulls = ms ++ scriptMessages s'.consumer.pulls ∧
        s.window.applyAll (ms.map Message.recordOp) = .ok s'.window ∧
        s'.bytesConsumed = s.bytesConsumed + Message.payloadTotal ms
  | [], _, _, _, _, _, _, hs, h => by
    rw [List.mapM.loop, pure_eq, finishes_pure_iff] at h
    obtain ⟨-, rfl, rfl⟩ := h
    exact ⟨hs, [], rfl, rfl, rfl⟩
  | x :: calls, _, _, _, _, _, _, hs, h => by
    rw [List.mapM.loop, finishes_bind_iff] at h
    obtain ⟨t₁, s₁, r, h₁, h₂⟩ := h
    obtain ⟨bs, ⟨hf₁, hR, hw₁, hb₁⟩, -⟩ := finishes_consume hs h₁
    obtain ⟨hf₂, ms, hm, hw₂, hb₂⟩ := finishes_consumeAll_loop calls hf₁ h₂
    refine ⟨hf₂, bs.flatten ++ ms, ?_, ?_, ?_⟩
    · rw [hR.messages, hm, List.append_assoc]
    · rw [List.map_append, OffsetWindow.applyAll_append, hw₁]
      exact hw₂
    · rw [hb₂, hb₁, payloadTotal_append, Nat.add_assoc]

end Proc

end BrokerSession
