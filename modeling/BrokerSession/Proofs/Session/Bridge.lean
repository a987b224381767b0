import BrokerSession.Proofs.Session.Pending
import BrokerSession.Proofs.Proc.Prompt

/-!
# The counts of unanswered commits over runs of the bridge

The bridge and the rest of the session change the counts of unanswered commits from two sides:
the session adds one for each commit attempt, the bridge takes one for each entry of an
acknowledgement it reads, never below zero. Both change a count in one go, so over a run the
counts are the fold, in the order they happened, of a journal of attempts and answers
(`PendingMove`), saturating at zero.

A run here is a run of the bridge among the rest of the session (`BridgeEnv`): while the bridge
is parked, the session makes commit attempts and moves the bus aside from the bridge's receiver
(`RunsWith` lists the attempts in order). Over every such run
(`BridgeAt.runsWith`), the journal's attempts are the session's, and its answers are those of
the events the receiver read, in order, all of them once the bridge is parked again. With no
lag report among the reads, those are all the events published since the bridge subscribed.
And once every attempt is answered, by answers that only answer attempts already made, every
count is back where it started (`PendingMove.count_foldl_apply_of_balanced`).

The proof follows the bridge through its states (`Handles`): each of its turns is a
`BridgeMove`, which reads its receiver, handles one answer, or touches neither the counts nor
the bus; it parks only at its wake, with everything it read handled.
-/

namespace BrokerSession

open Proc

/-! ## Journals of attempts and answers -/

/-- A change of the counts of unanswered commits: an attempt at committing a partition, or an
answer for it handled by the bridge. -/
inductive PendingMove where
  | attempt (p : Int)
  | answer (p : Int)
  deriving DecidableEq, Repr

namespace PendingMove

/-- The counts after the change. -/
def apply (m : PartitionMap Nat) : PendingMove → PartitionMap Nat
  | attempt p => m.addPending p
  | answer p => m.settlePending p

def attemptOf : PendingMove → Option Int
  | attempt p => some p
  | answer _ => none

def answerOf : PendingMove → Option Int
  | attempt _ => none
  | answer p => some p

/-- Every answer for a partition answers an attempt at it made before and not answered yet. -/
def Answered (ops : List PendingMove) : Prop :=
  ∀ pre post a, ops = pre ++ answer a :: post → pre.count (answer a) < pre.count (attempt a)

theorem Answered.of_append {ops more : List PendingMove} (h : Answered (ops ++ more)) :
    Answered ops :=
  fun pre post a hops => h pre (post ++ more) a (by rw [hops]; simp)

theorem sorted_foldl_apply {m : PartitionMap Nat} (hm : m.Sorted) :
    ∀ ops : List PendingMove, (ops.foldl apply m).Sorted := by
  intro ops
  induction ops generalizing m with
  | nil => exact hm
  | cons x ops ih =>
    cases x with
    | attempt p => exact ih (hm.addPending p)
    | answer p => exact ih (hm.settlePending p)

/-- Along a journal whose answers only answer attempts already made, no answer meets a count of
zero: each count gains its attempts and loses its answers. -/
theorem count_foldl_apply {ops : List PendingMove} (h : Answered ops) (m : PartitionMap Nat)
    (a : Int) :
    ((ops.foldl apply m).lookup a).getD 0 + ops.count (answer a) =
      (m.lookup a).getD 0 + ops.count (attempt a) := by
  induction ops using List.reverseRecOn with
  | nil => rfl
  | append_singleton ops x ih =>
    have hc := ih h.of_append
    rw [List.foldl_append, List.foldl_cons, List.foldl_nil, List.count_append,
      List.count_append]
    cases x with
    | attempt b =>
      rw [apply, PartitionMap.count_addPending]
      by_cases hb : a = b
      · subst hb
        simp only [if_true, List.count_singleton_self, List.count_singleton, reduceCtorEq,
          beq_iff_eq, if_false]
        omega
      · simp only [hb, if_false, List.count_singleton, beq_iff_eq, reduceCtorEq]
        simp only [PendingMove.attempt.injEq, Ne.symm hb, if_false]
        omega
    | answer b =>
      rw [apply, PartitionMap.count_settlePending]
      by_cases hb : a = b
      · subst hb
        -- the answer meets the count of an attempt not answered yet
        have hlt := h ops [] a rfl
        simp only [if_true, List.count_singleton_self, List.count_singleton, reduceCtorEq,
          beq_iff_eq, if_false]
        omega
      · simp only [hb, if_false, List.count_singleton, beq_iff_eq, reduceCtorEq]
        simp only [PendingMove.answer.injEq, Ne.symm hb, if_false]
        omega

/-- Once every attempt is answered, by answers that only answer attempts already made, every
count is where it started. -/
theorem count_foldl_apply_of_balanced {ops : List PendingMove} (h : Answered ops)
    (hb : ∀ a, ops.count (attempt a) = ops.count (answer a)) (m : PartitionMap Nat) (a : Int) :
    ((ops.foldl apply m).lookup a).getD 0 = (m.lookup a).getD 0 := by
  have hc := count_foldl_apply h m a
  rw [hb a] at hc
  omega

end PendingMove

/-- The partitions an event answers commits of on `topic`, one for each entry, in order. -/
def BrokerEvent.answers (topic : String) : BrokerEvent → List Int
  | .offsetCommit ps _ => (ps.filter (·.topic == topic)).map (·.number)
  | _ => []

/-- What reads answer on `topic`, in order. -/
def answersRead (topic : String) (rs : List Received) : List Int :=
  (eventsRead rs).flatMap (BrokerEvent.answers topic)

theorem answersRead_cons (topic : String) (r : Received) (rs : List Received) :
    answersRead topic (r :: rs) = answersRead topic [r] ++ answersRead topic rs := by
  cases r <;> simp [answersRead, eventsRead]

/-! ## What the bridge does, turn by turn -/

/-- A move of the rest of the session while the bridge is parked: commit attempts at the
partitions `as`, in order, and moves of the bus that leave the bridge's receiver `rx` where it
is. -/
def BridgeEnv (rx : Nat) (x y : Nat × World) (as : List Int) : Prop :=
  y.2.pending = as.foldl PartitionMap.addPending x.2.pending ∧ Bus.Reads rx x.2.bus y.2.bus []

/-- What one turn of the bridge does to the counts and the bus, with `owe` the answers of the
events read that it has still to handle. -/
inductive BridgeMove (topic : String) (rx : Nat) : World → List Int → World → List Int → Prop
  /-- neither the counts nor the bus -/
  | quiet {s s' : World} {owe : List Int} : s'.pending = s.pending → s'.bus = s.bus →
      BridgeMove topic rx s owe s' owe
  /-- the next answer handled -/
  | settle {s s' : World} {p : Int} {owe : List Int} : s'.pending = s.pending.settlePending p →
      s'.bus = s.bus → BridgeMove topic rx s (p :: owe) s' owe
  /-- the next read of its receiver, once everything read before is handled -/
  | recv {s s' : World} : s'.pending = s.pending → s'.bus = (s.bus.recv rx).2 →
      BridgeMove topic rx s [] s' (answersRead topic [(s.bus.recv rx).1])

/-- What the bridge parks for: news on its receiver, or its scope cancelled. -/
def bridgeWake (rx : Nat) : Wake World := { ready := fun w => w.bus.hasNews rx || w.scopeCancelled }

/-- `p` runs as a part of the bridge from world `s`, with `owe` still to handle: each of its
turns is a `BridgeMove` to a point where it still does, it parks only at the bridge's wake and
owing nothing, whatever the world it wakes in, and it finishes where `Q` holds. -/
inductive Handles (topic : String) (rx : Nat) {α : Type} (Q : α → List Int → Prop) :
    World → Act α → List Int → Prop
  | done {s : World} {a : α} {owe : List Int} : Q a owe → Handles topic rx Q s (.pure a) owe
  | parked {s : World} {k : Act α} : (∀ s', Handles topic rx Q s' k []) →
      Handles topic rx Q s (.wait (bridgeWake rx) k) []
  | busy {s : World} {p : Act α} {owe : List Int} (next : ∀ t s' p', Turn t s p s' p' → List Int) :
      ¬ Blocked p → p.result? = none →
      (∀ t s' p' (h : Turn t s p s' p'), BridgeMove topic rx s owe s' (next t s' p' h)) →
      (∀ t s' p' (h : Turn t s p s' p'), Handles topic rx Q s' p' (next t s' p' h)) →
      Handles topic rx Q s p owe

section Handles

variable {topic : String} {rx : Nat} {α β : Type} {Q : α → List Int → Prop}
  {Q' : β → List Int → Prop} {s : World} {owe : List Int}

theorem Handles.of_turns {p : Act α} (hb : ¬ Blocked p) (hres : p.result? = none)
    (h : ∀ t s' p', Turn t s p s' p' →
      ∃ owe', BridgeMove topic rx s owe s' owe' ∧ Handles topic rx Q s' p' owe') :
    Handles topic rx Q s p owe :=
  .busy (fun t s' p' ht => Classical.choose (h t s' p' ht)) hb hres
    (fun t s' p' ht => (Classical.choose_spec (h t s' p' ht)).1)
    (fun t s' p' ht => (Classical.choose_spec (h t s' p' ht)).2)

theorem Handles.turn {p p' : Act α} {t : Nat} {s' : World} (hp : Handles topic rx Q s p owe)
    (h : Turn t s p s' p') :
    ∃ owe', BridgeMove topic rx s owe s' owe' ∧ Handles topic rx Q s' p' owe' := by
  cases hp with
  | done => exact absurd h Turn.not_pure
  | parked hk =>
    obtain ⟨-, rfl, rfl⟩ := turn_wait_iff.1 h
    exact ⟨[], .quiet rfl rfl, hk _⟩
  | busy next _ _ hmove hnext => exact ⟨_, hmove t s' p' h, hnext t s' p' h⟩

/-- A part of the bridge is parked only at the bridge's wake, owing nothing, and stays a part
of the bridge whatever the rest of the session does meanwhile. -/
theorem Handles.parked_iff {p : Act α} {t : Nat} (hp : Handles topic rx Q s p owe)
    (h : Parked t s p) :
    owe = [] ∧ (bridgeWake rx).due t s = false ∧ ∀ s', Handles topic rx Q s' p [] := by
  cases hp with
  | done => exact absurd h Parked.not_pure
  | parked hk =>
    cases h with
    | wait hd => exact ⟨rfl, hd, fun _ => .parked hk⟩
  | busy _ hb _ _ _ => exact absurd h.blocked hb

theorem Handles.bind {p : Act α} {k : α → Act β} (hp : Handles topic rx Q s p owe)
    (hk : ∀ a owe s, Q a owe → Handles topic rx Q' s (k a) owe) :
    Handles topic rx Q' s (p.bind k) owe := by
  induction hp with
  | done hQ => exact hk _ _ _ hQ
  | parked _ ih => exact .parked ih
  | @busy s p owe next hb hres hmove _ ih =>
    refine .of_turns (fun h => hb (h.of_bind hres)) (by cases p <;> first | rfl | cases hres)
      fun t s' q h => ?_
    rcases Turn.of_bind h with ⟨a, rfl, -⟩ | ⟨p', hp', rfl⟩
    · cases hres
    · exact ⟨_, hmove t s' p' hp', ih t s' p' hp'⟩

theorem handles_look {k : Nat → World → Act α} (hk : ∀ t, Handles topic rx Q s (k t s) owe) :
    Handles topic rx Q s (.look k) owe :=
  .of_turns (by nofun) rfl fun t s' p' h => by
    obtain ⟨rfl, rfl⟩ := turn_look_iff.1 h
    exact ⟨owe, .quiet rfl rfl, hk t⟩

theorem handles_put_quiet {x : World} {k : Act α} (hp : x.pending = s.pending)
    (hb : x.bus = s.bus) (hk : Handles topic rx Q x k owe) : Handles topic rx Q s (.put x k) owe :=
  .of_turns (by nofun) rfl fun t s' p' h => by
    obtain ⟨rfl, rfl⟩ := turn_put_iff.1 h
    exact ⟨owe, .quiet hp hb, hk⟩

theorem handles_spawn {c : Act Unit} {k : Act α} (hk : Handles topic rx Q s k owe) :
    Handles topic rx Q s (.spawn c k) owe :=
  .of_turns (by nofun) rfl fun t s' p' h => by
    cases h
    exact ⟨owe, .quiet rfl rfl, hk⟩

theorem handles_gets_bind {h : World → β} {k : β → Act α}
    (hk : Handles topic rx Q s (k (h s)) owe) : Handles topic rx Q s (gets h >>= k) owe :=
  handles_look fun _ => hk

theorem handles_get_bind {k : World → Act α} (hk : Handles topic rx Q s (k s) owe) :
    Handles topic rx Q s (get >>= k) owe :=
  handles_look fun _ => hk

theorem handles_modify_bind {g : World → World} {k : Unit → Act α}
    (hg : ∀ w, (g w).pending = w.pending ∧ (g w).bus = w.bus)
    (hk : ∀ s, Handles topic rx Q s (k ()) owe) : Handles topic rx Q s (modify g >>= k) owe :=
  handles_look fun _ => handles_put_quiet (hg s).1 (hg s).2 (hk _)

theorem handles_modify {g : World → World} (hg : ∀ w, (g w).pending = w.pending ∧ (g w).bus = w.bus) :
    Handles topic rx (fun _ o => o = owe) s (modify g) owe :=
  handles_look fun _ => handles_put_quiet (hg s).1 (hg s).2 (.done rfl)

theorem handles_releasePending_bind {p : Int} {k : Unit → Act α}
    (hk : ∀ s, Handles topic rx Q s (k ()) owe) :
    Handles topic rx Q s (Act.releasePending p >>= k) (p :: owe) :=
  handles_look fun _ => .of_turns (by nofun) rfl fun t s' p' h => by
    obtain ⟨rfl, rfl⟩ := turn_put_iff.1 h
    exact ⟨owe, .settle rfl rfl, hk _⟩

theorem handles_recv_bind {k : Received → Act α}
    (hk : ∀ r s, Handles topic rx Q s (k r) (answersRead topic [r])) :
    Handles topic rx Q s (Proc.modifyGet (fun w =>
      let (r, b) := w.bus.recv rx; (r, { w with bus := b })) >>= k) [] :=
  handles_look fun _ => .of_turns (by nofun) rfl fun t s' p' h => by
    obtain ⟨rfl, rfl⟩ := turn_put_iff.1 h
    exact ⟨_, .recv rfl rfl, hk _ _⟩

theorem handles_forIn {γ : Type} {f : γ → PUnit → Act (ForInStep PUnit)} (owes : γ → List Int)
    (hf : ∀ x rest s, Handles topic rx (fun r owe => r = .yield ⟨⟩ ∧ owe = rest) s (f x ⟨⟩)
      (owes x ++ rest)) :
    ∀ (l : List γ) rest s, Handles topic rx (fun _ owe => owe = rest) s (forIn l ⟨⟩ f)
      (l.flatMap owes ++ rest)
  | [], rest, s => by
    rw [List.forIn_nil]
    exact .done rfl
  | x :: l, rest, s => by
    rw [List.forIn_cons, List.flatMap_cons, List.append_assoc]
    refine (hf x _ s).bind fun r owe s ⟨hr, howe⟩ => ?_
    subst hr howe
    exact handles_forIn owes hf l rest s

end Handles

/-! ## The bridge's parts -/

section Parts

variable {rx : Nat} {s : World}

theorem handles_revoke (topic : String) (ceiling : Span) :
    Handles topic rx (fun _ owe => owe = []) s (Act.revoke ceiling) [] := by
  unfold Act.revoke
  refine handles_get_bind ?_
  split
  · exact .done rfl
  · split
    · exact .done rfl
    · refine handles_put_quiet rfl rfl (handles_spawn (.done rfl))

theorem handles_assign (topic : String) (ps : List Partition) (owe : List Int) :
    Handles topic rx (fun _ o => o = owe) s (Act.assign ps) owe := by
  unfold Act.assign Act.disarmTimer
  refine handles_modify_bind (fun _ => ⟨rfl, rfl⟩) fun _ => ?_
  refine handles_modify_bind (fun w => ?_) fun _ => handles_modify fun _ => ⟨rfl, rfl⟩
  cases w.coordinator.timer <;> exact ⟨rfl, rfl⟩

/-- The entries of an acknowledgement, one by one, answer those of the topic. -/
theorem flatMap_answer (topic : String) (ps : List Position) :
    ps.flatMap (fun x => if (x.topic == topic) = true then [x.number] else []) =
      (ps.filter (·.topic == topic)).map (·.number) := by
  induction ps with
  | nil => rfl
  | cons x ps ih =>
    by_cases hx : (x.topic == topic) = true
    · simp only [List.flatMap_cons, List.filter_cons, hx, if_true, List.map_cons, ih]
      rfl
    · simp only [List.flatMap_cons, List.filter_cons, hx, Bool.false_eq_true, if_false, ih]
      rfl

/-- Handling an event takes one from the counts for each of its answers, in order, and
changes neither the counts nor the bus otherwise. -/
theorem handles_consumerEvent (c : SessionConfig) (e : BrokerEvent) :
    Handles c.topic rx (fun _ owe => owe = []) s (Act.consumerEvent c e) (e.answers c.topic) := by
  cases e with
  | offsetCommit ps fault =>
    unfold Act.consumerEvent
    refine Handles.bind (Q := fun _ owe => owe = []) ?_ fun _ _ _ h => .done h
    -- the loop handles its entries one by one
    rw [BrokerEvent.answers, ← flatMap_answer, ← List.append_nil (List.flatMap _ ps)]
    refine handles_forIn (fun x => if (x.topic == c.topic) = true then [x.number] else [])
      (fun x rest s => ?_) ps [] s
    split
    · exact handles_releasePending_bind fun _ => .done ⟨rfl, rfl⟩
    · exact .done ⟨rfl, rfl⟩
  | rebalance signal =>
    cases signal with
    | revoke ps => exact handles_revoke c.topic c.rebalanceCeiling
    | assign ps => exact (handles_assign c.topic ps []).bind fun _ _ _ h => .done h
    | failed _ => exact .done rfl
  | ready => exact .done rfl
  | connectError _ => exact .done rfl
  | clientError _ => exact .done rfl
  | disconnected => exact .done rfl

theorem handles_bridgeRound (c : SessionConfig) :
    Handles c.topic rx (fun _ owe => owe = []) s (Act.bridgeRound c rx) [] := by
  unfold Act.bridgeRound
  refine handles_gets_bind ?_
  split
  · exact .done rfl
  · refine handles_recv_bind fun r s => ?_
    cases r with
    | event e =>
      have h : answersRead c.topic [.event e] = e.answers c.topic := by
        simp [answersRead, eventsRead]
      rw [h]
      exact (handles_consumerEvent c e).bind fun x _ _ h => by
        cases x <;> exact .done h
    | lagged _ => exact .done rfl
    | closed => exact .done rfl
    | empty => exact .parked fun _ => .done rfl

end Parts

/-! ## Runs of the bridge -/

/-- Where the bridge stands, with `owe` still to handle: within a round, or stopped. -/
def BridgeAt (c : SessionConfig) (rx : Nat) (s : World) (q : Act Unit) (owe : List Int) : Prop :=
  (∃ cur, q = .loop cur (fun _ => Act.bridgeRound c rx) .pure ∧
    Handles c.topic rx (fun _ owe => owe = []) s cur owe) ∨ (q = .pure () ∧ owe = [])

section Runs

variable {c : SessionConfig} {rx : Nat}

theorem bridgeAt_start (s : World) : BridgeAt c rx s (Act.consumerBridge c rx) [] :=
  .inl ⟨_, rfl, handles_bridgeRound c⟩

theorem BridgeAt.turn {t : Nat} {s s' : World} {q q' : Act Unit} {owe : List Int}
    (hq : BridgeAt c rx s q owe) (h : Turn t s q s' q') :
    ∃ owe', BridgeMove c.topic rx s owe s' owe' ∧ BridgeAt c rx s' q' owe' := by
  rcases hq with ⟨cur, rfl, hcur⟩ | ⟨rfl, -⟩
  · cases h with
    | loopIn h =>
      obtain ⟨owe', hm, hcur'⟩ := hcur.turn h
      exact ⟨owe', hm, .inl ⟨_, rfl, hcur'⟩⟩
    | loopNext =>
      -- the round is over: on to the next one
      cases hcur with
      | done howe =>
        subst howe
        exact ⟨[], .quiet rfl rfl, .inl ⟨_, rfl, handles_bridgeRound c⟩⟩
      | busy _ _ hres _ _ => cases hres
    | loopDone =>
      cases hcur with
      | done howe => exact ⟨owe, .quiet rfl rfl, .inr ⟨rfl, howe⟩⟩
      | busy _ _ hres _ _ => cases hres
  · exact absurd h Turn.not_pure

/-- The bridge is parked only at its wake, owing nothing, and the rest of the session may move
meanwhile. -/
theorem BridgeAt.parked_iff {t : Nat} {s : World} {q : Act Unit} {owe : List Int}
    (hq : BridgeAt c rx s q owe) (h : Parked t s q) :
    owe = [] ∧ (bridgeWake rx).due t s = false ∧ ∀ s', BridgeAt c rx s' q [] := by
  rcases hq with ⟨cur, rfl, hcur⟩ | ⟨rfl, -⟩
  · cases h with
    | loop h =>
      obtain ⟨rfl, hd, hall⟩ := hcur.parked_iff h
      exact ⟨rfl, hd, fun s' => .inl ⟨_, rfl, hall s'⟩⟩
  · exact absurd h Parked.not_pure

/-- Over a run of the bridge among the rest of the session, the counts are the fold of a
journal whose attempts are the session's and whose answers, followed by what the bridge still
owes, are what it owed and what its receiver read, in order. -/
theorem BridgeAt.runsWith {t t' : Nat} {s s' : World} {q q' : Act Unit} {as : List Int}
    (h : RunsWith (BridgeEnv rx) t s q as t' s' q') :
    ∀ {owe : List Int}, BridgeAt c rx s q owe →
      ∃ (rs : List Received) (ops : List PendingMove) (owe' : List Int), Bus.Reads rx s.bus s'.bus rs ∧
        ops.filterMap PendingMove.attemptOf = as ∧
        ops.filterMap PendingMove.answerOf ++ owe' = owe ++ answersRead c.topic rs ∧
        s'.pending = ops.foldl PendingMove.apply s.pending ∧ BridgeAt c rx s' q' owe' := by
  induction h with
  | refl =>
    intro owe hq
    exact ⟨[], [], owe, .refl, rfl, by simp [answersRead, eventsRead], rfl, hq⟩
  | @step t t' s s₁ s' q q₁ q' as hturn _ ih =>
    intro owe hq
    obtain ⟨owe₁, hm, hq₁⟩ := hq.turn hturn
    obtain ⟨rs, ops, owe', hr, ha, hans, hfold, hq'⟩ := ih hq₁
    cases hm with
    | quiet hp hb =>
      rw [hb] at hr
      exact ⟨rs, ops, owe', hr, ha, hans, hp ▸ hfold, hq'⟩
    | settle hp hb =>
      rename_i p
      -- the answer goes to the front of the journal
      rw [hb] at hr
      refine ⟨rs, .answer p :: ops, owe', hr, ha, ?_, by rw [hfold, hp]; rfl, hq'⟩
      simp [PendingMove.answerOf, hans]
    | recv hp hb =>
      -- the read goes to the front of the reads
      rw [hb] at hr
      refine ⟨_ :: rs, ops, owe', .recv hr, ha, ?_, hp ▸ hfold, hq'⟩
      rw [hans, answersRead_cons _ _ rs, List.nil_append]
  | @env t t₁ t' s s₁ s' q q' l as hpark he _ ih =>
    intro owe hq
    obtain ⟨rfl, -, hall⟩ := hq.parked_iff hpark
    obtain ⟨rs, ops, owe', hr, ha, hans, hfold, hq'⟩ := ih (hall s₁)
    obtain ⟨hp, hasides⟩ := he
    -- the session's attempts go to the front of the journal
    refine ⟨rs, l.map PendingMove.attempt ++ ops, owe', by simpa using hasides.trans hr, ?_, ?_, ?_, hq'⟩
    · have hcomp : PendingMove.attemptOf ∘ PendingMove.attempt = some := rfl
      rw [List.filterMap_append, ha, List.filterMap_map, hcomp, List.filterMap_some]
    · have hcomp : PendingMove.answerOf ∘ PendingMove.attempt = fun _ => none := rfl
      rw [List.filterMap_append, List.filterMap_map, hcomp, List.filterMap_none,
        List.nil_append, hans]
    · rw [hfold, hp, List.foldl_append, List.foldl_map]
      rfl

/-- A parked bridge has read everything on its receiver. -/
theorem caughtUp_of_due_eq_false {t : Nat} {w : World} {p : Nat}
    (hp : w.bus.receivers.lookup rx = some p) (hle : p ≤ w.bus.log.size)
    (hd : (bridgeWake rx).due t w = false) : w.bus.CaughtUp rx := by
  simp only [bridgeWake, Wake.due, Bool.false_or, Bool.or_eq_false_iff] at hd
  simp only [Bus.hasNews, hp, Bool.or_eq_false_iff, decide_eq_false_iff_not, Nat.not_lt] at hd
  rw [Bus.CaughtUp, hp, Nat.le_antisymm hle hd.1.1]

end Runs

end BrokerSession
