import BrokerSession.Proofs.Session.Untouched
import BrokerSession.Proofs.Retry.Run
import Mathlib.Data.List.Forall2

/-!
# Committing the window

A commit takes the ended side of the window, empties the window, and commits every partition
side by side: partition number `i` (in the window's order) waits `i` staggers and a jitter,
then commits its end offset under the retry executor, each attempt counting one pending
commit of the partition and sending its position to the broker once. The answer gathers the
faults of the partitions' runs in the window's order: a fatal one as it is, the others folded
into one.

The environment here is everything else in the session, which does not touch the window
(`Keeping World.window`). The main statement, `commit_answers`, says what every run of a
commit does: the window ends empty, and the answer is the settling of the faults of one answer
per partition's run, each of which that run can give on its own. Since the runs keep the
window (`keeps_commitPartition`), each is only environment to the others, and the order in
which they finish does not show in the answer.
-/

namespace BrokerSession

open Proc

section Lists

variable {ε α β : Type}

theorem mapM_zipIdx_snd {l : List α} {g : Nat → Except ε β} :
    (l.zipIdx.map fun x => g x.2).mapM id = (List.range l.length).mapM g := by
  rw [List.mapM_map, List.range_eq_range', ← List.zipIdx_map_snd, List.mapM_map]
  rfl

end Lists

variable {t t' : Nat} {s s' : World}

/-! ## One attempt -/

/-- The consumer connection and the pending commits: what a commit attempt changes. -/
def World.commitState (w : World) : ScriptedConsumer × PartitionMap Nat := (w.consumer, w.pending)

theorem returns_ack_iff {b : Bool} {e : BrokerEvent} {R : Except Fault Unit}
    {a : Except Fault Unit} :
    Returns (Keeping World.commitState) t s
        (if b = true then Act.emit e >>= fun _ => Pure.pure R else Pure.pure R) t' s' a ↔
      a = R ∧ s'.commitState = s.commitState := by
  cases b
  · simp only [Bool.false_eq_true, if_false, pure_eq, keeping_pure_iff]
  · simp only [if_true, Act.emit, keeping_modify_bind_iff, pure_eq, keeping_pure_iff]
    constructor
    · rintro ⟨x, hx, ha, hs'⟩
      exact ⟨ha, hs'.trans hx⟩
    · rintro ⟨ha, hs'⟩
      exact ⟨s, rfl, ha, hs'⟩

theorem returns_commitAttempt_iff {pos : Position} {a : Except Fault Unit} :
    Returns (Keeping World.commitState) t s (Act.commitAttempt pos) t' s' a ↔
      s'.consumer = (s.consumer.commit pos).2 ∧
      s'.pending = s.pending.insert pos.number ((s.pending.lookup pos.number).getD 0 + 1) ∧
      a = match (s.consumer.commit pos).1 with
        | some e => .error e
        | none => .ok () := by
  unfold Act.commitAttempt Act.trackCommit Act.consumerCommit
  simp only [keeping_modify_bind_iff, keeping_modifyGet_bind_iff, keeping_gets_bind_iff,
    returns_ack_iff]
  simp only [World.commitState, Prod.mk.injEq]
  constructor
  · rintro ⟨x, ⟨hc, hp⟩, x₁, ⟨hc₁, hp₁⟩, x₂, ⟨hc₂, hp₂⟩, ha, hc', hp'⟩
    rw [hc₁, hc] at hc₂ ha
    rw [hp₁, hp] at hp₂
    refine ⟨hc'.trans hc₂, hp'.trans hp₂, ?_⟩
    revert ha
    cases (s.consumer.commit pos).1 <;> exact id
  · rintro ⟨hc', hp', ha⟩
    let p' := s.pending.insert pos.number ((s.pending.lookup pos.number).getD 0 + 1)
    refine ⟨s, ⟨rfl, rfl⟩, { s with pending := p' }, ⟨rfl, rfl⟩,
      { s with consumer := (s.consumer.commit pos).2, pending := p' }, ⟨rfl, rfl⟩, ?_, hc', hp'⟩
    revert ha
    cases (s.consumer.commit pos).1 <;> exact id
/-! ## The whole commit -/

/-- Every run of a commit empties the window; with nothing ended it answers `ok`, and otherwise it
settles the faults of one run per ended partition, in the window's order. -/
theorem returns_commit_iff {c : SessionConfig} {r : Except Fault Unit} :
    Returns (Keeping World.window) t s (Act.commit c) t' s' r ↔
      s'.window = { topic := s.window.topic } ∧
      if s.window.ended = [] then r = .ok ()
      else ∃ delays, (List.range s.window.ended.length).mapM (Act.staggerDelay c) = .ok delays ∧
        ∃ rs, List.Forall₂ (Answers World.window { topic := s.window.topic })
            ((s.window.ended.zip delays).map fun e =>
              Act.commitPartition c ⟨⟨s.window.topic, e.1.1⟩, e.1.2⟩ e.2) rs ∧
          r = Act.settleWindow "Failure to commit offsets" (Act.faultsOf rs) := by
  unfold Act.commit
  rw [keeping_get_bind_iff]
  simp only [OffsetWindow.flush, keeping_set_bind_iff]
  -- the world read has the window of `s`, and nothing else of it is used
  refine Iff.trans ⟨fun h => ?_, fun h => ⟨s, rfl, h⟩⟩ ?_
  · obtain ⟨x, hx, hr⟩ := h
    rw [hx] at hr
    exact hr.restart rfl
  by_cases he : s.window.ended = []
  · simp only [he, List.map_nil, List.isEmpty_nil, if_true, pure_eq, keeping_pure_iff]
    exact And.comm
  · have hne : (s.window.ended.map fun x : Int × Int =>
        ({ partition := { topic := s.window.topic, number := x.1 }, offset := x.2 } : Position)).isEmpty
        = false := by
      simpa using he
    simp only [hne, Bool.false_eq_true, if_false, he, returns_orHalt_bind_iff, mapM_zipIdx_snd,
      List.length_map, List.zip_map_left, List.map_map, Function.comp_def, Prod.map_fst, Prod.map_snd,
      id_eq]
    rw [← exists_and_left]
    refine exists_congr fun delays => ?_
    rw [and_left_comm]
    refine and_congr_right fun _ => ?_
    -- the partitions' runs keep the window, so they run side by side as if alone
    have hk : ∀ p ∈ (s.window.ended.zip delays).map (fun e =>
        Act.commitPartition c ⟨⟨s.window.topic, e.1.1⟩, e.1.2⟩ e.2),
        Keeps World.window { topic := s.window.topic } p := by
      intro p hp
      obtain ⟨e, -, rfl⟩ := List.mem_map.1 hp
      exact (untouched_window _).keeps_commitPartition (fun _ _ => rfl) (fun _ _ => rfl) c _ _
    rw [returns_all_bind_iff hk rfl]
    simp only [pure_eq, keeping_pure_iff]
    constructor
    · rintro ⟨rs, hf, hr, hs'⟩
      exact ⟨hs', rs, hf, hr⟩
    · rintro ⟨hs', rs, hf, hr⟩
      exact ⟨rs, hf, hr, hs'⟩

/-- A commit empties the window, runs the commit of every ended partition side by side, and answers
the settling of their faults in the window's order, whatever order they finished in; each attempt
counts one pending commit and sends its position once. -/
theorem commit_answers (c : SessionConfig) :
    (∀ {t t' : Nat} {s s' : World} {r : Except Fault Unit},
      Returns (Keeping World.window) t s (Act.commit c) t' s' r ↔
        s'.window = { topic := s.window.topic } ∧
        if s.window.ended = [] then r = .ok ()
        else ∃ delays, (List.range s.window.ended.length).mapM (Act.staggerDelay c) = .ok delays ∧
          ∃ rs, List.Forall₂ (Answers World.window { topic := s.window.topic })
              ((s.window.ended.zip delays).map fun e =>
                Act.commitPartition c ⟨⟨s.window.topic, e.1.1⟩, e.1.2⟩ e.2) rs ∧
            r = Act.settleWindow "Failure to commit offsets" (Act.faultsOf rs)) ∧
    (∀ {t t' : Nat} {s s' : World} (pos : Position) {a : Except Fault Unit},
      Returns (Keeping World.commitState) t s (Act.commitAttempt pos) t' s' a ↔
        s'.consumer = (s.consumer.commit pos).2 ∧
        s'.pending = s.pending.insert pos.number ((s.pending.lookup pos.number).getD 0 + 1) ∧
        a = match (s.consumer.commit pos).1 with
          | some e => .error e
          | none => .ok ()) :=
  ⟨returns_commit_iff, fun _ => returns_commitAttempt_iff⟩

end BrokerSession
