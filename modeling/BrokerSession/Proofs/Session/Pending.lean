import Mathlib
import BrokerSession.Proofs.Broker.Reads
import BrokerSession.Proofs.Session.Consume

/-!
# Unanswered commits

The session counts, partition by partition, the commit attempts it issued whose answer the
bridge has not yet handled (`World.pendingOf`). An attempt adds one (`finishes_trackCommit`).
An acknowledgement the bridge handles takes one away for each of its entries with the session's
topic, never below zero: an entry of another topic never counts, and one for a partition
without a count is dropped (`finishes_consumerEvent_offsetCommit`). Neither changes anything
else, and both keep the counts sorted by partition, so the threshold check reads every count
(`World.pendingUnderThreshold_iff`).

The bridge handles the events its receiver reads, and `Bus.Reads.passes` says which: each at
most once and in order, and all of them unless it is told it lagged. What this makes of the
counts over whole runs is the subject of the next module.
-/

namespace BrokerSession

open Proc

namespace PartitionMap

variable (m : PartitionMap Nat) (p q : Int)

/-- An attempt adds one to the count of its partition and leaves the others. -/
theorem count_addPending :
    ((m.addPending p).lookup q).getD 0 = (m.lookup q).getD 0 + if q = p then 1 else 0 := by
  unfold addPending
  rw [lookup_insert]
  split
  · next hq => subst hq; rfl
  · exact (Nat.add_zero _).symm

/-- An answer takes one from the count of its partition, never below zero, and leaves the
others. -/
theorem count_settlePending :
    ((m.settlePending p).lookup q).getD 0 = (m.lookup q).getD 0 - if q = p then 1 else 0 := by
  unfold settlePending
  rcases hp : m.lookup p with _ | n <;> dsimp only
  · -- no count: the answer is dropped, and a missing count reads as zero
    by_cases hq : q = p
    · subst hq; simp [hp]
    · rw [if_neg hq, Nat.sub_zero]
  · rw [lookup_insert]
    by_cases hq : q = p
    · subst hq; simp [hp]
    · rw [if_neg hq, if_neg hq, Nat.sub_zero]

variable {m}

theorem Sorted.addPending (hm : m.Sorted) : (m.addPending p).Sorted := hm.insert _ _

theorem Sorted.settlePending (hm : m.Sorted) : (m.settlePending p).Sorted := by
  unfold PartitionMap.settlePending
  split
  · exact hm.insert _ _
  · exact hm

end PartitionMap

namespace World

/-- `s'` is `s` but for the counts of unanswered commits. -/
def SameButPending (s s' : World) : Prop := { s' with pending := s.pending } = s

theorem SameButPending.refl (s : World) : SameButPending s s := rfl

theorem SameButPending.trans {s s₁ s' : World} (h₁ : SameButPending s s₁)
    (h₂ : SameButPending s₁ s') : SameButPending s s' := by
  unfold SameButPending at *
  calc { s' with pending := s.pending }
      = { { s' with pending := s₁.pending } with pending := s.pending } := rfl
    _ = s := by rw [h₂]; exact h₁

/-- With the counts sorted by partition, the threshold check passes exactly when no count is
above the threshold. -/
theorem pendingUnderThreshold_iff {w : World} (hs : w.pending.Sorted) (th : Nat) :
    w.pendingUnderThreshold th = true ↔ ∀ p, w.pendingOf p ≤ th := by
  unfold pendingUnderThreshold pendingOf
  rw [List.all_eq_true]
  constructor
  · intro h p
    cases hp : w.pending.lookup p with
    | none => exact Nat.zero_le th
    | some n => simpa using h (p, n) (hs.mem_iff.2 hp)
  · rintro h ⟨p, n⟩ hmem
    have hp := h p
    rw [hs.mem_iff.1 hmem] at hp
    simpa using hp

end World

theorem sum_map_ite_eq_countP {γ : Type} (l : List γ) (P : γ → Bool) :
    (l.map fun x => if P x then 1 else 0).sum = l.countP P := by
  induction l with
  | nil => rfl
  | cons x l ih => rw [List.map_cons, List.sum_cons, ih, List.countP_cons, Nat.add_comm]

/-! ## What each step does to the counts -/

namespace Proc

section Counts

variable {R : Nat × World → Nat × World → Prop} {t t' : Nat} {s s' : World}

theorem finishes_trackCommit {p : Int} {u : Unit} (h : Finishes R t s (Act.trackCommit p) t' s' u) :
    t' = t ∧ (∀ q, s'.pendingOf q = s.pendingOf q + if q = p then 1 else 0) ∧
      (s.pending.Sorted → s'.pending.Sorted) ∧ World.SameButPending s s' := by
  unfold Act.trackCommit at h
  simp only [Proc.modify, finishes_look_iff, finishes_put_iff, finishes_pure_iff] at h
  obtain ⟨-, rfl, rfl⟩ := h
  exact ⟨rfl, PartitionMap.count_addPending s.pending p, fun hs => hs.addPending p, rfl⟩

theorem finishes_releasePending {p : Int} {u : Unit}
    (h : Finishes R t s (Act.releasePending p) t' s' u) :
    t' = t ∧ (∀ q, s'.pendingOf q = s.pendingOf q - if q = p then 1 else 0) ∧
      (s.pending.Sorted → s'.pending.Sorted) ∧ World.SameButPending s s' := by
  unfold Act.releasePending at h
  simp only [Proc.modify, finishes_look_iff, finishes_put_iff, finishes_pure_iff] at h
  obtain ⟨-, rfl, rfl⟩ := h
  exact ⟨rfl, PartitionMap.count_settlePending s.pending p, fun hs => hs.settlePending p, rfl⟩

/-- A loop over `l` whose body finishes at once, taking `k x q` from each count `q` and
changing nothing else, finishes at once having taken the sum over `l`. -/
theorem finishes_forIn_lower {γ : Type} {f : γ → PUnit → Act (ForInStep PUnit)} (k : γ → Int → Nat)
    (hf : ∀ x {t t' : Nat} {s s' : World} {y : ForInStep PUnit}, Finishes R t s (f x ⟨⟩) t' s' y →
      t' = t ∧ y = .yield ⟨⟩ ∧ (∀ q, s'.pendingOf q = s.pendingOf q - k x q) ∧
        (s.pending.Sorted → s'.pending.Sorted) ∧ World.SameButPending s s') :
    ∀ (l : List γ) {t t' : Nat} {s s' : World} {y : PUnit}, Finishes R t s (forIn l ⟨⟩ f) t' s' y →
      t' = t ∧ (∀ q, s'.pendingOf q = s.pendingOf q - (l.map (k · q)).sum) ∧
        (s.pending.Sorted → s'.pending.Sorted) ∧ World.SameButPending s s'
  | [], _, _, _, _, _, h => by
    rw [List.forIn_nil, pure_eq, finishes_pure_iff] at h
    obtain ⟨-, rfl, rfl⟩ := h
    exact ⟨rfl, fun q => rfl, id, .refl _⟩
  | x :: l, _, _, _, _, _, h => by
    rw [List.forIn_cons, finishes_bind_iff] at h
    obtain ⟨t₁, s₁, y₁, h₁, h₂⟩ := h
    obtain ⟨rfl, rfl, hq₁, hs₁, hf₁⟩ := hf x h₁
    obtain ⟨rfl, hq₂, hs₂, hf₂⟩ := finishes_forIn_lower k hf l h₂
    refine ⟨rfl, fun q => ?_, hs₂ ∘ hs₁, hf₁.trans hf₂⟩
    rw [hq₂, hq₁, List.map_cons, List.sum_cons, Nat.sub_sub]

/-- An acknowledgement the bridge handles takes from each count one for each of its entries with
the session's topic and that partition, never below zero. -/
theorem finishes_consumerEvent_offsetCommit {c : SessionConfig} {ps : List Position}
    {fault : Option Fault} {r : Except Halt Unit}
    (h : Finishes R t s (Act.consumerEvent c (.offsetCommit ps fault)) t' s' r) :
    t' = t ∧ r = .ok () ∧
      (∀ q, s'.pendingOf q = s.pendingOf q - ps.countP fun x => x.topic == c.topic && x.number == q) ∧
      (s.pending.Sorted → s'.pending.Sorted) ∧ World.SameButPending s s' := by
  -- each entry of the acknowledgement takes one from its partition if it has the session's topic
  have hbody : ∀ (x : Position) {t t' : Nat} {s s' : World} {y : ForInStep PUnit},
      Finishes R t s (if (x.topic == c.topic) = true then do
          Act.releasePending x.number
          Pure.pure (ForInStep.yield PUnit.unit)
        else Pure.pure (ForInStep.yield PUnit.unit)) t' s' y →
      t' = t ∧ y = .yield ⟨⟩ ∧
        (∀ q, s'.pendingOf q =
          s.pendingOf q - if (x.topic == c.topic && x.number == q) = true then 1 else 0) ∧
        (s.pending.Sorted → s'.pending.Sorted) ∧ World.SameButPending s s' := by
    intro x t t' s s' y hx
    split at hx
    · next htopic =>
      obtain ⟨t₂, s₂, u, hrel, hx⟩ := finishes_bind_iff.1 hx
      rw [pure_eq, finishes_pure_iff] at hx
      obtain ⟨rfl, rfl, rfl⟩ := hx
      obtain ⟨rfl, hq, hs, hf⟩ := finishes_releasePending hrel
      refine ⟨rfl, rfl, fun q => ?_, hs, hf⟩
      rw [hq]
      by_cases hqx : q = x.number
      · simp [hqx, htopic]
      · simp [hqx, htopic, Ne.symm hqx]
    · next htopic =>
      rw [pure_eq, finishes_pure_iff] at hx
      obtain ⟨rfl, rfl, rfl⟩ := hx
      exact ⟨rfl, rfl, fun q => by simp [htopic], id, .refl _⟩
  unfold Act.consumerEvent at h
  dsimp only at h
  obtain ⟨t₁, s₁, u, hloop, h⟩ := finishes_bind_iff.1 h
  rw [pure_eq, finishes_pure_iff] at h
  obtain ⟨rfl, rfl, rfl⟩ := h
  obtain ⟨rfl, hq, hs, hf⟩ := finishes_forIn_lower _ hbody ps hloop
  exact ⟨rfl, rfl, fun q => by rw [hq, sum_map_ite_eq_countP], hs, hf⟩

end Counts

end Proc

end BrokerSession
