import BrokerSession.Cancel

/-!
# What cancelling does

A token lies under `j` when it is `j` or its parent, numbered before it, lies under `j`
(`Tokens.Under`). Cancelling `j` marks exactly the tokens under `j` and keeps every parent
(`Tokens.cancel_nodes`): its one pass in order meets each parent before the tokens below it, and
the list of tokens it hit holds exactly those met so far that lie under `j`. A new token starts
cancelled exactly when its parent is and changes no other token (`Tokens.isCancelled_child`).
So a cancelled token stays cancelled.
-/

namespace BrokerSession

namespace Tokens

/-- The parent of token `k`, if it has one. -/
def parentOf (t : Tokens) (k : Nat) : Option Nat := t.nodes[k]?.bind (·.parent)

/-- Token `k` is `j` or lies below it, through parents each numbered before its child. -/
inductive Under (t : Tokens) (j : Nat) : Nat → Prop
  | self : Under t j j
  | child {k p : Nat} : t.parentOf k = some p → p < k → Under t j p → Under t j k

variable {t : Tokens} {j k : Nat}

theorem Under.le (h : t.Under j k) : j ≤ k := by
  induction h with
  | self => exact Nat.le_refl _
  | child _ hp _ ih => omega

theorem under_iff : t.Under j k ↔ k = j ∨ ∃ p, t.parentOf k = some p ∧ p < k ∧ t.Under j p := by
  constructor
  · rintro (_ | ⟨hk, hp, hu⟩)
    · exact .inl rfl
    · exact .inr ⟨_, hk, hp, hu⟩
  · rintro (rfl | ⟨p, hk, hp, hu⟩)
    · exact .self
    · exact .child hk hp hu

/-! ## Cancelling -/

open Classical in
/-- Token `i` with node `n`, as cancelling `j` leaves it. -/
noncomputable def marked (t : Tokens) (j i : Nat) (n : TokenNode) : TokenNode :=
  if t.Under j i then { n with cancelled := true } else n

/-- One step of the pass of `cancel j`: the node read next, with the nodes written so far and
the tokens hit so far. -/
def cancelStep (j : Nat) (acc : Array TokenNode × List Nat) (n : TokenNode) :
    Array TokenNode × List Nat :=
  let (out, hit) := acc
  let i := out.size
  let below := match n.parent with
    | some p => hit.contains p
    | none => false
  if i == j || below then (out.push { n with cancelled := true }, i :: hit)
  else (out.push n, hit)

theorem cancel_eq (t : Tokens) (j : Nat) :
    t.cancel j = { nodes := (t.nodes.foldl (cancelStep j) (#[], [])).1 } := rfl

open Classical in
/-- The step on the node of token `i`, when the tokens hit so far are those before `i` that
lie under `j`: it hits `i` exactly when `i` lies under `j`. -/
theorem cancelStep_eq {out : Array TokenNode} {hit : List Nat} {n : TokenNode}
    (hn : t.nodes[out.size]? = some n) (hhit : ∀ m, m ∈ hit ↔ m < out.size ∧ t.Under j m) :
    cancelStep j (out, hit) n =
      (out.push (t.marked j out.size n),
        if t.Under j out.size then out.size :: hit else hit) := by
  have hpar : t.parentOf out.size = n.parent := by simp [parentOf, hn]
  -- the step's test is the definition of lying under `j`, read at `out.size`
  have htest : ((out.size == j) || match n.parent with
      | some p => hit.contains p
      | none => false) = true ↔ t.Under j out.size := by
    rw [under_iff, hpar]
    cases n.parent with
    | none => simp
    | some p => simp [hhit]
  unfold cancelStep marked
  dsimp only
  by_cases hu : t.Under j out.size
  · rw [if_pos (htest.2 hu), if_pos hu, if_pos hu]
  · rw [if_neg (mt htest.1 hu), if_neg hu, if_neg hu]

theorem cancel_nodes (t : Tokens) (j : Nat) :
    (t.cancel j).nodes.toList = t.nodes.toList.mapIdx (t.marked j) := by
  -- the pass over the nodes still to read, after `pre`, with what it wrote and hit so far
  suffices h : ∀ (l pre : List TokenNode) (out : Array TokenNode) (hit : List Nat),
      pre ++ l = t.nodes.toList → out.toList = pre.mapIdx (t.marked j) →
      (∀ m, m ∈ hit ↔ m < pre.length ∧ t.Under j m) →
      (l.foldl (cancelStep j) (out, hit)).1.toList = t.nodes.toList.mapIdx (t.marked j) by
    rw [cancel_eq, ← Array.foldl_toList]
    exact h _ [] #[] [] rfl rfl (by simp)
  intro l
  induction l with
  | nil =>
    intro pre out hit hpre hout _
    rw [List.foldl_nil, hout, ← hpre, List.append_nil]
  | cons n l ih =>
    intro pre out hit hpre hout hhit
    have hsize : out.size = pre.length := by
      rw [← Array.length_toList, hout, List.length_mapIdx]
    have hn : t.nodes[out.size]? = some n := by
      rw [← Array.getElem?_toList, ← hpre, hsize, List.getElem?_append_right (Nat.le_refl _)]
      simp
    rw [List.foldl_cons, cancelStep_eq hn (by simpa [hsize] using hhit)]
    refine ih (pre ++ [n]) _ _ (by simpa using hpre) ?_ ?_
    · rw [Array.toList_push, hout, List.mapIdx_concat, hsize]
    · intro m
      rw [List.length_append, List.length_singleton, hsize]
      by_cases hu : t.Under j pre.length
      · rw [if_pos hu, List.mem_cons, hhit]
        constructor
        · rintro (rfl | ⟨hm, hu'⟩)
          · exact ⟨Nat.lt_succ_self _, hu⟩
          · exact ⟨by omega, hu'⟩
        · rintro ⟨hm, hu'⟩
          rcases Nat.lt_succ_iff_lt_or_eq.1 hm with hm | rfl
          · exact .inr ⟨hm, hu'⟩
          · exact .inl rfl
      · rw [if_neg hu, hhit]
        constructor
        · rintro ⟨hm, hu'⟩
          exact ⟨by omega, hu'⟩
        · rintro ⟨hm, hu'⟩
          rcases Nat.lt_succ_iff_lt_or_eq.1 hm with hm | rfl
          · exact ⟨hm, hu'⟩
          · exact absurd hu' hu

theorem getElem?_cancel (t : Tokens) (j k : Nat) :
    (t.cancel j).nodes[k]? = t.nodes[k]?.map (t.marked j k) := by
  rw [← Array.getElem?_toList, cancel_nodes, List.getElem?_mapIdx, Array.getElem?_toList]

@[simp] theorem size_cancel (t : Tokens) (j : Nat) : (t.cancel j).nodes.size = t.nodes.size := by
  rw [← Array.length_toList, cancel_nodes, List.length_mapIdx, Array.length_toList]

@[simp] theorem parentOf_cancel (t : Tokens) (j k : Nat) : (t.cancel j).parentOf k = t.parentOf k := by
  unfold parentOf
  rw [getElem?_cancel]
  cases t.nodes[k]? with
  | none => rfl
  | some n => by_cases hu : t.Under j k <;> simp [marked, hu]

theorem isCancelled_cancel (hk : k < t.nodes.size) :
    (t.cancel j).isCancelled k = true ↔ t.isCancelled k = true ∨ t.Under j k := by
  obtain ⟨n, hn⟩ : ∃ n, t.nodes[k]? = some n := ⟨_, Array.getElem?_eq_getElem hk⟩
  unfold isCancelled
  rw [getElem?_cancel, hn]
  by_cases hu : t.Under j k <;> simp [marked, hu]

theorem lt_size_of_isCancelled (h : t.isCancelled k = true) : k < t.nodes.size := by
  unfold isCancelled at h
  cases hn : t.nodes[k]? with
  | none => rw [hn] at h; cases h
  | some n => exact (Array.getElem?_eq_some_iff.1 hn).1

theorem isCancelled_cancel_of (h : t.isCancelled k = true) : (t.cancel j).isCancelled k = true :=
  (isCancelled_cancel (lt_size_of_isCancelled h)).2 (.inl h)

theorem isCancelled_cancel_self (hk : k < t.nodes.size) : (t.cancel k).isCancelled k = true :=
  (isCancelled_cancel hk).2 (.inr .self)

/-! ## New tokens -/

theorem child_fst (t : Tokens) (p : Nat) : (t.child p).1 = t.nodes.size := rfl

@[simp] theorem size_child (t : Tokens) (p : Nat) : (t.child p).2.nodes.size = t.nodes.size + 1 := by
  simp [child]

theorem isCancelled_child (t : Tokens) (p k : Nat) :
    (t.child p).2.isCancelled k = if k = t.nodes.size then t.isCancelled p else t.isCancelled k := by
  by_cases hk : k = t.nodes.size
  · subst hk
    simp [child, isCancelled]
  · simp [child, isCancelled, hk, Array.getElem?_push]

theorem isCancelled_child_of (p : Nat) (h : t.isCancelled k = true) :
    (t.child p).2.isCancelled k = true := by
  have hk : k ≠ t.nodes.size := Nat.ne_of_lt (lt_size_of_isCancelled h)
  rw [isCancelled_child, if_neg hk, h]

theorem parentOf_child (t : Tokens) (p k : Nat) :
    (t.child p).2.parentOf k = if k = t.nodes.size then some p else t.parentOf k := by
  by_cases hk : k = t.nodes.size
  · subst hk
    simp [child, parentOf]
  · simp [child, parentOf, hk, Array.getElem?_push]

end Tokens

end BrokerSession
