import BrokerSession.Offsets
import Mathlib.Data.List.Sort
import Mathlib.Data.List.Induction

/-!
# The offset window agrees with its history

The window of a consuming session is changed by three operations (`WindowOp`): a record of a
consumed offset, a seek, and a flush of one side. This module says, without the window, what
each side holds after any sequence of them, read off the sequence itself:

* a partition *started* at its last seek since the last flush, or else at the first offset
  recorded for it since the last flush;
* it *ended* one past the last offset recorded for it after both the last flush and its last
  seek.

`applyAll_history` says the window agrees with that history after every sequence whose records
are below the largest offset, and that such a sequence never stops the program. The sides are
association lists kept sorted by partition (`PartitionMap.Sorted`), so a flush hands out a
side in strictly increasing partition order, and the start side counts its partitions.

The proof is a step lemma per operation over a lookup lemma per map operation: the history of
a sequence with one more operation is the history of the sequence, changed the way the
operation changes the window.
-/

namespace BrokerSession

namespace PartitionMap

variable {α : Type}

/-- The keys are strictly increasing, hence distinct. -/
def Sorted (m : PartitionMap α) : Prop := m.Pairwise fun a b => a.1 < b.1

instance (m : PartitionMap α) : Decidable m.Sorted :=
  inferInstanceAs (Decidable (m.Pairwise fun a b => a.1 < b.1))

/-! ## Lookups -/

theorem lookup_cons {k p : Int} {v : α} {m : PartitionMap α} :
    ((k, v) :: m).lookup p = if p = k then some v else m.lookup p := by
  by_cases h : p = k
  · subst h
    simp
  · have hb : (p == k) = false := beq_eq_false_iff_ne.mpr h
    simp [List.lookup_cons, h, hb]

@[simp] theorem lookup_insert (m : PartitionMap α) (k p : Int) (v : α) :
    (m.insert k v).lookup p = if p = k then some v else m.lookup p := by
  induction m with
  | nil => exact lookup_cons
  | cons e m ih =>
    obtain ⟨k', v'⟩ := e
    simp only [insert]
    by_cases hlt : k < k'
    · simp only [hlt, if_true, lookup_cons]
    · by_cases heq : k = k'
      · subst heq
        simp only [lt_irrefl, if_false, if_true, lookup_cons]
        by_cases hp : p = k <;> simp [hp]
      · simp only [hlt, heq, if_false, lookup_cons, ih]
        by_cases hp : p = k' <;> by_cases hp' : p = k <;> simp_all

@[simp] theorem lookup_insertIfAbsent (m : PartitionMap α) (k p : Int) (v : α) :
    (m.insertIfAbsent k v).lookup p = if p = k then (m.lookup p).or (some v) else m.lookup p := by
  unfold insertIfAbsent
  by_cases hp : p = k
  · subst hp
    cases h : m.lookup p <;> simp [h]
  · cases m.lookup k <;> simp [hp]

@[simp] theorem lookup_erase (m : PartitionMap α) (k p : Int) :
    (m.erase k).lookup p = if p = k then none else m.lookup p := by
  induction m with
  | nil => simp [erase]
  | cons e m ih =>
    obtain ⟨k', v'⟩ := e
    simp only [erase] at ih ⊢
    by_cases hk : k' = k
    · subst hk
      simp only [bne_self_eq_false, Bool.false_eq_true, not_false_eq_true, List.filter_cons_of_neg]
      rw [ih]
      by_cases hp : p = k' <;> simp [hp, lookup_cons]
    · rw [List.filter_cons_of_pos (by simpa using hk), lookup_cons, ih, lookup_cons]
      by_cases hp : p = k' <;> by_cases hp' : p = k <;> simp_all

/-! ## Order -/

theorem mem_insert {m : PartitionMap α} {k : Int} {v : α} {x : Int × α} (h : x ∈ m.insert k v) :
    x = (k, v) ∨ x ∈ m := by
  induction m with
  | nil => simpa [insert] using h
  | cons e m ih =>
    obtain ⟨k', v'⟩ := e
    simp only [insert] at h
    split_ifs at h with hlt heq
    · simpa using h
    · rcases List.mem_cons.1 h with rfl | h
      · exact .inl rfl
      · exact .inr (List.mem_cons_of_mem _ h)
    · rcases List.mem_cons.1 h with rfl | h
      · exact .inr List.mem_cons_self
      · exact (ih h).imp_right (List.mem_cons_of_mem _)

theorem Sorted.insert {m : PartitionMap α} (hm : m.Sorted) (k : Int) (v : α) :
    (m.insert k v).Sorted := by
  induction m with
  | nil => exact List.pairwise_singleton _ _
  | cons e m ih =>
    obtain ⟨k', v'⟩ := e
    obtain ⟨hhead, htail⟩ := List.pairwise_cons.1 hm
    simp only [PartitionMap.insert]
    split_ifs with hlt heq
    · -- the new key goes first, below every key after it
      refine List.pairwise_cons.2 ⟨fun x hx => ?_, hm⟩
      rcases List.mem_cons.1 hx with rfl | hx
      · exact hlt
      · exact hlt.trans (hhead x hx)
    · subst heq
      exact List.pairwise_cons.2 ⟨hhead, htail⟩
    · refine List.pairwise_cons.2 ⟨fun x hx => ?_, ih htail⟩
      rcases mem_insert hx with rfl | hx
      · exact lt_of_le_of_ne (not_lt.1 hlt) (Ne.symm heq)
      · exact hhead x hx

theorem Sorted.insertIfAbsent {m : PartitionMap α} (hm : m.Sorted) (k : Int) (v : α) :
    (m.insertIfAbsent k v).Sorted := by
  unfold PartitionMap.insertIfAbsent
  split
  · exact hm
  · exact hm.insert k v

theorem Sorted.erase {m : PartitionMap α} (hm : m.Sorted) (k : Int) : (m.erase k).Sorted :=
  List.Pairwise.filter _ hm

/-- A key above every key of the map goes at its end. -/
theorem insert_of_forall_lt {m : PartitionMap α} {k : Int} {v : α} (h : ∀ x ∈ m, x.1 < k) :
    m.insert k v = m ++ [(k, v)] := by
  induction m with
  | nil => rfl
  | cons e m ih =>
    obtain ⟨k', v'⟩ := e
    have hk : k' < k := h _ List.mem_cons_self
    simp only [PartitionMap.insert, not_lt.2 hk.le, ne_of_gt hk, if_false, List.cons_append]
    rw [ih fun x hx => h x (List.mem_cons_of_mem _ hx)]

/-- In a sorted map an entry is what a lookup finds. -/
theorem Sorted.mem_iff {m : PartitionMap α} (hm : m.Sorted) {p : Int} {v : α} :
    (p, v) ∈ m ↔ m.lookup p = some v := by
  induction m generalizing v with
  | nil => simp
  | cons e m ih =>
    obtain ⟨k, w⟩ := e
    obtain ⟨hhead, htail⟩ := List.pairwise_cons.1 hm
    rw [lookup_cons, List.mem_cons, ih htail]
    by_cases hp : p = k
    · subst hp
      -- the keys after the first are above it, so a lookup there finds nothing
      have hnone : m.lookup p = none := by
        cases h : m.lookup p with
        | none => rfl
        | some u =>
          have := hhead _ ((ih htail).2 h)
          exact absurd this (lt_irrefl _)
      simp [hnone, eq_comm]
    · simp [hp]

end PartitionMap

/-! ## Operations and their history -/

/-- An operation on the offset window. -/
inductive WindowOp where
  /-- an offset of a partition was consumed -/
  | record (p o : Int)
  /-- a partition was seeked to an offset -/
  | seek (p o : Int)
  /-- one side was handed out and the window cleared -/
  | flush (side : WindowSide)
  deriving DecidableEq, Repr

namespace WindowOp

def isFlush : WindowOp → Bool
  | .flush _ => true
  | _ => false

/-- The offset of a seek of `p`. -/
def seekOf (p : Int) : WindowOp → Option Int
  | .seek q o => if q = p then some o else none
  | _ => none

/-- The offset of a record of `p`. -/
def recordOf (p : Int) : WindowOp → Option Int
  | .record q o => if q = p then some o else none
  | _ => none

@[simp] theorem seekOf_seek {p q o : Int} : seekOf p (.seek q o) = if q = p then some o else none :=
  rfl

@[simp] theorem seekOf_record {p q o : Int} : seekOf p (.record q o) = none := rfl

@[simp] theorem recordOf_record {p q o : Int} :
    recordOf p (.record q o) = if q = p then some o else none :=
  rfl

@[simp] theorem recordOf_seek {p q o : Int} : recordOf p (.seek q o) = none := rfl

/-- A record of an offset below the largest one, or any other operation. -/
def inRange : WindowOp → Bool
  | .record _ o => decide (o < maxOffset)
  | _ => true

/-- The operations since the last flush, in order. -/
def sinceFlush (ops : List WindowOp) : List WindowOp :=
  (ops.reverse.takeWhile fun op => !op.isFlush).reverse

/-- Where the history says `p` started: its last seek since the last flush, or else the first
offset recorded for it since then. -/
def startedAt (ops : List WindowOp) (p : Int) : Option Int :=
  ((sinceFlush ops).reverse.findSome? (seekOf p)).or ((sinceFlush ops).findSome? (recordOf p))

/-- Where the history says `p` ended: one past the last offset recorded for it after the last
flush and its last seek. -/
def endedAt (ops : List WindowOp) (p : Int) : Option Int :=
  (((sinceFlush ops).reverse.takeWhile fun op => (op.seekOf p).isNone).findSome?
    (recordOf p)).map (· + 1)

section History

variable {ops : List WindowOp} {p q o : Int}

theorem sinceFlush_append (op : WindowOp) :
    sinceFlush (ops ++ [op]) = if op.isFlush then [] else sinceFlush ops ++ [op] := by
  cases h : op.isFlush <;> simp [sinceFlush, h]

theorem startedAt_record :
    startedAt (ops ++ [.record q o]) p = if p = q then (startedAt ops p).or (some o)
      else startedAt ops p := by
  by_cases hp : p = q
  · subst hp
    simp [startedAt, sinceFlush_append, isFlush, List.findSome?_append, List.findSome?_cons]
  · simp [startedAt, sinceFlush_append, isFlush, List.findSome?_append, List.findSome?_cons,
      Ne.symm hp, hp]

theorem startedAt_seek :
    startedAt (ops ++ [.seek q o]) p = if p = q then some o else startedAt ops p := by
  by_cases hp : p = q
  · subst hp
    simp [startedAt, sinceFlush_append, isFlush, List.findSome?_cons]
  · simp [startedAt, sinceFlush_append, isFlush, List.findSome?_append, List.findSome?_cons,
      Ne.symm hp, hp]

theorem startedAt_flush {side : WindowSide} : startedAt (ops ++ [.flush side]) p = none := by
  simp [startedAt, sinceFlush_append, isFlush]

theorem endedAt_record :
    endedAt (ops ++ [.record q o]) p = if p = q then some (o + 1) else endedAt ops p := by
  by_cases hp : p = q
  · subst hp
    simp [endedAt, sinceFlush_append, isFlush, List.takeWhile_cons]
  · simp [endedAt, sinceFlush_append, isFlush, List.takeWhile_cons, Ne.symm hp, hp]

theorem endedAt_seek :
    endedAt (ops ++ [.seek q o]) p = if p = q then none else endedAt ops p := by
  by_cases hp : p = q
  · subst hp
    simp [endedAt, sinceFlush_append, isFlush]
  · simp [endedAt, sinceFlush_append, isFlush, List.findSome?_cons, Ne.symm hp, hp]

theorem endedAt_flush {side : WindowSide} : endedAt (ops ++ [.flush side]) p = none := by
  simp [endedAt, sinceFlush_append, isFlush]

end History

/-- A history of records has a start for every partition it has an end for. -/
theorem startedAt_isSome {ops : List WindowOp} {p : Int} (h : (endedAt ops p).isSome) :
    (startedAt ops p).isSome := by
  -- the record that ended `p` is one since the last flush, so there is a first such record
  obtain ⟨x, hx, hr⟩ : ∃ x ∈ sinceFlush ops, (recordOf p x).isSome := by
    simp only [endedAt, Option.isSome_map, List.findSome?_isSome_iff] at h
    obtain ⟨x, hx, hr⟩ := h
    exact ⟨x, List.mem_reverse.1 ((List.takeWhile_sublist _).subset hx), hr⟩
  have hf : ((sinceFlush ops).findSome? (recordOf p)).isSome :=
    List.findSome?_isSome_iff.2 ⟨x, hx, hr⟩
  simp only [startedAt, Option.isSome_or, hf, Bool.or_true]

end WindowOp

namespace OffsetWindow

/-- Applies one operation; what a flush hands out is set aside. -/
def apply (w : OffsetWindow) : WindowOp → Except Halt OffsetWindow
  | .record p o => w.record p o
  | .seek p o => .ok (w.seek p o)
  | .flush side => .ok (w.flush side).2

/-- Applies operations in order, stopping at a panic. -/
def applyAll (w : OffsetWindow) (ops : List WindowOp) : Except Halt OffsetWindow :=
  ops.foldlM apply w

/-- The window holds what the history says, partition by partition. -/
def Agrees (w : OffsetWindow) (ops : List WindowOp) : Prop :=
  ∀ p, w.startOf p = WindowOp.startedAt ops p ∧ w.endOf p = WindowOp.endedAt ops p

/-- Both sides are sorted by partition. -/
structure WellFormed (w : OffsetWindow) : Prop where
  started : w.started.Sorted
  ended : w.ended.Sorted

theorem flush_snd (w : OffsetWindow) (side : WindowSide) : (w.flush side).2 = { topic := w.topic } :=
  rfl

/-- One operation in range keeps the window in agreement with its history, one longer. -/
theorem apply_agrees {w : OffsetWindow} {ops : List WindowOp} {op : WindowOp}
    (hw : w.Agrees ops) (hf : w.WellFormed) (hop : op.inRange) :
    ∃ w', w.apply op = .ok w' ∧ w'.Agrees (ops ++ [op]) ∧ w'.WellFormed ∧ w'.topic = w.topic := by
  cases op with
  | record q o =>
    have ho : o < maxOffset := by simpa [WindowOp.inRange] using hop
    refine ⟨_, if_pos ho, fun p => ?_, ⟨hf.started.insertIfAbsent q o, hf.ended.insert q (o + 1)⟩,
      rfl⟩
    obtain ⟨h1, h2⟩ := hw p
    simp only [startOf, endOf] at h1 h2
    simp only [startOf, endOf, PartitionMap.lookup_insertIfAbsent, PartitionMap.lookup_insert,
      WindowOp.startedAt_record, WindowOp.endedAt_record, h1, h2, and_self]
  | seek q o =>
    refine ⟨_, rfl, fun p => ?_, ⟨hf.started.insert q o, hf.ended.erase q⟩, rfl⟩
    obtain ⟨h1, h2⟩ := hw p
    simp only [startOf, endOf] at h1 h2
    simp only [startOf, endOf, seek, PartitionMap.lookup_insert, PartitionMap.lookup_erase,
      WindowOp.startedAt_seek, WindowOp.endedAt_seek, h1, h2, and_self]
  | flush side =>
    refine ⟨_, rfl, fun p => ?_, ⟨List.Pairwise.nil, List.Pairwise.nil⟩, rfl⟩
    simp [startOf, endOf, flush_snd, WindowOp.startedAt_flush, WindowOp.endedAt_flush]

/-- Every sequence of operations in range, from an empty window, runs without a panic and
leaves a well-formed window that agrees with the sequence. -/
theorem applyAll_agrees (topic : String) {ops : List WindowOp} (h : ∀ op ∈ ops, op.inRange) :
    ∃ w, ({ topic } : OffsetWindow).applyAll ops = .ok w ∧ w.Agrees ops ∧ w.WellFormed ∧
      w.topic = topic := by
  induction ops using List.reverseRecOn with
  | nil => exact ⟨_, rfl, fun _ => ⟨rfl, rfl⟩, ⟨.nil, .nil⟩, rfl⟩
  | append_singleton ops op ih =>
    obtain ⟨w, hrun, hw, hf, ht⟩ := ih fun x hx => h x (List.mem_append_left _ hx)
    obtain ⟨w', happ, hw', hf', ht'⟩ :=
      apply_agrees hw hf (h op (List.mem_append_right _ (List.mem_singleton_self op)))
    refine ⟨w', ?_, hw', hf', ht'.trans ht⟩
    rw [applyAll, List.foldlM_append, ← applyAll, hrun]
    show (pure w >>= fun w => [op].foldlM apply w) = _
    simp only [pure_bind, List.foldlM_cons, List.foldlM_nil, bind_pure]
    exact happ

section Agreement

variable {w : OffsetWindow} {ops : List WindowOp}

/-- Every partition with an end has a start. -/
theorem Agrees.startOf_isSome (hw : w.Agrees ops) {p : Int} (h : (w.endOf p).isSome) :
    (w.startOf p).isSome := by
  rw [(hw p).1]
  rw [(hw p).2] at h
  exact WindowOp.startedAt_isSome h

/-- The window is empty exactly when no partition has a start. -/
theorem Agrees.isEmpty_iff (hw : w.Agrees ops) : w.isEmpty = true ↔ ∀ p, w.startOf p = none := by
  constructor
  · intro h p
    simp only [isEmpty, Bool.and_eq_true, List.isEmpty_iff] at h
    simp [startOf, h.1]
  · intro h
    -- a first entry of either side would give its partition a start
    have hs : w.started = [] := by
      cases hst : w.started with
      | nil => rfl
      | cons e m =>
        have := h e.1
        simp [startOf, hst] at this
    have he : w.ended = [] := by
      cases hen : w.ended with
      | nil => rfl
      | cons e m =>
        have hsome : (w.endOf e.1).isSome := by simp [endOf, hen]
        have := hw.startOf_isSome hsome
        simp [h e.1] at this
    simp [isEmpty, hs, he]

/-- The partitions with a start, each once. -/
theorem WellFormed.partitions (hf : w.WellFormed) :
    (w.started.map Prod.fst).Nodup ∧ ∀ p, p ∈ w.started.map Prod.fst ↔ (w.startOf p).isSome := by
  refine ⟨(List.pairwise_map.2 hf.started).imp ne_of_lt, fun p => ?_⟩
  simp only [List.mem_map, Option.isSome_iff_exists, startOf]
  constructor
  · rintro ⟨⟨q, o⟩, hmem, rfl⟩
    exact ⟨o, (hf.started.mem_iff).1 hmem⟩
  · rintro ⟨o, ho⟩
    exact ⟨(p, o), (hf.started.mem_iff).2 ho, rfl⟩

/-- The positions of a sorted side's entries are in strictly increasing partition order. -/
theorem positions_sorted {m : PartitionMap Int} (hm : m.Sorted) {topic : String} :
    ((m.map fun e => (⟨⟨topic, e.1⟩, e.2⟩ : Position)).map (·.partition.number)).Pairwise (· < ·) := by
  simpa [List.map_map, Function.comp_def, List.pairwise_map, PartitionMap.Sorted] using hm

/-- A flush hands out one side in strictly increasing partition order. -/
theorem WellFormed.flush_sorted (hf : w.WellFormed) (side : WindowSide) :
    ((w.flush side).1.map (·.partition.number)).Pairwise (· < ·) := by
  cases side with
  | started => exact positions_sorted hf.started
  | ended => exact positions_sorted hf.ended

/-- The positions of a sorted side's entries are exactly what its lookups find. -/
theorem mem_positions_iff {m : PartitionMap Int} (hm : m.Sorted) {topic : String} {p o : Int} :
    (⟨⟨topic, p⟩, o⟩ : Position) ∈ m.map (fun e => (⟨⟨topic, e.1⟩, e.2⟩ : Position)) ↔
      m.lookup p = some o := by
  simp only [List.mem_map, Position.mk.injEq, Partition.mk.injEq, true_and]
  rw [← hm.mem_iff]
  constructor
  · rintro ⟨⟨q, o'⟩, hmem, rfl, rfl⟩
    exact hmem
  · exact fun hmem => ⟨(p, o), hmem, rfl, rfl⟩

/-- A flush of the start side hands out exactly the starts. -/
theorem WellFormed.mem_flush_started (hf : w.WellFormed) {p o : Int} :
    (⟨⟨w.topic, p⟩, o⟩ : Position) ∈ (w.flush .started).1 ↔ w.startOf p = some o :=
  mem_positions_iff hf.started

/-- A flush of the end side hands out exactly the ends. -/
theorem WellFormed.mem_flush_ended (hf : w.WellFormed) {p o : Int} :
    (⟨⟨w.topic, p⟩, o⟩ : Position) ∈ (w.flush .ended).1 ↔ w.endOf p = some o :=
  mem_positions_iff hf.ended

/-- A flush hands out positions of the window's topic. -/
theorem flush_topic {side : WindowSide} {x : Position} (hx : x ∈ (w.flush side).1) :
    x.partition.topic = w.topic := by
  obtain ⟨e, -, rfl⟩ := List.mem_map.1 hx
  rfl

end Agreement

/-! ## The window and its history -/

/-- From an empty window, operations whose records stay below the largest offset never halt, and the
window holds what the history says for every partition; a flush hands out one side exactly, in
strictly increasing partition order, and empties both. -/
theorem applyAll_history (topic : String) (ops : List WindowOp) (h : ∀ op ∈ ops, op.inRange) :
    ∃ w, ({ topic } : OffsetWindow).applyAll ops = .ok w ∧
      (∀ p, w.startOf p = WindowOp.startedAt ops p ∧ w.endOf p = WindowOp.endedAt ops p) ∧
      (∀ p, (w.endOf p).isSome → (w.startOf p).isSome) ∧
      (w.isEmpty = true ↔ ∀ p, w.startOf p = none) ∧
      (∃ ps : List Int, ps.Nodup ∧ (∀ p, p ∈ ps ↔ (w.startOf p).isSome) ∧
        w.partitionCount = ps.length) ∧
      (∀ side, ((w.flush side).1.map (·.partition.number)).Pairwise (· < ·) ∧
        (∀ x ∈ (w.flush side).1, x.partition.topic = topic) ∧ (w.flush side).2 = { topic }) ∧
      (∀ p o, (⟨⟨topic, p⟩, o⟩ : Position) ∈ (w.flush .started).1 ↔ w.startOf p = some o) ∧
      (∀ p o, (⟨⟨topic, p⟩, o⟩ : Position) ∈ (w.flush .ended).1 ↔ w.endOf p = some o) := by
  obtain ⟨w, hrun, hw, hf, rfl⟩ := applyAll_agrees topic h
  obtain ⟨hnodup, hmem⟩ := hf.partitions
  refine ⟨w, hrun, hw, fun _ => hw.startOf_isSome, hw.isEmpty_iff,
    ⟨_, hnodup, hmem, (List.length_map _).symm⟩,
    fun side => ⟨hf.flush_sorted side, fun _ => flush_topic, rfl⟩,
    fun _ _ => hf.mem_flush_started, fun _ _ => hf.mem_flush_ended⟩

/-- Two windows of records and seeks around a flush of the end side. -/
theorem applyAll_history_orders :
    (∀ op ∈ [.record 0 7, .flush .ended, .record 2 10, .record 0 8, .seek 2 4, .record 2 5],
      WindowOp.inRange op) ∧
    ∃ w, ({ topic := "orders" } : OffsetWindow).applyAll
        [.record 0 7, .flush .ended, .record 2 10, .record 0 8, .seek 2 4, .record 2 5] = .ok w ∧
      (∀ p, w.startOf p = WindowOp.startedAt
          [.record 0 7, .flush .ended, .record 2 10, .record 0 8, .seek 2 4, .record 2 5] p ∧
        w.endOf p = WindowOp.endedAt
          [.record 0 7, .flush .ended, .record 2 10, .record 0 8, .seek 2 4, .record 2 5] p) ∧
      (∀ p, (w.endOf p).isSome → (w.startOf p).isSome) ∧
      (w.isEmpty = true ↔ ∀ p, w.startOf p = none) ∧
      (∃ ps : List Int, ps.Nodup ∧ (∀ p, p ∈ ps ↔ (w.startOf p).isSome) ∧
        w.partitionCount = ps.length) ∧
      (∀ side, ((w.flush side).1.map (·.partition.number)).Pairwise (· < ·) ∧
        (∀ x ∈ (w.flush side).1, x.partition.topic = "orders") ∧
        (w.flush side).2 = { topic := "orders" }) ∧
      (∀ p o, (⟨⟨"orders", p⟩, o⟩ : Position) ∈ (w.flush .started).1 ↔ w.startOf p = some o) ∧
      (∀ p o, (⟨⟨"orders", p⟩, o⟩ : Position) ∈ (w.flush .ended).1 ↔ w.endOf p = some o) :=
  ⟨by decide, applyAll_history "orders" _ (by decide)⟩

end OffsetWindow

end BrokerSession
