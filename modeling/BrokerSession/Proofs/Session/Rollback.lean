import BrokerSession.Proofs.Session.Untouched
import BrokerSession.Proofs.Offsets.Window
import Mathlib.Data.List.Forall2

/-!
# Rolling the window back

A rollback takes the start side of the window, empties the window, and seeks every partition
back to its start side by side, each under the retry executor, one broker seek per attempt.
Then, in the window's order, a partition whose run answered `ok (some ())` starts the window
again at its start offset; a run that was skipped (`ok none`) or failed leaves its partition
out, and the faults are settled as for a commit.

As for a commit, the environment is everything else in the session (`Keeping World.window`),
and the runs keep the window, so they are only environment to each other. The main statement,
`rollback_answers`, reads the final window and the answer off one answer per partition's run:
the window restarts exactly the partitions whose seek went through, at the offsets they had,
and nothing else depends on the order in which the runs finished.

The restart loop inserts partitions in increasing order into an empty start side, so each goes
at its end (`PartitionMap.insert_of_forall_lt`): this needs the start side sorted, which every
window built by its operations is (`OffsetWindow.applyAll_agrees`).
-/

namespace BrokerSession

open Proc

variable {t t' : Nat} {s s' : World}

/-! ## One seek -/

theorem returns_consumerSeek_iff {pos : Position} {a : Except Fault Unit} :
    Returns (Keeping World.consumer) t s (Act.consumerSeek pos) t' s' a ↔
      s'.consumer = (s.consumer.seek pos).2 ∧
      a = match (s.consumer.seek pos).1 with
        | some e => .error e
        | none => .ok () := by
  unfold Act.consumerSeek
  simp only [keeping_modifyGet_bind_iff, pure_eq, keeping_pure_iff]
  constructor
  · rintro ⟨x, hx, ha, hc⟩
    rw [hx] at ha hc
    refine ⟨hc, ?_⟩
    revert ha
    cases (s.consumer.seek pos).1 <;> exact id
  · rintro ⟨hc, ha⟩
    refine ⟨s, rfl, ?_, hc⟩
    revert ha
    cases (s.consumer.seek pos).1 <;> exact id

/-! ## Restarting the window -/

namespace OffsetWindow

/-- The window after a partition's seek to `x.1` answered `x.2`: restarted there when the
seek went through, as it was otherwise. -/
def afterSeek (w : OffsetWindow) (x : Position × Except Fault (Option Unit)) : OffsetWindow :=
  if x.2 = .ok (some ()) then w.seek x.1.number x.1.offset else w

/-- Restarting, in order, the partitions of a sorted start side whose seeks went through, in a
window with no ends whose starts are all below them, appends exactly those to its starts. -/
theorem foldl_afterSeek {topic : String} {l acc : PartitionMap Int} (hl : l.Sorted)
    (hacc : ∀ x ∈ acc, ∀ y ∈ l, x.1 < y.1) (rs : List (Except Fault (Option Unit))) :
    ((l.zip rs).map (Prod.map (fun e => (⟨⟨topic, e.1⟩, e.2⟩ : Position)) id)).foldl afterSeek
        { topic, started := acc } =
      { topic, started := acc ++ ((l.zip rs).filter fun x => x.2 = .ok (some ())).map Prod.fst } := by
  induction l generalizing acc rs with
  | nil => simp
  | cons e l ih =>
    cases rs with
    | nil => simp
    | cons r rs =>
      obtain ⟨he, hl⟩ := List.pairwise_cons.1 hl
      -- the start of `e` is above every start so far, so a restart puts it last
      have hins : acc.insert e.1 e.2 = acc ++ [e] :=
        PartitionMap.insert_of_forall_lt fun x hx => hacc x hx e List.mem_cons_self
      by_cases hr : r = .ok (some ())
      · have hacc' : ∀ x ∈ acc ++ [e], ∀ y ∈ l, x.1 < y.1 := by
          intro x hx y hy
          rcases List.mem_append.1 hx with hx | hx
          · exact hacc x hx y (List.mem_cons_of_mem _ hy)
          · rw [List.mem_singleton.1 hx]
            exact he y hy
        have hstep : afterSeek { topic, started := acc } (⟨⟨topic, e.1⟩, e.2⟩, r) =
            { topic, started := acc ++ [e] } := by
          simp only [afterSeek, hr, if_true, seek]
          show ({ topic, started := acc.insert e.1 e.2, ended := [] } : OffsetWindow) = _
          rw [hins]
        simp only [List.zip_cons_cons, List.map_cons, List.foldl_cons, Prod.map_apply, id_eq]
        rw [hstep, ih hl hacc', List.filter_cons_of_pos (by simpa using hr), List.map_cons,
          List.append_assoc, List.singleton_append]
      · have hstep : afterSeek { topic, started := acc } (⟨⟨topic, e.1⟩, e.2⟩, r) =
            { topic, started := acc } := by
          simp only [afterSeek, hr, if_false]
        simp only [List.zip_cons_cons, List.map_cons, List.foldl_cons, Prod.map_apply, id_eq]
        rw [hstep, ih hl (fun x hx y hy => hacc x hx y (List.mem_cons_of_mem _ hy)),
          List.filter_cons_of_neg (by simpa using hr)]

end OffsetWindow

/-! ## The restart loop -/

section Loop

variable {γ β : Type}

theorem returns_forIn_iff {f : γ → β → Act (ForInStep β)} (next : β → γ → β)
    (g : OffsetWindow → γ → OffsetWindow)
    (hf : ∀ x b {t t' : Nat} {s s' : World} {y : ForInStep β},
      Returns (Keeping World.window) t s (f x b) t' s' y ↔
        y = .yield (next b x) ∧ s'.window = g s.window x)
    (l : List γ) {b y : β} :
    Returns (Keeping World.window) t s (forIn l b f) t' s' y ↔
      y = l.foldl next b ∧ s'.window = l.foldl g s.window := by
  induction l generalizing b t s with
  | nil =>
    rw [List.forIn_nil, pure_eq, keeping_pure_iff]
    rfl
  | cons x l ih =>
    rw [List.forIn_cons, returns_bind_iff]
    constructor
    · rintro ⟨t₁, s₁, z, hz, hrest⟩
      obtain ⟨rfl, hs₁⟩ := (hf x b).1 hz
      obtain ⟨hy, hs'⟩ := ih.1 hrest
      rw [hs₁] at hs'
      exact ⟨hy, hs'⟩
    · rintro ⟨hy, hs'⟩
      exact ⟨t, { s with window := g s.window x }, .yield (next b x), (hf x b).2 ⟨rfl, rfl⟩,
        ih.2 ⟨hy, hs'⟩⟩

theorem returns_forIn_bind_iff {α : Type} {f : γ → β → Act (ForInStep β)} (next : β → γ → β)
    (g : OffsetWindow → γ → OffsetWindow)
    (hf : ∀ x b {t t' : Nat} {s s' : World} {y : ForInStep β},
      Returns (Keeping World.window) t s (f x b) t' s' y ↔
        y = .yield (next b x) ∧ s'.window = g s.window x)
    (l : List γ) {b : β} {k : β → Act α} {a : α} :
    Returns (Keeping World.window) t s (forIn l b f >>= k) t' s' a ↔
      Returns (Keeping World.window) t { s with window := l.foldl g s.window }
        (k (l.foldl next b)) t' s' a := by
  rw [returns_bind_iff]
  constructor
  · rintro ⟨t₁, s₁, y, hl, hk⟩
    obtain ⟨rfl, hs₁⟩ := (returns_forIn_iff next g hf l).1 hl
    exact hk.restart hs₁.symm
  · intro hk
    exact ⟨t, _, _, (returns_forIn_iff next g hf l).2 ⟨rfl, rfl⟩, hk⟩

end Loop

/-- The faults of runs gathered one run at a time. -/
theorem foldl_faultsOf {l : List (Position × Except Fault (Option Unit))} {acc : List Fault} :
    l.foldl (fun fs x => fs ++ Act.faultsOf [x.2]) acc = acc ++ Act.faultsOf (l.map Prod.snd) := by
  induction l generalizing acc with
  | nil => simp [Act.faultsOf]
  | cons x l ih =>
    rw [List.foldl_cons, ih, List.map_cons, List.append_assoc]
    show acc ++ (Act.faultsOf [x.2] ++ Act.faultsOf _) = acc ++ Act.faultsOf ([x.2] ++ _)
    unfold Act.faultsOf
    rw [List.filterMap_append]

/-! ## The whole rollback -/

/-- The answer of a commit or a rollback is `ok` exactly when no run failed. -/
theorem settleWindow_faultsOf_eq_ok_iff {m : String} {rs : List (Except Fault (Option Unit))} :
    Act.settleWindow m (Act.faultsOf rs) = .ok () ↔ ∀ x ∈ rs, x.isOk := by
  have hnil : Act.faultsOf rs = [] ↔ ∀ x ∈ rs, x.isOk := by
    simp only [Act.faultsOf, List.filterMap_eq_nil_iff]
    refine forall₂_congr fun x _ => ?_
    cases x <;> simp [Except.isOk, Except.toBool]
  rw [← hnil]
  unfold Act.settleWindow
  split
  · simp_all
  · rename_i es hes
    constructor
    · intro h
      split at h <;> cases h
    · exact fun h => absurd h hes

/-- Every run of a rollback from a sorted start side seeks each of its partitions back side by side,
restarts the window at exactly those whose seek went through, and settles the faults. -/
theorem returns_rollback_iff {c : SessionConfig} {r : Except Fault Unit}
    (hw : s.window.started.Sorted) :
    Returns (Keeping World.window) t s (Act.rollback c) t' s' r ↔
      ∃ rs, List.Forall₂ (Answers World.window { topic := s.window.topic })
          (s.window.started.map fun e => Act.retry .seek (some (Act.consumerCheck c))
            (Act.consumerSeek ⟨⟨s.window.topic, e.1⟩, e.2⟩) c.maxRetries) rs ∧
        s'.window = { topic := s.window.topic
                      started := ((s.window.started.zip rs).filter fun x => x.2 = .ok (some ())).map
                        Prod.fst } ∧
        r = Act.settleWindow "Failure to rollback offsets" (Act.faultsOf rs) := by
  unfold Act.rollback
  rw [keeping_get_bind_iff]
  simp only [OffsetWindow.flush, keeping_set_bind_iff]
  -- the world read has the window of `s`, and nothing else of it is used
  refine Iff.trans ⟨fun h => ?_, fun h => ⟨s, rfl, h⟩⟩ ?_
  · obtain ⟨x, hx, hr⟩ := h
    rw [hx] at hr
    exact hr.restart rfl
  by_cases he : s.window.started = []
  · simp only [he, List.map_nil, List.isEmpty_nil, if_true, pure_eq, keeping_pure_iff,
      List.forall₂_nil_left_iff, exists_eq_left, List.zip_nil_left, List.filter_nil]
    exact And.comm
  · have hne : (s.window.started.map fun x : Int × Int =>
        ({ partition := { topic := s.window.topic, number := x.1 }, offset := x.2 } : Position)).isEmpty
        = false := by
      simpa using he
    simp only [hne, Bool.false_eq_true, if_false, List.map_map, Function.comp_def,
      List.zip_map_left]
    -- the partitions' runs keep the window, so they run side by side as if alone
    have hk : ∀ p ∈ s.window.started.map (fun e => Act.retry .seek (some (Act.consumerCheck c))
        (Act.consumerSeek ⟨⟨s.window.topic, e.1⟩, e.2⟩) c.maxRetries),
        Keeps World.window { topic := s.window.topic } p := by
      intro p hp
      obtain ⟨e, -, rfl⟩ := List.mem_map.1 hp
      exact (untouched_window _).keeps_retryChecked _ c
        (Untouched.keeps_consumerSeek (fun _ _ => rfl) _) _
    rw [returns_all_bind_iff hk rfl]
    refine exists_congr fun rs => and_congr_right fun hrs => ?_
    rw [returns_forIn_bind_iff (fun fs x => fs ++ Act.faultsOf [x.2]) OffsetWindow.afterSeek ?body,
      pure_eq, keeping_pure_iff]
    -- the loop saw one answer per partition, in the window's order
    have hsnd : ((s.window.started.zip rs).map
        (Prod.map (fun x => (⟨⟨s.window.topic, x.1⟩, x.2⟩ : Position)) id)).map Prod.snd = rs := by
      rw [List.map_map, Prod.map_snd', Function.id_comp]
      exact List.map_snd_zip (by simpa using hrs.length_eq.ge)
    dsimp only
    rw [foldl_faultsOf, List.nil_append, hsnd,
      OffsetWindow.foldl_afterSeek hw (fun _ h => absurd h List.not_mem_nil), List.nil_append]
    exact And.comm
    case body =>
      intro x b t t' s s' y
      obtain ⟨pos, r⟩ := x
      dsimp only
      -- a failure or a skip changes only the faults, a seek that went through only the window
      rcases r with e | _ | u
      · dsimp only
        rw [pure_eq, keeping_pure_iff]
        simp [Act.faultsOf, OffsetWindow.afterSeek]
      · dsimp only
        rw [pure_eq, keeping_pure_iff]
        simp [Act.faultsOf, OffsetWindow.afterSeek]
      · cases u
        dsimp only
        rw [keeping_modify_bind_iff, exists_keeping_restart ?hg, pure_eq, keeping_pure_iff]
        · simp [Act.faultsOf, OffsetWindow.afterSeek]
        case hg =>
          intro x hx
          show x.window.seek pos.number pos.offset = s.window.seek pos.number pos.offset
          rw [hx]

/-- A rollback of a window with a sorted start side seeks every started partition back side by side;
the window then holds no ends and restarts exactly those whose seek went through, in order. It
answers `ok` when no run failed, else the first fatal fault or all of them together. -/
theorem rollback_answers (c : SessionConfig) {w : OffsetWindow} (hw : w.started.Sorted) :
    (∀ {t t' : Nat} {s s' : World} {r : Except Fault Unit}, s.window = w →
      (Returns (Keeping World.window) t s (Act.rollback c) t' s' r ↔
        ∃ rs, List.Forall₂ (Answers World.window { topic := w.topic })
            (w.started.map fun e => Act.retry .seek (some (Act.consumerCheck c))
              (Act.consumerSeek ⟨⟨w.topic, e.1⟩, e.2⟩) c.maxRetries) rs ∧
          s'.window = { topic := w.topic
                        started := ((w.started.zip rs).filter fun x => x.2 = .ok (some ())).map
                          Prod.fst } ∧
          r = Act.settleWindow "Failure to rollback offsets" (Act.faultsOf rs) ∧
          (r = .ok () ↔ ∀ x ∈ rs, x.isOk))) ∧
    (∀ {t t' : Nat} {s s' : World} (pos : Position) {a : Except Fault Unit},
      Returns (Keeping World.consumer) t s (Act.consumerSeek pos) t' s' a ↔
        s'.consumer = (s.consumer.seek pos).2 ∧
        a = match (s.consumer.seek pos).1 with
          | some e => .error e
          | none => .ok ()) := by
  refine ⟨fun hs => ?_, fun _ => returns_consumerSeek_iff⟩
  subst hs
  rw [returns_rollback_iff hw]
  refine exists_congr fun rs => and_congr_right fun _ => and_congr_right fun _ => ?_
  constructor
  · rintro rfl
    exact ⟨rfl, settleWindow_faultsOf_eq_ok_iff⟩
  · exact And.left

/-- A rollback of two partitions of the topic `orders` under the production defaults. -/
theorem rollback_answers_orders :
    PartitionMap.Sorted [(0, 7), (2, 4)] ∧
    (∀ {t t' : Nat} {s s' : World} {r : Except Fault Unit},
      s.window = { topic := "orders", started := [(0, 7), (2, 4)] } →
      (Returns (Keeping World.window) t s (Act.rollback (SessionConfig.new "orders")) t' s' r ↔
        ∃ rs, List.Forall₂ (Answers World.window { topic := "orders" })
            ([(0, 7), (2, 4)].map fun (e : Int × Int) => Act.retry .seek
              (some (Act.consumerCheck (SessionConfig.new "orders")))
              (Act.consumerSeek ⟨⟨"orders", e.1⟩, e.2⟩) (SessionConfig.new "orders").maxRetries) rs ∧
          s'.window = { topic := "orders"
                        started := (([(0, 7), (2, 4)].zip rs).filter fun x => x.2 = .ok (some ())).map
                          Prod.fst } ∧
          r = Act.settleWindow "Failure to rollback offsets" (Act.faultsOf rs) ∧
          (r = .ok () ↔ ∀ x ∈ rs, x.isOk))) ∧
    (∀ {t t' : Nat} {s s' : World} (pos : Position) {a : Except Fault Unit},
      Returns (Keeping World.consumer) t s (Act.consumerSeek pos) t' s' a ↔
        s'.consumer = (s.consumer.seek pos).2 ∧
        a = match (s.consumer.seek pos).1 with
          | some e => .error e
          | none => .ok ()) :=
  ⟨by decide, rollback_answers (SessionConfig.new "orders") (by decide)⟩

end BrokerSession
