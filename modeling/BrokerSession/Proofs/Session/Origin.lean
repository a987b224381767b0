import BrokerSession.Proofs.Proc.Traced
import BrokerSession.Proofs.Fault.Wrap
import BrokerSession.Proofs.Broker.Reads
import BrokerSession.Proofs.Session.Pull
import BrokerSession.Scenario.Consumer

/-!
# Where an invalid-state fault comes from

A consuming session makes the invalid-state fault itself in two places only: at the end of
`consume`, after counting an empty window, and at the end of the pre-check's judgement of the
client; each time it has just read a world where the verdict is fatal. Every other fault of
that kind a session operation answers is one the connection handed it, passed on as it is or
wrapped, through the retry executor or the settling of a window: a scripted fault of a
connect, pull, commit, seek or metadata request, or the fault an event on the bus carries.

`SessionConfig.Explains c e w` is what a world must hold for a run to answer the fault `e`:
either `e` is the session's own `Fault.invalidState` and the verdict is fatal there, or the
connection holds a fault that `e` carries (`Fault.Carries`: is, or wraps). The main statement
(`step_explains`) says that every run of a session step that answers a fault of kind
`invalidState` reads, at some point of that run, a world that explains it.

Each operation is traced (`Proc.Traced`) with "the answer is not the failure `e`". What an
action answers is traced with the stronger `Fault.Clear`, "no fault of the answer is carried
into `e`", because the retry executor wraps it; a wrapped fault carries what the fault under
it carries (`Fault.Carries.of_wrap`), so wrapping keeps an answer clear.
-/

namespace BrokerSession

namespace Fault

/-- `e` is `e₀` passed on: as it is, or wrapped under a message. -/
def Carries (e e₀ : Fault) : Prop := e = e₀ ∨ ∃ m, e = wrap m e₀

/-- No fault of the answer is carried into `e`. -/
def Clear (e : Fault) {β : Type} (r : Except Fault β) : Prop := ∀ x, r = .error x → ¬ e.Carries x

/-- A fault wrapped twice is wrapped once, so a wrap carries only what it wraps. -/
theorem Carries.of_wrap {e x : Fault} {m : String} (h : e.Carries (wrap m x)) : e.Carries x := by
  rcases h with rfl | ⟨m', rfl⟩
  · exact .inr ⟨m, rfl⟩
  · exact .inr ⟨m', wrap_wrap m m' x⟩

/-- Only a fault of kind `invalidState` is carried into one of that kind. -/
theorem Carries.kind {e x : Fault} (h : e.Carries x) (he : e.kind = .invalidState) :
    x.kind = .invalidState := by
  rcases h with rfl | ⟨m, rfl⟩
  · exact he
  · rw [kind_wrap] at he
    by_cases hx : x.kind = .closed ∨ x.kind = .invalidState
    · rwa [if_pos hx] at he
    · rw [if_neg hx] at he
      cases he

theorem wrap_ne_of_not_carries {e x : Fault} (h : ¬ e.Carries x) (m : String) : wrap m x ≠ e :=
  fun he => h (.inr ⟨m, he.symm⟩)

theorem ne_of_kind_ne {e x : Fault} (he : e.kind = .invalidState) (hx : x.kind ≠ .invalidState) :
    x ≠ e := by
  rintro rfl
  exact hx he

theorem closed_ne {e : Fault} (he : e.kind = .invalidState) : closed ≠ e :=
  ne_of_kind_ne he nofun

theorem timeout_ne {e : Fault} (he : e.kind = .invalidState) (d : Span) : timeout d ≠ e :=
  ne_of_kind_ne he nofun

/-- A fault of another kind is carried into no fault of kind `invalidState`. -/
theorem not_carries_of_kind {e x : Fault} (he : e.kind = .invalidState)
    (hx : x.kind ≠ .invalidState) : ¬ e.Carries x :=
  fun h => hx (h.kind he)

/-- A wait that runs out fails, if it is hard, with a timeout, which carries nothing into a
fault of kind `invalidState`. -/
theorem clear_timedOut {e : Fault} (he : e.kind = .invalidState) (hard : Bool) (d : Span) :
    Clear e (if hard then .error (timeout d) else .ok Resolution.timedOut) := by
  intro y hy
  cases hard
  · cases hy
  · cases hy
    exact not_carries_of_kind he nofun

end Fault

theorem Except.error_ne_error {γ δ : Type} {x e : Fault} (h : (Except.error x : Except Fault γ) ≠ .error e) :
    (Except.error x : Except Fault δ) ≠ .error e :=
  fun h' => h (congrArg Except.error (Except.error.inj h'))

theorem Except.error_ne_of_ne {γ : Type} {x e : Fault} (h : x ≠ e) :
    (Except.error x : Except Fault γ) ≠ .error e :=
  fun h' => h (Except.error.inj h')

/-! ## What the connection holds -/

/-- The faults a consumer connection holds for the session: its scripted connect results,
pull errors, commit and seek failures, its refusal and its metadata failure. -/
def ScriptedConsumer.faults (c : ScriptedConsumer) : List Fault :=
  c.connectResults.filterMap id ++ c.refusal.toList ++ Act.faultsOf c.pulls ++
    c.commitFailures.flatMap Prod.snd ++ c.seekFailures.flatMap Prod.snd ++
    c.metadataFailure.toList

/-- The faults the events on the bus carry. -/
def Bus.faults (b : Bus) : List Fault := b.log.toList.filterMap BrokerEvent.fault?

/-- Every fault the connection may hand to the session. -/
def World.suppliedFaults (w : World) : List Fault := w.consumer.faults ++ w.bus.faults

/-- The world explains the fault `e`: `e` is the session's own invalid-state fault and the
verdict is fatal there, or the connection holds a fault that `e` carries. -/
def SessionConfig.Explains (c : SessionConfig) (e : Fault) (w : World) : Prop :=
  (e = Fault.invalidState ∧ c.verdict w = .fatal) ∨ ∃ e₀ ∈ w.suppliedFaults, e.Carries e₀

/-- The fault a session step failed with. -/
def ConsumerAnswer.fault? : ConsumerAnswer → Option Fault
  | .done (.error e) => some e
  | .consumed (.error e) => some e
  | .count (.error e) => some e
  | _ => none

theorem Act.mem_faultsOf {β : Type} {rs : List (Except Fault β)} {x : Fault} :
    x ∈ Act.faultsOf rs ↔ .error x ∈ rs := by
  simp only [Act.faultsOf, List.mem_filterMap]
  constructor
  · rintro ⟨r, hr, hx⟩
    cases r with
    | error y => cases hx; exact hr
    | ok _ => cases hx
  · exact fun h => ⟨_, h, rfl⟩

namespace ScriptedConsumer

variable {c : ScriptedConsumer} {x : Fault}

theorem mem_faults_of_connect (h : c.connect.1 = some x) : x ∈ c.faults := by
  simp only [faults, List.mem_append]
  unfold connect at h
  rcases hc : c.connectResults with _ | ⟨_ | y, rest⟩ <;> rcases hr : c.refusal with _ | z <;>
    simp only [hc, hr, reduceCtorEq, Option.some.injEq] at h <;> subst h
  · exact .inl (.inl (.inl (.inl (.inr (by simp)))))
  all_goals
    exact .inl (.inl (.inl (.inl (.inl (List.mem_filterMap.2 ⟨some _, by simp, rfl⟩)))))

theorem mem_faults_of_pull {n : Nat} (h : (c.pull n).1 = some (.error x)) : x ∈ c.faults := by
  simp only [faults, List.mem_append]
  refine .inl (.inl (.inl (.inr (Act.mem_faultsOf.2 ?_))))
  rw [pull_fst] at h
  rcases hp : c.pulls with _ | ⟨y | ms, rest⟩ <;> rw [hp] at h
  · cases h
  · cases h
    exact List.mem_cons_self ..
  · by_cases hlt : n < ms.length
    · simp only [takePull, if_pos hlt, Option.some.injEq, reduceCtorEq] at h
    · simp only [takePull, if_neg hlt, Option.some.injEq, reduceCtorEq] at h

/-- A failure taken from a partition's queue is one of the map's failures. -/
theorem mem_of_takeFailure {m : PartitionMap (List Fault)} {p : Int}
    (h : (takeFailure m p).1 = some x) : x ∈ m.flatMap Prod.snd := by
  unfold takeFailure at h
  split at h
  · next rest hl =>
    cases h
    obtain ⟨l₁, l₂, rfl, -⟩ := List.lookup_eq_some_iff.1 hl
    exact List.mem_flatMap.2 ⟨(p, x :: rest), by simp, List.mem_cons_self ..⟩
  · cases h

theorem mem_faults_of_commit {pos : Position} (h : (c.commit pos).1 = some x) : x ∈ c.faults := by
  simp only [faults, List.mem_append]
  refine .inl (.inl (.inr ?_))
  unfold commit at h
  split at h
  · next y fs hy =>
    cases h
    exact mem_of_takeFailure (by rw [hy])
  · cases h

theorem mem_faults_of_seek {pos : Position} (h : (c.seek pos).1 = some x) : x ∈ c.faults := by
  simp only [faults, List.mem_append]
  refine .inl (.inr ?_)
  unfold seek at h
  split at h
  · next y fs hy =>
    cases h
    exact mem_of_takeFailure (by rw [hy])
  · cases h

theorem mem_faults_of_metadata (h : c.metadata = .error x) : x ∈ c.faults := by
  simp only [faults, List.mem_append]
  refine .inr ?_
  unfold metadata at h
  split at h
  · next y hy =>
    cases h
    simp [hy]
  · cases h

end ScriptedConsumer

/-- An event a read finds is on the bus. -/
theorem Bus.mem_log_of_recv {b : Bus} {rx : Nat} {ev : BrokerEvent}
    (h : (b.recv rx).1 = .event ev) : ev ∈ b.log.toList := by
  unfold recv at h
  split at h
  · cases h
  · split at h
    · cases h
    · split at h
      · next hlt =>
        cases h
        exact Array.mem_toList_iff.2 (Array.getElem_mem hlt)
      · split at h <;> cases h

/-- An event a scan finds is on the bus: reading moves receivers, never the log. -/
theorem Bus.mem_log_of_scanFor {rx : Nat} {kind : EventKind} {ev : BrokerEvent} :
    ∀ (fuel : Nat) (b : Bus), (scanFor rx kind fuel b).1 = .event ev → ev ∈ b.log.toList
  | 0, _, h => by cases h
  | fuel + 1, b, h => by
    have hlog := (recv_frame (b := b) rx).1
    have hmem : ∀ e', (b.recv rx).1 = .event e' → e' ∈ b.log.toList := fun _ => mem_log_of_recv
    unfold scanFor at h
    generalize b.recv rx = x at h hlog hmem
    obtain ⟨r, b'⟩ := x
    rw [← hlog]
    cases r with
    | event e' =>
      dsimp only at h
      split at h
      · cases h
        exact hlog ▸ hmem _ rfl
      · exact mem_log_of_scanFor fuel b' h
    | lagged _ => exact mem_log_of_scanFor fuel b' h
    | closed => cases h
    | empty => cases h

/-! ## Tracing the operations -/

namespace Act

open Proc

section Trace

variable {c : SessionConfig} {e : Fault} {w : World} {x : Fault}

theorem not_carries_of_supplied (hw : ¬ c.Explains e w) (hx : x ∈ w.suppliedFaults) :
    ¬ e.Carries x :=
  fun h => hw (.inr ⟨x, hx, h⟩)

theorem not_carries_of_consumer (hw : ¬ c.Explains e w) (hx : x ∈ w.consumer.faults) :
    ¬ e.Carries x :=
  not_carries_of_supplied hw (List.mem_append_left _ hx)

/-- The session's own invalid-state fault is not `e` in a world that does not explain `e`
and where the verdict is fatal. -/
theorem invalidState_ne (hw : ¬ c.Explains e w) (hv : c.verdict w = .fatal) :
    Fault.invalidState ≠ e :=
  fun h => hw (.inl ⟨h.symm, hv⟩)

/-! ### The connection -/

theorem traced_consumerConnect : Traced (c.Explains e) (Fault.Clear e) consumerConnect := by
  unfold consumerConnect
  refine traced_modifyGet_bind fun w hw => ?_
  rcases hr : w.consumer.connect with ⟨_ | y, c'⟩
  · exact traced_then fun _ => .pure fun _ h => by cases h
  · have hy : y ∈ w.consumer.faults := ScriptedConsumer.mem_faults_of_connect (by rw [hr])
    exact traced_then fun _ => .pure fun _ h => by
      cases h
      exact not_carries_of_consumer hw hy

theorem traced_consumerPull (n timeoutMs : Nat) :
    Traced (c.Explains e) (Fault.Clear e) (consumerPull n timeoutMs) := by
  rw [consumerPull_eq]
  refine traced_modifyGet_bind fun w hw => ?_
  rcases hr : (takeMessages n w).1 with _ | r
  · exact traced_then fun _ => .pure fun _ h => by cases h
  · refine .pure fun y hy => ?_
    cases hy
    rw [takeMessages_fst, ← ScriptedConsumer.pull_fst] at hr
    exact not_carries_of_consumer hw (ScriptedConsumer.mem_faults_of_pull hr)

theorem traced_pullUntil (deadline wanted : Nat) :
    Traced (c.Explains e) (Fault.Clear e) (pullUntil deadline wanted) :=
  traced_then fun _ => traced_consumerPull _ _

variable (he : e.kind = .invalidState)
include he

theorem traced_awaitOnce (rx : Nat) (kind : EventKind) (timeout : Option Span) (hard : Bool)
    (token : Nat) :
    Traced (c.Explains e) (Fault.Clear e) (awaitOnce rx kind timeout hard token) := by
  unfold awaitOnce
  -- a round that goes on answers `inl`; one that ends answers what the wait answers
  refine traced_then fun start =>
    traced_iterate (H := Sum.elim (fun _ => True) (Fault.Clear e)) fun _ => ?_
  refine traced_modifyGet_bind fun w hw => ?_
  rcases hs : w.bus.scan rx kind with ⟨ev | _ | _, b'⟩
  · -- an event of the kind, and its fault, if any, was on the bus
    have hmem : ∀ f, ev.fault? = some f → f ∈ w.suppliedFaults := fun f hev =>
      List.mem_append_right _ (List.mem_filterMap.2
        ⟨ev, Bus.mem_log_of_scanFor _ _ (congrArg Prod.fst hs), hev⟩)
    refine .pure fun y hy => ?_
    rcases hev : ev.fault? with _ | f <;> rw [hev] at hy
    · cases hy
    · cases hy
      exact not_carries_of_supplied hw (hmem _ hev)
  · exact .pure fun _ h => by cases h
  · refine traced_then fun w' => traced_then fun t => ?_
    split
    · exact .pure fun _ h => by cases h
    · -- the deadline, if any, has passed, or the wait parks until news or cancellation
      dsimp only
      split
      · split
        · exact .pure (Fault.clear_timedOut he hard _)
        · exact traced_then fun _ => .pure trivial
      · split
        · exact .pure (Fault.clear_timedOut he hard _)
        · exact traced_then fun _ => .pure trivial

theorem traced_faultListener (rx : Nat) (kind : EventKind) (token : Nat) :
    Traced (c.Explains e) (fun x => ¬ e.Carries x) (faultListener rx kind token) := by
  refine (traced_awaitOnce he rx kind none false token).bind fun r hr => ?_
  cases r with
  | error y => exact .pure (hr y rfl)
  | ok _ => exact traced_never

/-- An operation raced against a faulty event answers what the operation answers or the
event's fault. -/
theorem traced_raceWithEvent {β : Type} (kind : EventKind) (scope : Nat)
    {op : Act (Except Fault β)} (hop : Traced (c.Explains e) (Fault.Clear e) op) :
    Traced (c.Explains e) (Fault.Clear e) (raceWithEvent kind scope op) := by
  rw [raceWithEvent_eq]
  refine traced_then fun rx => traced_then fun token => ?_
  refine (traced_hold (traced_race (traced_faultListener he rx kind token) hop)).bind
    fun r hr => traced_then fun _ => ?_
  cases r with
  | inl y => exact .pure fun z hz => by cases hz; exact hr
  | inr v => exact .pure hr

/-! ### The retry executor -/

section Retry

variable {kind : ActionKind} {check : Option (Act (Except Fault Unit))} {β : Type}
  {action : Act (Except Fault β)}

omit he in
theorem traced_retryOrFail {canRetry : Bool} {again : Unit → Act (Except Fault (Option β))}
    (ha : Traced (c.Explains e) (· ≠ .error e) (again ())) (hx : ¬ e.Carries x) :
    Traced (c.Explains e) (· ≠ .error e) (retryOrFail kind canRetry again x) := by
  unfold retryOrFail
  dsimp only
  split
  · refine traced_then fun d => traced_then fun cancelled => ?_
    cases cancelled
    · exact ha
    · exact .pure nofun
  · exact traced_then fun _ => .pure (Except.error_ne_of_ne (Fault.wrap_ne_of_not_carries hx _))

omit he in
theorem traced_onFault {canRetry : Bool} {again : Unit → Act (Except Fault (Option β))}
    (ha : Traced (c.Explains e) (· ≠ .error e) (again ())) (hx : ¬ e.Carries x) :
    Traced (c.Explains e) (· ≠ .error e) (onFault kind canRetry again x) := by
  unfold onFault
  split
  · exact .pure nofun
  · exact traced_then fun _ => traced_then fun _ => traced_retryOrFail ha hx
  · exact traced_retryOrFail ha hx

omit he in
/-- The retry executor answers the pre-check's fault as it is, and an action's fault wrapped:
with a clear action and a check that does not fail with `e`, it does not fail with `e`. -/
theorem traced_retry (hc : ∀ ch ∈ check, Traced (c.Explains e) (· ≠ .error e) ch)
    (ha : Traced (c.Explains e) (Fault.Clear e) action) (n : Nat) :
    Traced (c.Explains e) (· ≠ .error e) (retry kind check action n) := by
  -- every round checks, calls the action and handles its fault; `again` is the next round
  have round : ∀ canRetry (again : Unit → Act (Except Fault (Option β))),
      Traced (c.Explains e) (· ≠ .error e) (again ()) →
        Traced (c.Explains e) (· ≠ .error e) (retryRound kind check action canRetry again) := by
    intro canRetry again hag
    have hat : Traced (c.Explains e) (· ≠ .error e) (attempt kind action canRetry again) := by
      refine ha.bind fun r hr => ?_
      cases r with
      | ok a =>
        dsimp only
        split
        · exact traced_then fun _ => .pure nofun
        · exact .pure nofun
      | error y => exact traced_onFault hag (hr y rfl)
    refine traced_then fun closed => ?_
    cases closed
    · cases check with
      | none => exact hat
      | some ch =>
        refine (hc ch rfl).bind fun r hr => ?_
        cases r with
        | ok u => exact hat
        | error y => exact .pure (Except.error_ne_error hr)
    · exact .pure nofun
  induction n with
  | zero => exact round false _ (.pure nofun)
  | succ n ih => exact round true _ ih

/-- A consumer action run by the retry executor, raced against a faulty event, with a
pre-check that does not fail with `e`: a clear action does not make it fail with `e`. -/
theorem traced_retryRacing (event : EventKind)
    (hc : ∀ ch ∈ check, Traced (c.Explains e) (· ≠ .error e) ch)
    (ha : Traced (c.Explains e) (Fault.Clear e) action) (n : Nat) :
    Traced (c.Explains e) (· ≠ .error e) (retryRacing event kind check action n) :=
  traced_then fun scope => traced_retry hc (traced_raceWithEvent he event scope ha) n

end Retry

/-! ### The pre-check -/

omit he in
/-- The judgement of the client fails with the session's own invalid-state fault only in a
world whose verdict is fatal. -/
theorem traced_judgeClient (he : e.kind = .invalidState) :
    Traced (c.Explains e) (· ≠ .error e) (judgeClient c) := by
  unfold judgeClient
  dsimp only
  refine traced_then fun _ => traced_then fun invalid => ?_
  split
  · refine traced_then fun cancelled => ?_
    split
    · exact .pure (Except.error_ne_of_ne (Fault.closed_ne he))
    · refine traced_get_bind fun w hw => ?_
      split
      · next hv => exact .pure (Except.error_ne_of_ne (invalidState_ne hw (beq_iff_eq.1 hv)))
      · exact .pure nofun
  · refine traced_get_bind fun w hw => ?_
    split
    · next hv => exact .pure (Except.error_ne_of_ne (invalidState_ne hw (beq_iff_eq.1 hv)))
    · exact .pure nofun

omit he in
theorem traced_consumerCheck (he : e.kind = .invalidState) :
    Traced (c.Explains e) (· ≠ .error e) (consumerCheck c) := by
  unfold consumerCheck
  dsimp only
  refine traced_then fun closed => ?_
  split
  · exact .pure (Except.error_ne_of_ne (Fault.closed_ne he))
  · refine traced_then fun connected => ?_
    split
    · refine traced_consumerConnect.bind fun r hr => ?_
      cases r with
      | error y => exact .pure (Except.error_ne_of_ne (Fault.wrap_ne_of_not_carries (hr y rfl) _))
      | ok u => exact traced_judgeClient he
    · exact traced_judgeClient he

theorem traced_retryChecked {β : Type} (kind : ActionKind) {action : Act (Except Fault β)}
    (ha : Traced (c.Explains e) (Fault.Clear e) action) (n : Nat) :
    Traced (c.Explains e) (· ≠ .error e) (retry kind (some (consumerCheck c)) action n) :=
  traced_retry (fun _ h => by cases h; exact traced_consumerCheck he) ha n

/-! ### Consuming -/

theorem traced_consumeLoop (d maxSize : Nat) :
    ∀ fuel acc pulled, Traced (c.Explains e) (· ≠ .error e) (consumeLoop c d maxSize fuel acc pulled)
  | 0, _, _ => .pure nofun
  | fuel + 1, acc, pulled => by
    rw [consumeLoop]
    split
    · exact .pure nofun
    · refine (traced_then fun scope =>
        traced_retryChecked he .consume (traced_raceWithEvent he .clientError scope
          (traced_pullUntil _ _)) c.maxRetries).bind fun r hr => ?_
      rcases r with y | _ | _ | ⟨m, ms⟩
      · exact .pure (Except.error_ne_error hr)
      · exact .pure nofun
      · exact .pure nofun
      · refine traced_then fun _ => traced_then fun t => ?_
        split
        · exact .pure nofun
        · exact traced_consumeLoop d maxSize fuel _ _

/-- `consume` fails with its own invalid-state fault only right after reading a fatal verdict;
any other failure is its loop's. -/
theorem traced_consume (maxSize maxWaitMs : Nat) :
    Traced (c.Explains e) (· ≠ .error e) (consume c maxSize maxWaitMs) := by
  unfold consume
  refine traced_then fun t => (traced_consumeLoop he _ _ _ _ _).bind fun r hr => ?_
  rcases r with y | ⟨ms, pulled⟩
  · exact .pure (Except.error_ne_error hr)
  · dsimp only
    split
    · exact traced_then fun _ => .pure nofun
    · refine traced_then fun _ => traced_get_bind fun w hw => ?_
      split
      · next hv => exact .pure (Except.error_ne_of_ne (invalidState_ne hw (beq_iff_eq.1 hv)))
      · exact .pure nofun

/-! ### Committing, rolling back and seeking -/

omit he in
theorem traced_consumerCommit (pos : Position) :
    Traced (c.Explains e) (Fault.Clear e) (consumerCommit pos) := by
  unfold consumerCommit
  refine traced_modifyGet_bind fun w hw => traced_then fun ack => ?_
  rcases hr : w.consumer.commit pos with ⟨_ | y, c'⟩
  · -- the commit went through: the answer is `ok`, acknowledged or not
    dsimp only
    split
    · exact traced_then fun _ => .pure fun _ h => by cases h
    · exact .pure fun _ h => by cases h
  · -- the failure scripted for the partition is the answer
    have hy := not_carries_of_consumer hw (ScriptedConsumer.mem_faults_of_commit (by rw [hr]))
    dsimp only
    split
    · exact traced_then fun _ => .pure fun _ h => by cases h; exact hy
    · exact .pure fun _ h => by cases h; exact hy

omit he in
theorem traced_consumerSeek (pos : Position) :
    Traced (c.Explains e) (Fault.Clear e) (consumerSeek pos) := by
  unfold consumerSeek
  refine traced_modifyGet_bind fun w hw => ?_
  rcases hr : w.consumer.seek pos with ⟨_ | y, c'⟩
  · exact .pure fun _ h => by cases h
  · have hy : y ∈ w.consumer.faults := ScriptedConsumer.mem_faults_of_seek (by rw [hr])
    exact .pure fun _ h => by
      cases h
      exact not_carries_of_consumer hw hy

/-- A window settles with one of its failures or with their aggregate, never with a fault of
kind `invalidState` that no failure is. -/
theorem settleWindow_ne {m : String} {fs : List Fault} (h : ∀ x ∈ fs, x ≠ e) :
    settleWindow m fs ≠ .error e := by
  unfold settleWindow
  split
  · exact nofun
  · split
    · next x hx => exact Except.error_ne_of_ne (h x (List.mem_of_find?_eq_some hx))
    · exact Except.error_ne_of_ne (Fault.ne_of_kind_ne he nofun)

omit he in
theorem faultsOf_ne {β : Type} {rs : List (Except Fault β)} (h : ∀ r ∈ rs, r ≠ .error e) :
    ∀ x ∈ faultsOf rs, x ≠ e :=
  fun x hx hxe => h _ (mem_faultsOf.1 hx) (by rw [hxe])

theorem traced_commit : Traced (c.Explains e) (· ≠ .error e) (commit c) := by
  unfold commit
  refine traced_then fun w => ?_
  rcases hf : w.window.flush .ended with ⟨positions, window⟩
  refine traced_then fun _ => ?_
  split
  · exact .pure nofun
  · refine traced_then fun delays =>
      (traced_all (G := fun r => r ≠ .error e) fun p hp => ?_).bind fun rs hrs =>
      .pure (settleWindow_ne he (faultsOf_ne hrs))
    obtain ⟨⟨pos, d⟩, -, rfl⟩ := List.mem_map.1 hp
    exact traced_then fun _ => traced_retryChecked he .commit
      (traced_then fun _ => traced_consumerCommit pos) c.maxRetries

theorem traced_rollback : Traced (c.Explains e) (· ≠ .error e) (rollback c) := by
  unfold rollback
  refine traced_then fun w => ?_
  rcases hf : w.window.flush .started with ⟨positions, window⟩
  refine traced_then fun _ => ?_
  split
  · exact .pure nofun
  · refine (traced_all (G := fun r => r ≠ .error e) fun p hp => ?_).bind fun rs hrs => ?_
    · obtain ⟨pos, -, rfl⟩ := List.mem_map.1 hp
      exact traced_retryChecked he .seek (traced_consumerSeek pos) c.maxRetries
    -- the failures gathered are faults of the partitions' runs
    refine (traced_forIn (I := fun fs => ∀ x ∈ fs, x ≠ e) _ (fun x hx fs hfs => ?_)
      fun _ h => absurd h List.not_mem_nil).bind fun fs hfs => .pure (settleWindow_ne he hfs)
    obtain ⟨pos, r⟩ := x
    have hr : r ≠ .error e := hrs r (List.of_mem_zip hx).2
    rcases r with y | _ | ⟨⟨⟩⟩
    · refine .pure fun z hz => ?_
      rcases List.mem_append.1 hz with hz | hz
      · exact hfs z hz
      · rw [List.mem_singleton.1 hz]
        exact fun hye => hr (by rw [hye])
    · exact .pure hfs
    · exact traced_then fun _ => .pure hfs

theorem traced_retryWindow : Traced (c.Explains e) (· ≠ .error e) (retryWindow c) := by
  unfold retryWindow
  split
  · exact traced_rollback he
  · exact traced_commit he

theorem traced_seek (p o : Int) : Traced (c.Explains e) (· ≠ .error e) (seek c p o) := by
  unfold seek
  refine (traced_retryChecked he .seek (traced_consumerSeek _) c.maxRetries).bind fun r hr => ?_
  rcases r with y | _ | ⟨⟨⟩⟩
  · exact .pure (Except.error_ne_error hr)
  · exact .pure nofun
  · exact traced_then fun _ => .pure nofun

theorem traced_partitionCount : Traced (c.Explains e) (· ≠ .error e) (partitionCount c) := by
  unfold partitionCount
  -- the metadata request fails with the connection's metadata failure
  have hfetch : Traced (c.Explains e) (Fault.Clear e)
      (Proc.gets fun w : World => w.consumer.metadata) :=
    .look fun _ w hw => .pure fun _ hy =>
      not_carries_of_consumer hw (ScriptedConsumer.mem_faults_of_metadata hy)
  refine (traced_retryChecked he .metadata hfetch c.maxRetries).bind fun r hr => ?_
  rcases r with y | _ | _
  · exact .pure (Except.error_ne_error hr)
  · exact .pure nofun
  · exact .pure nofun

/-! ### Connecting and disconnecting -/

theorem traced_connectConsumer : Traced (c.Explains e) (· ≠ .error e) (connectConsumer c) := by
  unfold connectConsumer
  refine traced_then fun closed => ?_
  split
  · exact .pure (Except.error_ne_of_ne (Fault.closed_ne he))
  · refine traced_then fun _ => traced_then fun rx => traced_then fun scope =>
      traced_then fun token => traced_hold ?_
    -- connecting has no pre-check
    have hnone : ∀ ch ∈ (none : Option (Act (Except Fault Unit))),
        Traced (c.Explains e) (· ≠ .error e) ch := nofun
    refine (traced_retryRacing he .connectError hnone traced_consumerConnect c.maxRetries).bind
      fun r hr => ?_
    rcases r with y | _ | ⟨⟨⟩⟩
    · exact traced_then fun _ => .pure (Except.error_ne_error hr)
    · exact traced_then fun _ => .pure (Except.error_ne_of_ne (Fault.closed_ne he))
    · refine (traced_awaitOnce he rx .ready _ true token).bind fun r hr => .pure ?_
      rcases r with y | _ | _ | _
      · exact Except.error_ne_of_ne fun hy => hr y rfl (.inl hy.symm)
      · exact nofun
      · exact Except.error_ne_of_ne (Fault.closed_ne he)
      · exact Except.error_ne_of_ne (Fault.timeout_ne he _)

omit he in
theorem traced_disconnectConsumer : Traced (c.Explains e) (· ≠ .error e) disconnectConsumer := by
  unfold disconnectConsumer
  refine traced_then fun closed => ?_
  split
  · exact .pure nofun
  · exact traced_then fun _ => traced_then fun _ => traced_then fun _ => traced_then fun _ =>
      traced_then fun _ => .pure nofun

/-! ### A session step -/

omit he in
theorem ConsumerAnswer.done_fault_ne {r : Except Fault Unit} (hr : r ≠ .error e) :
    (ConsumerAnswer.done r).fault? ≠ some e := by
  cases r with
  | error x => exact fun h => hr (by rw [Option.some.inj h])
  | ok _ => exact nofun

omit he in
theorem ConsumerAnswer.count_fault_ne {r : Except Fault Nat} (hr : r ≠ .error e) :
    (ConsumerAnswer.count r).fault? ≠ some e := by
  cases r with
  | error x => exact fun h => hr (by rw [Option.some.inj h])
  | ok _ => exact nofun

omit he in
theorem ConsumerAnswer.consumed_fault_ne {r : Except Fault (List Message)} (mode : ConsumeMode)
    (hr : r ≠ .error e) :
    (ConsumerAnswer.consumed (r.map fun msgs => msgs.filterMap mode.select)).fault? ≠ some e := by
  cases r with
  | error x => exact fun h => hr (by rw [Option.some.inj h])
  | ok _ => exact nofun

/-- Every step of a session fails, if it fails with `e`, only after reading a world that
explains `e`. -/
theorem traced_consumerStep (op : ConsumerStep) :
    Traced (c.Explains e) (fun a => a.fault? ≠ some e) (consumerStep c op) := by
  cases op with
  | script s => exact traced_then fun _ => .pure nofun
  | connect => exact (traced_connectConsumer he).map fun _ => ConsumerAnswer.done_fault_ne
  | disconnect => exact traced_disconnectConsumer.map fun _ => ConsumerAnswer.done_fault_ne
  | commit => exact (traced_commit he).map fun _ => ConsumerAnswer.done_fault_ne
  | rollback => exact (traced_rollback he).map fun _ => ConsumerAnswer.done_fault_ne
  | retry => exact (traced_retryWindow he).map fun _ => ConsumerAnswer.done_fault_ne
  | consume n ms mode =>
    exact (traced_consume he n ms).bind fun _ hr => .pure (ConsumerAnswer.consumed_fault_ne mode hr)
  | seek p o => exact (traced_seek he p o).map fun _ => ConsumerAnswer.done_fault_ne
  | topicPositions => exact traced_then fun _ => .pure nofun
  | partitionCount => exact (traced_partitionCount he).map fun _ => ConsumerAnswer.count_fault_ne
  | handlePendingCommits => exact traced_then fun _ => .pure nofun
  | pendingCommits p => exact traced_then fun _ => .pure nofun
  | sleep ms => exact traced_then fun _ => .pure nofun

end Trace

end Act

/-- A session step that fails with a fault of kind `invalidState` has read, at some point of
its run, a world that explains the fault: a fatal verdict, if the fault is the session's own,
or else a connection holding a fault that it carries. Anything may run beside the step. -/
theorem step_explains (c : SessionConfig) (op : ConsumerStep)
    {R : Nat × World → Nat × World → Prop} {t t' : Nat} {s s' : World} {a : ConsumerAnswer}
    {e : Fault} (h : Proc.Returns R t s (Act.consumerStep c op) t' s' a) (ha : a.fault? = some e)
    (he : e.kind = .invalidState) :
    ∃ tm sm pm, Proc.Reaches R t s (Act.consumerStep c op) tm sm pm ∧ c.Explains e sm ∧
      Proc.Returns R tm sm pm t' s' a :=
  ((Act.traced_consumerStep he op).returns h).resolve_left (· ha)

end BrokerSession
