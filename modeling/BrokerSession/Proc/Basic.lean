/-!
# Cooperative processes

A `Proc σ α` is a program that runs against a shared world `σ` and a millisecond clock and
finishes with a value of type `α`. It is data: a tree whose nodes are effects, each carrying
the rest of the program. `look` reads the clock and the world, `put` replaces the world,
`wait` parks until a condition on the world holds or a point on the clock is reached,
`yield` gives way once to every other process that is ready, `settle` waits until every
other process is parked, and `spawn` starts a process that runs beside this one.

Three nodes run parts side by side within one process. `both p q` polls `p` and then `q`
every time the process runs and goes on when both are finished; `first p q` polls `p` and
then `q` and goes on with the first one found finished, dropping the other; `loop` runs its
body again and again until the body answers `inr`. A part run by `holding` holds a resource
(a subscription, say) that is given back when the part finishes or is dropped.

`Proc.poll` runs a process until every part of it is parked or it finishes. It is a plain
function of the clock, the world and the tree, so everything a scheduler does with a
process is a composition of polls.
-/

namespace BrokerSession

/-- What a parked process waits for: a point on the clock, a condition on the world, or
both; it may go on as soon as either holds. -/
structure Wake (σ : Type) where
  deadline : Option Nat := none
  ready : σ → Bool := fun _ => false

namespace Wake

/-- The wake holds at time `now` in world `s`. -/
def due {σ : Type} (w : Wake σ) (now : Nat) (s : σ) : Bool :=
  (match w.deadline with
   | some d => decide (d ≤ now)
   | none => false) || w.ready s

end Wake

/-- A process over the world `σ` finishing with a value of type `α`. -/
inductive Proc (σ : Type) : Type → Type 1 where
  | pure {α : Type} (a : α) : Proc σ α
  /-- read the clock and the world -/
  | look {α : Type} (k : Nat → σ → Proc σ α) : Proc σ α
  /-- replace the world -/
  | put {α : Type} (s : σ) (k : Proc σ α) : Proc σ α
  /-- park until the wake holds -/
  | wait {α : Type} (w : Wake σ) (k : Proc σ α) : Proc σ α
  /-- park once, behind every process that is ready -/
  | yield {α : Type} (k : Proc σ α) : Proc σ α
  /-- park until every other process is parked and nothing is due -/
  | settle {α : Type} (k : Proc σ α) : Proc σ α
  /-- a process parked by `yield` or `settle`, going on at its next poll -/
  | resume {α : Type} (k : Proc σ α) : Proc σ α
  /-- start a process beside this one -/
  | spawn {α : Type} (child : Proc σ Unit) (k : Proc σ α) : Proc σ α
  /-- run two parts side by side until both finish -/
  | both {α β γ : Type} (p : Proc σ β) (q : Proc σ γ) (k : β × γ → Proc σ α) : Proc σ α
  /-- run two parts side by side until one finishes, the left one checked first -/
  | first {α β γ : Type} (p : Proc σ β) (q : Proc σ γ) (k : β ⊕ γ → Proc σ α) : Proc σ α
  /-- the running round `cur` of a loop with body `body`; `inr` ends the loop -/
  | loop {α β γ : Type} (cur : Proc σ (β ⊕ γ)) (body : β → Proc σ (β ⊕ γ))
      (k : γ → Proc σ α) : Proc σ α
  /-- run `p` holding a resource that `release` gives back when `p` finishes or is dropped -/
  | holding {α β : Type} (release : σ → σ) (p : Proc σ β) (k : β → Proc σ α) : Proc σ α

namespace Proc

variable {σ : Type}

/-- Runs `f` on the value of `p`. -/
def bind {α β : Type} : Proc σ α → (α → Proc σ β) → Proc σ β
  | .pure a, f => f a
  | .look k, f => .look fun t s => (k t s).bind f
  | .put s k, f => .put s (k.bind f)
  | .wait w k, f => .wait w (k.bind f)
  | .yield k, f => .yield (k.bind f)
  | .settle k, f => .settle (k.bind f)
  | .resume k, f => .resume (k.bind f)
  | .spawn c k, f => .spawn c (k.bind f)
  | .both p q k, f => .both p q fun r => (k r).bind f
  | .first p q k, f => .first p q fun r => (k r).bind f
  | .loop c b k, f => .loop c b fun r => (k r).bind f
  | .holding r p k, f => .holding r p fun b => (k b).bind f

instance : Monad (Proc σ) where
  pure := .pure
  bind := bind

/-- The clock. -/
def now : Proc σ Nat := .look fun t _ => .pure t

/-- The world. -/
def get : Proc σ σ := .look fun _ s => .pure s

/-- Replaces the world. -/
def set (s : σ) : Proc σ Unit := .put s (.pure ())

/-- Reads a part of the world. -/
def gets {α : Type} (f : σ → α) : Proc σ α := .look fun _ s => .pure (f s)

/-- Changes the world. -/
def modify (f : σ → σ) : Proc σ Unit := .look fun _ s => .put (f s) (.pure ())

/-- Changes the world and returns a value computed with it. -/
def modifyGet {α : Type} (f : σ → α × σ) : Proc σ α :=
  .look fun _ s => let (a, s') := f s; .put s' (.pure a)

/-- Parks until the wake holds. -/
def await (w : Wake σ) : Proc σ Unit := .wait w (.pure ())

/-- Parks until the clock reaches `t`. -/
def sleepUntil (t : Nat) : Proc σ Unit := await { deadline := some t }

/-- Parks for `ms` milliseconds. -/
def sleep (ms : Nat) : Proc σ Unit := .look fun t _ => sleepUntil (t + ms)

/-- Parks until `ready` holds of the world. -/
def waitUntil (ready : σ → Bool) : Proc σ Unit := await { ready }

/-- Gives way once to every process that is ready. -/
def yieldNow : Proc σ Unit := .yield (.pure ())

/-- Parks until every other process is parked. -/
def settleAll : Proc σ Unit := .settle (.pure ())

/-- Starts `p` beside the current process. -/
def fork (p : Proc σ Unit) : Proc σ Unit := .spawn p (.pure ())

/-- Runs `p` and `q` side by side until both finish. -/
def par {β γ : Type} (p : Proc σ β) (q : Proc σ γ) : Proc σ (β × γ) := .both p q .pure

/-- Runs `p` and `q` side by side until one finishes, `p` checked first. -/
def race {β γ : Type} (p : Proc σ β) (q : Proc σ γ) : Proc σ (β ⊕ γ) := .first p q .pure

/-- Runs `body` from `init` until it answers `inr`. -/
def iterate {β γ : Type} (init : β) (body : β → Proc σ (β ⊕ γ)) : Proc σ γ :=
  .loop (body init) body .pure

/-- A process that never finishes. -/
def never {α : Type} : Proc σ α :=
  .loop (γ := Empty) (.wait {} (.pure (.inl ()))) (fun _ => .wait {} (.pure (.inl ())))
    fun e => nomatch e

/-- Runs `p` holding a resource that `release` gives back when `p` finishes or is dropped. -/
def hold {β : Type} (release : σ → σ) (p : Proc σ β) : Proc σ β := .holding release p .pure

/-- Runs every process of the list side by side until all finish; the values in list order. -/
def all {β : Type} : List (Proc σ β) → Proc σ (List β)
  | [] => .pure []
  | p :: ps => .both p (all ps) fun (b, bs) => .pure (b :: bs)

/-! ## Parked processes -/

/-- Some part of the parked process may go on in world `s`. -/
def ready {α : Type} (s : σ) : Proc σ α → Bool
  | .wait w _ => w.ready s
  | .both p q _ => p.ready s || q.ready s
  | .first p q _ => p.ready s || q.ready s
  | .loop c _ _ => c.ready s
  | .holding _ p _ => p.ready s
  | _ => false

/-- The earlier of two deadlines. -/
def earlier : Option Nat → Option Nat → Option Nat
  | some a, some b => some (min a b)
  | some a, none => some a
  | none, b => b

/-- The earliest deadline of a part of the parked process. -/
def deadline {α : Type} : Proc σ α → Option Nat
  | .wait w _ => w.deadline
  | .both p q _ => earlier p.deadline q.deadline
  | .first p q _ => earlier p.deadline q.deadline
  | .loop c _ _ => c.deadline
  | .holding _ p _ => p.deadline
  | _ => none

/-- Gives back every resource a parked process holds, innermost first: what dropping it does. -/
def release {α : Type} : Proc σ α → σ → σ
  | .holding r p _, s => r (p.release s)
  | .both p q _, s => q.release (p.release s)
  | .first p q _, s => q.release (p.release s)
  | .loop c _ _, s => c.release s
  | _, s => s

/-- The value of a finished process. -/
def result? {α : Type} : Proc σ α → Option α
  | .pure a => some a
  | _ => none

/-! ## Polling -/

/-- What one poll leaves: the world, the rest of the process (`pure a` once finished), the
processes it spawned, latest first, whether it parked by `yield` or by `settle`, and whether it
ran out of nodes before it parked. -/
structure Polled (σ α : Type) : Type 1 where
  world : σ
  rest : Proc σ α
  spawned : List (Proc σ Unit) := []
  yielded : Bool := false
  settling : Bool := false
  /-- some part of the poll stopped for want of nodes, possibly between a read and its write -/
  exhausted : Bool := false

/-- Runs the process at time `now` until every part of it is parked or it finishes, taking at
most `fuel` nodes; `spawned` holds the processes spawned so far, latest first. -/
def pollFrom {α : Type} (now : Nat) : Nat → σ → List (Proc σ Unit) → Proc σ α → Polled σ α
  | 0, s, acc, p => { world := s, rest := p, spawned := acc, exhausted := true }
  | fuel + 1, s, acc, p =>
    match p with
    | .pure a => { world := s, rest := .pure a, spawned := acc }
    | .look k => pollFrom now fuel s acc (k now s)
    | .put s' k => pollFrom now fuel s' acc k
    | .wait w k =>
      if w.due now s then pollFrom now fuel s acc k
      else { world := s, rest := .wait w k, spawned := acc }
    | .yield k => { world := s, rest := .resume k, spawned := acc, yielded := true }
    | .settle k => { world := s, rest := .resume k, spawned := acc, settling := true }
    | .resume k => pollFrom now fuel s acc k
    | .spawn c k => pollFrom now fuel s (c :: acc) k
    | .both p q k =>
      let r₁ := pollFrom now fuel s acc p
      let r₂ := pollFrom now fuel r₁.world r₁.spawned q
      match r₁.rest, r₂.rest with
      | .pure b, .pure c =>
        let r := pollFrom now fuel r₂.world r₂.spawned (k (b, c))
        { r with exhausted := r₁.exhausted || r₂.exhausted || r.exhausted }
      | p', q' =>
        { world := r₂.world, rest := .both p' q' k, spawned := r₂.spawned,
          yielded := r₁.yielded || r₂.yielded, settling := r₁.settling || r₂.settling,
          exhausted := r₁.exhausted || r₂.exhausted }
    | .first p q k =>
      let r₁ := pollFrom now fuel s acc p
      match r₁.rest with
      | .pure b =>
        let r := pollFrom now fuel (q.release r₁.world) r₁.spawned (k (.inl b))
        { r with exhausted := r₁.exhausted || r.exhausted }
      | p' =>
        let r₂ := pollFrom now fuel r₁.world r₁.spawned q
        match r₂.rest with
        | .pure c =>
          let r := pollFrom now fuel (p'.release r₂.world) r₂.spawned (k (.inr c))
          { r with exhausted := r₁.exhausted || r₂.exhausted || r.exhausted }
        | q' =>
          { world := r₂.world, rest := .first p' q' k, spawned := r₂.spawned,
            yielded := r₁.yielded || r₂.yielded, settling := r₁.settling || r₂.settling,
            exhausted := r₁.exhausted || r₂.exhausted }
    | .loop c b k =>
      let r := pollFrom now fuel s acc c
      match r.rest with
      | .pure (.inl x) =>
        let r' := pollFrom now fuel r.world r.spawned (.loop (b x) b k)
        { r' with exhausted := r.exhausted || r'.exhausted }
      | .pure (.inr y) =>
        let r' := pollFrom now fuel r.world r.spawned (k y)
        { r' with exhausted := r.exhausted || r'.exhausted }
      | c' =>
        { world := r.world, rest := .loop c' b k, spawned := r.spawned,
          yielded := r.yielded, settling := r.settling, exhausted := r.exhausted }
    | .holding rel p k =>
      let r := pollFrom now fuel s acc p
      match r.rest with
      | .pure b =>
        let r' := pollFrom now fuel (rel r.world) r.spawned (k b)
        { r' with exhausted := r.exhausted || r'.exhausted }
      | p' =>
        { world := r.world, rest := .holding rel p' k, spawned := r.spawned,
          yielded := r.yielded, settling := r.settling, exhausted := r.exhausted }

/-- Runs the process at time `now` until every part of it is parked or it finishes, taking at
most `fuel` nodes; the spawned processes in spawn order. -/
def poll {α : Type} (now fuel : Nat) (s : σ) (p : Proc σ α) : Polled σ α :=
  let r := pollFrom now fuel s [] p
  { r with spawned := r.spawned.reverse }

end Proc

end BrokerSession
