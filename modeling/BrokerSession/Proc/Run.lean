import BrokerSession.Proc.Basic

/-!
# Running processes on one thread with a virtual clock

A `Run σ α` holds a main process, the processes it spawned, the world they share and the
clock. Processes take turns; none is interrupted while it runs. The order of turns is that
of a single-threaded event loop:

* the main process runs first, and later only when it is woken and the loop is at the top
  of a round;
* a spawned process joins the back of the run queue when it is spawned or woken, and the
  queue is served from the front, at most `roundLength` processes per round;
* when the queue is empty the loop parks: unless something is already woken, the clock jumps
  to the earliest deadline of a parked process; then every parked process whose deadline has
  come is woken, earliest deadline first and, for equal deadlines, earliest registered first;
  then every process that yielded is woken in the order it yielded.

A parked process is woken as soon as a turn ends in a world where its condition holds, and
the processes are checked in the order they were spawned. A main process that settles is
woken only when the queue is empty and no other process has yielded or is due.

A turn is never interrupted: one that runs out of nodes before its process parks stops the
whole run, which is then stuck.

`Run.run` takes turns until the main process finishes, for at most `fuel` turns.
-/

namespace BrokerSession

/-- How many spawned processes run in one round before the loop parks briefly. -/
def roundLength : Nat := 61

/-- How many nodes one turn of a process may run. -/
def turnLength : Nat := 1000000

/-- A spawned process and what it is parked on. -/
structure Slot (σ : Type) : Type 1 where
  id : Nat
  proc : Proc σ Unit
  /-- the registration number of its current deadline -/
  since : Nat := 0

/-- How the main process is parked. -/
inductive MainPark where
  /-- on the conditions of its waits -/
  | waits
  /-- by `yield` -/
  | yielded
  /-- by `settle` -/
  | settling
  deriving DecidableEq, Repr

/-- A main process with the processes it spawned, the world and the clock. -/
structure Run (σ α : Type) : Type 1 where
  now : Nat
  world : σ
  main : Proc σ α
  mainWoken : Bool := true
  mainPark : MainPark := .waits
  mainSince : Nat := 0
  slots : List (Slot σ) := []
  queue : List Nat := []
  deferred : List Nat := []
  nextId : Nat := 0
  nextSeq : Nat := 0
  /-- the loop is at the top of a round -/
  atTop : Bool := true
  ticks : Nat := 0

namespace Run

variable {σ α : Type}

/-- A run of `main` from time `now` in world `s`. -/
def start (now : Nat) (s : σ) (main : Proc σ α) : Run σ α :=
  { now, world := s, main }

/-- The slot is in the run queue or has yielded. -/
def busy (r : Run σ α) (id : Nat) : Bool := r.queue.contains id || r.deferred.contains id

/-- Adds a process to the back of the run queue unless it is there already. -/
def enqueue (r : Run σ α) (id : Nat) : Run σ α :=
  if r.busy id then r else { r with queue := r.queue ++ [id] }

/-- Adds spawned processes, each to the back of the run queue. -/
def addSpawned (r : Run σ α) : List (Proc σ Unit) → Run σ α
  | [] => r
  | p :: ps =>
    let sl : Slot σ := { id := r.nextId, proc := p }
    let r' := { r with slots := r.slots ++ [sl], nextId := r.nextId + 1,
                       queue := r.queue ++ [r.nextId] }
    r'.addSpawned ps

/-- Wakes every parked process whose condition holds in the current world. -/
def scan (r : Run σ α) : Run σ α :=
  let r := r.slots.foldl (fun r sl =>
    if !r.busy sl.id && sl.proc.ready r.world then r.enqueue sl.id else r) r
  if !r.mainWoken && r.mainPark == .waits && r.main.ready r.world then
    { r with mainWoken := true }
  else r

/-- The registration number for a process parked with deadline `new`, given its previous
deadline and number: a deadline that did not change keeps its place. -/
def register (r : Run σ α) (old new : Option Nat) (since : Nat) : Nat × Run σ α :=
  if old == new then (since, r) else (r.nextSeq, { r with nextSeq := r.nextSeq + 1 })

/-- One turn of the spawned process `id`; `none` when the turn ran out of nodes. -/
def turn (r : Run σ α) (id : Nat) : Option (Run σ α) :=
  match r.slots.find? (·.id == id) with
  | none => some r
  | some sl =>
    let out := sl.proc.poll r.now turnLength r.world
    if out.exhausted then none
    else
      let r := { r with world := out.world }
      let r := match out.rest.result? with
        | some _ => { r with slots := r.slots.filter (·.id != id) }
        | none =>
          let (since, r) := r.register sl.proc.deadline out.rest.deadline sl.since
          let sl' : Slot σ := { id, proc := out.rest, since }
          let r := { r with slots := r.slots.map fun (s : Slot σ) => if s.id == id then sl' else s }
          if out.yielded then { r with deferred := r.deferred ++ [id] } else r
      some (r.addSpawned out.spawned).scan

/-- The processes whose deadline has come, earliest deadline first, then earliest registered. -/
def dueSlots (r : Run σ α) : List Nat :=
  let due := r.slots.filter fun sl =>
    !r.busy sl.id && (match sl.proc.deadline with
      | some d => decide (d ≤ r.now)
      | none => false)
  let before (a b : Slot σ) : Bool :=
    let da := a.proc.deadline.getD 0
    let db := b.proc.deadline.getD 0
    da < db || (da == db && a.since ≤ b.since)
  let sorted := due.mergeSort before
  sorted.map (·.id)

/-- The main process is parked on its waits and its deadline has come. -/
def mainDue (r : Run σ α) : Bool :=
  !r.mainWoken && r.mainPark == .waits &&
    (match r.main.deadline with
     | some d => decide (d ≤ r.now)
     | none => false)

/-- Wakes every process whose deadline has come, then every process that yielded. -/
def fire (r : Run σ α) : Run σ α :=
  let r := if r.mainDue then { r with mainWoken := true } else r
  let due := r.dueSlots
  let r := due.foldl enqueue r
  let yielded := r.deferred
  let r := { r with deferred := [] }
  let r := yielded.foldl enqueue r
  if r.mainPark == .yielded then { r with mainWoken := true, mainPark := .waits } else r

/-- The earliest deadline of a parked process. -/
def nextDeadline (r : Run σ α) : Option Nat :=
  let main := if r.mainPark == .waits then r.main.deadline else none
  r.slots.foldl (fun d sl => if r.busy sl.id then d else Proc.earlier d sl.proc.deadline) main

/-- Something has yielded. -/
def anyYielded (r : Run σ α) : Bool := !r.deferred.isEmpty || r.mainPark == .yielded

/-- Parks without moving the clock. -/
def parkBriefly (r : Run σ α) : Run σ α := { r.fire with atTop := true, ticks := 0 }

/-- Parks with an empty run queue: wakes a settling main process if nothing else is pending,
and otherwise moves the clock to the earliest deadline unless something is already woken.
`none` when nothing can ever wake. -/
def park (r : Run σ α) : Option (Run σ α) :=
  if r.anyYielded then some r.parkBriefly
  else if r.mainPark == .settling && r.dueSlots.isEmpty then
    some { r with mainWoken := true, mainPark := .waits, atTop := true, ticks := 0 }
  else if r.mainWoken || !r.dueSlots.isEmpty then some r.parkBriefly
  else
    match r.nextDeadline with
    | some d => some { r with now := max r.now d }.parkBriefly
    | none => none

/-- What a step of the loop leaves: the run goes on, the main process finished, or nothing
can ever wake. -/
inductive Outcome (σ α : Type) : Type 1 where
  | running (r : Run σ α)
  | finished (a : α) (r : Run σ α)
  | stuck (r : Run σ α)

/-- The main process's turn at the top of a round. -/
def mainTurn (r : Run σ α) : Outcome σ α :=
  let out := r.main.poll r.now turnLength r.world
  if out.exhausted then .stuck r else
  let r := { r with world := out.world, mainWoken := false, atTop := false, ticks := 0 }
  match out.rest.result? with
  | some a => .finished a r
  | none =>
    let (since, r) := r.register r.main.deadline out.rest.deadline r.mainSince
    let park : MainPark :=
      if out.yielded then .yielded else if out.settling then .settling else .waits
    let r := { r with main := out.rest, mainSince := since, mainPark := park }
    .running (r.addSpawned out.spawned).scan

/-- One step of the loop. -/
def step (r : Run σ α) : Outcome σ α :=
  if r.atTop then
    if r.mainWoken then r.mainTurn else .running { r with atTop := false, ticks := 0 }
  else if r.ticks ≥ roundLength then .running r.parkBriefly
  else
    match r.queue with
    | id :: rest =>
      match { r with queue := rest }.turn id with
      | some r' => .running { r' with ticks := r.ticks + 1 }
      | none => .stuck r
    | [] =>
      match r.park with
      | some r' => .running r'
      | none => .stuck r

/-- Takes at most `fuel` steps; `none` when the fuel runs out first. -/
def run : Nat → Run σ α → Outcome σ α
  | 0, r => .stuck r
  | fuel + 1, r =>
    match r.step with
    | .running r' => run fuel r'
    | done => done

end Run

end BrokerSession
