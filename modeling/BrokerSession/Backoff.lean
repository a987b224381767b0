import BrokerSession.Span
import BrokerSession.Binary64.Basic

/-!
# Backoff

One delay shared by everything that acts on a session. It starts at `base`; each `increase`
adds one step `base * f`, with `f` drawn from `[jitterMin, jitterMax]`, and clamps the sum to
`cap`; `reset` brings it back to `base`. Beside the delay the backoff counts wrong-state
faults: `recordInvalid` adds one, `relieveInvalid` takes one away (never below zero).

Construction normalises the settings: the cap is at least the base, and inverted jitter
bounds are swapped. When the two bounds agree the factor is that number exactly. When they
differ the draw is taken at the low end, and `drawn` records that the delay now depends on a
draw, until the next reset.

The step is `Span.scale base f`, which stops the program if it reaches `2^64` seconds, and so
does the sum `current + step`; the invalid-state count is a 32-bit counter whose overflow
stops the program as well.
-/

namespace BrokerSession

/-- Backoff settings as given; `Backoff.new` normalises them. -/
structure BackoffSettings where
  base : Span := Span.ofMillis 1000
  cap : Span := Span.ofMillis 60000
  jitterMin : Nat := 3
  jitterMax : Nat := 9
  deriving DecidableEq, Repr

/-- The shared delay and the wrong-state count. -/
structure Backoff where
  settings : BackoffSettings
  current : Span
  invalidCount : Nat := 0
  /-- the delay depends on a draw from a jitter range wider than one point -/
  drawn : Bool := false
  deriving DecidableEq, Repr

namespace Backoff

/-- A fresh backoff: normalised settings, the delay at its base, no wrong-state fault. -/
def new (s : BackoffSettings) : Backoff :=
  { settings := { s with cap := max s.cap s.base, jitterMin := min s.jitterMin s.jitterMax,
                         jitterMax := max s.jitterMax s.jitterMin },
    current := s.base }

/-- The jitter is a single number, so every delay is known exactly. -/
def isExact (b : Backoff) : Bool := b.settings.jitterMin == b.settings.jitterMax

/-- The factor of a step. -/
def factor (b : Backoff) : Binary64 := Binary64.ofNat b.settings.jitterMin

/-- One step: the base scaled by the factor. -/
def step (b : Backoff) : Except Halt Span := b.settings.base.scale b.factor

/-- Grows the delay by one step of factor `f`, clamped to the cap; returns the new delay. -/
def growBy (b : Backoff) (f : Binary64) : Except Halt (Span × Backoff) := do
  let s ← b.settings.base.scale f
  let sum ← b.current.add s
  let next := min sum b.settings.cap
  return (next, { b with current := next, drawn := b.drawn || !b.isExact })

/-- Grows the delay by one step of the drawn factor, clamped to the cap; returns the new
delay. -/
def increase (b : Backoff) : Except Halt (Span × Backoff) := b.growBy b.factor

def reset (b : Backoff) : Backoff := { b with current := b.settings.base, drawn := false }

/-- The largest value of the 32-bit wrong-state counter. -/
def countLimit : Nat := Nat.pow 2 32 - 1

/-- Counts one more wrong-state fault; returns the new count. -/
def recordInvalid (b : Backoff) : Except Halt (Nat × Backoff) :=
  if b.invalidCount < countLimit then
    .ok (b.invalidCount + 1, { b with invalidCount := b.invalidCount + 1 })
  else .error .intOverflow

/-- Forgives one wrong-state fault, never going below zero; returns the new count. -/
def relieveInvalid (b : Backoff) : Nat × Backoff :=
  (b.invalidCount - 1, { b with invalidCount := b.invalidCount - 1 })

end Backoff

end BrokerSession
