import BrokerSession.Backoff

/-!
# Session configuration

The settings of a session, their production defaults (`SessionConfig.new`) and the test
preset (`forTests`: the wrong-state check fires on the first empty window).

A configuration can also be read from named text variables (`ofEnv`). `KAFKA_SESSION_TOPIC`
is required; every other field is read from its name in upper case and falls back to its
default when absent. Fields are read in declaration order and the first failure is the
answer. A number is an optional `+` and decimal digits that fit the field's width; a flag is
exactly `true` or `false`.
-/

namespace BrokerSession

/-- Settings of a consuming or producing session. Counts marked 32-bit are below `2^32`,
milliseconds and sizes below `2^64`. -/
structure SessionConfig where
  topic : String
  rollbackOnFailure : Bool := false
  useCommitSync : Bool := false
  backoffBaseMs : Nat := 1000
  backoffCapMs : Nat := 60000
  /-- 32-bit -/
  backoffJitterMin : Nat := 3
  /-- 32-bit -/
  backoffJitterMax : Nat := 9
  /-- 32-bit -/
  maxRetries : Nat := 3
  /-- 32-bit -/
  emptyWindowThreshold : Nat := 5
  /-- 32-bit -/
  invalidStateMin : Nat := 1
  /-- 32-bit -/
  invalidStateMax : Nat := 3
  connectTimeoutMs : Nat := 30000
  seekTimeoutMs : Nat := 10000
  metadataTimeoutMs : Nat := 10000
  flushTimeoutMs : Nat := 60000
  rebalanceCeilingMs : Nat := 1800000
  pendingCommitThreshold : Nat := 100
  commitStaggerMs : Nat := 10
  deriving DecidableEq, Repr

namespace SessionConfig

/-- Production defaults. -/
def new (topic : String) : SessionConfig := { topic }

/-- Test defaults: distress is judged from the first empty window, and one wrong-state fault
is already fatal. -/
def forTests (topic : String) : SessionConfig :=
  { topic, emptyWindowThreshold := 0, invalidStateMax := 1 }

def backoffSettings (c : SessionConfig) : BackoffSettings :=
  { base := Span.ofMillis c.backoffBaseMs, cap := Span.ofMillis c.backoffCapMs,
    jitterMin := c.backoffJitterMin, jitterMax := c.backoffJitterMax }

def connectTimeout (c : SessionConfig) : Span := Span.ofMillis c.connectTimeoutMs
def seekTimeout (c : SessionConfig) : Span := Span.ofMillis c.seekTimeoutMs
def metadataTimeout (c : SessionConfig) : Span := Span.ofMillis c.metadataTimeoutMs
def flushTimeout (c : SessionConfig) : Span := Span.ofMillis c.flushTimeoutMs
def rebalanceCeiling (c : SessionConfig) : Span := Span.ofMillis c.rebalanceCeilingMs
def commitStagger (c : SessionConfig) : Span := Span.ofMillis c.commitStaggerMs

end SessionConfig

/-- Why a configuration could not be read from variables. -/
inductive EnvError where
  | missing (name : String)
  | unparsable (name : String)
  deriving DecidableEq, Repr

def EnvError.message : EnvError → String
  | .missing n => s!"Environment variable {n} is missing"
  | .unparsable n => s!"Failed to parse environment variable {n}"

/-- A decimal number below `2 ^ bits`, written as an optional `+` and at least one digit. -/
def parseUnsigned (bits : Nat) (s : String) : Option Nat :=
  let cs := s.toList
  let digits := match cs with
    | '+' :: rest => rest
    | _ => cs
  if digits.isEmpty || !digits.all Char.isDigit then none
  else
    let n := digits.foldl (fun acc c => acc * 10 + (c.toNat - '0'.toNat)) 0
    if n < Nat.pow 2 bits then some n else none

/-- Exactly `true` or `false`. -/
def parseFlag (s : String) : Option Bool :=
  if s == "true" then some true else if s == "false" then some false else none

namespace SessionConfig

/-- Reads one field: its default when absent, its parse when present. -/
def readField {α : Type} (env : String → Option String) (name : String)
    (parse : String → Option α) (default : α) : Except EnvError α :=
  match env name with
  | none => .ok default
  | some v => match parse v with
    | some a => .ok a
    | none => .error (.unparsable name)

/-- The configuration named by the variables, fields read in declaration order. -/
def ofEnv (env : String → Option String) : Except EnvError SessionConfig := do
  let d := SessionConfig.new ""
  let topic ← match env "KAFKA_SESSION_TOPIC" with
    | some t => pure t
    | none => throw (.missing "KAFKA_SESSION_TOPIC")
  let u64 := parseUnsigned 64
  let u32 := parseUnsigned 32
  let rollbackOnFailure ← readField env "ROLLBACK_ON_FAILURE" parseFlag d.rollbackOnFailure
  let useCommitSync ← readField env "USE_COMMIT_SYNC" parseFlag d.useCommitSync
  let backoffBaseMs ← readField env "BACKOFF_BASE_MS" u64 d.backoffBaseMs
  let backoffCapMs ← readField env "BACKOFF_CAP_MS" u64 d.backoffCapMs
  let backoffJitterMin ← readField env "BACKOFF_JITTER_MIN" u32 d.backoffJitterMin
  let backoffJitterMax ← readField env "BACKOFF_JITTER_MAX" u32 d.backoffJitterMax
  let maxRetries ← readField env "MAX_RETRIES" u32 d.maxRetries
  let emptyWindowThreshold ← readField env "EMPTY_WINDOW_THRESHOLD" u32 d.emptyWindowThreshold
  let invalidStateMin ← readField env "INVALID_STATE_MIN" u32 d.invalidStateMin
  let invalidStateMax ← readField env "INVALID_STATE_MAX" u32 d.invalidStateMax
  let connectTimeoutMs ← readField env "CONNECT_TIMEOUT_MS" u64 d.connectTimeoutMs
  let seekTimeoutMs ← readField env "SEEK_TIMEOUT_MS" u64 d.seekTimeoutMs
  let metadataTimeoutMs ← readField env "METADATA_TIMEOUT_MS" u64 d.metadataTimeoutMs
  let flushTimeoutMs ← readField env "FLUSH_TIMEOUT_MS" u64 d.flushTimeoutMs
  let rebalanceCeilingMs ← readField env "REBALANCE_CEILING_MS" u64 d.rebalanceCeilingMs
  let pendingCommitThreshold ←
    readField env "PENDING_COMMIT_THRESHOLD" u64 d.pendingCommitThreshold
  let commitStaggerMs ← readField env "COMMIT_STAGGER_MS" u64 d.commitStaggerMs
  return { topic, rollbackOnFailure, useCommitSync, backoffBaseMs, backoffCapMs,
           backoffJitterMin, backoffJitterMax, maxRetries, emptyWindowThreshold,
           invalidStateMin, invalidStateMax, connectTimeoutMs, seekTimeoutMs,
           metadataTimeoutMs, flushTimeoutMs, rebalanceCeilingMs, pendingCommitThreshold,
           commitStaggerMs }

end SessionConfig

end BrokerSession
