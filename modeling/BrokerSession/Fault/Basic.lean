import BrokerSession.Fault.Code
import BrokerSession.Span

/-!
# Session faults

Every failing session operation reports one `Fault`: a kind, the code of the broker fault
at its root (if any), a message, and, once the fault has been wrapped, the text of that root.

The rules that hold the texts together:

* the *root cause* of a wrapped fault is the text it stored; of any other fault it is its
  message, followed by `, code: c, desc: "…"` when it has a code;
* `wrap m e` says `m, caused by error: <root cause of e>` and stores that root cause, so
  wrapping twice never nests two prefixes; it keeps the code, and keeps the kind only when it
  is `closed` or `invalidState` (otherwise the kind becomes `failure`);
* `aggregate m es` folds several faults into one of kind `failure` with the first code found
  among them and the message `m (n failed): e1; e2; …`.
-/

namespace BrokerSession

/-- What went wrong, in the session's terms. -/
inductive FaultKind where
  /-- a fault reported by the broker client -/
  | broker
  /-- a hard wait ran out of time -/
  | timeout
  /-- an operation failed, possibly after its retries -/
  | failure
  /-- the session was disconnected for good -/
  | closed
  /-- the client keeps returning nothing while in a wrong state -/
  | invalidState
  deriving DecidableEq, Repr

/-- The lower-case name of a kind. -/
def FaultKind.name : FaultKind → String
  | .broker => "broker"
  | .timeout => "timeout"
  | .failure => "failure"
  | .closed => "closed"
  | .invalidState => "invalid_state"

/-- A failure of a session operation. -/
structure Fault where
  kind : FaultKind
  code : Option Int
  message : String
  /-- the root cause text, present once the fault has been wrapped -/
  cause : Option String := none
  deriving DecidableEq, Repr

namespace Fault

/-- Message of the fault raised when the client stops making progress. -/
def invalidStateMessage : String := "Kafka Client is in an invalid state"

/-- Message of the fault raised by a disconnected session. -/
def closedMessage : String := "session is closed"

/-- A fault of a given kind, without a code. -/
def ofKind (kind : FaultKind) (message : String) : Fault := ⟨kind, none, message, none⟩

/-- A fault the broker client reported with a code. -/
def broker (code : Int) (message : String) : Fault := ⟨.broker, some code, message, none⟩

/-- A hard wait of `d` elapsed. -/
def timeout (d : Span) : Fault := ofKind .timeout s!"Timeout of {d.millisFloor}ms"

def closed : Fault := ofKind .closed closedMessage

def invalidState : Fault := ofKind .invalidState invalidStateMessage

/-- Only the invalid-state fault asks the host to restart. -/
def isFatal (e : Fault) : Bool := e.kind == .invalidState

def isWrapped (e : Fault) : Bool := e.cause.isSome

/-- The text of the fault at the root of `e`. -/
def rootCause (e : Fault) : String :=
  match e.cause, e.code with
  | some c, _ => c
  | none, some code => s!"{e.message}, code: {code}, desc: \"{Code.describe code}\""
  | none, none => e.message

/-- `e` under the message `m`, one level deep. -/
def wrap (m : String) (e : Fault) : Fault :=
  let kind := match e.kind with
    | .closed => FaultKind.closed
    | .invalidState => .invalidState
    | _ => .failure
  ⟨kind, e.code, s!"{m}, caused by error: {e.rootCause}", some e.rootCause⟩

/-- Several faults folded into one, keeping the first code among them. -/
def aggregate (m : String) (es : List Fault) : Fault :=
  ⟨.failure, es.findSome? (·.code),
    s!"{m} ({es.length} failed): " ++ "; ".intercalate (es.map (·.message)), none⟩

end Fault

end BrokerSession
