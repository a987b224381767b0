import BrokerSession.Fault.Basic

/-!
# Failures of the broker client

The broker client reports its failures as an operation and a code, worded
`<operation> error: <code name> (<code text>)`. A refused subscription names only the code's
text and carries no code. A session sees each failure as a broker fault with the client's
wording and code (`ClientFailure.toFault`).

A producer whose records cannot leave keeps them queued (`QueueLimits.refusal`). A record is
refused when:

1. the producer is transactional and no transaction is open (`State`);
2. its topic name is longer than 512 bytes (`InvalidArgument`);
3. its key and payload with the 36 bytes of record framing exceed the largest message
   (`MessageSizeTooLarge`);
4. the queue would hold more records than its limit, a limit of `0` meaning none, or more
   payload bytes than its limit (`QueueFull`).
-/

namespace BrokerSession

namespace Code

/-- The names the client gives the codes it reports. -/
def names : List (Int × String) :=
  [ (transport, "BrokerTransportFailure"),
    (timedOut, "OperationTimedOut"),
    (queueFull, "QueueFull"),
    (invalidArg, "InvalidArgument"),
    (wrongState, "State"),
    (unknownTopic, "UnknownTopic"),
    (msgSizeTooLarge, "MessageSizeTooLarge") ]

/-- The name of a code, with its text in brackets. -/
def nameAndText (code : Int) : String :=
  ((names.find? (·.1 == code)).map (·.2)).getD "Unknown" ++ " (" ++ describe code ++ ")"

end Code

/-- A failure reported by the broker client. -/
inductive ClientFailure where
  | metadataFetch (code : Int)
  /-- a refused subscription, with the text of its code -/
  | subscription (text : String)
  | flush (code : Int)
  | production (code : Int)
  deriving DecidableEq, Repr

namespace ClientFailure

/-- The client's description of a failure. -/
def message : ClientFailure → String
  | .metadataFetch c => "Meta data fetch error: " ++ Code.nameAndText c
  | .subscription t => "Subscription error: " ++ t
  | .flush c => "Flush error: " ++ Code.nameAndText c
  | .production c => "Message production error: " ++ Code.nameAndText c

/-- The code a failure carries. -/
def code : ClientFailure → Option Int
  | .metadataFetch c | .flush c | .production c => some c
  | .subscription _ => none

/-- The fault a session sees. -/
def toFault (f : ClientFailure) : Fault := ⟨.broker, f.code, f.message, none⟩

end ClientFailure

/-- What a producer's queue admits. -/
structure QueueLimits where
  /-- the largest message, framing included -/
  messageBytes : Nat := 1000000
  /-- the most records queued; `0` for no limit -/
  records : Nat := 100000
  /-- the most payload bytes queued -/
  bytes : Nat := 1048576 * 1024
  /-- the producer is transactional, so records wait for a transaction -/
  transactional : Bool := false
  deriving Repr

/-- The bytes of record framing counted against the largest message. -/
def recordFraming : Nat := 36

/-- The longest topic name. -/
def topicNameMax : Nat := 512

namespace QueueLimits

/-- Why a record for `topic` with a key of `keyBytes` and a payload of `payloadBytes` is
refused, when `queued` records with `queuedBytes` payload bytes wait already. -/
def refusal (l : QueueLimits) (topic : String) (keyBytes payloadBytes queued queuedBytes : Nat) :
    Option ClientFailure :=
  if l.transactional then some (.production Code.wrongState)
  else if topic.utf8ByteSize > topicNameMax then some (.production Code.invalidArg)
  else if recordFraming + keyBytes + payloadBytes > l.messageBytes then
    some (.production Code.msgSizeTooLarge)
  else if (l.records > 0 && queued + 1 > l.records) || queuedBytes + payloadBytes > l.bytes then
    some (.production Code.queueFull)
  else none

end QueueLimits

end BrokerSession
