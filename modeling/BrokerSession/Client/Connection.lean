import BrokerSession.Client.Creation
import BrokerSession.Client.Pattern
import BrokerSession.Broker.Scripted

/-!
# Connections of a created client

A created client talks to brokers that cannot be reached: the bootstrap address it is given
answers no connection. Its connections therefore behave as follows.

* Every metadata request fails with a broker transport failure.
* A consumer first subscribes to its topic. A topic that starts with `^` is a pattern, and a
  pattern that is not well formed (`Pattern.isWellFormed`) is refused as an invalid
  argument. Otherwise connecting fails like a metadata request.
* A producer's connect is a metadata request, so it fails the same way. Its records stay
  queued within the limits of its settings (`ClientOptions.queueLimits`), and a flush with
  records queued times out.
-/

namespace BrokerSession

/-- The failure of a metadata request when no broker answers. -/
def unreachableFault : Fault := (ClientFailure.metadataFetch Code.transport).toFault

/-- The failure of subscribing to `topic`, if it is a pattern that is not well formed. -/
def subscriptionFault (topic : String) : Option Fault :=
  if topic.startsWith "^" && !Pattern.isWellFormed topic then
    some (ClientFailure.subscription (Code.describe Code.invalidArg)).toFault
  else none

namespace ClientOptions

/-- The limits of a producer's queue. -/
def queueLimits (o : ClientOptions) : QueueLimits :=
  { messageBytes := (o.whole "message.max.bytes" 1000000).toNat,
    records := (o.whole "queue.buffering.max.messages" 100000).toNat,
    bytes := (o.whole "queue.buffering.max.kbytes" 1048576).toNat * 1024,
    transactional := o.transactionalId.isSome }

end ClientOptions

/-- The connection of a consumer of `topic`. -/
def unreachableConsumer (topic : String) : ScriptedConsumer :=
  { refusal := some ((subscriptionFault topic).getD unreachableFault),
    metadataFailure := some unreachableFault }

/-- The connection of a producer with options `o`. -/
def unreachableProducer (o : ClientOptions) : ScriptedProducer :=
  { refusal := some unreachableFault, metadataFailure := some unreachableFault,
    queue := some o.queueLimits }

end BrokerSession
