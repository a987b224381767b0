import BrokerSession.Client.Tls
import BrokerSession.ClientConfig

/-!
# Creating a client

A client is created from its key/value settings (`ClientConfig.create`) in six stages. The
first failure is the answer.

1. Each setting is read in turn (`ClientOptions.apply`). A refused setting is reported with
   its key and its value.
2. The settings must agree with each other (`ClientOptions.conflict`):
   * a keystore needs its password;
   * a consumer of a classic group polls at least as often as its session times out, and
     one of a consumer protocol group leaves the session, heartbeat, assignment strategy
     and protocol type to the broker; every consumer fetches at least one whole message and
     has room for a fetch in a receive;
   * a transactional producer is idempotent and times out its sockets within the transaction
     timeout; an idempotent producer keeps at most five requests in flight, retries, and
     applies backpressure from the first message; the gapless guarantee needs idempotence;
   * the reconnection and retry backoff caps are at least their backoffs;
   * a producer's messages time out after its linger time; an idempotent one waits for all
     replicas and queues in order; a transactional one times messages out within the
     transaction.
3. Every client knows the partition assignment strategies it is given, all of one
   rebalance protocol.
4. A client that authenticates with SASL uses a mechanism that is built in, with the
   credentials it needs (`ClientOptions.saslProblem`).
5. A client that talks TLS sets up its TLS context (`ClientOptions.tlsProblem`).
6. A consumer belongs to a group.

A client with mock brokers talks plain text to them, so stages 4 and 5 pass over it. A check
whose limit the user did not set adjusts the value instead of refusing it.
-/

namespace BrokerSession

/-- Whether a client produces or consumes. -/
inductive ClientRole where
  | producer
  | consumer
  deriving DecidableEq, Repr

/-- Why a client could not be created. -/
inductive ClientRefusal where
  /-- the setting `key` with text `value` was refused -/
  | setting (key value : String) (why : SettingRejection)
  /-- the settings were accepted one by one but not together -/
  | creation (why : String)
  deriving Repr

/-- The client's description of a refusal. -/
def ClientRefusal.message : ClientRefusal → String
  | .setting k v r => "Client config error: " ++ r.message ++ " " ++ k ++ " " ++ v
  | .creation t => "Client creation error: " ++ t

namespace ClientOptions

/-- The default linger time of a producer: 5 ms. -/
def defaultLinger : Binary64 := Binary64.ofNat 5

/-- Whether some topic property was set, so that default topic settings exist. -/
def hasTopicSettings (o : ClientOptions) : Bool :=
  o.values.any fun (k, _) =>
    match Property.find k with
    | .ok p => p.scope == .topic
    | .error _ => false

/-- How much a consumer fetches at once, adjusted unless the user set it. -/
def fetchMaxBytes (o : ClientOptions) : Int :=
  let maxMessage := o.whole "message.max.bytes" 1000000
  let fetchMax := o.whole "fetch.max.bytes" 52428800
  if o.isSet "fetch.max.bytes" then fetchMax
  else max (min fetchMax (o.whole "queued.max.messages.kbytes" 65536 * 1024)) maxMessage

/-- Whether a consumer uses the consumer group protocol, where the broker decides the
session and heartbeat timing and the partition assignment. -/
def brokerDrivenGroup (o : ClientOptions) : Bool :=
  o.choice "group.protocol" "classic" == "consumer"

/-- A setting that the consumer group protocol refuses. -/
def groupProtocolConflict (o : ClientOptions) : Option String :=
  if o.isSet "session.timeout.ms" then
    some ("`session.timeout.ms` is not supported for `group.protocol=consumer`. It is " ++
      "defined broker side")
  else if o.isSet "partition.assignment.strategy" then
    some ("`partition.assignment.strategy` is not supported for `group.protocol=consumer`. " ++
      "Use `group.remote.assignor` instead")
  else if o.isSet "group.protocol.type" then
    some "`group.protocol.type` is not supported for `group.protocol=consumer`"
  else if o.isSet "heartbeat.interval.ms" then
    some ("`heartbeat.interval.ms` is not supported for `group.protocol=consumer`. It is " ++
      "defined broker side")
  else none

/-- A conflict among a consumer's settings. -/
def consumerConflict (o : ClientOptions) : Option String :=
  let timing :=
    if o.brokerDrivenGroup then o.groupProtocolConflict
    else if o.whole "max.poll.interval.ms" 300000 < o.whole "session.timeout.ms" 45000 then
      some "`max.poll.interval.ms`must be >= `session.timeout.ms`"
    else none
  timing.orElse fun () =>
  if o.isSet "fetch.max.bytes" &&
      o.whole "fetch.max.bytes" 52428800 < o.whole "message.max.bytes" 1000000 then
    some "`fetch.max.bytes` must be >= `message.max.bytes`"
  else if o.isSet "receive.message.max.bytes" &&
      o.fetchMaxBytes + 512 > o.whole "receive.message.max.bytes" 100000000 then
    some "`receive.message.max.bytes` must be >= `fetch.max.bytes` + 512"
  else none

/-- The transactional id of a producer, if it has one; blanks alone are an empty id. -/
def transactionalId (o : ClientOptions) : Option String := o.text "transactional.id" none

/-- Whether a producer is idempotent: asked to be, or transactional. -/
def idempotent (o : ClientOptions) : Bool :=
  o.flag "enable.idempotence" false || o.transactionalId.isSome

/-- A conflict among a producer's client settings. -/
def producerConflict (o : ClientOptions) : Option String :=
  let transactionTimeout := o.whole "transaction.timeout.ms" 60000
  if o.transactionalId.isSome && !o.flag "enable.idempotence" false &&
      o.isSet "enable.idempotence" then
    some "`transactional.id` requires `enable.idempotence=true`"
  else if o.transactionalId.isSome && o.isSet "socket.timeout.ms" &&
      -- the sum is a 32-bit number, so it can wrap below zero
      Numeral.wrap32 (transactionTimeout + 100) < o.whole "socket.timeout.ms" 60000 then
    some "`socket.timeout.ms` must be set <= `transaction.timeout.ms` + 100"
  else if o.idempotent then
    if o.isSet "max.in.flight.requests.per.connection" &&
        o.whole "max.in.flight.requests.per.connection" 1000000 > 5 then
      some "`max.in.flight` must be set <= 5 when `enable.idempotence` is true"
    else if o.isSet "message.send.max.retries" &&
        o.whole "message.send.max.retries" 2147483647 < 1 then
      some "`retries` must be set >= 1 when `enable.idempotence` is true"
    else if o.isSet "queue.buffering.backpressure.threshold" &&
        o.whole "queue.buffering.backpressure.threshold" 1 > 1 then
      some ("`queue.buffering.backpressure.threshold` must be set to 1 when " ++
        "`enable.idempotence` is true")
    else none
  else if o.flag "enable.gapless.guarantee" false && o.isSet "enable.gapless.guarantee" then
    some "`enable.gapless.guarantee` requires `enable.idempotence` to be enabled"
  else none

/-- Whether messages would time out before their linger time is over. -/
def lingerOutlastsTimeout (o : ClientOptions) : Bool :=
  let timeout := o.whole "message.timeout.ms" 300000
  let linger := o.decimal "queue.buffering.max.ms" defaultLinger
  timeout != 0 && !linger.isNaN && !linger.belowNat timeout.toNat

/-- A conflict among a producer's topic settings. -/
def producerTopicConflict (o : ClientOptions) : Option String :=
  if o.lingerOutlastsTimeout && o.isSet "queue.buffering.max.ms" then
    some "`message.timeout.ms` must be greater than `linger.ms`"
  else if o.idempotent && o.isSet "request.required.acks" &&
      o.whole "request.required.acks" (-1) != -1 then
    some "`acks` must be set to `all` when `enable.idempotence` is true"
  else if o.idempotent && o.isSet "queuing.strategy" &&
      o.choice "queuing.strategy" "fifo" != "fifo" then
    some "`queuing.strategy` must be set to `fifo` when `enable.idempotence` is true"
  else if o.idempotent && o.transactionalId.isSome && o.isSet "message.timeout.ms" &&
      o.whole "message.timeout.ms" 300000 > o.whole "transaction.timeout.ms" 60000 then
    some "`message.timeout.ms` must be set <= `transaction.timeout.ms`"
  else none

/-- The first conflict among the settings of a client of role `role`. -/
def conflict (role : ClientRole) (o : ClientOptions) : Option String :=
  if (o.text "ssl.keystore.location" none).isSome &&
      (o.text "ssl.keystore.password" none).isNone then
    some "`ssl.keystore.password` is mandatory when `ssl.keystore.location` is set"
  else
    let own := match role with
      | .consumer => o.consumerConflict
      | .producer => o.producerConflict
    own.orElse fun () =>
      if o.whole "reconnect.backoff.max.ms" 10000 < o.whole "reconnect.backoff.ms" 100 then
        some "`reconnect.backoff.max.ms` must be >= `reconnect.backoff.ms`"
      else if o.whole "retry.backoff.max.ms" 1000 < o.whole "retry.backoff.ms" 100 then
        some "`retry.backoff.max.ms` must be >= `retry.backoff.ms`"
      else if role == .producer && o.hasTopicSettings then o.producerTopicConflict
      else none

/-- Whether a partition assignment strategy rebalances cooperatively: `none` when the
strategy is unknown. -/
def cooperativeStrategy : String → Option Bool
  | "range" => some false
  | "roundrobin" => some false
  | "cooperative-sticky" => some true
  | _ => none

/-- The names in a strategy list: separated by commas, with spaces and commas before a name
skipped. What follows a name up to the next comma belongs to it, blanks included, and a
list that ends in spaces or commas names an empty strategy. -/
def strategyNames (s : List Char) : Nat → List String
  | 0 => []
  | fuel + 1 =>
    if s.isEmpty then []
    else
      let s := s.dropWhile fun c => c == ' ' || c == ','
      let piece := s.takeWhile (· != ',')
      let rest := (s.dropWhile (· != ',')).drop 1
      String.ofList piece :: strategyNames rest fuel

/-- A problem with the partition assignment strategies, which every client reads. -/
def strategyProblem (o : ClientOptions) : Option String :=
  let given := (o.text "partition.assignment.strategy" none).getD "range,roundrobin"
  let names := strategyNames given.toList (given.length + 1)
  match names.find? fun n => (cooperativeStrategy n).isNone with
  | some n => some ("Unsupported partition.assignment.strategy: " ++ n)
  | none =>
    let kinds := names.filterMap cooperativeStrategy
    if kinds.any (· != kinds.headD false) then
      some ("All partition.assignment.strategy (" ++ given ++ ") assignors must have the same " ++
        "protocol type, online migration between assignors with different protocol types " ++
        "is not supported")
    else none

/-- Whether the client authenticates with SASL. -/
def usesSasl (o : ClientOptions) : Bool :=
  let p := o.choice "security.protocol" "plaintext"
  p == "sasl_plaintext" || p == "sasl_ssl"

/-- A problem with the SASL mechanism of a client that authenticates with SASL. Kerberos is
not built in; the other mechanisms need a user name and a password, except `OAUTHBEARER`. -/
def saslProblem (o : ClientOptions) : Option String :=
  let m := (o.text "sasl.mechanisms" none).getD "GSSAPI"
  let credentials := (o.text "sasl.username" none).isSome && (o.text "sasl.password" none).isSome
  if !o.usesSasl then none
  else if m == "GSSAPI" then
    some ("No provider for SASL mechanism GSSAPI: recompile librdkafka with libsasl2 or " ++
      "openssl support. Current build options: PLAIN SASL_SCRAM OAUTHBEARER")
  else if m == "PLAIN" then
    if credentials then none else some "sasl.username and sasl.password must be set"
  else if m.startsWith "SCRAM-SHA-" then
    if !credentials then some "sasl.username and sasl.password must be set"
    else if ["SCRAM-SHA-1", "SCRAM-SHA-256", "SCRAM-SHA-512"].contains m then none
    else some ("Unsupported hash function: " ++ m ++ " (try SCRAM-SHA-512)")
  else if m == "OAUTHBEARER" then none
  else some ("Unsupported SASL mechanism: " ++ m)

/-- Whether the client runs its own mock brokers. -/
def mockBrokers (o : ClientOptions) : Bool := o.whole "test.mock.num.brokers" 0 > 0

/-- Whether a consumer belongs to a group. -/
def inGroup (o : ClientOptions) : Bool :=
  match o.text "group.id" none with
  | some g => !g.isEmpty
  | none => false

end ClientOptions

/-- Creates a client of role `role` from its settings: the options it runs with, or why it
could not be created. -/
def ClientConfig.create (role : ClientRole) (c : ClientConfig) :
    Except ClientRefusal ClientOptions := do
  let o ← c.entries.foldlM (fun o (k, v) => (o.apply k v).mapError (.setting k v)) {}
  if let some why := o.conflict role then throw (.creation why)
  if let some why := o.strategyProblem then throw (.creation why)
  -- a client with mock brokers talks plain text to them
  if !o.mockBrokers then
    if let some why := o.saslProblem then throw (.creation why)
    if let some why := o.tlsProblem then throw (.creation why)
  if role == .consumer && !o.inGroup then throw (.creation "rdkafka consumer queue not available")
  pure o

end BrokerSession
