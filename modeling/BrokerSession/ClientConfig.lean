/-!
# Broker client settings

The key/value settings handed to the broker client. A consumer always stores and commits
offsets explicitly, so automatic commits and offset stores are off; a producer batches for
20 ms. `set` replaces an earlier value of the same key; `withTls true` turns on SSL without
certificate checks, and `withTls false` changes nothing.
-/

namespace BrokerSession

/-- Client settings as key/value pairs, one entry per key, in the order keys were first set. -/
structure ClientConfig where
  entries : List (String × String) := []
  deriving DecidableEq, Repr

namespace ClientConfig

/-- Sets `key`, replacing its earlier value. -/
def set (c : ClientConfig) (key value : String) : ClientConfig :=
  if c.entries.any (·.1 == key) then
    { entries := c.entries.map fun (k, v) => if k == key then (k, value) else (k, v) }
  else { entries := c.entries ++ [(key, value)] }

def get? (c : ClientConfig) (key : String) : Option String := c.entries.lookup key

/-- Settings of a consumer in a group. -/
def forConsumer (bootstrap group : String) : ClientConfig :=
  ({} : ClientConfig)
    |>.set "bootstrap.servers" bootstrap
    |>.set "group.id" group
    |>.set "enable.auto.offset.store" "false"
    |>.set "enable.auto.commit" "false"
    |>.set "socket.timeout.ms" "10000"
    |>.set "session.timeout.ms" "60000"
    |>.set "heartbeat.interval.ms" "5000"
    |>.set "max.poll.interval.ms" "300000"

/-- Settings of a producer. -/
def forProducer (bootstrap : String) : ClientConfig :=
  ({} : ClientConfig)
    |>.set "bootstrap.servers" bootstrap
    |>.set "linger.ms" "20"
    |>.set "message.timeout.ms" "30000"
    |>.set "statistics.interval.ms" "10000"

/-- SSL without certificate verification when enabled. -/
def withTls (c : ClientConfig) (enabled : Bool) : ClientConfig :=
  if enabled then
    c.set "security.protocol" "ssl" |>.set "enable.ssl.certificate.verification" "false"
  else c

/-- Where to start when a group has no committed offset. -/
def withOffsetReset (c : ClientConfig) (policy : String) : ClientConfig :=
  c.set "auto.offset.reset" policy

end ClientConfig

end BrokerSession
