/-!
# Client properties

A broker client is configured by named properties. Each property reads its value text in one
of a few forms (`SettingForm`). It belongs either to the client or to the default settings of
the topics it uses (`PropertyScope`). A property may also be another name of a property
(`sameAs`), or be missing from this build of the client (`Property.missing`).

`Property.find` looks a name up: among the client's properties first, then among the topic
properties, where a leading `topic.` is dropped. An alias is followed to the property it
names.
-/

namespace BrokerSession

/-- How the text of a setting is read. -/
inductive SettingForm where
  /-- any text; leading blanks are dropped when `trim` -/
  | text (trim : Bool)
  /-- text naming one of `names` exactly -/
  | textOneOf (names : List String)
  /-- text without a comma or a space -/
  | word
  /-- a truth value -/
  | flag
  /-- a whole number in `lo..hi`, or one of the `named` numbers -/
  | whole (lo hi : Int) (named : List (String × Int))
  /-- a decimal number in `lo..hi` -/
  | decimal (lo hi : Nat)
  /-- one of `names`, in any case; a name paired with a reason is missing from this build -/
  | choice (names : List (String × Option String))
  /-- a comma-separated set of `names`, each optionally after `+` or `-` -/
  | flags (names : List (String × Option String))
  /-- a function of the application, set only through its own call -/
  | handler
  /-- kept by the client itself -/
  | internal
  /-- another name of the property `target` -/
  | sameAs (target : String)
  /-- text naming a broker version, refused for versions before 0.8 -/
  | brokerVersion
  /-- a comma-separated list of regular expressions -/
  | patternList
  /-- a `;`-separated list of plugin libraries, loaded when set -/
  | pluginPaths
  /-- a property of other clients that this one refuses, saying `why` -/
  | refused (why : String)
  deriving Repr

/-- Whether a property configures the client or the default settings of its topics. -/
inductive PropertyScope where
  | client
  | topic
  deriving DecidableEq, Repr

/-- A named client property. -/
structure Property where
  name : String
  form : SettingForm
  scope : PropertyScope := .client
  /-- why the property is missing from this build -/
  missing : Option String := none
  deriving Repr

namespace Property

/-- Why compression with zstd is missing. -/
def noZstd : String := "libzstd not available at build time"

/-- Why Kerberos authentication is missing. -/
def noKerberos : String := "cyrus-sasl/libsasl2 not available at build time"

/-- Why OpenID Connect token retrieval is missing. -/
def noOidc : String :=
  "OAuth/OIDC depends on libcurl and OpenSSL which were not available at build time"

/-- Why HTTP support is missing. -/
def noHttp : String := "libcurl not available at build time"

/-- Why HTTPS settings are missing. -/
def noHttps : String :=
  "HTTPS calls depend on libcurl and OpenSSL which were not available at build time"

/-- Why Windows certificate stores are missing. -/
def onlyWindows : String := "configuration only valid on Windows"

/-- A property missing from this build. -/
def unavailable (name : String) (form : SettingForm) (why : String) : Property :=
  ⟨name, form, .client, some why⟩

/-- Plain names of a choice, all available. -/
def names (ns : List String) : List (String × Option String) := ns.map fun n => (n, none)

/-- The largest 32-bit signed number. -/
def int32Max : Int := 2147483647

/-- A whole-number property of the client. -/
def whole (name : String) (lo hi : Int) : Property := ⟨name, .whole lo hi [], .client, none⟩

/-- A truth-valued property of the client. -/
def flag (name : String) : Property := ⟨name, .flag, .client, none⟩

/-- A text property of the client. -/
def text (name : String) : Property := ⟨name, .text true, .client, none⟩

/-- A secret text property of the client, read as given. -/
def secret (name : String) : Property := ⟨name, .text false, .client, none⟩

/-- An application function of the client. -/
def handler (name : String) : Property := ⟨name, .handler, .client, none⟩

/-- Another name of a client property. -/
def aliasOf (name target : String) : Property := ⟨name, .sameAs target, .client, none⟩

/-- The properties of the client itself. -/
def clientProperties : List Property :=
  [ ⟨"builtin.features", .flags
      [("gzip", none), ("snappy", none), ("ssl", none), ("sasl", none), ("regex", none),
       ("lz4", none), ("sasl_gssapi", some noKerberos), ("sasl_plain", none),
       ("sasl_scram", none), ("plugins", none), ("zstd", some noZstd),
       ("sasl_oauthbearer", none), ("http", some noHttp), ("oidc", some noOidc)], .client, none⟩,
    text "client.id",
    text "metadata.broker.list",
    aliasOf "bootstrap.servers" "metadata.broker.list",
    whole "message.max.bytes" 1000 1000000000,
    whole "message.copy.max.bytes" 0 1000000000,
    whole "receive.message.max.bytes" 1000 int32Max,
    whole "max.in.flight.requests.per.connection" 1 1000000,
    aliasOf "max.in.flight" "max.in.flight.requests.per.connection",
    ⟨"metadata.recovery.strategy", .choice (names ["none", "rebootstrap"]), .client, none⟩,
    whole "metadata.recovery.rebootstrap.trigger.ms" 0 int32Max,
    whole "metadata.request.timeout.ms" 10 900000,
    whole "topic.metadata.refresh.interval.ms" (-1) 3600000,
    whole "metadata.max.age.ms" 1 86400000,
    whole "topic.metadata.refresh.fast.interval.ms" 1 60000,
    whole "topic.metadata.refresh.fast.cnt" 0 1000,
    flag "topic.metadata.refresh.sparse",
    whole "topic.metadata.propagation.max.ms" 0 3600000,
    ⟨"topic.blacklist", .patternList, .client, none⟩,
    ⟨"debug", .flags (names ["generic", "broker", "topic", "metadata", "feature", "queue", "msg",
      "protocol", "cgrp", "security", "fetch", "interceptor", "plugin", "consumer", "admin",
      "eos", "mock", "assignor", "conf", "telemetry", "all"]), .client, none⟩,
    whole "socket.timeout.ms" 10 300000,
    whole "socket.blocking.max.ms" 1 60000,
    whole "socket.send.buffer.bytes" 0 100000000,
    whole "socket.receive.buffer.bytes" 0 100000000,
    flag "socket.keepalive.enable",
    flag "socket.nagle.disable",
    whole "socket.max.fails" 0 1000000,
    whole "broker.address.ttl" 0 86400000,
    ⟨"broker.address.family", .choice (names ["any", "v4", "v6"]), .client, none⟩,
    whole "socket.connection.setup.timeout.ms" 1000 int32Max,
    whole "connections.max.idle.ms" 0 int32Max,
    flag "enable.sparse.connections",
    whole "reconnect.backoff.jitter.ms" 0 3600000,
    whole "reconnect.backoff.ms" 0 3600000,
    whole "reconnect.backoff.max.ms" 0 3600000,
    whole "statistics.interval.ms" 0 86400000,
    whole "enabled_events" 0 int32Max,
    handler "error_cb",
    handler "throttle_cb",
    handler "stats_cb",
    handler "log_cb",
    whole "log_level" 0 7,
    flag "log.queue",
    flag "log.thread.name",
    flag "enable.random.seed",
    flag "log.connection.close",
    handler "background_event_cb",
    handler "socket_cb",
    handler "connect_cb",
    handler "closesocket_cb",
    handler "open_cb",
    handler "resolve_cb",
    handler "opaque",
    handler "default_topic_conf",
    whole "internal.termination.signal" 0 128,
    flag "api.version.request",
    whole "api.version.request.timeout.ms" 1 300000,
    whole "api.version.fallback.ms" 0 604800000,
    ⟨"broker.version.fallback", .brokerVersion, .client, none⟩,
    flag "allow.auto.create.topics",
    ⟨"security.protocol", .choice (names ["plaintext", "ssl", "sasl_plaintext", "sasl_ssl"]),
      .client, none⟩,
    text "ssl.cipher.suites",
    text "ssl.curves.list",
    text "ssl.sigalgs.list",
    text "ssl.key.location",
    secret "ssl.key.password",
    text "ssl.key.pem",
    ⟨"ssl_key", .internal, .client, none⟩,
    text "ssl.certificate.location",
    text "ssl.certificate.pem",
    ⟨"ssl_certificate", .internal, .client, none⟩,
    text "ssl.ca.location",
    unavailable "https.ca.location" (.text true) noHttps,
    unavailable "https.ca.pem" (.text true) noHttps,
    text "ssl.ca.pem",
    ⟨"ssl_ca", .internal, .client, none⟩,
    unavailable "ssl.ca.certificate.stores" (.text true) onlyWindows,
    text "ssl.crl.location",
    text "ssl.keystore.location",
    secret "ssl.keystore.password",
    text "ssl.providers",
    text "ssl.engine.location",
    text "ssl.engine.id",
    handler "ssl_engine_callback_data",
    flag "enable.ssl.certificate.verification",
    ⟨"ssl.endpoint.identification.algorithm", .choice (names ["none", "https"]), .client, none⟩,
    handler "ssl.certificate.verify_cb",
    ⟨"ssl.truststore.location", .refused ("Java TrustStores are not supported, use " ++
      "`ssl.ca.location` and a certificate file instead. See " ++
      "https://github.com/confluentinc/librdkafka/wiki/Using-SSL-with-librdkafka for more " ++
      "information."), .client, none⟩,
    ⟨"sasl.jaas.config", .refused ("Java JAAS configuration is not supported, see " ++
      "https://github.com/confluentinc/librdkafka/wiki/Using-SASL-with-librdkafka for more " ++
      "information."), .client, none⟩,
    ⟨"sasl.mechanisms", .word, .client, none⟩,
    aliasOf "sasl.mechanism" "sasl.mechanisms",
    text "sasl.kerberos.service.name",
    text "sasl.kerberos.principal",
    text "sasl.kerberos.kinit.cmd",
    text "sasl.kerberos.keytab",
    whole "sasl.kerberos.min.time.before.relogin" 0 86400000,
    secret "sasl.username",
    secret "sasl.password",
    text "sasl.oauthbearer.config",
    flag "enable.sasl.oauthbearer.unsecure.jwt",
    handler "oauthbearer_token_refresh_cb",
    flag "enable_sasl_queue",
    unavailable "sasl.oauthbearer.method" (.choice (names ["default", "oidc"])) noOidc,
    unavailable "sasl.oauthbearer.client.id" (.text true) noOidc,
    aliasOf "sasl.oauthbearer.client.credentials.client.id" "sasl.oauthbearer.client.id",
    aliasOf "sasl.oauthbearer.client.credentials.client.secret" "sasl.oauthbearer.client.secret",
    unavailable "sasl.oauthbearer.client.secret" (.text true) noOidc,
    unavailable "sasl.oauthbearer.scope" (.text true) noOidc,
    unavailable "sasl.oauthbearer.extensions" (.text true) noOidc,
    unavailable "sasl.oauthbearer.token.endpoint.url" (.text true) noOidc,
    unavailable "sasl.oauthbearer.grant.type"
      (.choice (names ["client_credentials", "urn:ietf:params:oauth:grant-type:jwt-bearer"]))
      noOidc,
    unavailable "sasl.oauthbearer.assertion.algorithm" (.choice (names ["RS256", "ES256"])) noOidc,
    unavailable "sasl.oauthbearer.assertion.private.key.file" (.text true) noOidc,
    unavailable "sasl.oauthbearer.assertion.private.key.passphrase" (.text true) noOidc,
    unavailable "sasl.oauthbearer.assertion.private.key.pem" (.text true) noOidc,
    unavailable "sasl.oauthbearer.assertion.file" (.text true) noOidc,
    unavailable "sasl.oauthbearer.assertion.claim.aud" (.text true) noOidc,
    unavailable "sasl.oauthbearer.assertion.claim.exp.seconds" (.whole 1 int32Max []) noOidc,
    unavailable "sasl.oauthbearer.assertion.claim.iss" (.text true) noOidc,
    unavailable "sasl.oauthbearer.assertion.claim.jti.include" .flag noOidc,
    unavailable "sasl.oauthbearer.assertion.claim.nbf.seconds" (.whole 0 int32Max []) noOidc,
    unavailable "sasl.oauthbearer.assertion.claim.sub" (.text true) noOidc,
    unavailable "sasl.oauthbearer.assertion.jwt.template.file" (.text true) noOidc,
    unavailable "sasl.oauthbearer.metadata.authentication.type"
      (.choice (names ["none", "azure_imds"])) noOidc,
    ⟨"plugin.library.paths", .pluginPaths, .client, none⟩,
    ⟨"interceptors", .internal, .client, none⟩,
    whole "test.mock.num.brokers" 0 10000,
    whole "test.mock.broker.rtt" 0 3600000,
    handler "ut_handle_ProduceResponse",
    text "group.id",
    text "group.instance.id",
    text "partition.assignment.strategy",
    whole "session.timeout.ms" 1 3600000,
    whole "heartbeat.interval.ms" 1 3600000,
    secret "group.protocol.type",
    ⟨"group.protocol", .choice (names ["classic", "consumer"]), .client, none⟩,
    text "group.remote.assignor",
    whole "coordinator.query.interval.ms" 1 3600000,
    whole "max.poll.interval.ms" 1 86400000,
    flag "enable.auto.commit",
    whole "auto.commit.interval.ms" 0 86400000,
    flag "enable.auto.offset.store",
    whole "queued.min.messages" 1 10000000,
    whole "queued.max.messages.kbytes" 1 2097151,
    whole "fetch.wait.max.ms" 0 300000,
    whole "fetch.queue.backoff.ms" 0 300000,
    whole "fetch.message.max.bytes" 1 1000000000,
    aliasOf "max.partition.fetch.bytes" "fetch.message.max.bytes",
    whole "fetch.max.bytes" 0 2147483135,
    whole "fetch.min.bytes" 1 100000000,
    whole "fetch.error.backoff.ms" 0 300000,
    ⟨"offset.store.method", .choice (names ["none", "file", "broker"]), .client, none⟩,
    ⟨"isolation.level", .choice (names ["read_uncommitted", "read_committed"]), .client, none⟩,
    handler "consume_cb",
    handler "rebalance_cb",
    handler "offset_commit_cb",
    flag "enable.partition.eof",
    flag "check.crcs",
    secret "client.rack",
    text "transactional.id",
    whole "transaction.timeout.ms" 1000 int32Max,
    flag "enable.idempotence",
    flag "enable.gapless.guarantee",
    whole "queue.buffering.max.messages" 0 int32Max,
    whole "queue.buffering.max.kbytes" 1 int32Max,
    ⟨"queue.buffering.max.ms", .decimal 0 900000, .client, none⟩,
    aliasOf "linger.ms" "queue.buffering.max.ms",
    whole "message.send.max.retries" 0 int32Max,
    aliasOf "retries" "message.send.max.retries",
    whole "retry.backoff.ms" 1 300000,
    whole "retry.backoff.max.ms" 1 300000,
    whole "queue.buffering.backpressure.threshold" 1 1000000,
    ⟨"compression.codec", .choice [("none", none), ("gzip", none), ("snappy", none),
      ("lz4", none), ("zstd", some noZstd)], .client, none⟩,
    aliasOf "compression.type" "compression.codec",
    whole "batch.num.messages" 1 1000000,
    whole "batch.size" 1 int32Max,
    flag "delivery.report.only.error",
    handler "dr_cb",
    handler "dr_msg_cb",
    whole "sticky.partitioning.linger.ms" 0 900000,
    ⟨"client.dns.lookup", .choice (names ["use_all_dns_ips",
      "resolve_canonical_bootstrap_servers_only"]), .client, none⟩,
    flag "enable.metrics.push",
    text "client.software.name",
    text "client.software.version" ]

/-- The properties of the default topic settings. -/
def topicProperties : List Property :=
  [ ⟨"request.required.acks", .whole (-1) 1000 [("all", -1)], .topic, none⟩,
    ⟨"acks", .sameAs "request.required.acks", .topic, none⟩,
    ⟨"request.timeout.ms", .whole 1 900000 [], .topic, none⟩,
    ⟨"message.timeout.ms", .whole 0 int32Max [], .topic, none⟩,
    ⟨"delivery.timeout.ms", .sameAs "message.timeout.ms", .topic, none⟩,
    ⟨"queuing.strategy", .choice (names ["fifo", "lifo"]), .topic, none⟩,
    ⟨"produce.offset.report", .flag, .topic, none⟩,
    ⟨"partitioner", .textOneOf ["random", "consistent", "consistent_random", "murmur2",
      "murmur2_random", "fnv1a", "fnv1a_random"], .topic, none⟩,
    ⟨"partitioner_cb", .handler, .topic, none⟩,
    ⟨"msg_order_cmp", .handler, .topic, none⟩,
    ⟨"opaque", .handler, .topic, none⟩,
    ⟨"compression.codec", .choice [("none", none), ("gzip", none), ("snappy", none),
      ("lz4", none), ("zstd", some noZstd), ("inherit", none)], .topic, none⟩,
    ⟨"compression.type", .sameAs "compression.codec", .topic, none⟩,
    ⟨"compression.level", .whole (-1) 12 [], .topic, none⟩,
    ⟨"auto.commit.enable", .flag, .topic, none⟩,
    ⟨"enable.auto.commit", .sameAs "auto.commit.enable", .topic, none⟩,
    ⟨"auto.commit.interval.ms", .whole 10 86400000 [], .topic, none⟩,
    ⟨"auto.offset.reset", .choice (names ["smallest", "earliest", "beginning", "largest",
      "latest", "end", "error"]), .topic, none⟩,
    ⟨"offset.store.path", .text true, .topic, none⟩,
    ⟨"offset.store.sync.interval.ms", .whole (-1) 86400000 [], .topic, none⟩,
    ⟨"offset.store.method", .choice (names ["file", "broker"]), .topic, none⟩,
    ⟨"consume.callback.max.messages", .whole 0 1000000 [], .topic, none⟩ ]

/-- The properties of a scope. -/
def ofScope : PropertyScope → List Property
  | .client => clientProperties
  | .topic => topicProperties

/-- The property of `scope` called `name`, aliases followed (at most `fuel` of them). -/
def findIn (scope : PropertyScope) (name : String) : Nat → Option Property
  | 0 => none
  | fuel + 1 =>
    match (ofScope scope).find? (·.name == name) with
    | some { form := .sameAs target, .. } => findIn scope target fuel
    | found => found

/-- A name without the prefix `topic.`, which topic properties may carry. -/
def topicName (name : String) : String :=
  if name.startsWith "topic." then String.ofList (name.toList.drop 6) else name

/-- The property `name` resolves to: a client property, else a topic property. When there is
none, the name that was looked up last. -/
def find (name : String) : Except String Property :=
  match findIn .client name 4 with
  | some p => .ok p
  | none =>
    match findIn .topic (topicName name) 4 with
    | some p => .ok p
    | none => .error (topicName name)

end Property

end BrokerSession
