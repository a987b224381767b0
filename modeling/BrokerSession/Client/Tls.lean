import BrokerSession.Client.Setting

/-!
# Setting up TLS

A client that talks TLS (`security.protocol` is `ssl` or `sasl_ssl`) sets up its TLS context
when it is created, and a failure there refuses the client. The steps run in this order, and
the first failure is the answer (`ClientOptions.tlsProblem`):

1. the TLS library's providers (`ssl.providers`) are loaded; only the built-in ones exist;
2. an engine library (`ssl.engine.location`) is loaded;
3. the cipher list must select at least one cipher of TLS 1.2 (`ssl.cipher.suites`);
4. the curve list must name only known key-exchange groups (`ssl.curves.list`);
5. the signature algorithm list must name only known algorithms (`ssl.sigalgs.list`);
6. certificates and keys are read: the CA location (unless it is `probe`), the CA text, the
   revocation list, the client certificate file and text, the key file and text, and the
   keystore.

No file named by a setting exists where the client runs, so every file step fails; and a
certificate or key given as text must be PEM, which the texts given here are not. Each
failure is worded with the TLS library's last error. The TLS library is built without the
Camellia and SEED ciphers, so names of those select nothing.
-/

namespace BrokerSession

namespace Tls

/-- The wording of a list refused without a library error. -/
def noDetail : String := "kafka: No further error information available"

/-- The aliases of cipher groups that select TLS 1.2 ciphers. -/
def cipherAliases : List String :=
  ["ALL", "DEFAULT", "HIGH", "MEDIUM", "COMPLEMENTOFDEFAULT", "COMPLEMENTOFALL", "aRSA", "aECDSA",
   "ECDSA", "RSA", "kRSA", "kECDHE", "ECDHE", "EECDH", "kEECDH", "kDHE", "DHE", "EDH", "kEDH",
   "aDSS", "DSS", "AES", "AES128", "AES256", "AESGCM", "AESCCM", "AESCCM8", "CHACHA20",
   "ARIA", "ARIA128", "ARIA256", "ARIAGCM", "SHA", "SHA1", "SHA256", "SHA384", "TLSv1.2", "TLSv1", "TLSv1.0", "SSLv3", "PSK", "kPSK",
   "aPSK", "ECDHEPSK", "DHEPSK", "RSAPSK", "kECDHEPSK", "kDHEPSK", "kRSAPSK", "eNULL", "NULL",
   "aNULL", "ADH", "AECDH", "SRP", "kSRP", "aSRP"]

/-- The key exchanges and authentications of TLS 1.2 cipher names. -/
def cipherPrefixes : List String :=
  ["ECDHE-RSA-", "ECDHE-ECDSA-", "DHE-RSA-", "DHE-DSS-", "ECDHE-PSK-", "DHE-PSK-", "RSA-PSK-",
   "PSK-", "ADH-", "AECDH-", "SRP-", "SRP-RSA-", "SRP-DSS-", ""]

/-- The ciphers and digests of TLS 1.2 cipher names. -/
def cipherSuffixes : List String :=
  ["AES128-GCM-SHA256", "AES256-GCM-SHA384", "AES128-SHA256", "AES256-SHA384", "AES128-SHA",
   "AES256-SHA", "AES256-SHA256", "CHACHA20-POLY1305", "AES128-CCM", "AES256-CCM",
   "AES128-CCM8", "AES256-CCM8", "ARIA128-GCM-SHA256", "ARIA256-GCM-SHA384", "NULL-SHA",
   "NULL-SHA256", "NULL-MD5", "DES-CBC3-SHA", "AES-128-CBC-SHA", "AES-256-CBC-SHA"]

/-- Whether a name, or every part of a `+` combination, selects ciphers. -/
def selects (item : String) : Bool :=
  let known (part : String) : Bool :=
    cipherAliases.contains part ||
      cipherPrefixes.any fun p => cipherSuffixes.any fun q => p ++ q == part
  let parts := item.splitOn "+"
  !parts.isEmpty && parts.all fun p => !p.isEmpty && known p

/-- Whether a cipher list selects at least one TLS 1.2 cipher: some item that adds ciphers
(not after `!`, `-`, `+` or `@`) names known ones. -/
def cipherListSelects (list : String) : Bool :=
  let items := (list.split fun c => c == ':' || c == ',' || c == ' ' || c == ';').toList.map
    fun s => s.toString
  items.any fun i =>
    !(i.startsWith "!" || i.startsWith "-" || i.startsWith "+" || i.startsWith "@") && selects i

/-- Whether a character is a blank in the C locale. -/
def isBlank (c : Char) : Bool :=
  c == ' ' || c == '\t' || c == '\n' || c == '\r' || c == '\x0b' || c == '\x0c'

/-- The character a backslash before `c` stands for. -/
def escaped (c : Char) : Char :=
  if c == 't' then '\t'
  else if c == 'n' then '\n'
  else if c == 'r' then '\r'
  else if c == '0' then '\x00'
  else c

/-- The items of a list separated by `sep`, each item's blanks stripped on both sides and
empty items left out. A backslash makes the next character part of the item (`\t`, `\n`,
`\r` and `\0` standing for their controls). `item` holds the current item reversed. -/
def splitItems (sep : Char) : List Char → List Char → List String
  | [], item => finish item
  | '\\' :: c :: rest, item => splitItems sep rest (escaped c :: item)
  | '\\' :: [], item => finish item
  | c :: rest, item =>
    if item.isEmpty && isBlank c then splitItems sep rest item
    else if c == sep then finish item ++ splitItems sep rest []
    else splitItems sep rest (c :: item)
where
  /-- The finished item, trailing blanks dropped; none when it is empty. -/
  finish (item : List Char) : List String :=
    match item.dropWhile isBlank with
    | [] => []
    | cs => [String.ofList cs.reverse]

/-- The providers built into the TLS library. -/
def builtinProviders : List String := ["default", "base", "null"]

/-- Why loading the listed providers fails: the list names none, or names one that is not
built in and so has to be loaded from a module file, which does not exist. -/
def providerProblem (list : String) : Option String :=
  match splitItems ',' list.toList [] with
  | [] => some "ssl.providers expects a comma-separated list of OpenSSL 3.0.x providers"
  | names =>
    (names.find? (!builtinProviders.contains ·)).map fun name =>
      "Failed to load OpenSSL provider \"" ++ name ++
        "\": error:07880025:common libcrypto routines::DSO lib: name=" ++ name

/-- The names of the key-exchange groups. -/
def groupNames : List String :=
  ["secp192r1", "P-192", "prime192v1", "secp224r1", "P-224", "secp256r1", "P-256", "prime256v1",
   "secp384r1", "P-384", "secp521r1", "P-521", "sect163k1", "K-163", "sect163r1", "sect163r2",
   "B-163", "sect193r1", "sect193r2", "sect233k1", "K-233", "sect233r1", "B-233", "sect239k1",
   "sect283k1", "K-283", "sect283r1", "B-283", "sect409k1", "K-409", "sect409r1", "B-409",
   "sect571k1", "K-571", "sect571r1", "B-571", "secp160k1", "secp160r1", "secp160r2",
   "secp192k1", "secp224k1", "secp256k1", "brainpoolP256r1", "brainpoolP384r1",
   "brainpoolP512r1", "brainpoolP256r1tls13", "brainpoolP384r1tls13", "brainpoolP512r1tls13",
   "x25519", "X25519", "x448", "X448", "ffdhe2048", "ffdhe3072", "ffdhe4096", "ffdhe6144",
   "ffdhe8192", "X25519MLKEM768", "SecP256r1MLKEM768", "SecP384r1MLKEM1024", "MLKEM512",
   "MLKEM768", "MLKEM1024"]

/-- The names of the signature algorithms. -/
def signatureNames : List String :=
  ["ecdsa_secp256r1_sha256", "ecdsa_secp384r1_sha384", "ecdsa_secp521r1_sha512", "ecdsa_sha224",
   "ecdsa_sha1", "ed25519", "ed448", "rsa_pss_rsae_sha256", "rsa_pss_rsae_sha384",
   "rsa_pss_rsae_sha512", "rsa_pss_pss_sha256", "rsa_pss_pss_sha384", "rsa_pss_pss_sha512",
   "rsa_pkcs1_sha256", "rsa_pkcs1_sha384", "rsa_pkcs1_sha512", "rsa_pkcs1_sha224",
   "rsa_pkcs1_sha1", "dsa_sha256", "dsa_sha384", "dsa_sha512", "dsa_sha224", "dsa_sha1",
   "ecdsa_brainpoolP256r1_sha256", "ecdsa_brainpoolP384r1_sha384",
   "ecdsa_brainpoolP512r1_sha512"]

/-- Whether a signature algorithm is named, or written as key type `+` digest. -/
def signatureKnown (item : String) : Bool :=
  match item.splitOn "+" with
  | [alg, hash] =>
    let digests := ["SHA1", "SHA224", "SHA256", "SHA384", "SHA512", "sha1", "sha224", "sha256",
      "sha384", "sha512"]
    let pss := alg == "RSA-PSS" || alg == "PSS"
    (["RSA", "DSA", "ECDSA"].contains alg || pss) && digests.contains hash &&
      !(pss && (hash.toLower == "sha1" || hash.toLower == "sha224"))
  | [name] => signatureNames.contains name
  | _ => false

/-- The items of a `:`-separated list, blanks around them dropped. -/
def listItems (list : String) : List String :=
  (list.splitOn ":").map fun s => s.trimAscii.toString

/-- Whether every item of a list is known; an empty item is not. -/
def allKnown (known : String → Bool) (list : String) : Bool :=
  (listItems list).all fun i => !i.isEmpty && known i

end Tls

namespace ClientOptions

/-- Whether the client talks TLS to its brokers. -/
def usesTls (o : ClientOptions) : Bool :=
  let p := o.choice "security.protocol" "plaintext"
  p == "ssl" || p == "sasl_ssl"

/-- The failure of the client's TLS setup, if it talks TLS. -/
def tlsProblem (o : ClientOptions) : Option String :=
  let set (name : String) : Option String := o.text name none
  let fileError := "error:05880020:x509 certificate routines::BIO lib"
  let systemError := "error:0A080002:SSL routines::system lib"
  let certificateText :=
    "not in PEM format?: error:0480006C:PEM routines::no start line: Expecting: CERTIFICATE"
  if !o.usesTls then none
  else if let some why := (set "ssl.providers").bind Tls.providerProblem then some why
  else if (set "ssl.engine.location").isSome then
    some ("OpenSSL engine initialization failed in ENGINE_ctrl_cmd_string LOAD: " ++
      "error:13000084:engine routines::dso not found")
  else if (set "ssl.cipher.suites").any (!Tls.cipherListSelects ·) then
    some "ssl.cipher.suites failed: error:0A0000B9:SSL routines::no cipher match"
  else if (set "ssl.curves.list").any (!Tls.allKnown Tls.groupNames.contains ·) then
    some ("ssl.curves.list failed: " ++ Tls.noDetail)
  else if (set "ssl.sigalgs.list").any (!Tls.allKnown Tls.signatureKnown ·) then
    some ("ssl.sigalgs.list failed: " ++ Tls.noDetail)
  else if (set "ssl.ca.location").any (· != "probe") then
    some ("ssl.ca.location failed: " ++ fileError)
  else if (set "ssl.ca.pem").isSome then
    some ("failed to read certificate #0 from ssl.ca.pem: " ++ certificateText)
  else if (set "ssl.crl.location").isSome then
    some ("ssl.crl.location failed: " ++ fileError)
  else if (set "ssl.certificate.location").isSome then
    some ("ssl.certificate.location failed: " ++ systemError)
  else if (set "ssl.certificate.pem").isSome then
    some ("ssl.certificate.pem failed: " ++ certificateText)
  else if (set "ssl.key.location").isSome then
    some ("ssl.key.location failed: " ++ systemError)
  else if (set "ssl.key.pem").isSome then
    some ("ssl.key.pem failed: not in PEM format?: error:1E08010C:DECODER routines::" ++
      "unsupported: No supported data to decode. Input type: PEM")
  else match set "ssl.keystore.location" with
    | some path =>
      some ("Failed to open ssl.keystore.location: " ++ path ++
        ": error:10000080:BIO routines::no such file")
    | none => none

end ClientOptions

end BrokerSession
