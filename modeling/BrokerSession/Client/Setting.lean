import BrokerSession.Client.Property
import BrokerSession.Client.Numeral
import BrokerSession.Client.Pattern

/-!
# Reading settings

`Property.read` reads the text of one setting by the property's form. An empty text counts
as no value: text properties go back to their default, and every other form refuses it.

* Text drops leading blanks unless it is a secret. Text with fixed spellings must be one of
  them exactly. A single word may hold no comma and no space.
* A truth value is `true`, `t` or `1`, or `false`, `f` or `0`, the letters in any case.
* A whole number is read as `Numeral.readWhole` reads it, and its low 32 bits are kept. A
  text without digits may be one of the property's named numbers. The result must lie in
  the property's range.
* A decimal number is read as `Numeral.readDecimal` reads it and must lie in the range. A
  value that is not a number lies in every range.
* A choice drops leading blanks (trailing ones stay) and names one of the choices in any
  case. Only blanks choose nothing and leave the setting as it was.
* A set of flags is a comma-separated list of such choices. Each may have a leading `+`
  (add) or `-` (remove).

`SettingRejection.message` words each refusal; the range messages end with a line break.
-/

namespace BrokerSession

/-- What a setting holds once read. -/
inductive SettingValue where
  /-- text, or the default when `none` -/
  | text (s : Option String)
  | flag (b : Bool)
  | whole (n : Int)
  | decimal (x : Binary64)
  | choice (name : String)
  /-- a set of flags, or a choice of nothing: nothing the options keep -/
  | flags
  deriving Repr

/-- Why the client refused a setting. -/
inductive SettingRejection where
  | unknown (name : String)
  | emptyFlag (name : String)
  | notAFlag (name : String)
  | emptyWhole (name : String)
  | notANumber (name : String)
  | wholeOutOfRange (name : String) (v lo hi : Int)
  | emptyDecimal (name : String)
  | decimalOutOfRange (name : String) (v : Binary64) (lo hi : Nat)
  | emptyChoice (name : String)
  | notAChoice (name given : String)
  | unavailableChoice (name given reason : String)
  | badText (name : String) (given : Option String)
  | viaHandler (name : String)
  | internal (name : String)
  | missing (name reason : String)
  /-- a property of other clients, refused with its reason -/
  | refused (why : String)
  /-- a pattern of a list that does not compile -/
  | badPattern (pattern : String) (e : Pattern.PatternError)
  /-- a plugin library that could not be loaded: the file tried and the path given -/
  | pluginMissing (tried given : String)
  deriving Repr

namespace SettingRejection

/-- The longest description of a refusal. -/
def messageLimit : Nat := 511

/-- A text cut to the longest description. -/
def clip (s : String) : String := String.ofList (s.toList.take messageLimit)

/-- A name in double quotes. -/
def quoted (s : String) : String := "\"" ++ s ++ "\""

/-- The client's description of a refusal. -/
def message : SettingRejection → String
  | .unknown n => s!"No such configuration property: {quoted n}"
  | .emptyFlag n => s!"Bool configuration property {quoted n} cannot be set to empty value"
  | .notAFlag n => s!"Expected bool value for {quoted n}: true or false"
  | .emptyWhole n => s!"Integer configuration property {quoted n} cannot be set to empty value"
  | .notANumber n => s!"Invalid value for configuration property {quoted n}"
  | .wholeOutOfRange n v lo hi =>
    s!"Configuration property {quoted n} value {v} is outside allowed range {lo}..{hi}\n"
  | .emptyDecimal n => s!"Float configuration property {quoted n} cannot be set to empty value"
  | .decimalOutOfRange n v lo hi =>
    s!"Configuration property {quoted n} value {v.generalText} is outside allowed range " ++
      s!"{(Binary64.ofNat lo).generalText}..{(Binary64.ofNat hi).generalText}\n"
  | .emptyChoice n => s!"Configuration property {quoted n} cannot be set to empty value"
  | .notAChoice n g => s!"Invalid value {quoted g} for configuration property {quoted n}"
  | .unavailableChoice n g r =>
    s!"Unsupported value {quoted g} for configuration property {quoted n}: {r}"
  | .badText n g =>
    "Invalid value for configuration property " ++ quoted n ++ ": " ++ g.getD "(null)"
  | .viaHandler n => s!"Property {quoted n} must be set through dedicated .._set_..() function"
  | .internal n => s!"Internal property {quoted n} not settable"
  | .missing n r => s!"Configuration property {quoted n} not supported in this build: {r}"
  | .refused why => why
  | .badPattern p e => s!"Failed to parse pattern {quoted p}: {e.message}"
  | .pluginMissing tried given =>
    let loading := "dlopen() failed: " ++ tried ++
      ": cannot open shared object file: No such file or directory"
    let loading := clip loading
    -- the plugin is named only when the whole text fits
    if loading.length + "(plugin )".length + given.length < messageLimit + 1 then
      clip (loading ++ " (plugin " ++ given ++ ")")
    else loading

end SettingRejection

namespace Binary64

/-- Whether a double is below a natural number; never for a value that is not a number. -/
def belowNat (x : Binary64) (n : Nat) : Bool :=
  if x.isNaN then false
  else if x.signBit then !(x.isZero && n = 0)
  else if x.isInfinite then false
  else cmpScaled n 0 x.significand x.exponent == .gt

/-- Whether a double is above a natural number; never for a value that is not a number. -/
def aboveNat (x : Binary64) (n : Nat) : Bool :=
  if x.isNaN || x.signBit then false
  else if x.isInfinite then true
  else cmpScaled n 0 x.significand x.exponent == .lt

end Binary64

namespace Property

/-- A text without its leading blanks. -/
def trimStart (s : String) : String :=
  String.ofList (s.toList.dropWhile fun c => c.toNat < 128 && Numeral.isBlank c.toNat.toUInt8)

/-- Whether two texts are equal with letters in any case. -/
def sameIgnoringCase (a b : String) : Bool := a.toLower == b.toLower

/-- Picks a choice by name: its canonical name, or the refusal. -/
def pick (p : Property) (names : List (String × Option String)) (given : String) :
    Except SettingRejection String :=
  match names.find? (fun (n, _) => sameIgnoringCase n given) with
  | some (n, none) => .ok n
  | some (_, some reason) => .error (.unavailableChoice p.name given reason)
  | none => .error (.notAChoice p.name given)

/-- Reads the comma-separated pieces of a set of flags. -/
def readFlags (p : Property) (names : List (String × Option String)) :
    List String → Except SettingRejection Unit
  | [] => .ok ()
  | piece :: rest =>
    let s := trimStart piece
    let s := if s.startsWith "+" || s.startsWith "-" then String.ofList (s.toList.drop 1) else s
    if s.isEmpty then readFlags p names rest
    else do
      let _ ← p.pick names s
      readFlags p names rest

/-- Whether a broker version is one the client accepts: any but those before 0.8. -/
def supportedBrokerVersion (v : String) : Bool :=
  !(v.startsWith "0.7." || v.startsWith "0.6.")

/-- The library file tried for a plugin path: the path itself when its file name ends in an
extension of up to three letters, else the path with `.so` added. -/
def pluginFile (path : String) : String :=
  let file := (path.splitOn "/").getLast?.getD path
  let cs := file.toList
  let dot := (cs.zipIdx.filter (·.1 == '.')).getLast?.map (·.2)
  match dot with
  | some i => if i + 3 ≥ cs.length then path else path ++ ".so"
  | none => path ++ ".so"

/-- Reads the text of a setting; `none` is an empty text. -/
def read (p : Property) (value : Option String) : Except SettingRejection SettingValue :=
  match p.missing with
  | some reason => .error (.missing p.name reason)
  | none =>
    match p.form with
    | .text trim => .ok (.text (if trim then value.map trimStart else value))
    | .textOneOf names =>
      match value.map trimStart with
      | some s =>
        if names.contains s then .ok (.text (some s)) else .error (.badText p.name (some s))
      | none => .error (.badText p.name none)
    | .word =>
      match value.map trimStart with
      | some s =>
        if s.contains ',' || s.contains ' ' then .error (.badText p.name (some s))
        else .ok (.text (some s))
      | none => .error (.badText p.name none)
    | .flag =>
      match value with
      | none => .error (.emptyFlag p.name)
      | some s =>
        if sameIgnoringCase s "true" || sameIgnoringCase s "t" || s == "1" then .ok (.flag true)
        else if sameIgnoringCase s "false" || sameIgnoringCase s "f" || s == "0" then
          .ok (.flag false)
        else .error (.notAFlag p.name)
    | .whole lo hi named =>
      match value with
      | none => .error (.emptyWhole p.name)
      | some s =>
        let n := match Numeral.readWhole s with
          | some n => some (Numeral.wrap32 n)
          | none => (named.find? fun (k, _) => sameIgnoringCase k s).map (·.2)
        match n with
        | none => .error (.notANumber p.name)
        | some n =>
          if n < lo || n > hi then .error (.wholeOutOfRange p.name n lo hi) else .ok (.whole n)
    | .decimal lo hi =>
      match value with
      | none => .error (.emptyDecimal p.name)
      | some s =>
        match Numeral.readDecimal s with
        | none => .error (.notANumber p.name)
        | some x =>
          if x.belowNat lo || x.aboveNat hi then .error (.decimalOutOfRange p.name x lo hi)
          else .ok (.decimal x)
    | .choice names =>
      match value with
      | none => .error (.emptyChoice p.name)
      | some s =>
        let s := trimStart s
        if s.isEmpty then .ok .flags else (p.pick names s).map .choice
    | .flags names =>
      match value with
      | none => .error (.emptyChoice p.name)
      | some s => (p.readFlags names (s.splitOn ",")).map fun () => .flags
    | .handler => .error (.viaHandler p.name)
    | .internal => .error (.internal p.name)
    | .sameAs _ => .error (.internal p.name)
    | .brokerVersion =>
      match value.map trimStart with
      | some v =>
        if supportedBrokerVersion v then .ok (.text (some v)) else .error (.badText p.name (some v))
      | none => .error (.badText p.name none)
    | .patternList =>
      match value with
      | some list =>
        match Pattern.checkList list with
        | some (pat, e) => .error (.badPattern pat e)
        | none => .ok (.text (some list))
      | none => .ok (.text none)
    | .pluginPaths =>
      match value.map trimStart with
      | some paths =>
        if paths.isEmpty then .ok (.text none)
        else
          -- no plugin library exists where the client runs, so the first one fails
          let first := (paths.splitOn ";").headD paths
          .error (.pluginMissing (pluginFile first) first)
      | none => .ok (.text none)
    | .refused why => .error (.refused why)

end Property

/-- The settings a client accepted: the value of each property that was set, by the
property's own name, in the order properties were first set. -/
structure ClientOptions where
  values : List (String × SettingValue) := []
  deriving Repr

namespace ClientOptions

/-- Records the value of a property, replacing an earlier one. -/
def put (o : ClientOptions) (name : String) (v : SettingValue) : ClientOptions :=
  if o.values.any (·.1 == name) then
    { values := o.values.map fun (k, w) => if k == name then (k, v) else (k, w) }
  else { values := o.values ++ [(name, v)] }

/-- Whether a property was set. -/
def isSet (o : ClientOptions) (name : String) : Bool := o.values.any (·.1 == name)

/-- The whole number of a property, or its default. -/
def whole (o : ClientOptions) (name : String) (default : Int) : Int :=
  match o.values.lookup name with
  | some (.whole n) => n
  | _ => default

/-- The truth value of a property, or its default. -/
def flag (o : ClientOptions) (name : String) (default : Bool) : Bool :=
  match o.values.lookup name with
  | some (.flag b) => b
  | _ => default

/-- The decimal number of a property, or its default. -/
def decimal (o : ClientOptions) (name : String) (default : Binary64) : Binary64 :=
  match o.values.lookup name with
  | some (.decimal x) => x
  | _ => default

/-- The text of a property, or its default. -/
def text (o : ClientOptions) (name : String) (default : Option String) : Option String :=
  match o.values.lookup name with
  | some (.text s) => s.orElse fun () => default
  | _ => default

/-- The chosen name of a property, or its default. -/
def choice (o : ClientOptions) (name : String) (default : String) : String :=
  match o.values.lookup name with
  | some (.choice c) => c
  | _ => default

/-- Reads one setting into the options. A text left empty restores the default; a set of
flags, or a choice of nothing, leaves the options as they were. -/
def apply (o : ClientOptions) (key value : String) : Except SettingRejection ClientOptions := do
  let p ← (Property.find key).mapError SettingRejection.unknown
  let v ← p.read (if value.isEmpty then none else some value)
  match v with
  | .flags => pure o
  | v => pure (o.put p.name v)

end ClientOptions

end BrokerSession
