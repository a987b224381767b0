/-!
# Regular expressions in settings and subscriptions

A consumer may subscribe to every topic matching a pattern: a topic name that starts with `^`
is a POSIX extended regular expression. The setting `topic.blacklist` holds a comma-separated
list of such expressions. Both are compiled byte by byte in the C locale, and a pattern that
does not compile is refused (`Pattern.check`). The first problem met reading left to right
is the one reported, with the wording of `PatternError.message`.

A pattern compiles when:

* every `(` is closed; a `)` with no open group is an ordinary character;
* a repetition (`*`, `+`, `?` or an interval `{m}`, `{m,}`, `{,n}`, `{m,n}`) follows
  something it can repeat: not the start of the pattern, of a group or of an alternative,
  and not an anchor (`^`, `$`, `\<`, `\>`, `\b`, `\B`, and the buffer anchors written with
  a backslash before a backquote or an apostrophe). Repetitions may follow one another. An
  interval has `m ≤ n`, and its bounds are at most 32767;
* a bracket expression is closed. Inside it, `]` first is an ordinary character, a range
  runs upwards between two single characters, `[:name:]` names one of the twelve character
  classes, and `[.c.]` and `[=c=]` hold one character. A `-` that could start a range is
  only allowed right before the closing `]`;
* `\1` to `\9` refer to a group closed before them in the same alternative: the groups of
  one alternative of a group are not closed for the next alternative;
* the pattern does not end in a lone `\`.
-/

namespace BrokerSession

namespace Pattern

/-- Why a pattern does not compile. -/
inductive PatternError where
  | badPattern
  | collating
  | charClass
  | trailingEscape
  | backReference
  | bracket
  | paren
  | brace
  | braceContent
  | range
  | badRepetition
  | tooBig
  deriving DecidableEq, Repr

/-- The compiler's description of a problem. -/
def PatternError.message : PatternError → String
  | .badPattern => "Invalid regular expression"
  | .collating => "Invalid collation character"
  | .charClass => "Invalid character class name"
  | .trailingEscape => "Trailing backslash"
  | .backReference => "Invalid back reference"
  | .bracket => "Unmatched [, [^, [:, [., or [="
  | .paren => "Unmatched ( or \\("
  | .brace => "Unmatched \\\x7b"
  | .braceContent => "Invalid content of \\\x7b\\\x7d"
  | .range => "Invalid range end"
  | .badRepetition => "Invalid preceding regular expression"
  | .tooBig => "Regular expression too big"

/-- The names of the character classes. -/
def classNames : List String :=
  ["alpha", "upper", "lower", "digit", "xdigit", "space", "print", "punct", "graph", "cntrl",
   "blank", "alnum"]

/-- The byte of an ASCII character. -/
def byte (c : Char) : UInt8 := c.toNat.toUInt8

/-! ## Bracket expressions -/

/-- An element of a bracket expression. -/
inductive Element where
  | char (c : UInt8)
  /-- `[.name.]` -/
  | collating (name : List UInt8)
  /-- `[=name=]` -/
  | equivalence (name : List UInt8)
  /-- `[:name:]` -/
  | charClass (name : List UInt8)

/-- Checks an element standing alone. -/
def Element.check : Element → Except PatternError Unit
  | .char _ => .ok ()
  | .collating n => if n.length == 1 then .ok () else .error .collating
  | .equivalence n => if n.length == 1 then .ok () else .error .collating
  | .charClass n =>
    if classNames.contains (String.ofList (n.map fun b => Char.ofNat b.toNat)) then .ok ()
    else .error .charClass

/-- Checks a range between two elements: both single characters, upwards. -/
def checkRange (lo hi : Element) : Except PatternError Unit :=
  let point : Element → Except PatternError UInt8
    | .char c => .ok c
    | .collating [c] => .ok c
    | .collating _ => .error .collating
    | _ => .error .range
  match lo, hi with
  | .charClass _, _ | .equivalence _, _ | _, .charClass _ | _, .equivalence _ => .error .range
  | _, _ => do
    let a ← point lo
    let b ← point hi
    if a ≤ b then .ok () else .error .range

/-- The name of a `[.`, `[=` or `[:` symbol up to its closing delimiter and `]`, and what
follows: `none` when the pattern ends first. -/
def symbolName (delim : UInt8) : List UInt8 → Nat → Option (List UInt8 × List UInt8)
  | _, 0 => none
  | [], _ + 1 => none
  | [_], _ + 1 => none
  | ch :: next :: rest, fuel + 1 =>
    if ch == delim && next == byte ']' then some ([], rest)
    else
      (symbolName delim (next :: rest) fuel).map fun (name, r) => (ch :: name, r)

/-- The longest name of a bracket symbol is one byte shorter than this. -/
def symbolNameLimit : Nat := 32

/-- One element of a bracket expression, starting at `s`, and what follows. A `-` there is
allowed only when `hyphen` or right before the closing `]`. -/
def element (s : List UInt8) (hyphen : Bool) : Except PatternError (Element × List UInt8) :=
  match s with
  | 91 :: d :: rest =>
    if d == byte '.' || d == byte '=' || d == byte ':' then
      match symbolName d rest (symbolNameLimit + 1) with
      | some (name, r) =>
        if name.length ≥ symbolNameLimit then .error .bracket
        else if d == byte '.' then .ok (.collating name, r)
        else if d == byte '=' then .ok (.equivalence name, r)
        else .ok (.charClass name, r)
      | none => .error .bracket
    else .ok (.char 91, d :: rest)
  | 45 :: rest =>
    if hyphen then .ok (.char 45, rest)
    else match rest with
      | 93 :: _ => .ok (.char 45, rest)
      | _ => .error .range
  | c :: rest => .ok (.char c, rest)
  | [] => .error .bracket

/-- The rest of a bracket expression from an element position: what follows the closing `]`.
`first` marks the first element, where a `]` is an ordinary character. -/
def bracketItems (s : List UInt8) (first : Bool) : Nat → Except PatternError (List UInt8)
  | 0 => .error .bracket
  | fuel + 1 => do
    let (e, s) ← match s with
      | 93 :: rest => if first then .ok (Element.char 93, rest) else element s first
      | _ => element s first
    let close : List UInt8 → Except PatternError (List UInt8) := fun s =>
      match s with
      | [] => .error .bracket
      | 93 :: rest => .ok rest
      | _ => bracketItems s false fuel
    match e with
    | .charClass _ | .equivalence _ => do e.check; close s
    | _ =>
      match s with
      | [] => .error .bracket
      | 45 :: after =>
        match after with
        | [] => .error .bracket
        | 93 :: _ =>
          -- a `-` before the closing `]` is an ordinary character
          do e.check; bracketItems s false fuel
        | _ => do
          let (e2, s2) ← element after true
          checkRange e e2
          close s2
      | _ => do e.check; close s

/-- What follows a bracket expression whose `[` was read. -/
def bracket (s : List UInt8) : Except PatternError (List UInt8) :=
  match s with
  | [] => .error .badPattern
  | 94 :: [] => .error .badPattern
  | 94 :: rest => bracketItems rest true (rest.length + 1)
  | _ => bracketItems s true (s.length + 1)

/-! ## Intervals -/

/-- How reading an interval bound stopped. -/
inductive BoundStop where
  | comma
  | close
  | finish
  deriving DecidableEq

/-- A bound of an interval: `-1` when it has no digits, `-2` when it has something else. -/
def bound (s : List UInt8) (acc : Int) : Nat → Int × BoundStop × List UInt8
  | 0 => (-2, .finish, [])
  | fuel + 1 =>
    match s with
    | [] => (-2, .finish, [])
    | 92 :: [] => bound [] (-2) fuel
    | 92 :: c :: rest =>
      if c == byte ',' then (acc, .comma, rest) else bound rest (-2) fuel
    | 125 :: rest => (acc, .close, rest)
    | 44 :: rest => (acc, .comma, rest)
    | c :: rest =>
      let acc :=
        if 48 ≤ c && c ≤ 57 && acc != -2 then
          if acc == -1 then (c.toNat - 48 : Int) else min 32768 (acc * 10 + (c.toNat - 48 : Int))
        else -2
      bound rest acc fuel

/-- The largest bound of an interval. -/
def boundMax : Int := 32767

/-- The problem of a bound that is not a number: an unclosed interval when the pattern ended. -/
def boundProblem (stop : BoundStop) : PatternError :=
  if stop == .finish then .brace else .braceContent

/-- What follows an interval whose `{` was read. -/
def interval (s : List UInt8) : Except PatternError (List UInt8) :=
  let (lo, stop, r) := bound s (-1) (s.length + 1)
  if lo == -2 then .error (boundProblem stop)
  else if lo == -1 && stop == .close then .error .braceContent
  else
    let lo := if lo == -1 then 0 else lo
    let (hi, stop, r) :=
      if stop == .close then (lo, BoundStop.close, r) else bound r (-1) (r.length + 1)
    if hi == -2 then .error (boundProblem stop)
    else if (hi != -1 && lo > hi) || stop != .close then .error .braceContent
    else if (if hi == -1 then lo else hi) > boundMax then .error .tooBig
    else .ok r

/-! ## Patterns -/

/-- A level of nesting: the whole pattern or an open group. -/
structure Level where
  /-- the number of the group; `none` for the whole pattern -/
  group : Option Nat
  /-- the groups closed when the level began -/
  initial : List Nat
  /-- the groups closed at the ends of its earlier alternatives -/
  earlier : List Nat

/-- Where a pattern is being read. -/
structure Reading where
  /-- the levels, innermost first; the whole pattern last -/
  levels : List Level := [⟨none, [], []⟩]
  /-- how many groups were opened -/
  groups : Nat := 0
  /-- the first nine groups closed so far, as far as the current alternative sees -/
  closed : List Nat := []
  /-- the last item can take a repetition -/
  repeatable : Bool := false

namespace Reading

/-- After an item that can be repeated. -/
def atom (r : Reading) : Reading := { r with repeatable := true }

/-- After an anchor, or at the start of a group or alternative. -/
def anchor (r : Reading) : Reading := { r with repeatable := false }

/-- After `(`. -/
def openGroup (r : Reading) : Reading :=
  { r with levels := ⟨some r.groups, r.closed, []⟩ :: r.levels, groups := r.groups + 1,
           repeatable := false }

/-- After `)`: the innermost group closes, or the `)` is an ordinary character. -/
def closeGroup (r : Reading) : Reading :=
  match r.levels with
  | ⟨some g, _, earlier⟩ :: outer =>
    let closed := earlier ++ r.closed
    { r with levels := outer, closed := if g ≤ 8 then g :: closed else closed,
             repeatable := true }
  | _ => r.atom

/-- After `|`: the next alternative sees the groups closed when its level began. -/
def alternative (r : Reading) : Reading :=
  match r.levels with
  | l :: outer =>
    { r with levels := { l with earlier := l.earlier ++ r.closed } :: outer,
             closed := l.initial, repeatable := false }
  | [] => r.anchor

/-- Whether a group is still open. -/
def inGroup (r : Reading) : Bool :=
  match r.levels with
  | ⟨some _, _, _⟩ :: _ => true
  | _ => false

end Reading

/-- The escapes that are anchors. -/
def anchorEscapes : List Char := ['<', '>', 'b', 'B', '`', '\'']

/-- Checks the rest of a pattern. -/
def checkFrom (s : List UInt8) (r : Reading) : Nat → Except PatternError Unit
  | 0 => .error .badPattern
  | fuel + 1 =>
    match s with
    | [] => if r.inGroup then .error .paren else .ok ()
    | 92 :: [] => .error .trailingEscape
    | 92 :: c :: rest =>
      if 49 ≤ c && c ≤ 57 then
        if r.closed.contains (c.toNat - 49) then checkFrom rest r.atom fuel
        else .error .backReference
      else if anchorEscapes.contains (Char.ofNat c.toNat) then checkFrom rest r.anchor fuel
      else checkFrom rest r.atom fuel
    | 40 :: rest => checkFrom rest r.openGroup fuel
    | 41 :: rest => checkFrom rest r.closeGroup fuel
    | 124 :: rest => checkFrom rest r.alternative fuel
    | 42 :: rest | 43 :: rest | 63 :: rest =>
      if r.repeatable then checkFrom rest r fuel else .error .badRepetition
    | 123 :: rest =>
      if r.repeatable then do
        let rest ← interval rest
        checkFrom rest r fuel
      else .error .badRepetition
    | 91 :: rest => do
      let rest ← bracket rest
      checkFrom rest r.atom fuel
    | 94 :: rest | 36 :: rest => checkFrom rest r.anchor fuel
    | _ :: rest => checkFrom rest r.atom fuel

/-- Checks the bytes of a pattern. -/
def checkBytes (s : List UInt8) : Except PatternError Unit := checkFrom s {} (s.length + 1)

/-- Checks a pattern: the first problem, if it does not compile. -/
def check (p : String) : Except PatternError Unit := checkBytes p.toUTF8.toList

/-- Whether a pattern compiles. -/
def isWellFormed (p : String) : Bool :=
  match check p with
  | .ok () => true
  | .error _ => false

/-- The patterns of a comma-separated list; a comma at the very end ends the list. -/
def listPieces (s : List Char) : Nat → List String
  | 0 => []
  | fuel + 1 =>
    if s.isEmpty then []
    else
      String.ofList (s.takeWhile (· != ',')) :: listPieces ((s.dropWhile (· != ',')).drop 1) fuel

/-- Checks a comma-separated list of patterns: the first pattern that does not compile, with
its problem. -/
def checkList (list : String) : Option (String × PatternError) :=
  let pieces := listPieces list.toList (list.length + 1)
  pieces.findSome? fun p =>
    match check p with
    | .ok () => none
    | .error e => some (p, e)

end Pattern

end BrokerSession
