import CheckIn.CommandLine
import CheckIn.Text.Fields

/-! Reading a command line, argument by argument. A value is held back until the next argument
begins and is checked then, so that an argument that cannot stand at all is named before a wrong
value in front of it; what is missing is said at the end. -/
namespace CheckIn.CommandLine

open Text (Raw)

inductive Token where
  | escape
  | long (name : List Char) (value : Option (List Char))
  | short (letters : List Char)
  | plain
  deriving DecidableEq, Repr

def Token.of : List Char → Token
  | ['-', '-'] => .escape
  | '-' :: '-' :: cs => match Text.cut? '=' cs with
    | some (name, value) => .long name (some value)
    | none => .long cs none
  | '-' :: c :: cs => .short (c :: cs)
  | _ => .plain

/-- Digits with at most one point, which does not come first, and at most one exponent mark behind
it, which comes neither first nor last. -/
def isNumeralFrom (start dot exponent : Bool) : List Char → Bool
  | [] => true
  | c :: cs =>
    if (Text.Numeral.digit? c).isSome then isNumeralFrom false dot exponent cs
    else if c = '.' then !start && !dot && !exponent && isNumeralFrom false true exponent cs
    else if c = 'e' ∨ c = 'E' then
      !start && !exponent && !cs.isEmpty && isNumeralFrom false dot true cs
    else false

/-- Letters after a dash that make a negative number rather than flags. -/
def isNumeral (cs : List Char) : Bool := isNumeralFrom true false false cs

/-- Where a value belongs. -/
inductive Slot where
  | place (p : Place)
  | named (n : Named)
  deriving DecidableEq, Repr

structure Draft where
  host : Option String
  port : Option UInt16
  deviceId : Option Int64
  currentFirmware : Option Int64
  timeoutSeconds : Option UInt64
  configPath : Option Raw
  verbosity : Nat
  deriving DecidableEq, Repr

/-- What has been read: checked values, the argument still held back with its value if there is
one, the places not yet taken, and whether everything that follows is a value. -/
structure State where
  draft : Draft
  held : Option (Slot × Option Raw)
  places : List Place
  valuesOnly : Bool
  deriving DecidableEq, Repr

def State.start : State :=
  ⟨⟨none, none, none, none, none, none, 0⟩, none,
    [.host, .port, .deviceId, .currentFirmware], false⟩

def refuse (cause : Fault) : Except Stop α := .error (.fault cause)

def checked (value label : String) (r : Except Text.Numeral.Fault α) : Except Stop α :=
  match r with
  | .ok a => .ok a
  | .error cause => refuse (.invalidValue value label cause.message)

def portLimit : Nat := 65535

/-- A port is read with 64 bits first. -/
def portOf (value : String) : Except Stop UInt16 := do
  let n ← checked value Place.port.label (Text.Numeral.readInt64 value)
  if 0 ≤ n.toInt ∧ n.toInt ≤ portLimit then .ok (UInt16.ofNat n.toInt.toNat)
  else refuse (.invalidValue value Place.port.label
    (toString n.toInt ++ " is not in 0..=" ++ toString portLimit))

def textOf (label : String) (value : Raw) : Except Stop String :=
  match value with
  | .text value => .ok value
  | .bytes .. => refuse (.invalidValue value label "invalid UTF-8")

def Draft.fillPlace (d : Draft) (value : String) : Place → Except Stop Draft
  | .host => .ok { d with host := some value }
  | .port => do
    let n ← portOf value
    .ok { d with port := some n }
  | .deviceId => do
    let n ← checked value Place.deviceId.label (Text.Numeral.readInt64 value)
    .ok { d with deviceId := some n }
  | .currentFirmware => do
    let n ← checked value Place.currentFirmware.label (Text.Numeral.readInt64 value)
    .ok { d with currentFirmware := some n }

def Draft.isSet (d : Draft) : Named → Bool
  | .timeout => d.timeoutSeconds.isSome
  | .config => d.configPath.isSome

/-- A named argument without value, given twice, or with a value that is wrong, in this order. -/
def Draft.fillNamed (d : Draft) (value : Option Raw) (n : Named) : Except Stop Draft :=
  match value with
  | none => refuse (.valueRequired n)
  | some value =>
    if d.isSet n then refuse (.repeated n)
    else match n with
      | .timeout => do
        let value ← textOf Named.timeout.label value
        let seconds ← checked value Named.timeout.label (Text.Numeral.readUInt64 value)
        .ok { d with timeoutSeconds := some seconds }
      | .config =>
        if value = .text "" then refuse (.valueRequired .config)
        else .ok { d with configPath := some value }

def State.settle (s : State) : Except Stop State :=
  match s.held with
  | none => .ok s
  | some (.place p, value) => do
    let value ← textOf p.label (value.getD "")
    let draft ← s.draft.fillPlace value p
    .ok { s with draft, held := none }
  | some (.named n, value) => do
    let draft ← s.draft.fillNamed value n
    .ok { s with draft, held := none }

def State.awaitsValue (s : State) : Bool :=
  match s.held with
  | some (.named _, none) => true
  | _ => false

def State.takePlace (s : State) (value : Raw) : Except Stop State :=
  match s.places with
  | [] => refuse (.unexpectedArgument value.shown)
  | p :: places => do
    let s ← s.settle
    .ok { s with held := some (.place p, some value), places }

/-- A value goes to the named argument that waits for one, or else to the next place. -/
def State.takeValue (s : State) (value : Raw) : Except Stop State :=
  match s.held with
  | some (.named n, none) => .ok { s with held := some (.named n, some value) }
  | _ => s.takePlace value

def verbosityLimit : Nat := 255

def State.raiseFlag (s : State) (f : Flag) : Except Stop State := do
  let s ← s.settle
  match f with
  | .help => .error .help
  | .version => .error .version
  | .verbose =>
    .ok { s with draft := { s.draft with verbosity := min verbosityLimit (s.draft.verbosity + 1) } }

inductive LongName where
  | named (n : Named)
  | flag (f : Flag)
  deriving DecidableEq, Repr

def longName? (name : List Char) : Option LongName :=
  match String.ofList name with
  | "timeout" => some (.named .timeout)
  | "config" => some (.named .config)
  | "verbose" => some (.flag .verbose)
  | "help" => some (.flag .help)
  | "version" => some (.flag .version)
  | _ => none

def shortFlag? : Char → Option Flag
  | 'v' => some .verbose
  | 'h' => some .help
  | 'V' => some .version
  | _ => none

def State.takeLong (s : State) (name : List Char) (value : Option Raw) : Except Stop State :=
  match longName? name, value with
  | none, _ => refuse (.unexpectedArgument ("--" ++ String.ofList name))
  | some (.flag f), none => s.raiseFlag f
  | some (.flag f), some value => refuse (.surplusValue value.shown f)
  | some (.named n), none => do
    let s ← s.settle
    .ok { s with held := some (.named n, none) }
  | some (.named n), some value => do
    let s ← s.settle
    let draft ← s.draft.fillNamed (some value) n
    .ok { s with draft }

def State.takeShort (s : State) (letter : Char) : Except Stop State :=
  match shortFlag? letter with
  | some f => s.raiseFlag f
  | none => refuse (.unexpectedArgument (String.ofList ['-', letter]))

def State.step (s : State) (argument : String) : Except Stop State :=
  if s.valuesOnly then s.takePlace argument
  else match Token.of argument.toList with
    | .escape => .ok { s with valuesOnly := true }
    | .long name value => s.takeLong name (value.map fun cs => .text (String.ofList cs))
    | .short letters =>
      if isNumeral letters ∧ (s.awaitsValue ∨ s.places ≠ []) then s.takeValue argument
      else letters.foldlM State.takeShort s
    | .plain => s.takeValue argument

def Draft.missing (d : Draft) : List Place :=
  (if d.host.isNone then [.host] else []) ++ (if d.port.isNone then [.port] else [])

def State.finish (s : State) : Except Stop Invocation := do
  let s ← s.settle
  match s.draft with
  | ⟨some host, some port, deviceId, currentFirmware, timeoutSeconds, configPath, verbosity⟩ =>
    .ok ⟨host, port, deviceId, currentFirmware, timeoutSeconds, configPath, verbosity⟩
  | draft => refuse (.missing draft.missing)

/-- An argument that is no text. It may hold one: the name in front of its value, or letters in
front of what is none. -/
def State.stepBytes (s : State) (argument : Raw) (bs : List UInt8) : Except Stop State :=
  if s.valuesOnly then s.takePlace argument
  else match bs with
  | 0x2d :: 0x2d :: rest =>
    let name := rest.takeWhile (· != 0x3d)
    match Text.Utf8.decode? name with
    | some letters =>
      s.takeLong letters (some (.ofBytes (rest.drop (name.length + 1))))
    | none => refuse (.unexpectedArgument ("--" ++ String.ofList (Text.Utf8.lossy name)))
  | 0x2d :: rest => do
    let (letters, broken) := Text.Utf8.scan rest
    let _ ← letters.foldlM State.takeShort s
    refuse (.unexpectedArgument ("-" ++ String.ofList (Text.Utf8.lossy broken)))
  | _ => s.takeValue argument

def State.take (s : State) (argument : Raw) : Except Stop State :=
  match argument with
  | .text letters => s.step letters
  | .bytes bs _ => s.stepBytes argument bs

/-- The arguments after the program's name, as the system hands them over. -/
def parseRaw (arguments : List Raw) : Except Stop Invocation := do
  let s ← arguments.foldlM State.take .start
  s.finish

def parse (arguments : List String) : Except Stop Invocation := parseRaw (arguments.map .text)

end CheckIn.CommandLine
