import CheckIn.Environment
import CheckIn.Files
import CheckIn.Text.Alphanumeric
import CheckIn.Text.Blank
import CheckIn.Text.Quoted

/-! Variables from a file. Quotes may run over line breaks, so that the file is first cut into
lines of its own kind; each of them assigns to one name, and its value may hold the values of
names that are known already. The first thing that is wrong ends the reading, and what was read
before it stays. -/
namespace CheckIn.DotEnv

/-- Where a line stands as to quotes. -/
inductive Quoting where
  | plain | blank | escape
  | weak | weakEscape
  | strong | strongEscape
  deriving DecidableEq, Repr

/-- Behind a character; nothing where a comment begins. -/
def Quoting.step : Quoting → Char → Option Quoting
  | .blank, c =>
    if c = '#' then none
    else if c = '\\' then some .escape
    else if c = '"' then some .weak
    else if c = '\'' then some .strong
    else some .plain
  | .plain, c =>
    if Text.isBlank c ∧ c ≠ '\n' ∧ c ≠ '\r' then some .blank
    else if c = '\\' then some .escape
    else if c = '"' then some .weak
    else if c = '\'' then some .strong
    else some .plain
  | .escape, _ => some .plain
  | .weak, c => some (if c = '\\' then .weakEscape else if c = '"' then .plain else .weak)
  | .weakEscape, _ => some .weak
  | .strong, c => some (if c = '\\' then .strongEscape else if c = '\'' then .plain else .strong)
  | .strongEscape, _ => some .strong

/-- What is left of a piece without its comment, and where it ends as to quotes; a comment ends the
line. -/
def scan (q : Quoting) : List Char → List Char × Option Quoting
  | [] => ([], some q)
  | c :: cs => match q.step c with
    | none => ([], none)
    | some q => let r := scan q cs; (c :: r.1, r.2)

def pieces : List UInt8 → List (List UInt8)
  | [] => []
  | b :: bs =>
    if b = 0x0a then [b] :: pieces bs
    else match pieces bs with
      | [] => [[b]]
      | p :: ps => (b :: p) :: ps

def withoutBreak (line : List Char) : List Char :=
  match line.reverse with
  | '\n' :: '\r' :: rest => rest.reverse
  | '\n' :: rest => rest.reverse
  | _ => line

def isComment (line : List Char) : Bool := (Text.trimStart line).head? == some '#'

/-- The lines that some pieces make, up to the first that is no text or is not closed. `held` is
what the line under way has so far. -/
def linesFrom (held : List Char) (q : Quoting) : List (List UInt8) → List (List Char)
  | [] => []
  | p :: ps => match Text.Utf8.decode? p with
    | none => []
    | some cs =>
      if isComment (held ++ cs) then linesFrom [] .plain ps
      else match scan q cs with
        | (kept, none) => (held ++ kept) :: linesFrom [] .plain ps
        | (_, some .plain) => withoutBreak (held ++ cs) :: linesFrom [] .plain ps
        | (_, some q) => linesFrom (held ++ cs) q ps

def withoutMark : List UInt8 → List UInt8
  | 0xef :: 0xbb :: 0xbf :: bs => bs
  | bs => bs

def lines (bs : List UInt8) : List (List Char) := linesFrom [] .plain (pieces (withoutMark bs))

/-- How a value is being read. -/
inductive Mode where
  | plain | weak | strong
  /-- Behind a backslash, within weak quotes or not. -/
  | escaped (weak : Bool)
  | name (weak braces : Bool) (read : List Char)
  /-- Behind the value, where only blanks and a comment may stand. -/
  | ended
  deriving DecidableEq, Repr

def Mode.ofWeak (weak : Bool) : Mode := if weak then .weak else .plain

def isSpace (c : Char) : Bool := c == ' ' || c == '\t'

def escape? (c : Char) : Option Char :=
  if c = 'n' then some '\n'
  else if c = '\\' ∨ c = '\'' ∨ c = '"' ∨ c = '$' ∨ c = ' ' then some c
  else none

/-- A value, read on in a mode. `known` gives the values of names. -/
def valueFrom (known : String → List Char) : Mode → List Char → Option (List Char)
  | .plain, [] | .ended, [] | .escaped false, [] => some []
  | .name false false read, [] => some (known (String.ofList read))
  | _, [] => none
  | .ended, c :: cs =>
    if isSpace c then valueFrom known .ended cs else if c = '#' then some [] else none
  | .escaped weak, c :: cs => do
    let c ← escape? c
    let rest ← valueFrom known (.ofWeak weak) cs
    some (c :: rest)
  | .strong, c :: cs =>
    if c = '\'' then valueFrom known .plain cs else (valueFrom known .strong cs).map (c :: ·)
  | .name weak braces read, c :: cs =>
    if Text.isAlphanumeric c then valueFrom known (.name weak braces (read ++ [c])) cs
    else if braces then
      if c = '}' then
        (valueFrom known (.ofWeak weak) cs).map (known (String.ofList read) ++ ·)
      else valueFrom known (.name weak true (read ++ [c])) cs
    else if c = '{' ∧ read = [] then valueFrom known (.name weak true []) cs
    else if c = '$' then
      (valueFrom known (.name weak false []) cs).map (known (String.ofList read) ++ ·)
    else
      -- The character that ends a bare name stands for itself, even where it is a quote.
      (valueFrom known (.ofWeak weak) cs).map fun rest => known (String.ofList read) ++ c :: rest
  | .weak, c :: cs =>
    if c = '$' then valueFrom known (.name true false []) cs
    else if c = '"' then valueFrom known .plain cs
    else if c = '\\' then valueFrom known (.escaped true) cs
    else (valueFrom known .weak cs).map (c :: ·)
  | .plain, c :: cs =>
    if c = '$' then valueFrom known (.name false false []) cs
    else if c = '\'' then valueFrom known .strong cs
    else if c = '"' then valueFrom known .weak cs
    else if c = '\\' then valueFrom known (.escaped false) cs
    else if isSpace c then valueFrom known .ended cs
    else (valueFrom known .plain cs).map (c :: ·)

def isNameStart (c : Char) : Bool := c.isAlpha || c == '_'
def isNameChar (c : Char) : Bool := c.isAlphanum || c == '_' || c == '.'

def name? (cs : List Char) : Option (List Char × List Char) :=
  if cs.head?.any isNameStart then some (cs.takeWhile isNameChar, cs.dropWhile isNameChar) else none

/-- What follows an equals sign with blanks before it. -/
def behindEqual? (cs : List Char) : Option (List Char) :=
  match Text.trimStart cs with
  | '=' :: cs => some cs
  | _ => none

/-- A name and the text of its value. The word `export` may come before a name, and may be one. -/
def halves? (cs : List Char) : Option (List Char × List Char) := do
  let (name, cs) ← name? cs
  match behindEqual? cs with
  | some value => some (name, value)
  | none =>
    if name = "export".toList then
      let (name, cs) ← name? (Text.trimStart cs)
      let value ← behindEqual? cs
      some (name, value)
    else none

inductive Line where
  | nothing
  | assign (name : String) (value : List Char)
  deriving DecidableEq, Repr

def isNothing (cs : List Char) : Bool := cs.isEmpty || cs.head? == some '#'

def Line.parse? (known : String → List Char) (line : List Char) : Option Line := do
  let cs := Text.trimStart (Text.trimEnd line)
  if isNothing cs then some .nothing
  else
    let (name, value) ← halves? cs
    let value := Text.trimStart value
    let value ← if isNothing value then some [] else valueFrom known .plain value
    some (.assign (String.ofList name) value)

/-- The value of a name: the environment's, or else the last one assigned. -/
def known (env : Environment) (assigned : List (String × List Char)) (name : String) : List Char :=
  match env.text? name with
  | some value => value.toList
  | none => (assigned.lookup name).getD []

/-- A variable with a value that no variable can have. -/
structure Unfit where
  name : String
  value : List Char
  deriving DecidableEq, Repr

def Unfit.message (u : Unfit) : String :=
  "failed to set environment variable `" ++ Text.quoted u.name ++ "` to `" ++
    Text.quoted (String.ofList u.value) ++ "`: " ++ Net.IoFault.nulInName.message

/-- A variable that is set to a text is not set again. One that is to be set to a value with a zero
character cannot be set. -/
def assign (env : Environment) (name : String) (value : List Char) : Except Unfit Environment :=
  if (env.text? name).isNone ∧ value.contains '\x00' then .error ⟨name, value⟩
  else .ok (env.adopt name value)

def runLines (env : Environment) (assigned : List (String × List Char)) :
    List (List Char) → Except Unfit Environment
  | [] => .ok env
  | line :: rest => match Line.parse? (known env assigned) line with
    | none => .ok env
    | some .nothing => runLines env assigned rest
    | some (.assign name value) => do
      runLines (← assign env name value) ((name, value) :: assigned) rest

/-- The environment with the variables that a file adds. -/
def extend (env : Environment) (file : List UInt8) : Except Unfit Environment :=
  runLines env [] (lines file)

def fileName : String := ".env"

def upwards (names : List String) : List String :=
  (List.range (names.length + 1)).reverse.map fun n => "/" ++ "/".intercalate (names.take n)

/-- The nearest file in some directories. A directory of the same name is passed over. -/
def nearest [Monad m] (files : Files m) : List String → m (Option (List UInt8))
  | [] => pure none
  | directory :: rest => do
    match ← files.read (Path.join directory fileName) with
    | .ok bs => pure (some bs)
    | .error cause =>
      if cause = .noSuchFile ∨ cause = .isDirectory then nearest files rest else pure none

/-- The environment with the variables of the nearest file at or above a directory. -/
def load [Monad m] (files : Files m) (directory : String) (env : Environment) :
    m (Except Unfit Environment) := do
  match ← nearest files (upwards (Path.names directory)) with
  | some bs => pure (extend env bs)
  | none => pure (.ok env)

end CheckIn.DotEnv
