import CheckIn.Log.Event
import CheckIn.Log.Pattern
import CheckIn.Text.Fields

/-! Which events are shown. A filter is a list of directives `target=level`; of those that concern
an event the most specific decides. A directive may also name a span or fields in brackets: one
that names a span, or gives a field a value, lets no event through, but its value is checked. -/
namespace CheckIn.Log

/-- The rank of the most verbose level that is shown; zero shows nothing. -/
abbrev Threshold := Nat

structure Directive where
  target : Option (List Char)
  inSpan : Option (List Char)
  fields : List (List Char)
  threshold : Threshold
  deriving DecidableEq, Repr

abbrev Filter := List Directive

namespace Threshold

def all : Threshold := Level.trace.rank

def ofName? (name : List Char) : Option Threshold :=
  match String.ofList (name.map Char.toLower) with
  | "" | "error" => some Level.error.rank
  | "warn" => some Level.warn.rank
  | "info" => some Level.info.rank
  | "debug" => some Level.debug.rank
  | "trace" => some Level.trace.rank
  | "off" => some 0
  | _ => none

/-- A level by its rank or by its name in any case. -/
def parse? (s : List Char) : Option Threshold :=
  match Text.Numeral.read 0 Text.Numeral.uint64Max s with
  | .ok n => if n ≤ all then some n.toNat else none
  | .error _ => ofName? s

end Threshold

namespace Directive

/-- Where the reading of a directive stands. -/
inductive Mode where
  | start | levelOrTarget | span | field | fields | target | level
  deriving DecidableEq, Repr

/-- A directive so far, and where the part under way begins. -/
structure Draft where
  mode : Mode
  begun : Nat
  directive : Directive
  deriving DecidableEq, Repr

def Draft.empty : Draft := ⟨.start, 0, ⟨none, none, [], Threshold.all⟩⟩

def isStart (c : Char) : Bool := c == '-' || c == ':' || c == '_' || Text.isAlphanumeric c

def part (s : List Char) (begun stop : Nat) : List Char := (s.take stop).drop begun

/-- A field as it is written, with the value behind its first equality sign. -/
def field? (s : List Char) : Option (List Char) :=
  if s.isEmpty then none
  else match Text.fields '=' s with
    | _ :: value :: _ => if FieldValue.accepts value then some s else none
    | _ => some s

/-- Takes the character at a place of the text `s`. -/
def Draft.step (s : List Char) (d : Draft) (place : Nat) (c : Char) : Option Draft :=
  let text := part s d.begun place
  match d.mode with
  | .start =>
    if c = '[' then some { d with mode := .span, begun := place + 1 }
    else if isStart c then some { d with mode := .levelOrTarget, begun := place }
    else none
  | .levelOrTarget =>
    if c = '=' then
      some { mode := .level, begun := place + 1, directive := { d.directive with target := text } }
    else if c = '[' then
      some { mode := .span, begun := place + 1, directive := { d.directive with target := text } }
    else some d
  | .span =>
    if c = ']' then
      some { d with mode := .target, directive := { d.directive with inSpan := text } }
    else if c = '{' then
      some {
        mode := .field, begun := place + 1
        directive := { d.directive with inSpan := if text.isEmpty then none else some text } }
    else some d
  | .field =>
    if c = '}' then do
      let field ← field? text
      some { d with
        mode := .fields, directive := { d.directive with fields := d.directive.fields ++ [field] } }
    else some d
  | .fields => if c = ']' then some { d with mode := .target } else none
  | .target => if c = '=' then some { d with mode := .level, begun := place + 1 } else none
  | .level => some d

/-- The end of a directive: a word alone is a level if it can be one, and a target otherwise. -/
def Draft.finish (s : List Char) (d : Draft) : Option Directive :=
  let text := s.drop d.begun
  match d.mode with
  | .levelOrTarget => match Threshold.parse? text with
    | some threshold => some { d.directive with target := none, threshold }
    | none => some { d.directive with target := some text, threshold := Threshold.all }
  | .level =>
    if text.isEmpty then some d.directive
    else (Threshold.parse? text).map fun threshold => { d.directive with threshold }
  | .target => some d.directive
  | _ => none

def stepFrom (s : List Char) : Nat → List Char → Draft → Option Draft
  | _, [], d => some d
  | place, c :: cs, d => (d.step s place c).bind (stepFrom s (place + 1) cs)

/-- The blanks around a directive are not looked at, but they count in the places of its parts. -/
def parse? (s : List Char) : Option Directive :=
  (stepFrom s 0 (Text.trim s) Draft.empty).bind (Draft.finish s)

/-- Whether a directive can concern events at all. -/
def isForEvents (d : Directive) : Bool :=
  d.inSpan.isNone && d.fields.all fun f => !f.contains '='

/-- The names of an event's fields; its message is one of them. -/
def fieldNames (e : Event) : List (List Char) :=
  "message".toList :: e.fields.map (·.name.toList)

def concerns (d : Directive) (e : Event) : Bool :=
  (match d.target with
    | some target => target.isPrefixOf e.source.target.toList
    | none => true) &&
    d.fields.all (fieldNames e).contains

/-- Longer targets come first, none last; of equally long ones those with more fields; and then
those that are greater as texts. -/
def isBefore (d e : Directive) : Bool :=
  let size (d : Directive) : Nat := match d.target with
    | some target => target.length + 1
    | none => 0
  if size d ≠ size e then size e < size d
  else if d.fields.length ≠ e.fields.length then e.fields.length < d.fields.length
  else if d.target ≠ e.target then e.target.getD [] < d.target.getD []
  else e.fields < d.fields

def sameSubject (d e : Directive) : Bool := d.target == e.target && d.fields == e.fields

end Directive

namespace Filter

/-- A directive among others; it replaces one on the same subject. -/
def insert (d : Directive) : Filter → Filter
  | [] => [d]
  | e :: es =>
    if d.sameSubject e then d :: es
    else if d.isBefore e then d :: e :: es
    else e :: insert d es

/-- The filter of a text; nothing if one of its directives is wrong. -/
def parse? (s : String) : Option Filter := do
  let directives ← ((Text.fields ',' s.toList).filter (!·.isEmpty)).mapM Directive.parse?
  some ((directives.filter Directive.isForEvents).foldl (fun f d => insert d f) [])

def ofLevel (l : Level) : Filter := [⟨none, none, [], l.rank⟩]

def ofVerbosity : Nat → Filter
  | 0 => ofLevel .warn
  | 1 => ofLevel .info
  | _ => ofLevel .debug

def allows (f : Filter) (e : Event) : Bool :=
  match f.find? (·.concerns e) with
  | some d => e.level.rank ≤ d.threshold
  | none => false

end Filter

def filterOf (text : Option String) (verbosity : Nat) : Filter :=
  match text.bind Filter.parse? with
  | some f => f
  | none => Filter.ofVerbosity verbosity

end CheckIn.Log
