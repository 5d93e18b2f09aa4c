import CheckIn.CommandLine.Parser

/-! The argument that a command line holds back. Whatever comes next either leaves it where it is,
or is wrong by itself, or has it checked first, so that a value may as well be checked at once. -/
namespace CheckIn.CommandLine

open Text (Raw)

theorem parse_eq (arguments : List String) :
    parse arguments = arguments.foldlM State.step .start >>= State.finish := by
  show (arguments.map Raw.text).foldlM State.take .start >>= State.finish = _
  rw [List.foldlM_map]
  rfl

/-- A state in which a place has got its value, unchecked yet. -/
def State.holding (p : Place) (value : String) (s : State) : State :=
  { s with held := some (.place p, some value) }

theorem settle_of_nothing_held {s : State} (free : s.held = none) : s.settle = .ok s := by
  rw [State.settle, free]

/-- What is done, or else what is wrong with the command line. -/
def IsFault {α : Type} : Except Stop α → Prop
  | .ok _ => True
  | .error stop => ∃ cause, stop = .fault cause

theorem IsFault.bind {α β : Type} {first : Except Stop α} {next : α → Except Stop β}
    (before : IsFault first) (after : ∀ a, IsFault (next a)) : IsFault (first >>= next) := by
  cases first with
  | error stop => exact before
  | ok a => exact after a

theorem isFault_refuse {α : Type} (cause : Fault) : IsFault (refuse cause : Except Stop α) :=
  ⟨cause, rfl⟩

theorem isFault_checked {α : Type} (value label : String) (r : Except Text.Numeral.Fault α) :
    IsFault (checked value label r) := by
  cases r with
  | error cause => exact isFault_refuse _
  | ok a => trivial

theorem isFault_fillPlace (d : Draft) (value : String) (p : Place) :
    IsFault (d.fillPlace value p) := by
  cases p with
  | host => trivial
  | port =>
    have port : IsFault (portOf value) := by
      refine (isFault_checked _ _ _).bind fun n => ?_
      split
      · trivial
      · exact isFault_refuse _
    exact port.bind fun _ => trivial
  | deviceId => exact (isFault_checked _ _ _).bind fun _ => trivial
  | currentFirmware => exact (isFault_checked _ _ _).bind fun _ => trivial

theorem isFault_textOf (label : String) (value : Raw) : IsFault (textOf label value) := by
  cases value with
  | text => trivial
  | bytes => exact isFault_refuse _

theorem isFault_fillNamed (d : Draft) (value : Option Raw) (name : Named) :
    IsFault (d.fillNamed value name) := by
  cases value with
  | none => exact isFault_refuse _
  | some value =>
    simp only [Draft.fillNamed]
    split
    · exact isFault_refuse _
    · cases name with
      | timeout =>
        exact (isFault_textOf _ _).bind fun _ => (isFault_checked _ _ _).bind fun _ => trivial
      | config =>
        dsimp only
        split
        · exact isFault_refuse _
        · trivial

/-- Checking what is held back either changes the draft or finds a fault. -/
theorem settle_cases (s : State) : (∃ d, s.settle = .ok { s with draft := d, held := none }) ∨
    ∃ cause, s.settle = refuse cause := by
  unfold State.settle
  split
  · next free => exact .inl ⟨s.draft, by rw [← free]⟩
  · next p value held =>
    have fault := (isFault_textOf p.label (value.getD "")).bind
      fun value => isFault_fillPlace s.draft value p
    rw [← bind_assoc]
    cases read : textOf p.label (value.getD "") >>= fun value => s.draft.fillPlace value p with
    | error stop =>
      rw [read] at fault
      obtain ⟨cause, rfl⟩ := fault
      exact .inr ⟨cause, rfl⟩
    | ok d => exact .inl ⟨d, rfl⟩
  · next name value held =>
    have fault := isFault_fillNamed s.draft value name
    cases read : s.draft.fillNamed value name with
    | error stop =>
      rw [read] at fault
      obtain ⟨cause, rfl⟩ := fault
      exact .inr ⟨cause, rfl⟩
    | ok d => exact .inl ⟨d, rfl⟩

theorem exists_draft_of_settle {s s' : State} (settled : s.settle = .ok s') :
    ∃ d, s' = { s with draft := d, held := none } := by
  rcases settle_cases s with ⟨d, same⟩ | ⟨cause, refused⟩
  · exact ⟨d, Except.ok.inj (settled.symm.trans same)⟩
  · cases settled.symm.trans refused

theorem settle_settle {α : Type} (s : State) (next : State → Except Stop α) :
    (s.settle >>= fun s => s.settle >>= next) = s.settle >>= next := by
  cases read : s.settle with
  | error cause => rfl
  | ok s' =>
    obtain ⟨d, rfl⟩ := exists_draft_of_settle read
    rfl

/-- What checks the value held back before anything else, or refuses whatever is held. -/
def Prompt (next : State → Except Stop State) : Prop :=
  (∀ s : State, next s = s.settle >>= next) ∨ ∃ cause, ∀ s, next s = refuse cause

theorem prompt_settle (next : State → Except Stop State) :
    Prompt fun s => s.settle >>= next :=
  .inl fun s => (settle_settle s next).symm

theorem prompt_refuse (cause : Fault) : Prompt fun _ => refuse cause := .inr ⟨cause, fun _ => rfl⟩

theorem Prompt.bind {first : State → Except Stop State} (prompt : Prompt first)
    (next : State → Except Stop State) : Prompt fun s => first s >>= next := by
  rcases prompt with settles | ⟨cause, refuses⟩
  · refine .inl fun s => ?_
    dsimp only
    rw [settles s, bind_assoc]
  · refine .inr ⟨cause, fun s => ?_⟩
    dsimp only
    rw [refuses s]
    rfl

theorem prompt_raiseFlag (f : Flag) : Prompt (·.raiseFlag f) := prompt_settle _

theorem prompt_takeLong (name : List Char) (value : Option Raw) :
    Prompt (·.takeLong name value) := by
  unfold State.takeLong
  rcases longName? name with _ | argument | f
  · exact prompt_refuse _
  · cases value <;> exact prompt_settle _
  · cases value with
    | none => exact prompt_raiseFlag f
    | some value => exact prompt_refuse _

theorem prompt_takeShort (letter : Char) : Prompt (·.takeShort letter) := by
  unfold State.takeShort
  split
  · exact prompt_raiseFlag _
  · exact prompt_refuse _

theorem prompt_letters (c : Char) (letters : List Char) :
    Prompt fun s => (c :: letters).foldlM State.takeShort s := by
  simp only [List.foldlM_cons]
  exact (prompt_takeShort c).bind _

section

variable {s : State} {argument : String} (options : s.valuesOnly = false)

include options

theorem step_of_escape (token : Token.of argument.toList = .escape) :
    s.step argument = .ok { s with valuesOnly := true } := by
  rw [State.step, if_neg (by simp [options]), token]

theorem step_of_plain (token : Token.of argument.toList = .plain) :
    s.step argument = s.takeValue argument := by
  rw [State.step, if_neg (by simp [options]), token]

theorem step_of_long {name : List Char} {value : Option (List Char)}
    (token : Token.of argument.toList = .long name value) :
    s.step argument = s.takeLong name (value.map fun cs => .text (String.ofList cs)) := by
  rw [State.step, if_neg (by simp [options]), token]

theorem step_of_short {letters : List Char}
    (token : Token.of argument.toList = .short letters) : s.step argument =
      if isNumeral letters ∧ (s.awaitsValue ∨ s.places ≠ []) then s.takeValue argument
      else letters.foldlM State.takeShort s := by
  rw [State.step, if_neg (by simp [options]), token]

end

/-- A further argument either leaves the value held back where it is, or is wrong whatever is held,
or the value is checked first. -/
inductive Awaited (p : Place) (value : String) (s : State) (next : State → Except Stop State) :
    Prop where
  | kept (s' : State) : s'.held = none → s'.draft = s.draft →
      next (s.holding p value) = .ok (s'.holding p value) →
      (∀ d, next { s with draft := d } = .ok { s' with draft := d }) → Awaited p value s next
  | refused (cause : Fault) : next (s.holding p value) = refuse cause →
      (∀ d, next { s with draft := d } = refuse cause) → Awaited p value s next
  | checked : next (s.holding p value) =
      (s.draft.fillPlace value p >>= fun d => next { s with draft := d }) → Awaited p value s next

section

variable {p : Place} {value : String} {s : State}

theorem settle_holding (free : s.held = none) : (s.holding p value).settle =
    s.draft.fillPlace value p >>= fun d => .ok { s with draft := d } := by
  obtain ⟨d, held, places, valuesOnly⟩ := s
  cases free
  rfl

theorem Prompt.awaited {next : State → Except Stop State} (prompt : Prompt next)
    (free : s.held = none) : Awaited p value s next := by
  rcases prompt with settles | ⟨cause, refuses⟩
  · refine .checked ?_
    rw [settles, settle_holding free, bind_assoc]
    rfl
  · exact .refused cause (refuses _) fun d => refuses _

theorem Awaited.congr {next next' : State → Except Stop State} (awaited : Awaited p value s next)
    (holding : next' (s.holding p value) = next (s.holding p value))
    (settled : ∀ d, next' { s with draft := d } = next { s with draft := d }) :
    Awaited p value s next' := by
  cases awaited with
  | kept s' free same kept goesOn =>
    exact .kept s' free same (holding.trans kept) fun d => (settled d).trans (goesOn d)
  | refused cause refused always =>
    exact .refused cause (holding.trans refused) fun d => (settled d).trans (always d)
  | checked checked =>
    refine .checked (holding.trans (checked.trans ?_))
    simp only [settled]

theorem awaited_takePlace (free : s.held = none) (argument : Raw) :
    Awaited p value s (·.takePlace argument) := by
  cases remaining : s.places with
  | nil =>
    have taken (s' : State) (places : s'.places = []) :
        s'.takePlace argument = refuse (.unexpectedArgument argument.shown) := by
      rw [State.takePlace, places]
    exact .refused _ (taken _ remaining) fun d => taken _ remaining
  | cons q others =>
    have taken (s' : State) (places : s'.places = q :: others) : s'.takePlace argument =
        s'.settle >>= fun s' => .ok
          { s' with held := some (.place q, some argument), places := others } := by
      rw [State.takePlace, places]
    exact ((prompt_settle _).awaited free).congr (taken _ remaining) fun d => taken _ remaining

theorem awaited_takeValue (free : s.held = none) (argument : Raw) :
    Awaited p value s (·.takeValue argument) := by
  refine (awaited_takePlace free argument).congr rfl fun d => ?_
  simp only [State.takeValue, free]

theorem awaited_step (free : s.held = none) (argument : String) :
    Awaited p value s (·.step argument) := by
  have waits (d : Draft) : State.awaitsValue { s with draft := d } = false := by
    rw [State.awaitsValue, free]
  by_cases valuesOnly : s.valuesOnly = true
  · exact (awaited_takePlace free argument).congr (if_pos valuesOnly) fun d => if_pos valuesOnly
  · have options : s.valuesOnly = false := by simpa using valuesOnly
    cases token : Token.of argument.toList with
    | escape =>
      exact .kept { s with valuesOnly := true } free rfl
        (step_of_escape (s := s.holding p value) options token)
        fun d => step_of_escape (s := { s with draft := d }) options token
    | long name content =>
      exact ((prompt_takeLong name _).awaited free).congr
        (step_of_long (s := s.holding p value) options token)
        fun d => step_of_long (s := { s with draft := d }) options token
    | plain =>
      exact (awaited_takeValue free argument).congr
        (step_of_plain (s := s.holding p value) options token)
        fun d => step_of_plain (s := { s with draft := d }) options token
    | short letters =>
      have stepped (s' : State) (mode : s'.valuesOnly = s.valuesOnly)
          (places : s'.places = s.places) (waits : s'.awaitsValue = false) : s'.step argument =
            if isNumeral letters ∧ s.places ≠ [] then s'.takeValue argument
            else letters.foldlM State.takeShort s' := by
        rw [step_of_short (mode.trans options) token]
        simp only [places, waits, Bool.false_eq_true, false_or]
      have holding := stepped (s.holding p value) rfl rfl rfl
      have settled (d : Draft) := stepped { s with draft := d } rfl rfl (waits d)
      by_cases number : isNumeral letters ∧ s.places ≠ []
      · simp only [if_pos number] at holding settled
        exact (awaited_takeValue free argument).congr holding settled
      · simp only [if_neg number] at holding settled
        cases letters with
        | nil => exact .kept s free rfl holding settled
        | cons c letters =>
          exact ((prompt_letters c letters).awaited free).congr holding settled

theorem run_holding (free : s.held = none) {d : Draft} (fits : s.draft.fillPlace value p = .ok d)
    (arguments : List String) :
    (arguments.foldlM State.step (s.holding p value) >>= State.finish) =
      (arguments.foldlM State.step { s with draft := d } >>= State.finish) := by
  induction arguments generalizing s with
  | nil =>
    have settled : State.settle { s with draft := d } = .ok { s with draft := d } :=
      settle_of_nothing_held free
    show State.finish (s.holding p value) = State.finish { s with draft := d }
    rw [State.finish, State.finish, settle_holding free, fits, settled]
    rfl
  | cons argument arguments ih =>
    rw [List.foldlM_cons, List.foldlM_cons, bind_assoc, bind_assoc]
    cases awaited_step (p := p) (s := s) free argument with
    | kept s' free' same kept goesOn =>
      rw [kept, goesOn]
      exact ih free' (same ▸ fits)
    | refused cause refused always => rw [refused, always]
    | checked checked =>
      rw [checked, fits]
      rfl

theorem run_holding_unfit (free : s.held = none) {cause : Fault}
    (unfit : s.draft.fillPlace value p = refuse cause) (arguments : List String) :
    ∃ cause, (arguments.foldlM State.step (s.holding p value) >>= State.finish) =
      .error (.fault cause) := by
  induction arguments generalizing s with
  | nil =>
    refine ⟨cause, ?_⟩
    show State.finish (s.holding p value) = _
    rw [State.finish, settle_holding free, unfit]
    rfl
  | cons argument arguments ih =>
    rw [List.foldlM_cons, bind_assoc]
    cases awaited_step (p := p) (s := s) free argument with
    | kept s' free' same kept goesOn =>
      rw [kept]
      exact ih free' (same ▸ unfit)
    | refused cause refused always =>
      rw [refused]
      exact ⟨cause, rfl⟩
    | checked checked =>
      rw [checked, unfit]
      exact ⟨cause, rfl⟩

end

/-- A property that continuations have if their parts have it, and that the parts of a step have. -/
structure Compositional (C : (State → Except Stop State) → Prop) : Prop where
  pure : C .ok
  error (cause : Stop) : C fun _ => .error cause
  bind {first next : State → Except Stop State} : C first → C next → C fun s => first s >>= next
  /-- What comes next may depend on anything but the draft. -/
  cases {next : State → Except Stop State} : (∀ s : State, ∃ next', C next' ∧
    ∀ d, next { s with draft := d } = next' { s with draft := d }) → C next
  settle : C State.settle
  takePlace (value : Raw) : C (·.takePlace value)
  holdNamed (name : Named) (value : Option Raw) :
    C fun s => .ok { s with held := some (.named name, value) }
  fillNamed (name : Named) (value : Option Raw) :
    C fun s => s.draft.fillNamed value name >>= fun d => .ok { s with draft := d }
  raise : C fun s => .ok
    { s with draft := { s.draft with verbosity := min verbosityLimit (s.draft.verbosity + 1) } }
  takeValuesOnly : C fun s => .ok { s with valuesOnly := true }

namespace Compositional

variable {C : (State → Except Stop State) → Prop} (c : Compositional C)
include c

theorem takeValue (value : Raw) : C (·.takeValue value) := by
  refine c.cases fun s => ?_
  rcases held : s.held with _ | ⟨p | name, _ | content⟩
  · exact ⟨_, c.takePlace value, fun _ => rfl⟩
  · exact ⟨_, c.takePlace value, fun _ => rfl⟩
  · exact ⟨_, c.takePlace value, fun _ => rfl⟩
  · exact ⟨_, c.holdNamed name (some value), fun _ => rfl⟩
  · exact ⟨_, c.takePlace value, fun _ => rfl⟩

theorem raiseFlag (f : Flag) : C (·.raiseFlag f) := by
  apply c.bind c.settle
  cases f with
  | help => exact c.error _
  | version => exact c.error _
  | verbose => exact c.raise

theorem takeLong (name : List Char) (value : Option Raw) : C (·.takeLong name value) := by
  unfold State.takeLong
  rcases longName? name with _ | argument | f
  · exact c.error _
  · cases value with
    | none => exact c.bind c.settle (c.holdNamed argument none)
    | some value => exact c.bind c.settle (c.fillNamed argument _)
  · cases value with
    | none => exact c.raiseFlag f
    | some value => exact c.error _

theorem takeShort (letter : Char) : C (·.takeShort letter) := by
  unfold State.takeShort
  split
  · exact c.raiseFlag _
  · exact c.error _

theorem foldlM {α : Type} {next : State → α → Except Stop State} (each : ∀ a, C (next · a))
    (as : List α) : C fun s => as.foldlM next s := by
  induction as with
  | nil => exact c.pure
  | cons a as ih =>
    simp only [List.foldlM_cons]
    exact c.bind (each a) ih

theorem step (argument : String) : C (·.step argument) := by
  refine c.cases fun s => ?_
  by_cases valuesOnly : s.valuesOnly = true
  · exact ⟨_, c.takePlace argument, fun d => if_pos valuesOnly⟩
  · have read (d : Draft) := State.step.eq_1 { s with draft := d } argument
    simp only [if_neg valuesOnly] at read
    cases token : Token.of argument.toList with
    | escape =>
      simp only [token] at read
      exact ⟨_, c.takeValuesOnly, read⟩
    | long name value =>
      simp only [token] at read
      exact ⟨_, c.takeLong name _, read⟩
    | plain =>
      simp only [token] at read
      exact ⟨_, c.takeValue argument, read⟩
    | short letters =>
      simp only [token] at read
      by_cases number : isNumeral letters ∧ (s.awaitsValue ∨ s.places ≠ [])
      · exact ⟨_, c.takeValue argument, fun d => (read d).trans (if_pos number)⟩
      · exact ⟨_, c.foldlM c.takeShort letters, fun d => (read d).trans (if_neg number)⟩

/-- What steps have, a whole command line has. -/
theorem steps (arguments : List String) : C fun s => arguments.foldlM State.step s :=
  c.foldlM c.step arguments

end Compositional

/-- Continuations that take places from the front only. -/
def Narrows (next : State → Except Stop State) : Prop :=
  ∀ s s', next s = .ok s' → s'.places <:+ s.places

theorem narrows_update (change : State → State) (same : ∀ s, (change s).places = s.places) :
    Narrows fun s => .ok (change s) := by
  intro s s' read
  obtain rfl := Except.ok.inj read
  exact same s ▸ List.suffix_refl _

theorem Narrows.bind {first next : State → Except Stop State} (before : Narrows first)
    (after : Narrows next) : Narrows fun s => first s >>= next := by
  intro s s' read
  dsimp only at read
  cases read' : first s with
  | error cause =>
    rw [read'] at read
    cases read
  | ok between =>
    rw [read'] at read
    exact (after between s' read).trans (before s between read')

theorem narrows_settle : Narrows State.settle := by
  intro s s' settled
  obtain ⟨d, rfl⟩ := exists_draft_of_settle settled
  exact List.suffix_refl _

theorem narrows_takePlace (value : Raw) : Narrows (·.takePlace value) := by
  intro s s' read
  simp only [State.takePlace] at read
  cases remaining : s.places with
  | nil =>
    rw [remaining] at read
    cases read
  | cons p others =>
    rw [remaining] at read
    cases settled : s.settle with
    | error cause =>
      simp only [settled] at read
      cases read
    | ok between =>
      simp only [settled] at read
      obtain rfl := Except.ok.inj read
      exact List.suffix_cons p others

theorem narrows_fillNamed (name : Named) (value : Option Raw) :
    Narrows fun s => s.draft.fillNamed value name >>= fun d => .ok { s with draft := d } := by
  intro s s' read
  dsimp only at read
  cases filled : s.draft.fillNamed value name with
  | error cause =>
    rw [filled] at read
    cases read
  | ok d =>
    rw [filled] at read
    obtain rfl := Except.ok.inj read
    exact List.suffix_refl _

theorem narrows : Compositional Narrows where
  pure := narrows_update id fun _ => rfl
  error cause := fun s s' read => by cases read
  bind := Narrows.bind
  cases alike := fun s s' read => by
    obtain ⟨next', narrows, same⟩ := alike s
    exact narrows s s' ((same s.draft).symm.trans read)
  settle := narrows_settle
  takePlace := narrows_takePlace
  holdNamed _ _ := narrows_update _ fun _ => rfl
  fillNamed := narrows_fillNamed
  raise := narrows_update _ fun _ => rfl
  takeValuesOnly := narrows_update _ fun _ => rfl

end CheckIn.CommandLine
