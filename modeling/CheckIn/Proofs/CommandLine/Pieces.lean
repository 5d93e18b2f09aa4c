import CheckIn.Proofs.CommandLine.Numerals
import CheckIn.Proofs.Except

/-! Command lines put together from pieces: a value for a place, a named argument with its value, or
letters that raise the verbosity. Although each value is held back until the next argument, such a
line is read as if each piece were checked at once; only which of several faults is reported may
differ. -/
namespace CheckIn.CommandLine

/-- Characters that stand for a value wherever one can stand: there are some, and a dash before
them makes a negative number. -/
def isWord : List Char → Bool
  | [] => false
  | '-' :: cs => !cs.isEmpty && cs.all fun c => (Text.Numeral.digit? c).isSome
  | _ => true

structure Word where
  text : String
  valid : isWord text.toList = true

theorem Word.nonempty (w : Word) : w.text.isEmpty = false := by
  obtain ⟨text, valid⟩ := w
  rw [String.isEmpty_eq_false_iff]
  rintro rfl
  cases valid

inductive Piece where
  | positional (value : Word)
  | named (n : Named) (value : Word) (joined : Bool)
  | verbose
  /-- A dash, a letter `v` and more of them. -/
  | cluster (more : Nat)

def Named.word : Named → String
  | .timeout => "timeout"
  | .config => "config"

def Piece.arguments : Piece → List String
  | positional value => [value.text]
  | named n value true => ["--" ++ n.word ++ "=" ++ value.text]
  | named n value false => ["--" ++ n.word, value.text]
  | verbose => ["--verbose"]
  | cluster more => [String.ofList ('-' :: 'v' :: List.replicate more 'v')]

def Piece.raises : Piece → Nat
  | verbose => 1
  | cluster more => more + 1
  | _ => 0

def State.raised (count : Nat) (s : State) : State :=
  { s with draft := { s.draft with
    verbosity := min verbosityLimit (s.draft.verbosity + count) } }

theorem min_verbosityLimit_add (verbosity count : Nat) :
    min verbosityLimit (min verbosityLimit verbosity + count) =
      min verbosityLimit (verbosity + count) := by
  omega

theorem raised_raised (first second : Nat) (s : State) :
    (s.raised first).raised second = s.raised (first + second) := by
  simp only [State.raised, min_verbosityLimit_add, Nat.add_assoc]

/-- A piece as it is read where nothing is held back yet. -/
def Piece.take (s : State) : Piece → Except Stop State
  | positional value => match s.places with
    | [] => refuse (.unexpectedArgument value.text)
    | p :: places => .ok { s with held := some (.place p, some value.text), places }
  | named n value true => do
    let draft ← s.draft.fillNamed (some value.text) n
    .ok { s with draft }
  | named n value false => .ok { s with held := some (.named n, some value.text) }
  | piece => .ok (s.raised piece.raises)

/-- A piece as it is read where its value is checked at once. -/
def Piece.read (s : State) : Piece → Except Stop State
  | positional value => match s.places with
    | [] => refuse (.unexpectedArgument value.text)
    | p :: places => do
      let draft ← s.draft.fillPlace value.text p
      .ok { s with draft, places }
  | named n value _ => do
    let draft ← s.draft.fillNamed (some value.text) n
    .ok { s with draft }
  | piece => .ok (s.raised piece.raises)

theorem token_of_word (w : Word) : Token.of w.text.toList = .plain ∨
    ∃ c cs, Token.of w.text.toList = .short (c :: cs) ∧ isNumeral (c :: cs) = true ∧
      shortFlag? c = none := by
  obtain ⟨text, valid⟩ := w
  dsimp only
  generalize text.toList = letters at valid
  match letters with
  | [] => exact .inl rfl
  | letter :: letters =>
    by_cases dash : letter = '-'
    · subst dash
      obtain ⟨some, digits⟩ := Bool.and_eq_true_iff.mp valid
      have digits := List.all_eq_true.mp digits
      match letters with
      | [] => cases some
      | c :: cs =>
        obtain ⟨d, digit⟩ := Option.isSome_iff_exists.mp (digits c List.mem_cons_self)
        obtain ⟨small, rfl⟩ := (Text.Numeral.digit?_eq_some_iff c d).mp digit
        have noFlag : ∀ d < 10, Nat.digitChar d ≠ '-' ∧ shortFlag? (Nat.digitChar d) = none := by
          decide
        refine .inr ⟨_, cs, ?_, isNumeral_of_digits digits, (noFlag d small).2⟩
        simp [Token.of, (noFlag d small).1]
    · exact .inl (by simp [Token.of, dash])

theorem longName_word (name : Named) : longName? name.word.toList = some (.named name) := by
  cases name <;> decide

/-- Between two pieces: no named argument waits for its value, and options are still known. -/
structure State.Between (s : State) : Prop where
  options : s.valuesOnly = false
  answered : s.awaitsValue = false

section

variable {s : State}

theorem step_of_word (options : s.valuesOnly = false) (w : Word)
    (wanted : s.awaitsValue ∨ s.places ≠ []) : s.step w.text = s.takeValue w.text := by
  rcases token_of_word w with plain | ⟨c, cs, short, number, -⟩
  · exact step_of_plain options plain
  · rw [step_of_short options short, if_pos ⟨number, wanted⟩]

theorem step_word (between : s.Between) (w : Word) :
    (s.places = [] ∧ ∃ cause, s.step w.text = refuse cause) ∨
    ∃ p places, s.places = p :: places ∧ s.step w.text = s.takePlace w.text := by
  have taken := takeValue_of_not_awaits between.answered w.text
  cases places : s.places with
  | nil =>
    refine .inl ⟨rfl, ?_⟩
    rcases token_of_word w with plain | ⟨c, cs, short, -, noFlag⟩
    · refine ⟨.unexpectedArgument w.text, ?_⟩
      rw [step_of_plain between.options plain, taken, State.takePlace, places]
      rfl
    · refine ⟨.unexpectedArgument (String.ofList ['-', c]), ?_⟩
      rw [step_of_short between.options short, if_neg (by simp [between.answered, places]),
        List.foldlM_cons, State.takeShort, noFlag]
      rfl
  | cons p others =>
    refine .inr ⟨p, others, rfl, ?_⟩
    rw [step_of_word between.options w (.inr (by simp [places])), taken]

theorem step_awaited (name : Named) (options : s.valuesOnly = false)
    (held : s.held = some (.named name, none)) (w : Word) :
    s.step w.text = .ok { s with held := some (.named name, some w.text) } := by
  have waits : s.awaitsValue = true := by rw [State.awaitsValue, held]
  rw [step_of_word options w (.inl waits), State.takeValue, held]

theorem step_name (options : s.valuesOnly = false) (name : Named) :
    s.step ("--" ++ name.word) = s.settle >>= fun s =>
      .ok { s with held := some (.named name, none) } := by
  have token : Token.of ("--" ++ name.word).toList = .long name.word.toList none := by
    cases name <;> decide
  simp only [step_of_long options token, State.takeLong, longName_word, Option.map_none]

theorem step_joined (options : s.valuesOnly = false) (name : Named) (w : Word) :
    s.step ("--" ++ name.word ++ "=" ++ w.text) = s.settle >>= fun s =>
      s.draft.fillNamed (some w.text) name >>= fun draft => .ok { s with draft } := by
  have token : Token.of ("--" ++ name.word ++ "=" ++ w.text).toList =
      .long name.word.toList (some w.text.toList) := by
    simp only [String.toList_append]
    cases name <;> rfl
  simp only [step_of_long options token, State.takeLong, longName_word, Option.map_some,
    String.ofList_toList]

theorem step_verbose (options : s.valuesOnly = false) :
    s.step "--verbose" = s.settle >>= fun s => .ok (s.raised 1) :=
  step_of_long options (by decide : Token.of "--verbose".toList = .long "verbose".toList none)

theorem raise_letters (more : Nat) :
    (('v' :: List.replicate more 'v').foldlM State.takeShort s) =
      s.settle >>= fun s => .ok (s.raised (more + 1)) := by
  have first (s : State) : s.takeShort 'v' = s.settle >>= fun s => .ok (s.raised 1) := rfl
  induction more generalizing s with
  | zero =>
    rw [List.replicate_zero, List.foldlM_cons, first]
    exact bind_pure _
  | succ more ih =>
    rw [List.replicate_succ, List.foldlM_cons, first]
    simp only [ih]
    rcases settle_cases s with ⟨d, settled⟩ | ⟨cause, refused⟩
    · rw [settled]
      show Except.ok ((State.raised 1 _).raised (more + 1)) = Except.ok _
      rw [raised_raised, Nat.add_comm]
    · rw [refused]
      rfl

theorem step_cluster (options : s.valuesOnly = false) (more : Nat) :
    s.step (String.ofList ('-' :: 'v' :: List.replicate more 'v')) =
      s.settle >>= fun s => .ok (s.raised (more + 1)) := by
  have token : Token.of (String.ofList ('-' :: 'v' :: List.replicate more 'v')).toList =
      .short ('v' :: List.replicate more 'v') := by
    simp [Token.of]
  have flags : isNumeral ('v' :: List.replicate more 'v') = false := rfl
  rw [step_of_short options token, if_neg (by simp [flags]), raise_letters]

end

/-- The same result, or a fault on both sides. -/
inductive Agrees {α : Type} : Except Stop α → Except Stop α → Prop where
  | same (a : α) : Agrees (.ok a) (.ok a)
  | faults (cause cause' : Fault) : Agrees (refuse cause) (refuse cause')

theorem Agrees.refl_of_isFault {α : Type} {x : Except Stop α} (fault : IsFault x) :
    Agrees x x := by
  cases x with
  | ok a => exact .same a
  | error stop =>
    obtain ⟨cause, rfl⟩ := fault
    exact .faults cause cause

theorem run_piece {s : State} (between : s.Between) (piece : Piece) :
    piece.arguments.foldlM State.step s = (s.settle >>= fun s => piece.take s) ∨
    s.places = [] ∧ ∃ w cause, piece = .positional w ∧
      piece.arguments.foldlM State.step s = refuse cause := by
  have single (argument : String) : [argument].foldlM State.step s = s.step argument := by
    rw [List.foldlM_cons]
    exact bind_pure _
  cases piece with
  | positional w =>
    rcases step_word between w with ⟨full, cause, refused⟩ | ⟨p, others, places, stepped⟩
    · exact .inr ⟨full, w, cause, rfl, (single _).trans refused⟩
    · refine .inl ((single _).trans ?_)
      rw [stepped, State.takePlace, places]
      rcases settle_cases s with ⟨d, settled⟩ | ⟨cause, refused⟩
      · rw [settled]
        show _ = Piece.take _ (.positional w)
        rw [Piece.take, places]
        rfl
      · rw [refused]
        rfl
  | named n w joined =>
    cases joined with
    | true => exact .inl ((single _).trans (step_joined between.options n w))
    | false =>
      refine .inl ?_
      rw [Piece.arguments, List.foldlM_cons, step_name between.options, bind_assoc]
      rcases settle_cases s with ⟨d, settled⟩ | ⟨cause, refused⟩
      · rw [settled]
        have awaited := step_awaited (s := { s with draft := d, held := some (.named n, none) }) n
          between.options rfl w
        show [w.text].foldlM State.step _ = _
        rw [List.foldlM_cons, awaited]
        rfl
      · rw [refused]
        rfl
  | verbose => exact .inl ((single _).trans (step_verbose between.options))
  | cluster more => exact .inl ((single _).trans (step_cluster between.options more))

theorem settle_take {s : State} (free : s.held = none) (piece : Piece) :
    (piece.take s >>= State.settle) = piece.read s := by
  obtain ⟨d, held, places, valuesOnly⟩ := s
  cases free
  cases piece with
  | positional w => cases places <;> rfl
  | named n w joined =>
    cases joined with
    | true =>
      rw [Piece.take, Piece.read, bind_assoc]
      rfl
    | false => rfl
  | verbose => rfl
  | cluster more => rfl

theorem take_between {s s' : State} (free : s.held = none) (options : s.valuesOnly = false)
    {piece : Piece} (taken : piece.take s = .ok s') : s'.Between := by
  obtain ⟨d, held, places, valuesOnly⟩ := s
  cases free
  cases piece with
  | positional w =>
    cases places with
    | nil => cases taken
    | cons p places =>
      cases taken
      exact ⟨options, rfl⟩
  | named n w joined =>
    cases joined with
    | true =>
      obtain ⟨d', -, same⟩ := bind_eq_ok_iff.mp taken
      cases same
      exact ⟨options, rfl⟩
    | false =>
      cases taken
      exact ⟨options, rfl⟩
  | verbose =>
    cases taken
    exact ⟨options, rfl⟩
  | cluster more =>
    cases taken
    exact ⟨options, rfl⟩

theorem isFault_read (s : State) (piece : Piece) : IsFault (piece.read s) := by
  cases piece with
  | positional w =>
    rw [Piece.read]
    split
    · exact isFault_refuse _
    · exact (isFault_fillPlace _ _ _).bind fun _ => trivial
  | named n w joined => exact (isFault_fillNamed _ _ _).bind fun _ => trivial
  | verbose => trivial
  | cluster more => trivial

theorem isFault_finish (s : State) : IsFault s.finish := by
  rcases settle_cases s with ⟨⟨host, port, _, _, _, _, _⟩, settled⟩ | ⟨cause, refused⟩
  · rw [State.finish, settled]
    cases host with
    | none => exact isFault_refuse _
    | some host =>
      cases port with
      | none => exact isFault_refuse _
      | some port => trivial
  · rw [State.finish, refused]
    exact isFault_refuse cause

/-- A command line of pieces is read as if each were checked at once. By induction on the pieces,
from any state between two of them: what such a state holds back is checked before the next
piece. -/
theorem run_pieces {s : State} (between : s.Between) (pieces : List Piece) :
    Agrees ((pieces.flatMap Piece.arguments).foldlM State.step s >>= State.finish)
      (s.settle >>= fun s => pieces.foldlM Piece.read s >>= State.finish) := by
  induction pieces generalizing s with
  | nil =>
    have checked : (s.settle >>= fun s => ([] : List Piece).foldlM Piece.read s >>= State.finish) =
        s.finish := by
      unfold State.finish
      exact settle_settle s _
    rw [checked]
    exact .refl_of_isFault (isFault_finish s)
  | cons piece pieces ih =>
    rw [List.flatMap_cons, List.foldlM_append, bind_assoc]
    rcases settle_cases s with ⟨d, settled⟩ | ⟨cause, refused⟩
    · let free : State := { s with draft := d, held := none }
      have atOnce : (s.settle >>= fun s => (piece :: pieces).foldlM Piece.read s >>= State.finish) =
          piece.read free >>= fun s => pieces.foldlM Piece.read s >>= State.finish := by
        rw [settled]
        show (piece :: pieces).foldlM Piece.read free >>= State.finish = _
        rw [List.foldlM_cons, bind_assoc]
      rw [atOnce]
      rcases run_piece between piece with ran | ⟨full, w, cause, rfl, refused⟩
      · have ran : piece.arguments.foldlM State.step s = piece.take free := by
          rw [ran, settled]
          rfl
        have read := settle_take (s := free) rfl piece
        rw [ran, ← read]
        cases taken : piece.take free with
        | ok s' => exact ih (take_between (s := free) rfl between.options taken)
        | error stop =>
          have fault := isFault_read free piece
          rw [← read, taken] at fault
          obtain ⟨cause, rfl⟩ := fault
          exact .faults cause cause
      · have read : Piece.read free (.positional w) = refuse (.unexpectedArgument w.text) := by
          rw [Piece.read]
          simp only [free, full]
        rw [refused, read]
        exact .faults cause _
    · rw [refused]
      rcases run_piece between piece with ran | ⟨-, w, cause', rfl, refused'⟩
      · rw [ran, refused]
        exact .faults cause cause
      · rw [refused']
        exact .faults cause' cause

end CheckIn.CommandLine
