import CheckIn.Proofs.CommandLine.Holding
import CheckIn.Proofs.Text.Numerals

/-! Numerals at the places of a command line. An integer that fits its place is taken over as it is,
whatever stands before and behind it, and the rest is read as it would be behind any other; one
that does not fit makes the command line wrong. -/
namespace CheckIn.CommandLine

open Text (Raw)

/-- The integers that fit a place; a host is a name. -/
def Place.Holds : Place → Int → Prop
  | .host, _ => False
  | .port, n => 0 ≤ n ∧ n < 2 ^ 16
  | .deviceId, n | .currentFirmware, n => -2 ^ 63 ≤ n ∧ n < 2 ^ 63

def Draft.withInteger (p : Place) (n : Int) (d : Draft) : Draft :=
  match p with
  | .host => d
  | .port => { d with port := some (UInt16.ofNat n.toNat) }
  | .deviceId => { d with deviceId := some (Int64.ofInt n) }
  | .currentFirmware => { d with currentFirmware := some (Int64.ofInt n) }

def withInteger (p : Place) (n : Int) (i : Invocation) : Invocation :=
  match p with
  | .host => i
  | .port => { i with port := UInt16.ofNat n.toNat }
  | .deviceId => { i with deviceId := some (Int64.ofInt n) }
  | .currentFirmware => { i with currentFirmware := some (Int64.ofInt n) }

theorem portOf_toString (n : Int) :
    (0 ≤ n ∧ n < 2 ^ 16 → portOf (toString n) = .ok (UInt16.ofNat n.toNat)) ∧
    (¬(0 ≤ n ∧ n < 2 ^ 16) → ∃ cause, portOf (toString n) = refuse cause) := by
  have read := Text.readInt64_toString n
  constructor
  · rintro ⟨least, most⟩
    have value : (Int64.ofInt n).toInt = n := Int64.toInt_ofInt_of_le (by omega) (by omega)
    rw [if_pos (by omega)] at read
    have fits : 0 ≤ n ∧ n ≤ portLimit := ⟨least, Int.le_of_lt_add_one most⟩
    rw [portOf, read]
    show (if 0 ≤ (Int64.ofInt n).toInt ∧ (Int64.ofInt n).toInt ≤ portLimit then _ else _) = _
    rw [value, if_pos fits]
  · intro outside
    split at read
    · next inside =>
      have value : (Int64.ofInt n).toInt = n := Int64.toInt_ofInt_of_le inside.1 inside.2
      have unfit : ¬(0 ≤ n ∧ n ≤ portLimit) := by
        rw [portLimit]
        omega
      rw [portOf, read]
      refine ⟨.invalidValue (toString n) Place.port.label
        (toString n ++ " is not in 0..=" ++ toString portLimit), ?_⟩
      show (if 0 ≤ (Int64.ofInt n).toInt ∧ (Int64.ofInt n).toInt ≤ portLimit then _ else _) = _
      rw [value, if_neg unfit]
    · rw [portOf, read]
      exact ⟨_, rfl⟩

theorem fillPlace_toString {p : Place} (numeric : p ≠ .host) (n : Int) (d : Draft) :
    (p.Holds n → d.fillPlace (toString n) p = .ok (d.withInteger p n)) ∧
    (¬p.Holds n → ∃ cause, d.fillPlace (toString n) p = refuse cause) := by
  have identity (label : String) (put : Int64 → Draft) :
      (-2 ^ 63 ≤ n ∧ n < 2 ^ 63 → (do
        let n ← checked (toString n) label (Text.Numeral.readInt64 (toString n))
        .ok (put n) : Except Stop Draft) = .ok (put (Int64.ofInt n))) ∧
      (¬(-2 ^ 63 ≤ n ∧ n < 2 ^ 63) → ∃ cause, (do
        let n ← checked (toString n) label (Text.Numeral.readInt64 (toString n))
        .ok (put n) : Except Stop Draft) = refuse cause) := by
    rw [Text.readInt64_toString]
    constructor
    · intro inside
      rw [if_pos inside]
      rfl
    · intro outside
      rw [if_neg outside]
      exact ⟨_, rfl⟩
  cases p with
  | host => exact absurd rfl numeric
  | port =>
    obtain ⟨accepts, refuses⟩ := portOf_toString n
    constructor
    · intro inside
      rw [Draft.fillPlace, accepts inside]
      rfl
    · intro outside
      obtain ⟨cause, refused⟩ := refuses outside
      rw [Draft.fillPlace, refused]
      exact ⟨cause, rfl⟩
  | deviceId => exact identity Place.deviceId.label fun n => { d with deviceId := some n }
  | currentFirmware =>
    exact identity Place.currentFirmware.label fun n => { d with currentFirmware := some n }

def State.over (f : Draft → Draft) (s : State) : State := { s with draft := f s.draft }

/-- The place is taken, and its value has been checked. -/
structure State.Past (p : Place) (s : State) : Prop where
  taken : p ∉ s.places
  checked : ∀ value, s.held ≠ some (.place p, value)

theorem State.Past.free {p : Place} {s : State} (past : s.Past p) (d : Draft) :
    State.Past p { s with draft := d, held := none } := by
  refine ⟨past.taken, fun value held => ?_⟩
  cases held

/-- Continuations that go on alike whatever integer a place has got that lies behind. -/
def Ignores (p : Place) (n : Int) (next : State → Except Stop State) : Prop :=
  ∀ s : State, s.Past p → next (s.over (.withInteger p n)) =
      (next s).map (State.over (.withInteger p n)) ∧
    ∀ s', next s = .ok s' → s'.Past p

section

variable {p : Place} {n : Int} {s : State}

theorem Ignores.error (cause : Stop) : Ignores p n fun _ => .error cause :=
  fun _ _ => ⟨rfl, fun _ => nofun⟩

theorem Ignores.bind {first next : State → Except Stop State} (before : Ignores p n first)
    (after : Ignores p n next) : Ignores p n fun s => first s >>= next := by
  intro s past
  obtain ⟨same, kept⟩ := before s past
  dsimp only
  rw [same]
  cases read : first s with
  | error cause => exact ⟨rfl, fun _ => nofun⟩
  | ok s' => exact after s' (kept s' read)

theorem fillPlace_withInteger {q : Place} (other : q ≠ p) (value : String) (d : Draft) :
    (d.withInteger p n).fillPlace value q = (d.fillPlace value q).map (.withInteger p n) := by
  cases q with
  | host => cases p <;> first | exact absurd rfl other | rfl
  | port =>
    simp only [Draft.fillPlace]
    cases portOf value <;> cases p <;> first | exact absurd rfl other | rfl
  | deviceId =>
    simp only [Draft.fillPlace]
    cases checked value Place.deviceId.label (Text.Numeral.readInt64 value) <;> cases p <;>
      first | exact absurd rfl other | rfl
  | currentFirmware =>
    simp only [Draft.fillPlace]
    cases checked value Place.currentFirmware.label (Text.Numeral.readInt64 value) <;> cases p <;>
      first | exact absurd rfl other | rfl

theorem fillNamed_withInteger (value : Option Raw) (name : Named) (d : Draft) :
    (d.withInteger p n).fillNamed value name = (d.fillNamed value name).map (.withInteger p n) := by
  have isSet : (d.withInteger p n).isSet name = d.isSet name := by
    cases name <;> cases p <;> rfl
  cases value with
  | none => rfl
  | some value =>
    simp only [Draft.fillNamed]
    rw [isSet]
    split
    · rfl
    · cases name with
      | timeout =>
        dsimp only
        cases textOf Named.timeout.label value with
        | error cause => rfl
        | ok value =>
          show (checked value _ _ >>= _) = Except.map _ (checked value _ _ >>= _)
          cases checked value Named.timeout.label (Text.Numeral.readUInt64 value) <;>
            cases p <;> rfl
      | config =>
        dsimp only
        split
        · rfl
        · cases p <;> rfl

theorem ignores_settle : Ignores p n State.settle := by
  intro s past
  obtain ⟨d, held, places, valuesOnly⟩ := s
  rcases held with _ | ⟨q | name, value⟩
  · exact ⟨rfl, fun s' same => Except.ok.inj same ▸ past⟩
  · have other : q ≠ p := by
      rintro rfl
      exact past.checked value rfl
    simp only [State.settle, State.over, fillPlace_withInteger other]
    cases textOf q.label (value.getD "") with
    | error cause => exact Ignores.error cause _ past
    | ok value =>
      dsimp only [bind, Except.bind]
      cases d.fillPlace value q with
      | error cause => exact Ignores.error cause _ past
      | ok d' => exact ⟨rfl, fun s' same => Except.ok.inj same ▸ past.free _⟩
  · simp only [State.settle, State.over, fillNamed_withInteger]
    cases d.fillNamed value name with
    | error cause => exact Ignores.error cause _ past
    | ok d' => exact ⟨rfl, fun s' same => Except.ok.inj same ▸ past.free _⟩

theorem ignores_update (change : State → State)
    (same : ∀ s : State, change (s.over (.withInteger p n)) = (change s).over (.withInteger p n))
    (past : ∀ s : State, s.Past p → (change s).Past p) : Ignores p n fun s => .ok (change s) := by
  intro s before
  refine ⟨congrArg Except.ok (same s), fun s' read => ?_⟩
  obtain rfl := Except.ok.inj read
  exact past s before

theorem ignores_takePlace (value : Raw) : Ignores p n (·.takePlace value) := by
  intro s past
  have places : (s.over (.withInteger p n)).places = s.places := rfl
  simp only [State.takePlace, places]
  cases remaining : s.places with
  | nil => exact Ignores.error _ s past
  | cons q others =>
    have taken := past.taken
    rw [remaining, List.mem_cons, not_or] at taken
    have hold : Ignores p n fun s : State => .ok
        { s with held := some (.place q, some value), places := others } := by
      refine ignores_update _ (fun _ => rfl) fun s past => ⟨taken.2, fun value' same => taken.1 ?_⟩
      cases same
      rfl
    exact ignores_settle.bind hold s past

theorem ignores_fillNamed (name : Named) (value : Option Raw) :
    Ignores p n fun s => s.draft.fillNamed value name >>= fun d => .ok { s with draft := d } := by
  intro s past
  simp only [State.over, fillNamed_withInteger]
  cases s.draft.fillNamed value name with
  | error cause => exact Ignores.error cause _ past
  | ok d => exact ⟨rfl, fun s' same => Except.ok.inj same ▸ ⟨past.taken, past.checked⟩⟩

theorem ignores : Compositional (Ignores p n) where
  pure := ignores_update id (fun _ => rfl) fun _ past => past
  error := Ignores.error
  bind := Ignores.bind
  cases alike := fun s past => by
    obtain ⟨next', ignores, same⟩ := alike s
    have changed := same (s.draft.withInteger p n)
    have itself := same s.draft
    obtain ⟨goesOn, kept⟩ := ignores s past
    refine ⟨changed.trans (goesOn.trans (congrArg _ itself.symm)), fun s' read => kept s' ?_⟩
    exact itself.symm.trans read
  settle := ignores_settle
  takePlace := ignores_takePlace
  holdNamed _ _ := ignores_update _ (fun _ => rfl) fun _ past =>
    ⟨past.taken, fun _ same => by cases same⟩
  fillNamed := ignores_fillNamed
  raise := ignores_update _ (fun _ => by cases p <;> rfl) fun _ past => ⟨past.taken, past.checked⟩
  takeValuesOnly := ignores_update _ (fun _ => rfl) fun _ past => ⟨past.taken, past.checked⟩

theorem finish_over (past : s.Past p) (m : Int) : (s.over (.withInteger p n)).finish =
    (s.over (.withInteger p m)).finish.map (withInteger p n) := by
  rw [State.finish, State.finish, (ignores_settle s past).1, (ignores_settle s past).1]
  cases s.settle with
  | error cause => rfl
  | ok s' =>
    obtain ⟨⟨host, port, _, _, _, _, _⟩, _, _, _⟩ := s'
    cases p <;> cases host <;> cases port <;> rfl

end

theorem isNumeral_of_digits {cs : List Char}
    (digits : ∀ c ∈ cs, (Text.Numeral.digit? c).isSome = true) : isNumeral cs = true := by
  have from_any (start : Bool) : isNumeralFrom start false false cs = true := by
    induction cs generalizing start with
    | nil => rfl
    | cons c cs ih =>
      rw [isNumeralFrom, if_pos (digits c List.mem_cons_self)]
      exact ih (fun c member => digits c (List.mem_cons_of_mem _ member)) false
  exact from_any true

theorem isNumeral_toDigits (n : Nat) : isNumeral (Nat.toDigits 10 n) = true := by
  refine isNumeral_of_digits fun c member => ?_
  obtain ⟨d, digit⟩ := Text.exists_of_mem_toDigits (by decide) member
  rw [(Text.Numeral.digit?_eq_some_iff c d).mpr digit]
  rfl

theorem takeValue_of_not_awaits {s : State} (waits : s.awaitsValue = false) (value : Raw) :
    s.takeValue value = s.takePlace value := by
  unfold State.takeValue
  split
  · next name held =>
    rw [State.awaitsValue, held] at waits
    cases waits
  · rfl

theorem step_toString {s : State} {p : Place} {others : List Place}
    (places : s.places = p :: others) (waits : s.awaitsValue = false) (n : Int) :
    s.step (toString n) = s.takePlace (toString n) := by
  rw [State.step]
  split
  · rfl
  · cases n with
    | ofNat n =>
      obtain ⟨d, small, cs, shape⟩ := Text.exists_toDigits_eq_cons n
      have noDash : Nat.digitChar d ≠ '-' := by
        have all : ∀ d < 10, Nat.digitChar d ≠ '-' := by decide
        exact all d small
      have token : Token.of (toString (Int.ofNat n)).toList = .plain := by
        rw [Text.toList_toString_ofNat, shape]
        simp [Token.of, noDash]
      rw [token]
      exact takeValue_of_not_awaits waits _
    | negSucc n =>
      obtain ⟨d, small, cs, shape⟩ := Text.exists_toDigits_eq_cons (n + 1)
      have noDash : Nat.digitChar d ≠ '-' := by
        have all : ∀ d < 10, Nat.digitChar d ≠ '-' := by decide
        exact all d small
      have token : Token.of (toString (Int.negSucc n)).toList =
          .short (Nat.toDigits 10 (n + 1)) := by
        rw [Text.toList_toString_negSucc, shape]
        simp [Token.of, noDash]
      rw [token]
      dsimp only
      rw [if_pos ⟨isNumeral_toDigits _, .inr (by simp [places])⟩]
      exact takeValue_of_not_awaits waits _

/-- The next value among the arguments goes to this place: what stands before it is right as far as
it has been checked, and no named argument waits for its value. -/
def Expects (before : List String) (p : Place) : Prop :=
  ∃ s, before.foldlM State.step .start = .ok s ∧ s.places.head? = some p ∧ s.awaitsValue = false

section

variable {before : List String} {p : Place} (expects : Expects before p)
include expects

/-- What is wrong before the value is wrong whatever it is; or else the value is held back, and
everything else is the same. -/
theorem exists_state_behind :
    (∃ cause, ∀ (n : Int) (after : List String),
      parse (before ++ toString n :: after) = .error (.fault cause)) ∨
    ∃ s : State, s.held = none ∧ p ∉ s.places ∧ ∀ (n : Int) (after : List String),
      parse (before ++ toString n :: after) =
        after.foldlM State.step (s.holding p (toString n)) >>= State.finish := by
  obtain ⟨s, reached, next, waits⟩ := expects
  obtain ⟨others, places⟩ : ∃ others, s.places = p :: others := by
    cases remaining : s.places with
    | nil =>
      rw [remaining] at next
      cases next
    | cons q others =>
      rw [remaining] at next
      exact ⟨others, by rw [Option.some.inj next]⟩
  have distinct : (p :: others).Nodup := by
    have suffix := narrows.steps before _ _ reached
    rw [places] at suffix
    exact suffix.sublist.nodup (by decide)
  have parsed (n : Int) (after : List String) : parse (before ++ toString n :: after) =
      (s.settle >>= fun s => .ok (State.holding p (toString n) { s with places := others })) >>=
        fun s => after.foldlM State.step s >>= State.finish := by
    have stepped : s.step (toString n) = s.settle >>= fun s =>
        .ok (State.holding p (toString n) { s with places := others }) := by
      rw [step_toString places waits, State.takePlace, places]
      rfl
    rw [← stepped, parse_eq, List.foldlM_append, reached]
    show ((s.step (toString n) >>= fun s => after.foldlM State.step s) >>= State.finish) = _
    rw [bind_assoc]
  rcases settle_cases s with ⟨d, settled⟩ | ⟨cause, refused⟩
  · refine .inr ⟨{ s with draft := d, held := none, places := others }, rfl,
      (List.nodup_cons.mp distinct).1, fun n after => ?_⟩
    rw [parsed, settled]
    rfl
  · refine .inl ⟨cause, fun n after => ?_⟩
    rw [parsed, refused]
    rfl

variable (numeric : p ≠ .host)
include numeric

theorem parse_of_holds {m n : Int} (other : p.Holds m) (inside : p.Holds n) (after : List String) :
    parse (before ++ toString n :: after) =
      (parse (before ++ toString m :: after)).map (withInteger p n) := by
  rcases exists_state_behind expects with ⟨cause, refused⟩ | ⟨s, free, taken, parsed⟩
  · rw [refused, refused]
    rfl
  · have past : s.Past p := by
      refine ⟨taken, fun value held => ?_⟩
      rw [free] at held
      cases held
    have read {n : Int} (inside : p.Holds n) : parse (before ++ toString n :: after) =
        after.foldlM State.step s >>= fun s => (s.over (.withInteger p n)).finish := by
      have goesOn : after.foldlM State.step (s.over (.withInteger p n)) =
          (after.foldlM State.step s).map (State.over (.withInteger p n)) :=
        (ignores.steps after s past).1
      rw [parsed, run_holding free ((fillPlace_toString numeric n s.draft).1 inside)]
      show (after.foldlM State.step (s.over (.withInteger p n)) >>= State.finish) = _
      rw [goesOn]
      cases after.foldlM State.step s <;> rfl
    rw [read inside, read other]
    have goesOn := ((ignores (n := n)).steps after s past).2
    cases run : after.foldlM State.step s with
    | error stop => rfl
    | ok s' => exact finish_over (goesOn s' run) m

theorem parse_of_not_holds {n : Int} (outside : ¬p.Holds n) (after : List String) :
    ∃ cause, parse (before ++ toString n :: after) = .error (.fault cause) := by
  rcases exists_state_behind expects with ⟨cause, refused⟩ | ⟨s, free, -, parsed⟩
  · exact ⟨cause, refused n after⟩
  · obtain ⟨cause, unfit⟩ := (fillPlace_toString numeric n s.draft).2 outside
    rw [parsed]
    exact run_holding_unfit free unfit after

end

end CheckIn.CommandLine
