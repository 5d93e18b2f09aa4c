import CheckIn.Proofs.CommandLine.Pieces

/-! Options stand anywhere on a command line. What a line of pieces asks for depends on the values
for its places, in their order, on the value of each named argument and on how often the verbosity
is raised, and not on how these are interleaved. -/
namespace CheckIn.CommandLine

open Text (Raw)
open Text.Numeral (Spells)

def Piece.positional? : Piece → Option String
  | positional w => some w.text
  | _ => none

def Piece.value? (n : Named) : Piece → Option String
  | named n' w _ => if n' = n then some w.text else none
  | _ => none

def positionals (pieces : List Piece) : List String := pieces.filterMap Piece.positional?

def values (n : Named) (pieces : List Piece) : List String := pieces.filterMap (Piece.value? n)

def raises : List Piece → Nat
  | [] => 0
  | piece :: pieces => piece.raises + raises pieces

@[simp] theorem positionals_append (before after : List Piece) :
    positionals (before ++ after) = positionals before ++ positionals after :=
  List.filterMap_append

@[simp] theorem values_append (n : Named) (before after : List Piece) :
    values n (before ++ after) = values n before ++ values n after :=
  List.filterMap_append

@[simp] theorem raises_append (before after : List Piece) :
    raises (before ++ after) = raises before + raises after := by
  induction before with
  | nil => exact (Nat.zero_add _).symm
  | cons piece before ih => rw [List.cons_append, raises, raises, ih, Nat.add_assoc]

/-- Whether a text tells what an invocation holds at a place. -/
def Place.Tells (i : Invocation) (text : String) : Place → Prop
  | .host => text = i.host
  | .port => Spells text.toList i.port.toNat
  | .deviceId => ∃ n, i.deviceId = some n ∧ Spells text.toList n.toInt
  | .currentFirmware => ∃ n, i.currentFirmware = some n ∧ Spells text.toList n.toInt

/-- Whether an invocation holds nothing at a place. -/
def Place.Lacks (i : Invocation) : Place → Prop
  | .host | .port => False
  | .deviceId => i.deviceId = none
  | .currentFirmware => i.currentFirmware = none

/-- Texts that tell one by one what an invocation holds at some places, and leave out only what it
does not hold. -/
inductive Placed (i : Invocation) : List Place → List String → Prop where
  | rest {places : List Place} : (∀ p ∈ places, p.Lacks i) → Placed i places []
  | next {p : Place} {text : String} {places : List Place} {texts : List String} :
      p.Tells i text → Placed i places texts → Placed i (p :: places) (text :: texts)

/-- At most one text, which tells what is held. -/
inductive Once {α : Type} (tells : String → α → Prop) : List String → Option α → Prop where
  | absent : Once tells [] none
  | given {text : String} {a : α} : tells text a → Once tells [text] (some a)

/-- Whether a text tells a number of seconds, which takes no minus sign. -/
def TellsSeconds (text : String) (n : UInt64) : Prop :=
  Spells text.toList n.toNat ∧ text.toList.head? ≠ some '-'

/-- Whether texts tell what an invocation holds for a named argument. -/
def Named.Given (i : Invocation) (texts : List String) : Named → Prop
  | .timeout => Once TellsSeconds texts i.timeoutSeconds
  | .config => Once (fun text path => Raw.text text = path) texts i.configPath

def order : List Place := [.host, .port, .deviceId, .currentFirmware]

/-- An invocation that some pieces spell out, however they are interleaved. -/
structure Asks (pieces : List Piece) (i : Invocation) : Prop where
  placed : Placed i order (positionals pieces)
  given (n : Named) : n.Given i (values n pieces)
  verbosity : i.verbosity = min 255 (raises pieces)

section

variable {i : Invocation} {places : List Place} {texts before after : List String} {text : String}

theorem Placed.tells (placed : Placed i places (before ++ text :: after)) :
    ∃ p, places.drop before.length = p :: places.drop (before.length + 1) ∧ p.Tells i text := by
  induction before generalizing places with
  | nil =>
    cases placed with
    | next tells rest => exact ⟨_, rfl, tells⟩
  | cons first before ih =>
    cases placed with
    | next tells rest => exact ih rest

theorem Placed.lacks (placed : Placed i places texts) :
    ∀ p ∈ places.drop texts.length, p.Lacks i := by
  induction placed with
  | rest lacks => exact lacks
  | next tells rest ih => exact ih

variable {α : Type} {tells : String → α → Prop} {o : Option α}

theorem Once.eq_none (once : Once tells [] o) : o = none := by
  cases once
  rfl

theorem Once.exists_of_append (once : Once tells (before ++ text :: after) o) :
    before = [] ∧ after = [] ∧ ∃ a, o = some a ∧ tells text a := by
  generalize shape : before ++ text :: after = texts at once
  cases once with
  | absent => simp at shape
  | given told =>
    obtain ⟨rfl, rest⟩ | ⟨_, rfl, rest⟩ := List.append_eq_cons_iff.mp shape
    · cases rest
      exact ⟨rfl, rfl, _, rfl, told⟩
    · simp at rest

end

section

variable {i : Invocation} {text : String}

def Draft.withPlace (i : Invocation) (d : Draft) : Place → Draft
  | .host => { d with host := some i.host }
  | .port => { d with port := some i.port }
  | .deviceId => { d with deviceId := i.deviceId }
  | .currentFirmware => { d with currentFirmware := i.currentFirmware }

def Draft.withNamed (i : Invocation) (d : Draft) : Named → Draft
  | .timeout => { d with timeoutSeconds := i.timeoutSeconds }
  | .config => { d with configPath := i.configPath }

theorem portOf_of_spells {port : UInt16} (spells : Spells text.toList port.toNat) :
    portOf text = .ok port := by
  have most := port.toNat_lt
  have value : (Int64.ofNat port.toNat).toInt = port.toNat :=
    Int64.toInt_ofNat_of_lt (by omega)
  have read := Text.Numeral.readInt64_of_spells (n := .ofNat port.toNat) (by rwa [value])
  rw [portOf, read]
  show (if 0 ≤ (Int64.ofNat port.toNat).toInt ∧ (Int64.ofNat port.toNat).toInt ≤ portLimit
    then _ else _) = _
  rw [value, if_pos ⟨by omega, by rw [portLimit]; omega⟩, Int.toNat_natCast, UInt16.ofNat_toNat]

theorem fillPlace_of_tells {p : Place} (tells : p.Tells i text) (d : Draft) :
    d.fillPlace text p = .ok (d.withPlace i p) := by
  cases p with
  | host =>
    cases tells
    rfl
  | port =>
    rw [Draft.fillPlace, portOf_of_spells tells]
    rfl
  | deviceId =>
    obtain ⟨n, held, spells⟩ := tells
    rw [Draft.fillPlace, Text.Numeral.readInt64_of_spells spells, Draft.withPlace, held]
    rfl
  | currentFirmware =>
    obtain ⟨n, held, spells⟩ := tells
    rw [Draft.fillPlace, Text.Numeral.readInt64_of_spells spells, Draft.withPlace, held]
    rfl

theorem Named.Given.eq_nil {n : Named} {before after : List String}
    (given : n.Given i (before ++ text :: after)) : before = [] := by
  cases n <;> exact (Once.exists_of_append given).1

theorem fillNamed_of_given {n : Named} {before after : List String}
    (given : n.Given i (before ++ text :: after)) (nonempty : text.isEmpty = false) {d : Draft}
    (unset : d.isSet n = false) : d.fillNamed (some text) n = .ok (d.withNamed i n) := by
  cases n with
  | timeout =>
    obtain ⟨-, -, n, held, spells, unsigned⟩ := given.exists_of_append
    have read : (textOf Named.timeout.label text >>= fun value =>
        checked value Named.timeout.label (Text.Numeral.readUInt64 value)) = .ok n := by
      show checked text _ (Text.Numeral.readUInt64 text) = _
      rw [Text.Numeral.readUInt64_of_spells spells unsigned]
      rfl
    simp only [Draft.fillNamed, unset, Bool.false_eq_true, if_false, Draft.withNamed, held]
    rw [← bind_assoc, read]
    rfl
  | config =>
    obtain ⟨-, -, path, held, rfl⟩ := given.exists_of_append
    have full : Raw.text text ≠ .text "" := by
      intro same
      cases same
      cases nonempty
    simp only [Draft.fillNamed, unset, full, Bool.false_eq_true, if_false, Draft.withNamed, held]

end

section

variable (i : Invocation)

/-- What a draft holds of an invocation once so many places are filled, some named arguments have
got their values and the verbosity has been raised so often. -/
def draftOf (filled : Nat) (given : Named → Bool) (raised : Nat) : Draft where
  host := if 0 < filled then some i.host else none
  port := if 1 < filled then some i.port else none
  deviceId := if 2 < filled then i.deviceId else none
  currentFirmware := if 3 < filled then i.currentFirmware else none
  timeoutSeconds := if given .timeout then i.timeoutSeconds else none
  configPath := if given .config then i.configPath else none
  verbosity := min verbosityLimit raised

/-- Where a parser is that checks at once, after some of the pieces that spell an invocation. -/
def stateAfter (before : List Piece) : State where
  draft := draftOf i (positionals before).length (fun n => !(values n before).isEmpty)
    (raises before)
  held := none
  places := order.drop (positionals before).length
  valuesOnly := false

end

section

variable {i : Invocation}

theorem withPlace_draftOf {p : Place} {filled : Nat} (next : order.drop filled =
    p :: order.drop (filled + 1)) (given : Named → Bool) (raised : Nat) :
    (draftOf i filled given raised).withPlace i p = draftOf i (filled + 1) given raised := by
  match filled with
  | 0 | 1 | 2 | 3 =>
    cases next
    rfl
  | k + 4 => simp [order] at next

theorem withNamed_draftOf {n : Named} {given : Named → Bool} (filled raised : Nat) :
    (draftOf i filled given raised).withNamed i n =
      draftOf i filled (fun n' => given n' || n' == n) raised := by
  cases n <;> simp [draftOf, Draft.withNamed]

theorem stateAfter_append (before : List Piece) (piece : Piece) :
    stateAfter i (before ++ [piece]) = {
      draft := draftOf i ((positionals before).length + piece.positional?.toList.length)
        (fun n => !(values n before).isEmpty || (piece.value? n).isSome)
        (raises before + piece.raises)
      held := none
      places := order.drop ((positionals before).length + piece.positional?.toList.length)
      valuesOnly := false } := by
  have one : positionals [piece] = piece.positional?.toList := by
    cases piece <;> rfl
  have given (n : Named) : (!(values n (before ++ [piece])).isEmpty) =
      (!(values n before).isEmpty || (piece.value? n).isSome) := by
    have one : values n [piece] = (piece.value? n).toList := by
      rw [values, List.filterMap_cons]
      cases piece.value? n <;> rfl
    rw [values_append, one]
    cases piece.value? n <;> simp
  simp only [stateAfter, given, positionals_append, one, raises_append, List.length_append]
  rfl

theorem read_stateAfter {before after : List Piece} {piece : Piece}
    (asks : Asks (before ++ piece :: after) i) :
    piece.read (stateAfter i before) = .ok (stateAfter i (before ++ [piece])) := by
  have others : before ++ piece :: after = before ++ ([piece] ++ after) := rfl
  rw [stateAfter_append]
  cases piece with
  | positional w =>
    have placed := asks.placed
    rw [others, positionals_append] at placed
    obtain ⟨p, next, tells⟩ := Placed.tells placed
    simp only [Piece.read, stateAfter, next, fillPlace_of_tells tells]
    show Except.ok _ = Except.ok _
    rw [withPlace_draftOf next]
    simp only [Piece.value?, Option.isSome_none, Bool.or_false]
    rfl
  | named n w joined =>
    have given := asks.given n
    have single : values n [.named n w joined] = [w.text] := by simp [values, Piece.value?]
    rw [others, values_append, values_append, single] at given
    have unset : (stateAfter i before).draft.isSet n = false := by
      have first := given.eq_nil
      cases n <;> simp [stateAfter, Draft.isSet, draftOf, first]
    have now (n' : Named) : (Piece.value? n' (.named n w joined)).isSome = (n' == n) := by
      cases n <;> cases n' <;> rfl
    simp only [Piece.read, fillNamed_of_given given w.nonempty unset, now]
    show Except.ok _ = Except.ok _
    rw [stateAfter, withNamed_draftOf]
    rfl
  | verbose | cluster more =>
    simp only [Piece.read, Piece.value?, Option.isSome_none, Bool.or_false, State.raised,
      stateAfter, draftOf, min_verbosityLimit_add]
    rfl

/-- By induction on the pieces that are left, what has been read being as `stateAfter` has it. -/
theorem read_all {before after : List Piece} (asks : Asks (before ++ after) i) :
    after.foldlM Piece.read (stateAfter i before) = .ok (stateAfter i (before ++ after)) := by
  induction after generalizing before with
  | nil =>
    rw [List.append_nil]
    rfl
  | cons piece after ih =>
    have rest : before ++ piece :: after = before ++ [piece] ++ after := by simp
    rw [List.foldlM_cons, read_stateAfter asks, rest]
    exact ih (rest ▸ asks)

theorem draftOf_complete {filled : Nat} (lacks : ∀ p ∈ order.drop filled, p.Lacks i)
    {given : Named → Bool} (unset : ∀ n, given n = false → n.Given i []) (raised : Nat) :
    draftOf i filled given raised = ⟨some i.host, some i.port, i.deviceId, i.currentFirmware,
      i.timeoutSeconds, i.configPath, min verbosityLimit raised⟩ := by
  have named {α : Type} {tells : String → α → Prop} {o : Option α} {b : Bool}
      (unset : b = false → Once tells [] o) : (if b then o else none) = o := by
    cases b
    · exact (unset rfl).eq_none.symm
    · rfl
  have timeout : (if given .timeout then i.timeoutSeconds else none) = i.timeoutSeconds :=
    named (unset .timeout)
  have config : (if given .config then i.configPath else none) = i.configPath :=
    named (unset .config)
  rw [draftOf, timeout, config]
  match filled with
  | 0 => exact (lacks .host (.head _)).elim
  | 1 => exact (lacks .port (.head _)).elim
  | 2 =>
    have device : i.deviceId = none := lacks .deviceId (.head _)
    have firmware : i.currentFirmware = none := lacks .currentFirmware (.tail _ (.head _))
    rw [device, firmware]
    rfl
  | 3 =>
    have firmware : i.currentFirmware = none := lacks .currentFirmware (.head _)
    rw [firmware]
    rfl
  | k + 4 => simp

theorem finish_stateAfter {pieces : List Piece} (asks : Asks pieces i) :
    (stateAfter i pieces).finish = .ok i := by
  have unset (n : Named) (none : (!(values n pieces).isEmpty) = false) : n.Given i [] := by
    have empty : values n pieces = [] := by simpa using none
    exact empty ▸ asks.given n
  rw [State.finish, settle_of_nothing_held rfl, stateAfter,
    draftOf_complete asks.placed.lacks unset, verbosityLimit, ← asks.verbosity]
  rfl

end

theorem port_of_fillPlace {d d' : Draft} {value : String} {p : Place}
    (filled : d.fillPlace value p = .ok d') (other : .port ≠ p) : d'.port = d.port := by
  cases p with
  | host =>
    cases filled
    rfl
  | port => exact absurd rfl other
  | deviceId =>
    obtain ⟨n, -, same⟩ := bind_eq_ok_iff.mp filled
    cases same
    rfl
  | currentFirmware =>
    obtain ⟨n, -, same⟩ := bind_eq_ok_iff.mp filled
    cases same
    rfl

theorem port_of_fillNamed {d d' : Draft} {value : Option Raw} {n : Named}
    (filled : d.fillNamed value n = .ok d') : d'.port = d.port := by
  cases value with
  | none => cases filled
  | some value =>
    simp only [Draft.fillNamed] at filled
    split at filled
    · cases filled
    · cases n with
      | timeout =>
        obtain ⟨value, -, rest⟩ := bind_eq_ok_iff.mp filled
        obtain ⟨n, -, same⟩ := bind_eq_ok_iff.mp rest
        cases same
        rfl
      | config =>
        dsimp only at filled
        split at filled
        · cases filled
        · cases filled
          rfl

/-- What reading a piece does to the places: it takes as many as the piece has values for, and the
port is read with its place. -/
structure Takes (s s' : State) (count : Nat) (taken : List Place) : Prop where
  places : s.places = taken ++ s'.places
  length : taken.length = count
  port : .port ∉ taken → s'.draft.port = s.draft.port
  held : s'.held = s.held

theorem takes_of_read {s s' : State} {piece : Piece} (read : piece.read s = .ok s') :
    ∃ taken, Takes s s' (positionals [piece]).length taken := by
  cases piece with
  | positional w =>
    rw [Piece.read] at read
    cases places : s.places with
    | nil =>
      rw [places] at read
      cases read
    | cons p others =>
      rw [places] at read
      obtain ⟨d, filled, same⟩ := bind_eq_ok_iff.mp read
      cases same
      exact ⟨[p], places, rfl, fun other => port_of_fillPlace filled (by simpa using other), rfl⟩
  | named n w joined =>
    obtain ⟨d, filled, same⟩ := bind_eq_ok_iff.mp read
    cases same
    exact ⟨[], rfl, rfl, fun _ => port_of_fillNamed filled, rfl⟩
  | verbose =>
    cases read
    exact ⟨[], rfl, rfl, fun _ => rfl, rfl⟩
  | cluster more =>
    cases read
    exact ⟨[], rfl, rfl, fun _ => rfl, rfl⟩

/-- What the pieces take adds up. -/
theorem takes_of_reads {s s' : State} {pieces : List Piece}
    (read : pieces.foldlM Piece.read s = .ok s') :
    ∃ taken, Takes s s' (positionals pieces).length taken := by
  induction pieces generalizing s with
  | nil =>
    cases read
    exact ⟨[], rfl, rfl, fun _ => rfl, rfl⟩
  | cons piece pieces ih =>
    rw [List.foldlM_cons] at read
    obtain ⟨between, first, rest⟩ := bind_eq_ok_iff.mp read
    obtain ⟨taken, t⟩ := takes_of_read first
    obtain ⟨taken', t'⟩ := ih rest
    refine ⟨taken ++ taken', ?_, ?_, ?_, t'.held.trans t.held⟩
    · rw [t.places, t'.places, List.append_assoc]
    · have split : positionals (piece :: pieces) = positionals [piece] ++ positionals pieces :=
        positionals_append [piece] pieces
      rw [split, List.length_append, List.length_append, t.length, t'.length]
    · intro other
      rw [List.mem_append, not_or] at other
      exact (t'.port other.2).trans (t.port other.1)

theorem finish_without_port {s : State} (free : s.held = none) (unset : s.draft.port = none) :
    ∃ cause, s.finish = refuse cause := by
  rw [State.finish, settle_of_nothing_held free]
  obtain ⟨⟨host, port, _, _, _, _, _⟩, _, _, _⟩ := s
  cases unset
  cases host <;> exact ⟨_, rfl⟩

theorem not_ok_of_unfit {pieces : List Piece}
    (unfit : (positionals pieces).length < 2 ∨ 4 < (positionals pieces).length) (i : Invocation) :
    (pieces.foldlM Piece.read .start >>= State.finish) ≠ .ok i := by
  intro ok
  obtain ⟨s, read, finished⟩ := bind_eq_ok_iff.mp ok
  obtain ⟨taken, places, length, port, held⟩ := takes_of_reads read
  have total : taken.length + s.places.length = 4 := by
    rw [← List.length_append, ← places]
    rfl
  have first : taken = order.take taken.length := by
    have all : order = taken ++ s.places := places
    rw [all, List.take_left]
  rcases unfit with few | many
  · have noPort : .port ∉ taken := by
      rw [first, length]
      match (positionals pieces).length, few with
      | 0, _ | 1, _ => decide
    obtain ⟨cause, refused⟩ := finish_without_port held (port noPort)
    cases refused.symm.trans finished
  · omega

/-- A command line of pieces asks for what they spell, however they are interleaved; with fewer than
two values for places or more than four it is wrong. -/
theorem parse_of_pieces (pieces : List Piece) :
    (∀ i, Asks pieces i → parse (pieces.flatMap Piece.arguments) = .ok i) ∧
    ((positionals pieces).length < 2 ∨ 4 < (positionals pieces).length →
      ∃ cause, parse (pieces.flatMap Piece.arguments) = .error (.fault cause)) := by
  have agrees : Agrees (parse (pieces.flatMap Piece.arguments))
      (pieces.foldlM Piece.read .start >>= State.finish) := by
    rw [parse_eq]
    exact run_pieces (s := .start) ⟨rfl, rfl⟩ pieces
  generalize parse (pieces.flatMap Piece.arguments) = parsed at agrees
  constructor
  · intro i asks
    have read : pieces.foldlM Piece.read (stateAfter i []) = .ok (stateAfter i ([] ++ pieces)) :=
      read_all asks
    have start : stateAfter i [] = .start := rfl
    rw [start] at read
    rw [bind_eq_ok_iff.mpr ⟨_, read, finish_stateAfter asks⟩] at agrees
    cases agrees
    rfl
  · intro unfit
    have wrong := not_ok_of_unfit unfit
    generalize pieces.foldlM Piece.read .start >>= State.finish = atOnce at agrees wrong
    cases agrees with
    | same i => exact absurd rfl (wrong i)
    | faults cause cause' => exact ⟨cause, rfl⟩

/-- Options before, between and behind the values for places, two of which are negative. -/
def scattered : List Piece :=
  [.cluster 0, .positional ⟨"localhost", rfl⟩, .named .timeout ⟨"30", rfl⟩ true,
    .positional ⟨"5683", rfl⟩, .cluster 1, .named .config ⟨"/etc/hb.json", rfl⟩ false,
    .positional ⟨"-4", rfl⟩, .verbose, .positional ⟨"-1", rfl⟩]

theorem scattered_options_read :
    parse ["-v", "localhost", "--timeout=30", "5683", "-vv", "--config", "/etc/hb.json", "-4",
      "--verbose", "-1"] =
        .ok ⟨"localhost", 5683, some (-4), some (-1), some 30, some "/etc/hb.json", 4⟩ ∧
    ∃ cause, parse ["-v", "localhost"] = .error (.fault cause) := by
  have asks : Asks scattered
      ⟨"localhost", 5683, some (-4), some (-1), some 30, some "/etc/hb.json", 4⟩ := by
    refine ⟨.next rfl (.next ?_ (.next ⟨-4, rfl, ?_⟩ (.next ⟨-1, rfl, ?_⟩ (.rest nofun)))), ?_, rfl⟩
    · exact Text.Numeral.spells_toString 5683
    · exact Text.Numeral.spells_toString (-4)
    · exact Text.Numeral.spells_toString (-1)
    · rintro (_ | _)
      · exact .given ⟨Text.Numeral.spells_toString 30, by decide⟩
      · exact .given rfl
  exact ⟨(parse_of_pieces scattered).1 _ asks,
    (parse_of_pieces [.cluster 0, .positional ⟨"localhost", rfl⟩]).2 (.inl (by decide))⟩

end CheckIn.CommandLine
