import CheckIn.Proofs.Cbor.Strings
import CheckIn.Proofs.Decimal.Widening

/-! Decoding against the format. What follows a head is read as the format has it, level by level.
So decoding succeeds on exactly the bytes that begin with an item, and gives what it denotes. -/
namespace CheckIn.Cbor

open Text.Utf8 (encode)

/-- How the format relates values to bytes. -/
abbrev Denotation := Value → List UInt8 → Prop

section

variable {levels : Nat} {bs : List UInt8}

theorem items_iff_run {vs : List Value} :
    Items AnyHead levels vs bs ↔ Run (Item AnyHead levels) vs bs := by
  constructor
  · intro items
    induction vs generalizing bs with
    | nil =>
      cases items
      exact .nil
    | cons v vs ih =>
      cases items with
      | cons first rest => exact .cons first (ih rest)
  · intro run
    induction run with
    | nil => exact .nil
    | cons first _ ih => exact .cons first ih

theorem entries_iff_run {es : List (Value × Value)} :
    Entries AnyHead levels es bs ↔ Run (EntryOf (Item AnyHead levels)) es bs := by
  constructor
  · intro entries
    induction es generalizing bs with
    | nil =>
      cases entries
      exact .nil
    | cons e es ih =>
      cases entries with
      | cons key value rest => exact .cons ⟨_, _, rfl, key, value⟩ (ih rest)
  · intro run
    induction run with
    | nil => exact .nil
    | cons first _ ih =>
      obtain ⟨ks, vs, rfl, key, value⟩ := first
      exact .cons key value ih

end

theorem simple_eq_ok_iff {n : Nat} {v : Value} : simple n = .ok v ↔ Simple n v := by
  constructor
  · intro ok
    unfold simple at ok
    split at ok <;> cases ok
    · exact .no
    · exact .yes
    · exact .null
    · exact .undefined
  · intro known
    cases known <;> rfl

theorem widened_eq_iff {f : Decimal.Format} (bits : f.hidden ≤ 2 ^ 52) (low : -1000 ≤ f.leastScale)
    (high : f.leastScale + Nat.pow 2 f.exponentBits ≤ 900) {word : Nat} {v : Value} :
    v = widened f word ↔ ∃ w, v = .float w ∧ Decimal.Widened f word w := by
  have same := Decimal.widened_widen bits low high word
  constructor
  · rintro rfl
    exact ⟨_, rfl, same⟩
  · rintro ⟨w, rfl, wide⟩
    rw [widened, Decimal.widened_unique wide same]

theorem minimal_iff {data minimal : List UInt8} :
    Minimal data minimal ↔ minimal = data.dropWhile (· == 0) := by
  constructor
  · rintro ⟨⟨zeros, rfl⟩, first⟩
    induction zeros with
    | zero =>
      cases minimal with
      | nil => rfl
      | cons b bs =>
        have nonzero : b ≠ 0 := by simpa using first
        simp [nonzero]
    | succ zeros ih => simpa [List.replicate_succ] using ih
  · rintro rfl
    refine ⟨?_, ?_⟩
    · induction data with
      | nil => exact ⟨0, rfl⟩
      | cons b bs ih =>
        by_cases zero : b = 0
        · obtain ⟨zeros, split⟩ := ih
          refine ⟨zeros + 1, ?_⟩
          simpa [zero, List.replicate_succ] using split
        · exact ⟨0, by simp [zero]⟩
    · intro first
      have := List.head?_dropWhile_not (· == (0 : UInt8)) data
      simp [first] at this

theorem bigNumber_sound {number : Nat} (tag : IsBigNumberTag number) {data : List UInt8} {v : Value}
    (ok : bigNumber (number == 3) data = .ok v) : BigNumber number data v := by
  unfold bigNumber at ok
  rw [bigEndian_eq_spelled] at ok
  rcases tag with rfl | rfl
  · simp only [Nat.reduceBEq, Bool.false_eq_true, if_false] at ok
    split at ok <;> cases ok
    · next small => exact .positive small
    · next large => exact .largePositive (Nat.le_of_not_lt large) (minimal_iff.mpr rfl)
  · simp only [Nat.reduceBEq, if_true] at ok
    split at ok
    · cases ok
    · next bounded =>
      split at ok <;> cases ok
      · next small => exact .negative small
      · next large =>
        exact .largeNegative (Nat.le_of_not_lt large) (Nat.lt_of_not_le bounded)
          (minimal_iff.mpr rfl)

theorem bigNumber_complete {number : Nat} {data : List UInt8} {v : Value}
    (denoted : BigNumber number data v) : bigNumber (number == 3) data = .ok v := by
  have order : integerLimit < bigNumberLimit := by decide
  unfold bigNumber
  rw [bigEndian_eq_spelled]
  cases denoted with
  | positive small =>
    have small : spelled data < integerLimit := small
    simp [small]
  | negative small =>
    have small : spelled data < integerLimit := small
    simp [small, Nat.not_le.mpr (Nat.lt_trans small order)]
  | largePositive large least =>
    have large : integerLimit ≤ spelled data := large
    simp [Nat.not_lt.mpr large, minimal_iff.mp least]
  | largeNegative large bounded least =>
    have large : integerLimit ≤ spelled data := large
    have bounded : spelled data < bigNumberLimit := bounded
    simp [Nat.not_lt.mpr large, Nat.not_le.mpr bounded, minimal_iff.mp least]

/-- A tag makes a number of small bytes, and wraps anything else. -/
def Tagged (inside : Option Denotation) (number : Nat) (v : Value) (bs : List UInt8) : Prop :=
  (IsBigNumberTag number ∧ ∃ data, SmallBytes AnyHead data bs ∧ BigNumber number data v) ∨
    ¬ (IsBigNumberTag number ∧ ∃ data, SmallBytes AnyHead data bs) ∧
      ∃ P, inside = some P ∧ ∃ w, v = .tag number w ∧ P w bs

/-- The bytes that follow a head in the format; `inside` says what denotes items inside, if a level
is left for them. -/
def Following (inside : Option Denotation) : Head → Denotation
  | .unsigned n, v, bs => v = .integer n ∧ bs = []
  | .negative n, v, bs => v = .integer (-1 - n) ∧ bs = []
  | .float16 word, v, bs => (∃ w, v = .float w ∧ Decimal.Widened Decimal.binary16 word w) ∧ bs = []
  | .float32 word, v, bs => (∃ w, v = .float w ∧ Decimal.Widened Decimal.binary32 word w) ∧ bs = []
  | .float64 word, v, bs => v = .float (UInt64.ofNat word) ∧ bs = []
  | .simple n, v, bs => Simple n v ∧ bs = []
  | .stop, _, _ => False
  | .bytes (some n), v, bs => ∃ data, v = .bytes data ∧ data = bs ∧ bs.length = n
  | .bytes none, v, bs => ∃ data, v = .bytes data ∧ ∃ u, bs = u ++ [stop] ∧
      Segments AnyHead 2 Eq data u
  | .text (some n), v, bs => ∃ cs, v = .text (String.ofList cs) ∧ TextOf n cs bs
  | .text none, v, bs => ∃ cs, v = .text (String.ofList cs) ∧ ∃ u, bs = u ++ [stop] ∧
      Segments AnyHead 3 (fun cs data => data = encode cs) cs u
  | .array length, v, bs => ∃ P, inside = some P ∧
      ∃ items, v = .array items ∧ Many P length items bs
  | .map length, v, bs => ∃ P, inside = some P ∧
      ∃ es, v = .map es ∧ Many (EntryOf P) length es bs
  | .tag number, v, bs => Tagged inside number v bs

/-- A head and what follows it. -/
def Headed (inside : Option Denotation) : Denotation := fun v bs =>
  ∃ h u t, bs = u ++ t ∧ h.Spelled u ∧ Following inside h v t

inductive Nesting : Option (Reader Value) → Option Denotation → Prop where
  | none : Nesting none none
  | some {read : Reader Value} : Reads read (Headed inside) → Reader.Begins read →
      Nesting (some read) (some (Headed inside))

section

variable {inner : Option (Reader Value)} {inside : Option Denotation}

theorem reads_nested (levels : Nesting inner inside) {f : Reader Value → Reader Value}
    {Q : Denotation → Denotation}
    (reads : ∀ {read P}, Reads read P → Reader.Begins read → Reads (f read) (Q P)) :
    Reads (nested inner f) fun v bs => ∃ P, inside = some P ∧ Q P v bs := by
  cases levels with
  | none => exact (Reads.fail _).congr fun v bs => ⟨nofun, nofun⟩
  | some read begins =>
    refine (reads read begins).congr fun v bs => ⟨fun held => ⟨_, rfl, held⟩, ?_⟩
    rintro ⟨P, same, held⟩
    cases same
    exact held

theorem bigNumberContent_sound {number : Nat} {c c' : Cursor} {data : List UInt8}
    (ok : bigNumberContent number c = .ok (some (data, c'))) :
    IsBigNumberTag number ∧ ∃ bs, c.Moves bs c' ∧ SmallBytes AnyHead data bs := by
  obtain ⟨⟨h, next⟩, read, ok⟩ := bind_eq_ok_iff.mp ok
  split at ok
  · next length later same =>
    cases same
    split at ok
    · next taken =>
      obtain ⟨r, read', same⟩ := bind_eq_ok_iff.mp ok
      cases same
      obtain ⟨u, moved, head⟩ := reads_head.sound read
      obtain ⟨_, moved', rfl, rfl⟩ := (Reads.take length).sound read'
      exact ⟨taken.1, _, moved.trans moved', taken.2, u, head, rfl⟩
    · cases ok
  · cases ok

theorem bigNumberContent_complete {number : Nat} (tag : IsBigNumberTag number) {c c' : Cursor}
    {data bs : List UInt8} (small : SmallBytes AnyHead data bs) (moved : c.Moves bs c') :
    bigNumberContent number c = .ok (some (data, c')) := by
  obtain ⟨short, head, spelling, rfl⟩ := small
  obtain ⟨next, moved₁, moved₂⟩ := moved.split
  have read := reads_head.complete (a := .bytes (some data.length)) spelling moved₁
  have taken := (Reads.take data.length).complete ⟨rfl, rfl⟩ moved₂
  refine bind_eq_ok_iff.mpr ⟨_, read, ?_⟩
  dsimp only
  rw [if_pos ⟨tag, short⟩]
  exact bind_eq_ok_iff.mpr ⟨_, taken, rfl⟩

theorem bigNumberContent_none {number : Nat} {c c' : Cursor} {v : Value} {bs : List UInt8}
    (headed : Headed inside v bs)
    (other : ¬ (IsBigNumberTag number ∧ ∃ data, SmallBytes AnyHead data bs))
    (moved : c.Moves bs c') : bigNumberContent number c = .ok none := by
  obtain ⟨h, u, t, rfl, spelling, following⟩ := headed
  obtain ⟨next, moved₁, moved₂⟩ := moved.split
  refine bind_eq_ok_iff.mpr ⟨_, reads_head.complete spelling moved₁, ?_⟩
  split
  · next length later same =>
    cases same
    obtain ⟨data, -, rfl, rfl⟩ := following
    exact if_neg fun taken => other ⟨taken.1, data, taken.2, u, spelling, rfl⟩
  · rfl

theorem reads_wrapped (levels : Nesting inner inside) (number : Nat) :
    Reads (nested inner fun read c => (read c).map fun (v, c) => (.tag number v, c))
      fun v bs => ∃ P, inside = some P ∧ ∃ w, v = .tag number w ∧ P w bs :=
  reads_nested levels fun read _ => read.map (Value.tag number)

theorem reads_tag (levels : Nesting inner inside) (number : Nat) :
    Reads (afterHead inner (.tag number)) (Tagged inside number) where
  sound {c c' v} ok := by
    obtain ⟨found, look, ok⟩ := bind_eq_ok_iff.mp ok
    cases found with
    | some r =>
      obtain ⟨tag, bs, moved, small⟩ := bigNumberContent_sound look
      obtain ⟨w, made, same⟩ := map_eq_ok_iff.mp ok
      cases same
      exact ⟨bs, moved, .inl ⟨tag, _, small, bigNumber_sound tag made⟩⟩
    | none =>
      obtain ⟨bs, moved, wrapped⟩ := (reads_wrapped levels number).sound ok
      refine ⟨bs, moved, .inr ⟨?_, wrapped⟩⟩
      rintro ⟨tag, data, small⟩
      rw [bigNumberContent_complete tag small moved] at look
      cases look
  complete {c c' v bs} tagged moved := by
    rcases tagged with ⟨tag, data, small, denoted⟩ | ⟨other, P, rfl, w, rfl, held⟩
    · have look := bigNumberContent_complete tag small moved
      have made := bigNumber_complete denoted
      exact bind_eq_ok_iff.mpr ⟨_, look, map_eq_ok_iff.mpr ⟨_, made, rfl⟩⟩
    · have wrapped := (reads_wrapped levels number).complete ⟨P, rfl, w, rfl, held⟩ moved
      -- Only an item has a head to look at, so the look-ahead needs to know what is inside.
      cases levels with
      | some read _ =>
        have look := bigNumberContent_none held other moved
        exact bind_eq_ok_iff.mpr ⟨_, look, wrapped⟩

theorem reads_simple (n : Nat) :
    Reads (fun c => (simple n).map (·, c)) fun v bs => Simple n v ∧ bs = [] where
  sound ok := by
    obtain ⟨v, known, same⟩ := map_eq_ok_iff.mp ok
    cases same
    exact ⟨[], Cursor.Moves.nil_iff.mpr rfl, simple_eq_ok_iff.mp known, rfl⟩
  complete := by
    rintro c c' v _ ⟨known, rfl⟩ moved
    rw [Cursor.Moves.nil_iff.mp moved, simple_eq_ok_iff.mpr known]
    rfl

/-- What follows a head is read as the format has it. -/
theorem reads_afterHead (levels : Nesting inner inside) (h : Head) :
    Reads (afterHead inner h) (Following inside h) := by
  match h with
  | .unsigned n => exact Reads.pure _
  | .negative n => exact Reads.pure _
  | .float16 word =>
    refine (Reads.pure _).congr fun v bs => and_congr ?_ Iff.rfl
    exact widened_eq_iff (by decide) (by decide) (by decide)
  | .float32 word =>
    refine (Reads.pure _).congr fun v bs => and_congr ?_ Iff.rfl
    exact widened_eq_iff (by decide) (by decide) (by decide)
  | .float64 word => exact Reads.pure _
  | .simple n => exact reads_simple n
  | .stop => exact (Reads.fail _).congr fun v bs => ⟨nofun, nofun⟩
  | .bytes (some n) => exact (Reads.take n).map Value.bytes
  | .bytes none => exact Reads.openBytes.map Value.bytes
  | .text (some n) =>
    have contents := Reads.placed (fun start => Reads.definiteText start n) fun c =>
      c.offset - headLength n
    exact contents.map fun cs => Value.text (String.ofList cs)
  | .text none => exact Reads.openText.map fun cs => Value.text (String.ofList cs)
  | .array length =>
    exact reads_nested levels fun read begins => (read.many begins length).map Value.array
  | .map length =>
    exact reads_nested levels fun read begins =>
      (read.entry.many (entry_begins begins) length).map Value.map
  | .tag number => exact reads_tag levels number

theorem reads_itemWith (levels : Nesting inner inside) : Reads (itemWith inner) (Headed inside) :=
  reads_head.bind (reads_afterHead levels)

theorem itemWith_begins (inner : Option (Reader Value)) : Reader.Begins (itemWith inner) := by
  intro c r ok
  obtain ⟨⟨h, next⟩, read, following⟩ := bind_eq_ok_iff.mp ok
  cases first : c.rest with
  | nil => simp [Head.read, first] at read
  | cons b bs =>
    refine ⟨b, bs, rfl, ?_⟩
    rintro rfl
    -- The byte that closes a sequence is the head of no item.
    have stopped : Head.read c = .ok (.stop, ⟨bs, c.offset + 1⟩) :=
      reads_head.complete (a := .stop) rfl ⟨first, rfl⟩
    rw [stopped] at read
    cases read
    cases following

end

/-- What denotes the items inside of an item on some levels. -/
def insideOf : Nat → Option Denotation
  | 0 => none
  | levels + 1 => some (Item AnyHead levels)

theorem headed_of_item {levels : Nat} {v : Value} {bs : List UInt8}
    (item : Item AnyHead levels v bs) : Headed (insideOf levels) v bs := by
  cases item with
  | unsigned head => exact ⟨.unsigned _, _, [], (List.append_nil _).symm, head, rfl, rfl⟩
  | negative head => exact ⟨.negative _, _, [], (List.append_nil _).symm, head, rfl, rfl⟩
  | bytes head => exact ⟨.bytes (some _), _, _, rfl, head, _, rfl, rfl, rfl⟩
  | openBytes segments =>
    exact ⟨.bytes none, [opening 2], _, rfl, rfl, _, rfl, _, rfl, segments⟩
  | text head =>
    refine ⟨.text (some _), _, _, rfl, head, _, ?_, rfl, rfl⟩
    rw [String.ofList_toList]
  | openText segments =>
    refine ⟨.text none, [opening 3], _, rfl, rfl, _, ?_, _, rfl, segments⟩
    rw [String.ofList_toList]
  | array head items =>
    exact ⟨.array (some _), _, _, rfl, head, _, rfl, _, rfl, rfl, items_iff_run.mp items⟩
  | openArray items =>
    exact ⟨.array none, [opening 4], _, rfl, rfl, _, rfl, _, rfl, _, rfl, items_iff_run.mp items⟩
  | map head entries =>
    exact ⟨.map (some _), _, _, rfl, head, _, rfl, _, rfl, rfl, entries_iff_run.mp entries⟩
  | openMap entries =>
    exact ⟨.map none, [opening 5], _, rfl, rfl, _, rfl, _, rfl, _, rfl, entries_iff_run.mp entries⟩
  | simple head short known =>
    exact ⟨.simple _, _, [], (List.append_nil _).symm, ⟨head, short⟩, known, rfl⟩
  | half length wide =>
    exact ⟨.float16 _, _, [], (List.append_nil _).symm, ⟨_, rfl, length, rfl⟩, ⟨_, rfl, wide⟩, rfl⟩
  | single length wide =>
    exact ⟨.float32 _, _, [], (List.append_nil _).symm, ⟨_, rfl, length, rfl⟩, ⟨_, rfl, wide⟩, rfl⟩
  | double length same =>
    refine ⟨.float64 _, _, [], (List.append_nil _).symm, ⟨_, rfl, length, rfl⟩, ?_, rfl⟩
    rw [← same, UInt64.ofNat_toNat]
  | bigNumber tag head small denoted =>
    exact ⟨.tag _, _, _, rfl, head, .inl ⟨tag, _, small, denoted⟩⟩
  | tag head inside other =>
    exact ⟨.tag _, _, _, rfl, head, .inr ⟨other, _, rfl, _, rfl, inside⟩⟩

theorem insideOf_eq_some {levels : Nat} {P : Denotation} (h : insideOf levels = some P) :
    ∃ level, levels = level + 1 ∧ P = Item AnyHead level := by
  cases levels with
  | zero => cases h
  | succ level =>
    cases h
    exact ⟨level, rfl, rfl⟩

theorem item_of_headed {levels : Nat} {v : Value} {bs : List UInt8}
    (headed : Headed (insideOf levels) v bs) : Item AnyHead levels v bs := by
  obtain ⟨h, u, t, rfl, spelling, following⟩ := headed
  match h with
  | .unsigned n =>
    obtain ⟨rfl, rfl⟩ := following
    rw [List.append_nil]
    exact .unsigned spelling
  | .negative n =>
    obtain ⟨rfl, rfl⟩ := following
    rw [List.append_nil]
    exact .negative spelling
  | .bytes (some n) =>
    obtain ⟨_, rfl, rfl, rfl⟩ := following
    exact .bytes spelling
  | .bytes none =>
    obtain rfl := spelling
    obtain ⟨_, rfl, _, rfl, segments⟩ := following
    exact .openBytes segments
  | .text (some n) =>
    obtain ⟨cs, rfl, rfl, rfl⟩ := following
    have content : Text.Utf8.ofString (String.ofList cs) = encode cs := by
      rw [Text.Utf8.ofString, String.toList_ofList]
    rw [← content] at spelling ⊢
    exact .text spelling
  | .text none =>
    obtain rfl := spelling
    obtain ⟨cs, rfl, _, rfl, segments⟩ := following
    rw [← @String.toList_ofList cs] at segments
    exact .openText segments
  | .array (some n) =>
    obtain ⟨P, inside, items, rfl, rfl, run⟩ := following
    obtain ⟨level, rfl, rfl⟩ := insideOf_eq_some inside
    exact .array spelling (items_iff_run.mpr run)
  | .array none =>
    obtain rfl := spelling
    obtain ⟨P, inside, items, rfl, _, rfl, run⟩ := following
    obtain ⟨level, rfl, rfl⟩ := insideOf_eq_some inside
    exact .openArray (items_iff_run.mpr run)
  | .map (some n) =>
    obtain ⟨P, inside, es, rfl, rfl, run⟩ := following
    obtain ⟨level, rfl, rfl⟩ := insideOf_eq_some inside
    exact .map spelling (entries_iff_run.mpr run)
  | .map none =>
    obtain rfl := spelling
    obtain ⟨P, inside, es, rfl, _, rfl, run⟩ := following
    obtain ⟨level, rfl, rfl⟩ := insideOf_eq_some inside
    exact .openMap (entries_iff_run.mpr run)
  | .tag number =>
    rcases following with ⟨tag, data, small, denoted⟩ | ⟨other, P, inside, w, rfl, held⟩
    · exact .bigNumber tag spelling small denoted
    · obtain ⟨level, rfl, rfl⟩ := insideOf_eq_some inside
      exact .tag spelling held other
  | .simple n =>
    obtain ⟨known, rfl⟩ := following
    rw [List.append_nil]
    exact .simple spelling.1 spelling.2 known
  | .float16 _ =>
    obtain ⟨tail, rfl, length, rfl⟩ := spelling
    obtain ⟨⟨w, rfl, wide⟩, rfl⟩ := following
    rw [List.append_nil]
    exact .half length wide
  | .float32 _ =>
    obtain ⟨tail, rfl, length, rfl⟩ := spelling
    obtain ⟨⟨w, rfl, wide⟩, rfl⟩ := following
    rw [List.append_nil]
    exact .single length wide
  | .float64 _ =>
    obtain ⟨tail, rfl, length, rfl⟩ := spelling
    obtain ⟨rfl, rfl⟩ := following
    have bound := spelled_lt tail
    rw [length] at bound
    rw [List.append_nil]
    exact .double length (UInt64.toNat_ofNat_of_lt' bound)
  | .stop => exact following.elim

theorem headed_eq_item (levels : Nat) : Headed (insideOf levels) = Item AnyHead levels := by
  funext v bs
  exact propext ⟨item_of_headed, headed_of_item⟩

/-- What reads the items inside of an item on some levels. -/
def innerOf : Nat → Option (Reader Value)
  | 0 => none
  | levels + 1 => some (item levels)

theorem item_eq (levels : Nat) : item levels = itemWith (innerOf levels) := by
  cases levels <;> rfl

/-- Each level is read as the format has it because the level below is. -/
theorem nesting_insideOf (levels : Nat) : Nesting (innerOf levels) (insideOf levels) := by
  induction levels with
  | zero => exact .none
  | succ levels below =>
    rw [innerOf, insideOf, item_eq, ← headed_eq_item]
    exact .some (reads_itemWith below) (itemWith_begins _)

theorem reads_item (levels : Nat) : Reads (item levels) (Item AnyHead levels) := by
  rw [item_eq, ← headed_eq_item]
  exact reads_itemWith (nesting_insideOf levels)

theorem decode_of_item {v : Value} {bs : List UInt8} (item : Item AnyHead nestingLimit v bs)
    (rest : List UInt8) : decode (bs ++ rest) = .ok v :=
  map_eq_ok_iff.mpr ⟨_, (reads_item nestingLimit).complete item (.append rest 0), rfl⟩

/-- Decoding gives a value exactly if the bytes begin with an item that denotes it. -/
theorem decode_eq_ok_iff {bs : List UInt8} {v : Value} :
    decode bs = .ok v ↔ ∃ front rest, bs = front ++ rest ∧ Item AnyHead 256 v front := by
  constructor
  · intro ok
    obtain ⟨⟨w, c⟩, read, same⟩ := map_eq_ok_iff.mp ok
    cases same
    obtain ⟨front, moved, denoted⟩ := (reads_item nestingLimit).sound read
    exact ⟨front, c.rest, moved.rest, denoted⟩
  · rintro ⟨front, rest, rfl, item⟩
    exact decode_of_item item rest

/-- A text in two segments, the second an open string of its own, with one byte left behind. -/
example : decode [0x7f, 0x78, 0x01, 0x61, 0x7f, 0x61, 0x62, 0xff, 0xff, 0x00] =
    .ok (.text "ab") := by
  rfl

end CheckIn.Cbor
