import CheckIn.Proofs.Json.Canonical
import CheckIn.Proofs.Json.Grammar
import CheckIn.Proofs.Net.Literal

/-! Blanks, numbers and strings of the grammar as the readers meet them: stretches of bytes, each of
which ends at the first byte of another kind. -/
namespace CheckIn.Json

open Text.Utf8 (encode encode_append)

theorem encode_cons_ascii {c : Char} (ascii : c.toNat < 0x80) (cs : List Char) :
    encode (c :: cs) = UInt8.ofNat c.toNat :: encode cs := by
  have single := Text.Utf8.encodeChar_one ascii
  rw [Char.ofNat_toNat] at single
  rw [encode, List.flatMap_cons, single]
  rfl

theorem exists_of_mem_encode {cs : List Char} {b : UInt8} (member : b ∈ encode cs) :
    ∃ c ∈ cs, b ∈ String.utf8EncodeChar c := List.mem_flatMap.mp member

theorem isBlank_of_mem {ws : List Char} (blanks : Blanks ws) :
    ∀ b ∈ encode ws, isBlank b = true := by
  intro b member
  obtain ⟨c, inside, byte⟩ := exists_of_mem_encode member
  rcases blanks c inside with rfl | rfl | rfl | rfl <;>
    · obtain rfl := List.mem_singleton.mp byte
      decide

theorem digit_ascii {d : Char} (digit : d.isDigit = true) :
    d.toNat < 0x80 ∧ isDigit (UInt8.ofNat d.toNat) = true := by
  rw [Char.isDigit, Bool.and_eq_true, decide_eq_true_eq, decide_eq_true_eq] at digit
  have least : 48 ≤ d.toNat := digit.1
  have most : d.toNat ≤ 57 := digit.2
  have byte : (UInt8.ofNat d.toNat).toNat = d.toNat :=
    UInt8.toNat_ofNat_of_lt' (Nat.lt_of_le_of_lt most (by decide))
  refine ⟨by omega, ?_⟩
  simp [isDigit, UInt8.le_iff_toNat_le, byte, least, most]

theorem isDigit_of_mem {ds : List Char} (digits : AllDigits ds) :
    ∀ b ∈ encode ds, isDigit b = true := by
  intro b member
  obtain ⟨d, inside, byte⟩ := exists_of_mem_encode member
  obtain ⟨below, digit⟩ := digit_ascii (digits.2 d inside)
  have single := Text.Utf8.encodeChar_one below
  rw [Char.ofNat_toNat] at single
  rw [single] at byte
  rwa [List.mem_singleton.mp byte]

theorem standsForItself_iff (b : UInt8) :
    standsForItself b = true ↔ 0x20 ≤ b.toNat ∧ b.toNat ≠ 0x22 ∧ b.toNat ≠ 0x5c := by
  simp [standsForItself, ← UInt8.toNat_inj, UInt8.lt_iff_toNat_lt, and_assoc]

theorem standsForItself_of_mem {c : Char} (itself : Unescaped c) :
    ∀ b ∈ String.utf8EncodeChar c, standsForItself b = true := by
  obtain ⟨printable, noQuote, noEscape⟩ := itself
  have high (n : Nat) (large : 0x80 ≤ n % 256) : standsForItself (UInt8.ofNat n) = true := by
    rw [standsForItself_iff, UInt8.toNat_ofNat']
    omega
  intro b member
  unfold String.utf8EncodeChar at member
  dsimp only at member
  split at member
  · next small =>
    have byte : (UInt8.ofNat c.toNat).toNat = c.toNat :=
      UInt8.toNat_ofNat_of_lt' (Nat.lt_of_le_of_lt small (by decide))
    have other {d : Char} (differs : c ≠ d) : c.toNat ≠ d.toNat :=
      fun same => differs (Char.toNat_inj.mp same)
    rw [List.mem_singleton.mp member, standsForItself_iff, Char.toNat_val, byte]
    exact ⟨printable, other noQuote, other noEscape⟩
  · split at member
    · simp only [List.mem_cons, List.not_mem_nil, or_false] at member
      rcases member with rfl | rfl <;> exact high _ (by omega)
    · split at member <;> simp only [List.mem_cons, List.not_mem_nil, or_false] at member
      · rcases member with rfl | rfl | rfl <;> exact high _ (by omega)
      · rcases member with rfl | rfl | rfl | rfl <;> exact high _ (by omega)

namespace Cursor

variable {c : Cursor} {b : UInt8} {front rest : List UInt8}

theorem rest_skipWhile (test : UInt8 → Bool) (c : Cursor) :
    (c.skipWhile test c.rest).rest = c.rest.dropWhile test := by
  generalize ahead : c.rest = bs
  induction bs generalizing c with
  | nil => simpa [skipWhile] using ahead
  | cons b bs ih =>
    rw [skipWhile, List.dropWhile_cons]
    split
    · exact ih c.next (next_rest ahead)
    · exact ahead

theorem skipWhile_of_ahead {test : UInt8 → Bool} (all : ∀ b ∈ front, test b = true)
    (stop : test b = false) (ahead : c.rest = front ++ b :: rest) :
    (c.skipWhile test c.rest).rest = b :: rest := by
  rw [rest_skipWhile, ahead, List.dropWhile_append_of_pos all, List.dropWhile_cons, stop]
  rfl

theorem skipBlanks_skipBlanks (c : Cursor) : c.skipBlanks.skipBlanks = c.skipBlanks := by
  have left : c.skipBlanks.rest = c.rest.dropWhile isBlank := rest_skipWhile isBlank c
  have stopped := List.head?_dropWhile_not isBlank c.rest
  cases ahead : c.rest.dropWhile isBlank with
  | nil =>
    rw [ahead] at left
    rw [skipBlanks, left, skipWhile]
  | cons b bs =>
    rw [ahead] at left stopped
    exact skipBlanks_of_ahead left (by simpa using stopped)

/-- The bytes ahead, but for blanks in front of them. -/
def Faces (c : Cursor) (bs : List UInt8) : Prop := c.skipBlanks.rest = bs.dropWhile isBlank

theorem faces {bs : List UInt8} (ahead : c.rest = bs) : c.Faces bs := by
  rw [Faces, skipBlanks, rest_skipWhile, ahead]

theorem Faces.skipBlanks {bs : List UInt8} (faces : c.Faces bs) : c.skipBlanks.Faces bs := by
  rw [Faces, skipBlanks_skipBlanks]
  exact faces

theorem Faces.behind {ws : List Char} (faces : c.Faces (encode ws ++ b :: rest))
    (blanks : Blanks ws) (mark : isBlank b = false) : c.skipBlanks.rest = b :: rest := by
  rw [faces, List.dropWhile_append_of_pos (isBlank_of_mem blanks), List.dropWhile_cons, mark]
  rfl

theorem sees_other {test other : UInt8 → Bool} (apart : ∀ b, test b = true → other b = false)
    (seen : c.sees test = true) : c.sees other = false := by
  unfold sees at *
  cases ahead : c.peek? with
  | none => rfl
  | some b =>
    rw [ahead] at seen
    exact apart b seen

end Cursor

def IsEnd (b : UInt8) : Prop := isBlank b = true ∨ b = 0x2c ∨ b = 0x5d ∨ b = 0x7d

theorem IsEnd.endsNumber {b : UInt8} (isEnd : IsEnd b) : EndsNumber b := by
  rcases isEnd with white | rfl | rfl | rfl
  · simp only [isBlank, Bool.or_eq_true, beq_iff_eq] at white
    rcases white with ((rfl | rfl) | rfl) | rfl <;> exact ⟨rfl, rfl⟩
  all_goals exact ⟨rfl, rfl⟩

theorem digits_ahead {ds : List Char} (digits : AllDigits ds) {c : Cursor} {b : UInt8}
    {rest : List UInt8} (stop : isDigit b = false) (ahead : c.rest = encode ds ++ b :: rest) :
    c.sees isDigit = true ∧ c.skipDigits.rest = b :: rest ∧
      c.next.skipDigits.rest = b :: rest := by
  have all := isDigit_of_mem digits
  have filled : encode ds ≠ [] := by
    obtain ⟨d, more, rfl⟩ := List.exists_cons_of_ne_nil digits.1
    rw [encode_cons_ascii (digit_ascii (digits.2 d List.mem_cons_self)).1]
    exact List.cons_ne_nil _ _
  refine ⟨?_, Cursor.skipWhile_of_ahead all stop ahead, ?_⟩
  all_goals
    obtain ⟨d, more, bytes⟩ := List.exists_cons_of_ne_nil filled
    rw [bytes] at all ahead
  · rw [Cursor.sees_of_ahead ahead]
    exact all d List.mem_cons_self
  · exact Cursor.skipWhile_of_ahead (fun b member => all b (List.mem_cons_of_mem d member)) stop
      (Cursor.next_rest ahead)

section

variable {mark : UInt8} {rest : List UInt8} (isEnd : IsEnd mark)
include isEnd

theorem exponent_head {exponent : List Char} (part : ExponentPart exponent)
    (rest : List UInt8) : ∃ b bs, encode exponent ++ mark :: rest = b :: bs ∧ isDigit b = false ∧
      (b == 0x2e) = false := by
  cases part with
  | absent =>
    have plain := isEnd.endsNumber.2
    rw [isFloatMark, Bool.or_eq_false_iff] at plain
    exact ⟨mark, rest, rfl, isEnd.endsNumber.1, plain.1⟩
  | digits letter _ _ =>
    rcases letter with rfl | rfl <;> exact ⟨_, _, rfl, by decide, by decide⟩

theorem takes_skipExponentOrEnd {exponent : List Char} (part : ExponentPart exponent) :
    Takes skipExponentOrEnd (encode exponent) () (mark :: rest) := by
  intro c ahead
  cases part with
  | absent =>
    have plain := isEnd.endsNumber.2
    rw [isFloatMark, Bool.or_eq_false_iff] at plain
    refine ⟨c, ahead, ?_⟩
    rw [skipExponentOrEnd, Cursor.sees_of_ahead ahead, plain.2]
    rfl
  | @digits letter sign ds letters signs digits =>
    have first : ∃ b, isExponentMark b = true ∧
        c.rest = b :: (encode sign ++ (encode ds ++ mark :: rest)) := by
      rw [ahead, ← List.append_assoc, ← encode_append]
      rcases letters with rfl | rfl
      · exact ⟨0x65, rfl, rfl⟩
      · exact ⟨0x45, rfl, rfl⟩
    obtain ⟨b, isMark, ahead⟩ := first
    let isSign (b : UInt8) : Bool := b == 0x2b || b == 0x2d
    have behindSign : ∃ c', (if c.next.sees isSign then c.next.next else c.next) = c' ∧
        c'.rest = encode ds ++ mark :: rest := by
      refine ⟨_, rfl, ?_⟩
      have inside := Cursor.next_rest ahead
      rcases signs with rfl | rfl | rfl
      · obtain ⟨seen, -, -⟩ := digits_ahead digits isEnd.endsNumber.1 inside
        have apart : ∀ b, isDigit b = true → isSign b = false := by
          intro b digit
          by_contra found
          simp only [isSign, Bool.not_eq_false, Bool.or_eq_true, beq_iff_eq] at found
          rcases found with rfl | rfl <;> cases digit
        rw [Cursor.sees_other apart seen]
        exact inside
      · rw [Cursor.sees_of_ahead inside]
        exact Cursor.next_rest inside
      · rw [Cursor.sees_of_ahead inside]
        exact Cursor.next_rest inside
    obtain ⟨c', behind, ahead'⟩ := behindSign
    obtain ⟨seen, -, passed⟩ := digits_ahead digits isEnd.endsNumber.1 ahead'
    refine ⟨c'.next.skipDigits, passed, ?_⟩
    rw [skipExponentOrEnd, Cursor.sees_of_ahead ahead, isMark, if_pos rfl]
    simp only [skipExponent]
    rw [behind, seen]
    rfl

theorem takes_skipNumber {cs : List Char} (unsigned : Unsigned cs) :
    Takes skipNumber (encode cs) () (mark :: rest) := by
  obtain ⟨whole, fraction, exponent, ⟨digits, noLeadingZero⟩, part, part', rfl⟩ := unsigned
  intro c ahead
  rw [encode_append, encode_append, List.append_assoc, List.append_assoc] at ahead
  -- Whatever stands behind the whole part, it is no digit.
  obtain ⟨b, bs, tail, stop⟩ : ∃ b bs,
      encode fraction ++ (encode exponent ++ mark :: rest) = b :: bs ∧ isDigit b = false := by
    cases part with
    | absent =>
      obtain ⟨b, bs, tail, stop, -⟩ := exponent_head isEnd part' rest
      exact ⟨b, bs, tail, stop⟩
    | digits => exact ⟨0x2e, _, rfl, rfl⟩
  rw [tail] at ahead
  obtain ⟨seen, passed, -⟩ := digits_ahead digits stop ahead
  have noZero : (c.seesByte 0x30 && c.next.sees isDigit) = false := by
    rw [Bool.and_eq_false_imp]
    intro zero
    obtain ⟨d, more, rfl⟩ := List.exists_cons_of_ne_nil digits.1
    have ascii := (digit_ascii (digits.2 d List.mem_cons_self)).1
    rw [encode_cons_ascii ascii] at ahead
    rw [Cursor.seesByte_of_ahead ahead, beq_iff_eq, ← UInt8.toNat_inj,
      UInt8.toNat_ofNat_of_lt' (Nat.lt_trans ascii (by decide))] at zero
    obtain rfl : d = '0' := Char.toNat_inj.mp zero
    have alone : more = [] := (List.cons.inj (noLeadingZero rfl)).2
    subst alone
    rw [Cursor.sees_of_ahead (Cursor.next_rest ahead)]
    exact stop
  rw [skipNumber, noZero, if_neg Bool.false_ne_true, if_pos seen]
  dsimp only
  cases part with
  | absent =>
    obtain ⟨b', bs', tail', -, noPoint⟩ := exponent_head isEnd part' rest
    have same : b :: bs = b' :: bs' := tail.symm.trans tail'
    rw [same] at passed
    rw [Cursor.seesByte_of_ahead passed, noPoint, if_neg Bool.false_ne_true]
    refine takes_skipExponentOrEnd isEnd part' _ ?_
    rw [passed, tail']
  | @digits ds digits =>
    have point : c.skipDigits.rest = 0x2e :: (encode ds ++ (encode exponent ++ mark :: rest)) :=
      passed.trans tail.symm
    obtain ⟨b', bs', tail', stop', -⟩ := exponent_head isEnd part' rest
    have inside := Cursor.next_rest point
    rw [tail'] at inside
    obtain ⟨seen', passed', -⟩ := digits_ahead digits stop' inside
    rw [Cursor.seesByte_of_ahead point, beq_self_eq_true, if_pos rfl, if_pos seen']
    refine takes_skipExponentOrEnd isEnd part' _ ?_
    rw [passed', tail']

end

theorem shortEscape?_of_mem {letter c : Char} (listed : (letter, c) ∈ shortEscapes) :
    letter.toNat < 0x80 ∧ shortEscape? (UInt8.ofNat letter.toNat) = some c := by
  have all : ∀ e ∈ shortEscapes,
      e.1.toNat < 0x80 ∧ shortEscape? (UInt8.ofNat e.1.toNat) = some e.2 := by decide
  exact all (letter, c) listed

theorem hexValue?_of_digit {c : Char} {d : Nat} (digit : HexDigit c d) :
    c.toNat < 0x80 ∧ hexValue? (UInt8.ofNat c.toNat) = some d := by
  have read := (Net.hexDigit?_eq_some_iff c d).mpr digit
  have ascii := (Net.hexDigit?_bounds read).2
  refine ⟨ascii, ?_⟩
  rw [hexValue?, UInt8.toNat_ofNat_of_lt' (Nat.lt_trans ascii (by decide)), Char.ofNat_toNat]
  exact read

section

variable {rest : List UInt8}

theorem takes_hexEscape {ds : List Char} {n : Nat} (unit : CodeUnit ds n) :
    Takes hexEscape (encode ds) n rest := by
  intro c ahead
  cases unit with
  | digits a b e d =>
    obtain ⟨asciiA, readA⟩ := hexValue?_of_digit a
    obtain ⟨asciiB, readB⟩ := hexValue?_of_digit b
    obtain ⟨asciiE, readE⟩ := hexValue?_of_digit e
    obtain ⟨asciiD, readD⟩ := hexValue?_of_digit d
    rw [encode_cons_ascii asciiA, encode_cons_ascii asciiB, encode_cons_ascii asciiE,
      encode_cons_ascii asciiD] at ahead
    have behind : (c.advance 4).rest = rest :=
      Cursor.next_rest (Cursor.next_rest (Cursor.next_rest (Cursor.next_rest ahead)))
    refine ⟨c.advance 4, behind, ?_⟩
    simp only [List.cons_append] at ahead
    rw [hexEscape, ahead]
    dsimp only
    rw [readA, readB, readE, readD]

theorem takes_shortEscape {α : Type} (unicode : Reader α) (short : Char → α) {letter c : Char}
    (listed : (letter, c) ∈ shortEscapes) :
    Takes (escapeWith unicode short) (encode [letter]) (short c) rest := by
  intro cursor ahead
  obtain ⟨ascii, found⟩ := shortEscape?_of_mem listed
  rw [encode_cons_ascii ascii] at ahead
  refine ⟨cursor.next, Cursor.next_rest ahead, ?_⟩
  rw [escapeWith, Cursor.peek?_of_ahead ahead]
  dsimp only
  rw [found]

theorem takes_unicodeEscape {α : Type} {unicode : Reader α} (short : Char → α) {bs : List UInt8}
    {a : α} (takes : Takes unicode bs a rest) :
    Takes (escapeWith unicode short) (0x75 :: bs) a rest := by
  intro c ahead
  obtain ⟨c', behind, read⟩ := takes c.next (Cursor.next_rest ahead)
  refine ⟨c', behind, ?_⟩
  rw [escapeWith, Cursor.peek?_of_ahead ahead]
  exact read

theorem skipStringFrom_plain {bs : List UInt8} (plain : ∀ b ∈ bs, standsForItself b = true)
    (fuel : Nat) (c : Cursor) (ahead : c.rest = bs ++ rest) :
    ∃ c', c'.rest = rest ∧ skipStringFrom (bs.length + fuel) c = skipStringFrom fuel c' := by
  induction bs generalizing c with
  | nil => exact ⟨c, ahead, by rw [List.length_nil, Nat.zero_add]⟩
  | cons b bs ih =>
    have itself := plain b List.mem_cons_self
    simp only [standsForItself, Bool.not_eq_true', Bool.or_eq_false_iff, beq_eq_false_iff_ne,
      decide_eq_false_iff_not] at itself
    obtain ⟨⟨printable, noQuote⟩, noEscape⟩ := itself
    obtain ⟨c', behind, passed⟩ := ih (fun b member => plain b (List.mem_cons_of_mem _ member))
      c.next (Cursor.next_rest ahead)
    refine ⟨c', behind, ?_⟩
    rw [List.length_cons, Nat.add_right_comm, skipStringFrom, Cursor.peek?_of_ahead ahead]
    dsimp only
    rw [if_neg noQuote, if_neg noEscape, if_neg printable, passed]

theorem takes_skipEscaped {escape more : List UInt8} {fuel : Nat}
    (takes : ∀ rest, Takes skipEscape escape () rest)
    (others : Takes (skipStringFrom fuel) more () rest) :
    Takes (skipStringFrom (fuel + 1)) (0x5c :: (escape ++ more)) () rest := by
  intro c ahead
  rw [List.cons_append, List.append_assoc] at ahead
  obtain ⟨c₁, ahead₁, read⟩ := takes _ c.next (Cursor.next_rest ahead)
  obtain ⟨c₂, ahead₂, read'⟩ := others c₁ ahead₁
  refine ⟨c₂, ahead₂, ?_⟩
  rw [skipStringFrom, Cursor.peek?_of_ahead ahead]
  dsimp only
  rw [if_neg (by decide), if_pos rfl, read]
  exact read'

theorem takes_skipStringFrom {cs : List Char} (string : IsString cs) {fuel : Nat}
    (room : (encode cs).length < fuel) :
    Takes (skipStringFrom fuel) (encode cs ++ [0x22]) () rest := by
  induction string generalizing fuel with
  | nil =>
    intro c ahead
    cases fuel with
    | zero => cases room
    | succ fuel =>
      refine ⟨c.next, Cursor.next_rest ahead, ?_⟩
      rw [skipStringFrom, Cursor.peek?_of_ahead ahead]
      rfl
  | @plain c cs itself _ ih =>
    intro cursor ahead
    rw [encode, List.flatMap_cons, List.length_append] at room
    obtain ⟨fuel, rfl⟩ := Nat.exists_eq_add_of_le (Nat.le_of_lt
      (Nat.lt_of_le_of_lt (Nat.le_add_right _ _) room))
    rw [encode, List.flatMap_cons, List.append_assoc, List.append_assoc] at ahead
    obtain ⟨c₁, ahead₁, passed⟩ := skipStringFrom_plain (standsForItself_of_mem itself) fuel cursor
      ahead
    rw [passed]
    exact ih (Nat.lt_of_add_lt_add_left room) c₁ (by rw [ahead₁, List.append_assoc]; rfl)
  | @short letter c cs listed _ ih =>
    have bytes : encode ('\\' :: letter :: cs) = 0x5c :: (encode [letter] ++ encode cs) := by
      rw [← encode_append]
      rfl
    rw [bytes, List.cons_append, List.append_assoc]
    rw [bytes, List.length_cons, List.length_append] at room
    obtain ⟨fuel, rfl⟩ := Nat.exists_eq_add_of_le' (Nat.zero_lt_of_lt room)
    exact takes_skipEscaped (fun _ => takes_shortEscape _ _ listed) (ih (by omega))
  | @unit ds n cs unit _ ih =>
    have bytes : encode ('\\' :: 'u' :: (ds ++ cs)) =
        0x5c :: ((0x75 :: encode ds) ++ encode cs) := by
      rw [List.cons_append, ← encode_append]
      rfl
    rw [bytes, List.cons_append, List.append_assoc]
    rw [bytes, List.length_cons, List.length_append] at room
    obtain ⟨fuel, rfl⟩ := Nat.exists_eq_add_of_le' (Nat.zero_lt_of_lt room)
    refine takes_skipEscaped (fun rest => takes_unicodeEscape _ ?_) (ih (by omega))
    intro c ahead
    obtain ⟨c', behind, read⟩ := takes_hexEscape unit c ahead
    exact ⟨c', behind, congrArg (Except.map fun r => ((), r.2)) read⟩

theorem takes_skipString {cs : List Char} (string : IsString cs) :
    Takes skipString (encode cs ++ [0x22]) () rest := by
  intro c ahead
  refine takes_skipStringFrom string ?_ c ahead
  rw [ahead]
  simp only [List.length_append]
  omega

end

end CheckIn.Json
