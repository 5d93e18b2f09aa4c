import CheckIn.Proofs.Json.Skipping
import CheckIn.Proofs.Text.Repair

/-! Names of members. However a text is spelled between quotes, with escapes or without, it is what
the reader of strings gives. -/
namespace CheckIn.Json

open Text.Utf8 (encode encode_append)

variable {rest : List UInt8}

theorem takes_unit {ds : List Char} {n : Nat} (unit : CodeUnit ds n) (noLead : ¬Leading n)
    (noTrail : ¬Trailing n) : Takes unicodeEscape (encode ds) (Char.ofNat n) rest := by
  intro c ahead
  obtain ⟨c', behind, read⟩ := takes_hexEscape unit c ahead
  refine ⟨c', behind, ?_⟩
  have lead : isLeading n = false := by simpa [isLeading, Leading] using noLead
  have trail : isTrailing n = false := by simpa [isTrailing, Trailing] using noTrail
  rw [unicodeEscape, read]
  simp only [bind, Except.bind, trail, lead, Bool.false_eq_true, if_false]

theorem takes_pair {ds ds' : List Char} {lead trail : Nat} (unit : CodeUnit ds lead)
    (leading : Leading lead) (unit' : CodeUnit ds' trail) (trailing : Trailing trail) :
    Takes unicodeEscape (encode ds ++ 0x5c :: 0x75 :: encode ds')
      (Char.ofNat ((lead - 0xd800) * 0x400 + (trail - 0xdc00) + 0x10000)) rest := by
  intro c ahead
  rw [List.append_assoc] at ahead
  obtain ⟨c₁, ahead₁, read₁⟩ := takes_hexEscape unit c ahead
  have ahead₂ := Cursor.next_rest ahead₁
  obtain ⟨c₂, ahead₃, read₂⟩ := takes_hexEscape unit' c₁.next.next (Cursor.next_rest ahead₂)
  refine ⟨c₂, ahead₃, ?_⟩
  have isLead : isLeading lead = true := by simpa [isLeading, Leading] using leading
  have isTrail : isTrailing trail = true := by simpa [isTrailing, Trailing] using trailing
  have noTrail : isTrailing lead = false := by
    have below : lead < 0xdc00 := Nat.lt_of_le_of_lt leading.2 (by decide)
    simp [isTrailing, below]
  rw [unicodeEscape, read₁]
  simp only [bind, Except.bind, noTrail, isLead, escapePart, Cursor.peek?_of_ahead ahead₁,
    Cursor.peek?_of_ahead ahead₂, if_true, Bool.false_eq_true, if_false, read₂, isTrail]

theorem stringFrom_plain {bs : List UInt8} (plain : ∀ b ∈ bs, standsForItself b = true)
    (fuel : Nat) (c : Cursor) (ahead : c.rest = bs ++ rest) :
    ∃ c', c'.rest = rest ∧
      stringFrom (bs.length + fuel) c = (stringFrom fuel c').map fun r => (bs ++ r.1, r.2) := by
  induction bs generalizing c with
  | nil =>
    refine ⟨c, ahead, ?_⟩
    rw [List.length_nil, Nat.zero_add]
    cases stringFrom fuel c <;> rfl
  | cons b bs ih =>
    have itself := plain b List.mem_cons_self
    simp only [standsForItself, Bool.not_eq_true', Bool.or_eq_false_iff, beq_eq_false_iff_ne,
      decide_eq_false_iff_not] at itself
    obtain ⟨⟨printable, noQuote⟩, noEscape⟩ := itself
    obtain ⟨c', behind, read⟩ := ih (fun b member => plain b (List.mem_cons_of_mem _ member))
      c.next (Cursor.next_rest ahead)
    refine ⟨c', behind, ?_⟩
    rw [List.length_cons, Nat.add_right_comm, stringFrom, Cursor.peek?_of_ahead ahead]
    dsimp only
    rw [if_neg noQuote, if_neg noEscape, if_neg printable, read]
    cases stringFrom fuel c' <;> rfl

theorem takes_escaped {escape more bs : List UInt8} {char : Char} {fuel : Nat}
    (takes : ∀ rest, Takes (escapeWith unicodeEscape id) escape char rest)
    (others : Takes (stringFrom fuel) more bs rest) :
    Takes (stringFrom (fuel + 1)) (0x5c :: (escape ++ more)) (String.utf8EncodeChar char ++ bs)
      rest := by
  intro c ahead
  rw [List.cons_append, List.append_assoc] at ahead
  obtain ⟨c₁, ahead₁, read⟩ := takes _ c.next (Cursor.next_rest ahead)
  obtain ⟨c₂, ahead₂, read'⟩ := others c₁ ahead₁
  refine ⟨c₂, ahead₂, ?_⟩
  rw [stringFrom, Cursor.peek?_of_ahead ahead]
  dsimp only
  rw [if_neg (by decide), if_pos rfl, read]
  simp only [bind, Except.bind, read']

theorem takes_spelledFrom {cs text : List Char} (spells : SpellsText cs text) {fuel : Nat}
    (room : (encode cs).length < fuel) :
    Takes (stringFrom fuel) (encode cs ++ [0x22]) (encode text) rest := by
  induction spells generalizing fuel with
  | nil =>
    intro c ahead
    cases fuel with
    | zero => cases room
    | succ fuel =>
      refine ⟨c.next, Cursor.next_rest ahead, ?_⟩
      rw [stringFrom, Cursor.peek?_of_ahead ahead]
      rfl
  | @plain c cs text itself _ ih =>
    intro cursor ahead
    rw [encode, List.flatMap_cons, List.length_append] at room
    obtain ⟨fuel, rfl⟩ := Nat.exists_eq_add_of_le (Nat.le_of_lt
      (Nat.lt_of_le_of_lt (Nat.le_add_right _ _) room))
    rw [encode, List.flatMap_cons, List.append_assoc, List.append_assoc] at ahead
    obtain ⟨c₁, ahead₁, read₁⟩ := stringFrom_plain (standsForItself_of_mem itself) fuel cursor ahead
    obtain ⟨c₂, ahead₂, read₂⟩ := ih (Nat.lt_of_add_lt_add_left room) c₁
      (by rw [ahead₁, List.append_assoc]; rfl)
    refine ⟨c₂, ahead₂, ?_⟩
    rw [read₁, read₂]
    rfl
  | @short letter c cs text listed _ ih =>
    have bytes : encode ('\\' :: letter :: cs) = 0x5c :: (encode [letter] ++ encode cs) := by
      rw [← encode_append]
      rfl
    rw [bytes, List.cons_append, List.append_assoc]
    rw [bytes, List.length_cons, List.length_append] at room
    obtain ⟨fuel, rfl⟩ := Nat.exists_eq_add_of_le' (Nat.zero_lt_of_lt room)
    exact takes_escaped (fun _ => takes_shortEscape _ _ listed) (ih (by omega))
  | @unit ds n cs text unit noLead noTrail _ ih =>
    have bytes : encode ('\\' :: 'u' :: (ds ++ cs)) =
        0x5c :: ((0x75 :: encode ds) ++ encode cs) := by
      rw [List.cons_append, ← encode_append]
      rfl
    rw [bytes, List.cons_append, List.append_assoc]
    rw [bytes, List.length_cons, List.length_append] at room
    obtain ⟨fuel, rfl⟩ := Nat.exists_eq_add_of_le' (Nat.zero_lt_of_lt room)
    exact takes_escaped (fun _ => takes_unicodeEscape _ (takes_unit unit noLead noTrail))
      (ih (by omega))
  | @pair ds lead ds' trail cs text unit leading unit' trailing _ ih =>
    have bytes : encode ('\\' :: 'u' :: (ds ++ '\\' :: 'u' :: (ds' ++ cs))) =
        0x5c :: ((0x75 :: (encode ds ++ 0x5c :: 0x75 :: encode ds')) ++ encode cs) := by
      have inner : encode ('\\' :: 'u' :: (ds' ++ cs)) =
          (0x5c :: 0x75 :: encode ds') ++ encode cs := by
        rw [List.cons_append, List.cons_append, ← encode_append]
        rfl
      have outer : encode (ds ++ '\\' :: 'u' :: (ds' ++ cs)) =
          (encode ds ++ 0x5c :: 0x75 :: encode ds') ++ encode cs := by
        rw [encode_append, inner, List.append_assoc]
      rw [List.cons_append, ← outer]
      rfl
    rw [bytes, List.cons_append, List.append_assoc]
    rw [bytes, List.length_cons, List.length_append] at room
    obtain ⟨fuel, rfl⟩ := Nat.exists_eq_add_of_le' (Nat.zero_lt_of_lt room)
    exact takes_escaped (fun _ => takes_unicodeEscape _ (takes_pair unit leading unit' trailing))
      (ih (by omega))

theorem takes_spelled {cs text : List Char} (spells : SpellsText cs text) :
    Takes string (encode cs ++ [0x22]) (String.ofList text) rest := by
  intro c ahead
  have room : (encode cs).length < c.rest.length + 1 := by
    rw [ahead]
    simp only [List.length_append]
    omega
  obtain ⟨c', behind, read⟩ := takes_spelledFrom spells room c ahead
  refine ⟨c', behind, ?_⟩
  simp only [string, read, bind, Except.bind, Text.Utf8.lossy_encode]

end CheckIn.Json
