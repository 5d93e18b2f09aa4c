import CheckIn.Proofs.Json.Scanning

/-! Values that are passed over. Whatever a value is and however deep it is nested, the reader that
skips it stops right behind it. -/
namespace CheckIn.Json

open Text.Utf8 (encode encode_append)

/-- The first byte of a value: it is no blank and closes nothing. -/
structure IsOpener (b : UInt8) : Prop where
  noBlank : isBlank b = false
  noBracket : (b == 0x5d) = false
  noBrace : (b == 0x7d) = false

theorem opener_of_digit {b : UInt8} (digit : isDigit b = true) : IsOpener b := by
  refine ⟨(plain_of_digit digit).1, ?_, ?_⟩ <;>
    · rw [beq_eq_false_iff_ne]
      rintro rfl
      cases digit

theorem unsigned_head {cs : List Char} (unsigned : Unsigned cs) :
    ∃ b bs, encode cs = b :: bs ∧ isDigit b = true := by
  obtain ⟨whole, fraction, exponent, ⟨digits, -⟩, -, -, rfl⟩ := unsigned
  obtain ⟨d, more, rfl⟩ := List.exists_cons_of_ne_nil digits.1
  obtain ⟨ascii, digit⟩ := digit_ascii (digits.2 d List.mem_cons_self)
  exact ⟨_, _, encode_cons_ascii ascii _, digit⟩

theorem value_head {v : List Char} (value : IsForm .value v) :
    ∃ b bs, encode v = b :: bs ∧ IsOpener b := by
  cases value with
  | positive unsigned =>
    obtain ⟨b, bs, bytes, digit⟩ := unsigned_head unsigned
    exact ⟨b, bs, bytes, opener_of_digit digit⟩
  | _ => exact ⟨_, _, rfl, by constructor <;> rfl⟩

theorem end_behind {ws : List Char} (blanks : Blanks ws) {b : UInt8} (isEnd : IsEnd b)
    (rest : List UInt8) : ∃ mark more, encode ws ++ b :: rest = mark :: more ∧ IsEnd mark := by
  have all := isBlank_of_mem blanks
  cases bytes : encode ws with
  | nil => exact ⟨b, rest, rfl, isEnd⟩
  | cons d ds =>
    rw [bytes] at all
    exact ⟨d, _, rfl, .inl (all d List.mem_cons_self)⟩

theorem skipValueWith_of_ahead {c : Cursor} {b : UInt8} {rest : List UInt8} (fuel : Nat)
    (ahead : c.skipBlanks.rest = b :: rest) :
    skipValueWith (fuel + 1) c =
      if b = 0x6e then wordNull c.skipBlanks.next
      else if b = 0x74 then wordTrue c.skipBlanks.next
      else if b = 0x66 then wordFalse c.skipBlanks.next
      else if b = 0x2d then skipNumber c.skipBlanks.next
      else if isDigit b then skipNumber c.skipBlanks
      else if b = 0x22 then skipString c.skipBlanks.next
      else if b = 0x5b then
        let c := c.skipBlanks.next.skipBlanks
        if c.seesByte 0x5d then .ok ((), c.next)
        else if c.rest.isEmpty then c.fail .eofInList
        else skipElements fuel c
      else if b = 0x7b then
        let c := c.skipBlanks.next.skipBlanks
        if c.seesByte 0x7d then .ok ((), c.next)
        else if c.rest.isEmpty then c.fail .eofInObject
        else skipMembers fuel c
      else c.skipBlanks.failAhead .expectedValue := by
  rw [skipValueWith]
  dsimp only
  rw [Cursor.peek?_of_ahead ahead]

theorem takes_word {bs rest : List UInt8} : Takes (word bs) bs () rest := by
  induction bs with
  | nil => exact fun c ahead => ⟨c, ahead, rfl⟩
  | cons b bs ih =>
    intro c ahead
    obtain ⟨c', behind, read⟩ := ih c.next (Cursor.next_rest ahead)
    refine ⟨c', behind, ?_⟩
    rw [word, Cursor.peek?_of_ahead ahead]
    dsimp only
    rw [if_pos rfl, read]

theorem takes_key {α : Type} {read : Reader α} {cs key : List Char} {a : α}
    (takes : ∀ rest, Takes read (encode cs ++ [0x22]) a rest) (padded : Padded (quoted cs) key)
    {c : Cursor} {rest : List UInt8} (faces : c.Faces (encode key ++ 0x3a :: rest)) :
    ∃ more c₁ c₂, c.skipBlanks.rest = 0x22 :: more ∧ read c.skipBlanks.next = .ok (a, c₁) ∧
      colon c₁ = .ok ((), c₂) ∧ c₂.rest = rest := by
  obtain ⟨before, behind, blanks, blanks', rfl⟩ := padded
  have closed : encode (cs ++ ['"']) = encode cs ++ [0x22] := encode_append cs ['"']
  have bytes : encode (quoted cs) = 0x22 :: (encode cs ++ [0x22]) := by
    rw [← closed]
    rfl
  rw [encode_append, encode_append, bytes, List.append_assoc, List.append_assoc] at faces
  have quote := faces.behind blanks rfl
  obtain ⟨c₁, ahead₁, read₁⟩ := takes _ _ (Cursor.next_rest quote)
  have point := (Cursor.faces ahead₁).behind blanks' rfl
  refine ⟨_, c₁, c₁.skipBlanks.next, quote, read₁, ?_, Cursor.next_rest point⟩
  simp only [colon]
  rw [Cursor.peek?_of_ahead point]
  rfl

/-- What it means that a form is skipped: a value up to the byte behind it, elements and members
with the byte that closes them. Twice the characters are fuel enough for either. -/
def IsSkipped : Form → List Char → Prop
  | .value, v => ∀ fuel mark rest (c : Cursor), 2 * v.length ≤ fuel → IsEnd mark →
      c.Faces (encode v ++ mark :: rest) →
      ∃ c', c'.rest = mark :: rest ∧ skipValueWith fuel c = .ok ((), c')
  | .elements, es => ∀ fuel rest (c : Cursor), 2 * es.length < fuel →
      c.Faces (encode es ++ 0x5d :: rest) →
      ∃ c', c'.rest = rest ∧ skipElements fuel c = .ok ((), c')
  | .members, ms => ∀ fuel rest (c : Cursor), 2 * ms.length < fuel →
      c.Faces (encode ms ++ 0x7d :: rest) →
      ∃ c', c'.rest = rest ∧ skipMembers fuel c = .ok ((), c')

theorem padded_head {v text : List Char} (value : IsForm .value v) (padded : Padded v text)
    (tail : List UInt8) : ∃ ws b more, Blanks ws ∧ IsOpener b ∧
      encode text ++ tail = encode ws ++ b :: more := by
  obtain ⟨before, behind, blanks, -, rfl⟩ := padded
  obtain ⟨b, bs, bytes, opener⟩ := value_head value
  refine ⟨before, b, bs ++ (encode behind ++ tail), blanks, opener, ?_⟩
  rw [encode_append, encode_append, bytes, List.append_assoc, List.append_assoc]
  rfl

theorem skips_padded {v text : List Char} (skipped : IsSkipped .value v)
    (padded : Padded v text) {fuel : Nat} (room : 2 * text.length ≤ fuel) {b : UInt8}
    (isEnd : IsEnd b) (noBlank : isBlank b = false) {c : Cursor} {rest : List UInt8}
    (faces : c.Faces (encode text ++ b :: rest)) :
    ∃ c', c'.skipBlanks.rest = b :: rest ∧ skipValueWith fuel c = .ok ((), c') := by
  obtain ⟨before, behind, blanks, blanks', rfl⟩ := padded
  obtain ⟨mark, rest', tail, isEnd'⟩ := end_behind blanks' isEnd rest
  have inside : c.Faces (encode v ++ mark :: rest') := by
    rwa [encode_append, encode_append, List.append_assoc, List.append_assoc, tail, Cursor.Faces,
      List.dropWhile_append_of_pos (isBlank_of_mem blanks)] at faces
  have enough : 2 * v.length ≤ fuel := by
    simp only [List.length_append] at room
    omega
  obtain ⟨c', ahead', read⟩ := skipped fuel mark rest' c enough isEnd' inside
  rw [← tail] at ahead'
  exact ⟨c', (Cursor.faces ahead').behind blanks' noBlank, read⟩

section

variable {cs ds : List Char} {rest : List UInt8}

theorem encode_bracketed : encode ('[' :: (cs ++ [']'])) ++ rest =
    0x5b :: (encode cs ++ 0x5d :: rest) := by
  rw [encode_cons_ascii (by decide), encode_append, List.cons_append, List.append_assoc]
  rfl

theorem encode_braced : encode ('{' :: (cs ++ ['}'])) ++ rest =
    0x7b :: (encode cs ++ 0x7d :: rest) := by
  rw [encode_cons_ascii (by decide), encode_append, List.cons_append, List.append_assoc]
  rfl

theorem encode_comma : encode (cs ++ ',' :: ds) ++ rest =
    encode cs ++ 0x2c :: (encode ds ++ rest) := by
  rw [encode_append, List.append_assoc]
  rfl

theorem encode_colon : encode (cs ++ ':' :: ds) ++ rest =
    encode cs ++ 0x3a :: (encode ds ++ rest) := by
  rw [encode_append, List.append_assoc]
  rfl

theorem elements_head (elements : IsForm .elements cs) (rest : List UInt8) :
    ∃ ws b more, Blanks ws ∧ IsOpener b ∧ encode cs ++ rest = encode ws ++ b :: more := by
  cases elements with
  | lastElement value padded => exact padded_head value padded rest
  | element value padded _ =>
    rw [encode_comma]
    exact padded_head value padded _

theorem members_head (members : IsForm .members cs) (rest : List UInt8) :
    ∃ ws more, Blanks ws ∧ encode cs ++ rest = encode ws ++ 0x22 :: more := by
  have named {name key : List Char} (padded : Padded (quoted name) key) (tail : List UInt8) :
      ∃ ws more, Blanks ws ∧ encode key ++ tail = encode ws ++ 0x22 :: more := by
    obtain ⟨before, behind, blanks, -, rfl⟩ := padded
    refine ⟨before, encode (name ++ ['"']) ++ (encode behind ++ tail), blanks, ?_⟩
    rw [encode_append, encode_append, List.append_assoc, List.append_assoc]
    rfl
  cases members with
  | lastMember _ padded _ _ | member _ padded _ _ _ =>
    rw [encode_colon]
    exact named padded _

theorem closed_behind {c : Cursor} {closer : UInt8} (blanks : Blanks cs)
    (noBlank : isBlank closer = false) (ahead : c.rest = encode cs ++ closer :: rest) :
    c.skipBlanks.seesByte closer = true ∧ c.skipBlanks.next.rest = rest := by
  have inside := (Cursor.faces ahead).behind blanks noBlank
  exact ⟨by rw [Cursor.seesByte_of_ahead inside, beq_self_eq_true], Cursor.next_rest inside⟩

theorem open_behind {c : Cursor} {closer b : UInt8} (ahead : c.rest = b :: rest)
    (other : (b == closer) = false) : c.seesByte closer = false ∧ c.rest.isEmpty = false := by
  rw [Cursor.seesByte_of_ahead ahead, ahead]
  exact ⟨other, rfl⟩

end

section

variable {fuel : Nat} {c c' : Cursor} {b : UInt8} {rest : List UInt8}

theorem skipElements_of_value (read : skipValueWith fuel c = .ok ((), c'))
    (behind : c'.skipBlanks.rest = b :: rest) :
    skipElements (fuel + 1) c =
      if b = 0x5d then .ok ((), c'.skipBlanks.next)
      else if b = 0x2c then skipElements fuel c'.skipBlanks.next
      else c'.skipBlanks.failAhead .expectedListCommaOrEnd := by
  rw [skipElements, read]
  simp only [bind, Except.bind]
  rw [Cursor.peek?_of_ahead behind]

theorem skipMembers_of_member {cs key v text : List Char} (string : IsString cs)
    (padded : Padded (quoted cs) key) (skipped : IsSkipped .value v)
    (padded' : Padded v text) (room : 2 * text.length ≤ fuel) (isEnd : IsEnd b)
    (noBlank : isBlank b = false)
    (faces : c.Faces (encode key ++ 0x3a :: (encode text ++ b :: rest))) :
    ∃ c', c'.rest = rest ∧ skipMembers (fuel + 1) c =
      if b = 0x7d then .ok ((), c')
      else if b = 0x2c then skipMembers fuel c'
      else c'.fail .expectedObjectCommaOrEnd := by
  obtain ⟨more, c₁, c₂, quote, read₁, read₂, ahead₂⟩ :=
    takes_key (fun _ => takes_skipString string) padded faces
  obtain ⟨c₃, behind, read₃⟩ :=
    skips_padded skipped padded' room isEnd noBlank (Cursor.faces ahead₂)
  refine ⟨c₃.skipBlanks.next, Cursor.next_rest behind, ?_⟩
  rw [skipMembers]
  simp only [bind, Except.bind]
  rw [Cursor.peek?_of_ahead quote]
  simp only [if_true, read₁, read₂, read₃]
  rw [Cursor.peek?_of_ahead behind]
  rfl

end

section

variable {cs ws : List Char}

theorem isSkipped_number (unsigned : Unsigned cs) : IsSkipped .value cs := by
  intro fuel mark rest c room isEnd faces
  obtain ⟨b, bs, bytes, digit⟩ := unsigned_head unsigned
  cases fuel with
  | zero =>
    rw [List.eq_nil_of_length_eq_zero (by omega : cs.length = 0)] at bytes
    cases bytes
  | succ fuel =>
    have other : b ≠ 0x6e ∧ b ≠ 0x74 ∧ b ≠ 0x66 ∧ b ≠ 0x2d := by
      refine ⟨?_, ?_, ?_, ?_⟩ <;>
        · rintro rfl
          cases digit
    rw [bytes, List.cons_append] at faces
    have noBlanks : Blanks [] := nofun
    have ahead := faces.behind noBlanks (opener_of_digit digit).noBlank
    rw [skipValueWith_of_ahead fuel ahead, if_neg other.1, if_neg other.2.1, if_neg other.2.2.1,
      if_neg other.2.2.2, if_pos digit]
    refine takes_skipNumber isEnd unsigned _ ?_
    rw [ahead, bytes]
    rfl

theorem isSkipped_emptyArray (blanks : Blanks ws) : IsSkipped .value ('[' :: (ws ++ [']'])) := by
  intro fuel mark rest c room isEnd faces
  cases fuel with
  | zero => cases room
  | succ fuel =>
    rw [encode_bracketed] at faces
    obtain ⟨closed, behind⟩ := closed_behind blanks rfl (Cursor.next_rest faces)
    refine ⟨_, behind, ?_⟩
    rw [skipValueWith_of_ahead fuel faces]
    dsimp only
    rw [closed]
    rfl

theorem isSkipped_emptyObject (blanks : Blanks ws) : IsSkipped .value ('{' :: (ws ++ ['}'])) := by
  intro fuel mark rest c room isEnd faces
  cases fuel with
  | zero => cases room
  | succ fuel =>
    rw [encode_braced] at faces
    obtain ⟨closed, behind⟩ := closed_behind blanks rfl (Cursor.next_rest faces)
    refine ⟨_, behind, ?_⟩
    rw [skipValueWith_of_ahead fuel faces]
    dsimp only
    rw [closed]
    rfl

theorem isSkipped_array (elements : IsForm .elements cs) (skipped : IsSkipped .elements cs) :
    IsSkipped .value ('[' :: (cs ++ [']'])) := by
  intro fuel mark rest c room isEnd faces
  cases fuel with
  | zero => cases room
  | succ fuel =>
    simp only [List.length_cons, List.length_append, List.length_nil] at room
    rw [encode_bracketed] at faces
    have inside := Cursor.next_rest faces
    obtain ⟨ws, b, more, blanks, opener, bytes⟩ := elements_head elements (0x5d :: mark :: rest)
    have first := (Cursor.faces (inside.trans bytes)).behind blanks opener.noBlank
    obtain ⟨notClosed, notEmpty⟩ := open_behind first opener.noBracket
    obtain ⟨c', behind, read⟩ := skipped fuel _ _ (by omega) (Cursor.faces inside).skipBlanks
    refine ⟨c', behind, ?_⟩
    rw [skipValueWith_of_ahead fuel faces]
    dsimp only
    rw [notClosed, notEmpty, read]
    rfl

theorem isSkipped_object (members : IsForm .members cs) (skipped : IsSkipped .members cs) :
    IsSkipped .value ('{' :: (cs ++ ['}'])) := by
  intro fuel mark rest c room isEnd faces
  cases fuel with
  | zero => cases room
  | succ fuel =>
    simp only [List.length_cons, List.length_append, List.length_nil] at room
    rw [encode_braced] at faces
    have inside := Cursor.next_rest faces
    obtain ⟨ws, more, blanks, bytes⟩ := members_head members (0x7d :: mark :: rest)
    have first := (Cursor.faces (inside.trans bytes)).behind blanks rfl
    have notBrace : ((0x22 : UInt8) == 0x7d) = false := rfl
    obtain ⟨notClosed, notEmpty⟩ := open_behind first notBrace
    obtain ⟨c', behind, read⟩ := skipped fuel _ _ (by omega) (Cursor.faces inside).skipBlanks
    refine ⟨c', behind, ?_⟩
    rw [skipValueWith_of_ahead fuel faces]
    dsimp only
    rw [notClosed, notEmpty, read]
    rfl

end

/-- Every form is skipped: by induction on how it is built. -/
theorem isSkipped {form : Form} {cs : List Char} (isForm : IsForm form cs) :
    IsSkipped form cs := by
  have fuelled {n fuel : Nat} (room : 2 * (n + 1) ≤ fuel) : ∃ fuel', fuel = fuel' + 1 :=
    Nat.exists_eq_add_of_le' (by omega)
  induction isForm with
  | null | true | false =>
    intro fuel mark rest c room isEnd faces
    obtain ⟨fuel, rfl⟩ := fuelled room
    rw [skipValueWith_of_ahead fuel faces]
    exact takes_word _ (Cursor.next_rest faces)
  | positive unsigned => exact isSkipped_number unsigned
  | negative unsigned =>
    intro fuel mark rest c room isEnd faces
    obtain ⟨fuel, rfl⟩ := fuelled room
    rw [skipValueWith_of_ahead fuel faces]
    exact takes_skipNumber isEnd unsigned _ (Cursor.next_rest faces)
  | @string cs string =>
    intro fuel mark rest c room isEnd faces
    obtain ⟨fuel, rfl⟩ := fuelled room
    rw [skipValueWith_of_ahead fuel faces]
    refine takes_skipString string _ ?_
    rw [Cursor.next_rest faces]
    exact congrArg (· ++ mark :: rest) (encode_append cs ['"'])
  | emptyArray blanks => exact isSkipped_emptyArray blanks
  | array elements ih => exact isSkipped_array elements ih
  | emptyObject blanks => exact isSkipped_emptyObject blanks
  | object members ih => exact isSkipped_object members ih
  | lastElement value padded ih =>
    intro fuel rest c room faces
    cases fuel with
    | zero => cases room
    | succ fuel =>
      obtain ⟨c', behind, read⟩ := skips_padded ih padded (Nat.le_of_lt_succ room)
        (.inr (.inr (.inl rfl))) rfl faces
      exact ⟨_, Cursor.next_rest behind, skipElements_of_value read behind⟩
  | @element v text es value padded _ ih ih' =>
    intro fuel rest c room faces
    cases fuel with
    | zero => cases room
    | succ fuel =>
      rw [encode_comma] at faces
      simp only [List.length_append, List.length_cons] at room
      have enough : 2 * text.length ≤ fuel := by omega
      obtain ⟨c', behind, read⟩ := skips_padded ih padded enough (.inr (.inl rfl)) rfl faces
      obtain ⟨c₂, behind₂, read₂⟩ := ih' fuel rest c'.skipBlanks.next (by omega)
        (Cursor.faces (Cursor.next_rest behind))
      exact ⟨c₂, behind₂, (skipElements_of_value read behind).trans read₂⟩
  | @lastMember cs key v text string padded value padded' ih =>
    intro fuel rest c room faces
    cases fuel with
    | zero => cases room
    | succ fuel =>
      rw [encode_colon] at faces
      simp only [List.length_append, List.length_cons] at room
      exact skipMembers_of_member string padded ih padded' (by omega) (.inr (.inr (.inr rfl))) rfl
        faces
  | @member cs key v text ms string padded value padded' _ ih ih' =>
    intro fuel rest c room faces
    cases fuel with
    | zero => cases room
    | succ fuel =>
      rw [encode_colon, encode_comma] at faces
      simp only [List.length_append, List.length_cons] at room
      have enough : 2 * text.length ≤ fuel := by omega
      obtain ⟨c', behind, read⟩ :=
        skipMembers_of_member string padded ih padded' enough (.inr (.inl rfl)) rfl faces
      obtain ⟨c₂, behind₂, read₂⟩ := ih' fuel rest c' (by omega) (Cursor.faces behind)
      exact ⟨c₂, behind₂, read.trans read₂⟩

theorem length_le_encode (cs : List Char) : cs.length ≤ (encode cs).length := by
  induction cs with
  | nil => exact Nat.le_refl 0
  | cons c cs ih =>
    have := c.utf8Size_pos
    rw [encode, List.flatMap_cons, List.length_append, String.length_utf8EncodeChar, ← encode,
      List.length_cons]
    omega

theorem skipValue_of_faces {v : List Char} (value : IsForm .value v) {mark : UInt8}
    {rest : List UInt8} (isEnd : IsEnd mark) {c : Cursor}
    (faces : c.Faces (encode v ++ mark :: rest)) :
    ∃ c', c'.rest = mark :: rest ∧ skipValue c = .ok ((), c') := by
  obtain ⟨b, bs, bytes, opener⟩ := value_head value
  have left : c.rest.dropWhile isBlank = encode v ++ mark :: rest := by
    rw [← Cursor.rest_skipWhile, ← Cursor.skipBlanks, faces, bytes, List.cons_append,
      List.dropWhile_cons, opener.noBlank]
    rfl
  have shorter := (List.dropWhile_sublist isBlank (l := c.rest)).length_le
  rw [left, List.length_append] at shorter
  have chars := length_le_encode v
  exact isSkipped value _ mark rest c (by omega) isEnd faces

end CheckIn.Json
