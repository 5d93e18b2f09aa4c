import CheckIn.Proofs.Json.Skipping

/-! Integers of any size. Each is read from its numeral if it lies within the reader's bounds, and
is refused if it does not: beyond 64 bits it would be a float. -/
namespace CheckIn.Json

section

variable {ds rest : List UInt8} {mark : UInt8}

theorem wholeDigits_surplus (acc : Nat) (c : Cursor) (ahead : c.rest = ds ++ mark :: rest)
    (allDigits : ∀ d ∈ ds, isDigit d = true) (stop : isDigit mark = false)
    (begun : acc ≤ significandLimit) (beyond : significandLimit < ds.foldl continued acc) :
    ∃ significand surplus c', c'.rest = mark :: rest ∧
      wholeDigits (ds ++ mark :: rest) acc c = (significand, surplus + 1, c') := by
  induction ds generalizing acc c with
  | nil => exact absurd begun (Nat.not_le_of_lt beyond)
  | cons d ds ih =>
    have digit : isDigit d = true := allDigits d List.mem_cons_self
    rw [List.cons_append, wholeDigits, if_pos digit]
    split
    · have after : c.skipDigits.rest = mark :: rest :=
        Cursor.skipWhile_of_ahead allDigits stop ahead
      have dropped : c.rest.length - c.skipDigits.rest.length = ds.length + 1 := by
        rw [after, ahead]
        simp only [List.cons_append, List.length_cons, List.length_append]
        omega
      exact ⟨acc, ds.length, c.skipDigits, after,
        congrArg (fun k => (acc, k, c.skipDigits)) dropped⟩
    · next room =>
      exact ih (continued acc d) c.next (Cursor.next_rest ahead)
        (fun d member => allDigits d (List.mem_cons_of_mem _ member)) (Nat.le_of_not_lt room) beyond

/-- A number that is no integer of 64 bits is a float, or too large for one. -/
theorem number_beyond (negative : Bool) {n : Nat} (spelled : Spells ds n)
    (beyond : significandLimit < n) (ends : EndsNumber mark) {c : Cursor}
    (ahead : c.rest = ds ++ mark :: rest) :
    (∃ fault, number negative c = .error fault) ∨
      ∃ word c', number negative c = .ok (.float word, c') := by
  obtain ⟨stop, plain⟩ := ends
  obtain ⟨d, more, shape⟩ := List.exists_cons_of_ne_nil spelled.nonempty
  have digit : isDigit d = true := spelled.allDigits d (shape ▸ List.mem_cons_self)
  have first : c.rest = d :: (more ++ mark :: rest) := by rw [ahead, shape, List.cons_append]
  have noZero : ¬(d = 0x30 ∧ c.next.sees isDigit = true) := by
    rintro ⟨zero, -⟩
    have alone := spelled.noLeadingZero (by rw [shape, zero]; rfl)
    have value := spelled.value
    rw [alone] at value
    subst value
    exact absurd beyond (by decide)
  obtain ⟨significand, surplus, c', behind, read⟩ := wholeDigits_surplus 0 c ahead
    spelled.allDigits stop (by decide) (by rw [spelled.value]; exact beyond)
  have noPoint : (mark == 0x2e) = false ∧ isExponentMark mark = false :=
    Bool.or_eq_false_iff.mp plain
  have float : number negative c = floatOf negative significand ((surplus + 1 : Nat) : Int) c' := by
    rw [number, Cursor.peek?_of_ahead first]
    dsimp only
    rw [if_neg noZero, if_pos digit, ahead, read]
    show afterInteger negative significand ((surplus + 1 : Nat) : Int) c' = _
    rw [afterInteger, Cursor.seesByte_of_ahead behind, noPoint.1, if_neg Bool.false_ne_true,
      exponentOrEnd, Cursor.sees_of_ahead behind, noPoint.2, if_neg Bool.false_ne_true]
  rw [float, floatOf]
  cases scaledWord 3 (Decimal.binary64.nearest significand 1) _ with
  | none => exact .inl ⟨_, rfl⟩
  | some word => exact .inr ⟨_, c', rfl⟩

end

theorem refuses_integer {low high : Nat} (expected : String) {n : Int} {mark : UInt8}
    {rest : List UInt8} (outside : ¬(-(low : Int) ≤ n ∧ n ≤ high)) (ends : EndsNumber mark)
    {c : Cursor} (ahead : c.rest = numeral n ++ mark :: rest) :
    ∃ fault, integer low high expected c = .error fault := by
  cases n with
  | ofNat n =>
    rw [numeral_ofNat] at ahead
    have spelled := spells_digits n
    obtain ⟨d, more, shape⟩ := List.exists_cons_of_ne_nil spelled.nonempty
    have first : c.rest = d :: (more ++ mark :: rest) := by rw [ahead, shape, List.cons_append]
    have digit : isDigit d = true := spelled.allDigits d (by rw [shape]; exact List.mem_cons_self)
    obtain ⟨notBlank, notMinus⟩ := plain_of_digit digit
    simp only [integer]
    rw [Cursor.skipBlanks_of_ahead first notBlank, Cursor.seesByte_of_ahead first, notMinus,
      if_neg Bool.false_ne_true, Cursor.sees_of_ahead first, if_pos digit]
    rcases Nat.lt_or_ge significandLimit n with beyond | room
    · rcases number_beyond false spelled beyond ends ahead with ⟨fault, read⟩ | ⟨word, c', read⟩
      · exact ⟨fault, by rw [read]; rfl⟩
      · rw [read]
        exact ⟨_, rfl⟩
    · obtain ⟨c', behind, read⟩ := takes_number false spelled room ends c ahead
      rw [read]
      exact ⟨_, if_neg outside⟩
  | negSucc n =>
    rw [numeral_negSucc] at ahead
    have spelled := spells_digits (n + 1)
    have inside := Cursor.next_rest ahead
    simp only [integer]
    rw [Cursor.skipBlanks_of_ahead ahead rfl, Cursor.seesByte_of_ahead ahead, beq_self_eq_true,
      if_pos rfl]
    rcases Nat.lt_or_ge significandLimit (n + 1) with beyond | room
    · rcases number_beyond true spelled beyond ends inside with ⟨fault, read⟩ | ⟨word, c', read⟩
      · exact ⟨fault, by rw [read]; rfl⟩
      · rw [read]
        exact ⟨_, rfl⟩
    · obtain ⟨c', behind, read⟩ := takes_number true spelled room ends c.next inside
      rw [read, whole, if_pos rfl]
      split
      · exact ⟨_, rfl⟩
      · exact ⟨_, if_neg outside⟩

theorem numeral_head (n : Int) : ∃ b bs, numeral n = b :: bs ∧ isBlank b = false := by
  cases n with
  | ofNat n =>
    have spelled := spells_digits n
    obtain ⟨d, more, shape⟩ := List.exists_cons_of_ne_nil spelled.nonempty
    have digit : isDigit d = true := spelled.allDigits d (by rw [shape]; exact List.mem_cons_self)
    exact ⟨d, more, shape, (plain_of_digit digit).1⟩
  | negSucc n => exact ⟨_, _, numeral_negSucc n, rfl⟩

theorem integer_of_faces {low high : Nat} (expected : String) (n : Int) {mark : UInt8}
    {rest : List UInt8} (lowFits : low ≤ 0x8000000000000000) (highFits : high ≤ significandLimit)
    (isEnd : IsEnd mark) {c : Cursor} (faces : c.Faces (numeral n ++ mark :: rest)) :
    if -(low : Int) ≤ n ∧ n ≤ high then
      ∃ c', c'.rest = mark :: rest ∧ integer low high expected c = .ok (n, c')
    else ∃ fault, integer low high expected c = .error fault := by
  obtain ⟨b, bs, bytes, noBlank⟩ := numeral_head n
  have ahead : c.skipBlanks.rest = numeral n ++ mark :: rest := by
    rw [faces, bytes, List.cons_append, List.dropWhile_cons, noBlank]
    rfl
  have same : integer low high expected c.skipBlanks = integer low high expected c := by
    simp only [integer, Cursor.skipBlanks_skipBlanks]
  rw [← same]
  split
  · next inside =>
    exact takes_integer low high expected n rest inside.1 inside.2 lowFits highFits isEnd.endsNumber
      _ ahead
  · next outside => exact refuses_integer expected outside isEnd.endsNumber ahead

end CheckIn.Json
