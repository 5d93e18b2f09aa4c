import CheckIn.Proofs.Cbor.Reading
import CheckIn.Proofs.Text.Utf8

/-! The loop over the chunks of a text, round by round. Between two rounds the bytes before the cursor
are the characters read so far and a few bytes at whose start none stands, so the loop comes to the
same end as a look at the bytes as a whole. It comes to it soon: every chunk but the last takes at least
4093 bytes off the input. -/
namespace CheckIn.Cbor

open Text.Utf8

theorem chunks_next (start fuel : Nat) (carried : List UInt8) (unread : Nat) (c : Cursor) :
    chunks start (fuel + 1) carried (unread + 1) c = (do
      let fresh := min scratch (carried.length + (unread + 1)) - carried.length
      let (bs, c) ← c.take fresh
      if carriedLimit < (scan (carried ++ bs)).2.length then .error (.malformed start)
      else
        let (rest, c) ← chunks start fuel (scan (carried ++ bs)).2 (unread + 1 - fresh) c
        .ok ((scan (carried ++ bs)).1 ++ rest, c)) := by
  rw [chunks]

/-- Where the loop stands between two chunks. -/
structure Chunking where
  characters : List Char
  carried : List UInt8
  unread : Nat
  cursor : Cursor

namespace Chunking

/-- Bytes that the next chunk takes off the input; the carried ones stand in front of them. -/
def fresh (s : Chunking) : Nat := min scratch (s.carried.length + s.unread) - s.carried.length

/-- A round of the loop, which ends it or goes on behind one more chunk. -/
def round (start : Nat) (s : Chunking) : Except Fault (List Char × Cursor) ⊕ Chunking :=
  if s.unread = 0 then
    .inl (if s.carried.isEmpty then .ok (s.characters, s.cursor) else .error (.malformed start))
  else match s.cursor.take s.fresh with
    | .error fault => .inl (.error fault)
    | .ok (bs, next) =>
      let (cs, left) := scan (s.carried ++ bs)
      if carriedLimit < left.length then .inl (.error (.malformed start))
      else .inr ⟨s.characters ++ cs, left, s.unread - s.fresh, next⟩

/-- Where the loop stands after some chunks of a text of known length. -/
inductive After (start length : Nat) (c : Cursor) : Nat → Chunking → Prop where
  | none : After start length c 0 ⟨[], [], length, c⟩
  | next : After start length c n s → s.round start = .inr s' → After start length c (n + 1) s'

/-- What a round can come to. -/
inductive Round (start : Nat) (s : Chunking) :
    Except Fault (List Char × Cursor) ⊕ Chunking → Prop where
  | done : s.unread = 0 → s.carried = [] → Round start s (.inl (.ok (s.characters, s.cursor)))
  | unfinished : s.unread = 0 → s.carried ≠ [] → Round start s (.inl (.error (.malformed start)))
  | cut : s.unread ≠ 0 → s.cursor.take s.fresh = .error fault → Round start s (.inl (.error fault))
  | broken : s.unread ≠ 0 → s.cursor.take s.fresh = .ok (bs, next) →
      carriedLimit < (scan (s.carried ++ bs)).2.length →
      Round start s (.inl (.error (.malformed start)))
  | further : s.unread ≠ 0 → s.cursor.take s.fresh = .ok (bs, next) →
      (scan (s.carried ++ bs)).2.length ≤ carriedLimit →
      Round start s (.inr ⟨s.characters ++ (scan (s.carried ++ bs)).1, (scan (s.carried ++ bs)).2,
        s.unread - s.fresh, next⟩)

variable {start length : Nat} {c : Cursor} {s s' : Chunking}

theorem round_cases {outcome : Except Fault (List Char × Cursor) ⊕ Chunking}
    (h : s.round start = outcome) : Round start s outcome := by
  subst h
  unfold round
  by_cases read : s.unread = 0
  · rw [if_pos read]
    by_cases empty : s.carried = []
    · rw [if_pos (List.isEmpty_iff.mpr empty)]
      exact .done read empty
    · rw [if_neg (mt List.isEmpty_iff.mp empty)]
      exact .unfinished read empty
  · rw [if_neg read]
    cases taken : s.cursor.take s.fresh with
    | error fault => exact .cut read taken
    | ok r =>
      dsimp only
      by_cases long : carriedLimit < (scan (s.carried ++ r.1)).2.length
      · rw [if_pos long]
        exact .broken read taken long
      · rw [if_neg long]
        exact .further read taken (Nat.le_of_not_lt long)

/-- What holds between two chunks: the bytes before the cursor are characters read and bytes that hold
none, which are few. -/
structure Between (length : Nat) (c : Cursor) (s : Chunking) : Prop where
  moved : c.Moves (encode s.characters ++ s.carried) s.cursor
  total : (encode s.characters ++ s.carried).length + s.unread = length
  unfinished : scan s.carried = ([], s.carried)
  short : s.carried.length ≤ carriedLimit

theorem fresh_bounds (short : s.carried.length ≤ carriedLimit) (more : s.unread ≠ 0) :
    (s.fresh = s.unread ∨ 4093 ≤ s.fresh) ∧ 0 < s.fresh ∧ s.fresh ≤ s.unread := by
  simp only [fresh, carriedLimit, scratch] at *
  omega

theorem chunk_le_scratch (short : s.carried.length ≤ carriedLimit) :
    s.carried.length + s.fresh ≤ scratch := by
  simp only [fresh, carriedLimit, scratch] at *
  omega

theorem between_none (length : Nat) (c : Cursor) : Between length c ⟨[], [], length, c⟩ where
  moved := Cursor.Moves.nil_iff.mpr rfl
  total := by simp [encode]
  unfinished := rfl
  short := Nat.zero_le _

theorem Between.next (h : Between length c s) (further : s.round start = .inr s') :
    Between length c s' := by
  cases round_cases further with
  | @further bs next more taken few =>
    obtain ⟨_, moved, rfl, count⟩ := (Reads.take _).sound taken
    have bounds := fresh_bounds h.short more
    have total := h.total
    -- The chunk is read together with the bytes carried into it.
    have split : encode (s.characters ++ (scan (s.carried ++ bs)).1) ++ (scan (s.carried ++ bs)).2 =
        encode s.characters ++ s.carried ++ bs := by
      rw [encode_append, List.append_assoc, encode_scan, List.append_assoc]
    refine ⟨?_, ?_, scan_left _, few⟩
    · rw [split]
      exact h.moved.trans moved
    · rw [split]
      simp only [List.length_append] at total ⊢
      omega

theorem After.between {n : Nat} (after : After start length c n s) : Between length c s := by
  induction after with
  | none => exact between_none length c
  | next _ further ih => exact ih.next further

theorem Between.unread_lt (h : Between length c s) (further : s.round start = .inr s') :
    s'.unread < s.unread := by
  cases round_cases further with
  | further more =>
    have bounds := fresh_bounds h.short more
    dsimp only
    omega

theorem After.rounds {n : Nat} (after : After start length c n s) :
    4093 * n + s.unread ≤ length ∨ s.unread = 0 ∧ 4093 * n < length + 4093 := by
  induction after with
  | none => simp
  | @next n s s' after further ih =>
    cases round_cases further with
    | further more =>
      have bounds := fresh_bounds after.between.short more
      dsimp only
      omega

theorem After.rounds_lt {n : Nat} (after : After start length c n s) :
    4093 * n < length + 4093 := by
  rcases after.rounds with full | ⟨-, last⟩
  · omega
  · exact last

def finish (start fuel : Nat) (s : Chunking) : Except Fault (List Char × Cursor) :=
  (chunks start fuel s.carried s.unread s.cursor).map fun r => (s.characters ++ r.1, r.2)

theorem round_of_read (start fuel : Nat) (read : s.unread = 0) :
    s.round start = .inl (s.finish start fuel) := by
  cases fuel <;> by_cases empty : s.carried = [] <;>
    simp [round, finish, chunks, read, empty, Except.map]

theorem finish_succ (start fuel : Nat) (s : Chunking) :
    s.finish start (fuel + 1) = match s.round start with
      | .inl result => result
      | .inr s' => s'.finish start fuel := by
  obtain ⟨cs, carried, unread, c⟩ := s
  cases unread with
  | zero => rw [round_of_read start (fuel + 1) rfl]
  | succ unread =>
    simp only [finish, chunks_next, round, fresh, Nat.succ_ne_zero, if_false]
    generalize min scratch (carried.length + (unread + 1)) - carried.length = n
    cases c.take n with
    | error fault => rfl
    | ok r =>
      by_cases long : carriedLimit < (scan (carried ++ r.1)).2.length
      · simp [long, Bind.bind, Except.bind, Except.map]
      · simp only [long, Bind.bind, Except.bind, if_false]
        cases chunks start fuel (scan (carried ++ r.1)).2 (unread + 1 - n) r.2 with
        | error fault => rfl
        | ok r' => simp [Except.map]

/-- With fuel for all unread bytes the loop goes on to its end. -/
theorem After.ends {n : Nat} (after : After start length c n s) {fuel : Nat}
    (enough : s.unread ≤ fuel) :
    ∃ m s', After start length c m s' ∧ s'.round start = .inl (s.finish start fuel) := by
  induction fuel generalizing n s with
  | zero => exact ⟨n, s, after, round_of_read start 0 (Nat.le_zero.mp enough)⟩
  | succ fuel ih =>
    rw [finish_succ]
    cases round : s.round start with
    | inl result => exact ⟨n, s, after, round⟩
    | inr s' =>
      have fewer := after.between.unread_lt round
      exact ih (after.next round) (by omega)

end Chunking

/-- The chunks of a text come to an end, and that is what is read. -/
theorem textSegment_ends (start length : Nat) (c : Cursor) :
    ∃ n s, Chunking.After start length c n s ∧ s.round start = .inl (textSegment start length c) := by
  have first : Chunking.After start length c 0 ⟨[], [], length, c⟩ := .none
  obtain ⟨n, s, after, ended⟩ := first.ends (Nat.le_refl length)
  refine ⟨n, s, after, ended.trans ?_⟩
  rw [Chunking.finish, textSegment]
  cases chunks start length [] length c <;> rfl

/-- What is to come of a text of known length: the characters, if a text of this length stands here. If
none does, its bytes are at fault, unless there are not enough of them. -/
inductive Judged (start length : Nat) (c : Cursor) : Except Fault (List Char × Cursor) → Prop where
  | text : c.Moves (encode cs) c' → (encode cs).length = length → Judged start length c (.ok (cs, c'))
  | malformed : (∀ cs c', c.Moves (encode cs) c' → (encode cs).length ≠ length) →
      Judged start length c (.error (.malformed start))
  | cut : c.rest.length < length → Judged start length c (.error .endOfInput)

section

variable {start length : Nat} {c c' : Cursor}

theorem left_of_text {cs ds : List Char} {bs : List UInt8} {next : Cursor}
    (moved : c.Moves (encode cs ++ bs) next) (text : c.Moves (encode ds) c')
    (le : (encode cs ++ bs).length ≤ (encode ds).length) : (scan bs).2.length ≤ 3 := by
  obtain ⟨w, split⟩ := moved.exists_append text le
  have few := (scan_cut split.symm).1
  rwa [scan_encode] at few

theorem Chunking.Between.judged {s : Chunking} {result : Except Fault (List Char × Cursor)}
    (h : Between length c s) (ended : s.round start = .inl result) :
    Judged start length c result := by
  have total := h.total
  cases round_cases ended with
  | done read empty =>
    have moved := h.moved
    rw [empty, List.append_nil] at moved
    exact .text moved (by simpa [read, empty] using total)
  | unfinished read left =>
    refine .malformed fun ds last text same => left ?_
    have whole : encode s.characters ++ s.carried = encode ds :=
      (h.moved.unique text (by omega)).1
    have walk := scan_encode s.characters s.carried
    rw [whole, scan_text, h.unfinished, Prod.mk.injEq] at walk
    exact walk.2.symm
  | cut more failed =>
    obtain ⟨rfl, few⟩ := Cursor.take_eq_error failed
    have bounds := fresh_bounds h.short more
    refine .cut ?_
    rw [h.moved.rest, List.length_append]
    omega
  | @broken bs next more taken long =>
    obtain ⟨_, moved, rfl, count⟩ := (Reads.take _).sound taken
    have bounds := fresh_bounds h.short more
    refine .malformed fun ds last text same => ?_
    have behind := h.moved.trans moved
    rw [List.append_assoc] at behind
    simp only [List.length_append] at total
    have few := left_of_text behind text (by simp only [List.length_append]; omega)
    exact absurd long (Nat.not_lt.mpr few)

theorem textSegment_judged (start length : Nat) (c : Cursor) :
    Judged start length c (textSegment start length c) := by
  obtain ⟨n, s, after, ended⟩ := textSegment_ends start length c
  exact after.between.judged ended

/-- A text that is looked at whole has the verdict of the loop. -/
theorem definiteText_judged (start length : Nat) (c : Cursor) :
    Judged start length c (definiteText start length c) := by
  unfold definiteText
  by_cases fits : length ≤ scratch
  · rw [if_pos fits]
    cases taken : c.take length with
    | error fault =>
      obtain ⟨rfl, few⟩ := Cursor.take_eq_error taken
      exact .cut few
    | ok r =>
      obtain ⟨_, moved, same, count⟩ := (Reads.take length).sound taken
      simp only [Bind.bind, Except.bind]
      cases read : decode? r.1 with
      | some cs =>
        rw [← same, decode?_eq_some_iff.mp read] at moved count
        exact .text moved count
      | none =>
        refine .malformed fun ds last text whole => ?_
        have same : r.1 = encode ds := by
          rw [same]
          exact (moved.unique text (by omega)).1
        rw [decode?_eq_some_iff.mpr same] at read
        cases read
  · rw [if_neg fits]
    exact textSegment_judged start length c

theorem Judged.eq_of_text {result : Except Fault (List Char × Cursor)} {cs : List Char}
    (verdict : Judged start length c result) (moved : c.Moves (encode cs) c')
    (count : (encode cs).length = length) : result = .ok (cs, c') := by
  cases verdict with
  | @text ds last moved' count' =>
    obtain ⟨same, rfl⟩ := moved'.unique moved (count'.trans count.symm)
    have walk := scan_text ds
    rw [same, scan_text, Prod.mk.injEq] at walk
    rw [walk.1]
  | malformed absent => exact absurd count (absent cs c' moved)
  | cut few =>
    have enough := moved.length_le
    omega

end

end CheckIn.Cbor
