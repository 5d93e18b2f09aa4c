import CheckIn.Proofs.Text.Utf8

/-! The lossy reader against the rule for repairing bytes: characters stay, and where none stands
the longest beginning of one, or else a single byte, is replaced. The rule speaks of the encodings
of characters only and knows no byte machine. -/
namespace CheckIn.Text.Utf8

/-- Bytes with which the encoding of some character begins. -/
def Begins (part : List UInt8) : Prop := ∃ c, part <+: String.utf8EncodeChar c

/-- Bytes that can be replaced as one: a beginning of a character or a single byte. -/
def Replaceable (part : List UInt8) : Prop := part ≠ [] ∧ (Begins part ∨ part.length = 1)

/-- A maximal ill-formed part in front of `rest`: no character stands at its start, and no longer
part from there can be replaced as one. -/
structure IllFormed (part rest : List UInt8) : Prop where
  unreadable : ∀ c, ¬ String.utf8EncodeChar c <+: part ++ rest
  replaceable : Replaceable part
  longest : ∀ other, other <+: part ++ rest → Replaceable other → other.length ≤ part.length

/-- Bytes and the text that repairing makes of them. -/
inductive Repaired : List UInt8 → List Char → Prop where
  | done : Repaired [] []
  | kept (c : Char) : Repaired rest cs → Repaired (String.utf8EncodeChar c ++ rest) (c :: cs)
  | replaced : IllFormed part rest → Repaired rest cs → Repaired (part ++ rest) (replacement :: cs)

/-- What may come next inside a character: some trailing bytes, and only such. -/
def Window (low high : UInt8) : Prop := 0x80 ≤ low ∧ low ≤ high ∧ high ≤ 0xbf

theorem window_full : Window 0x80 0xbf := by
  unfold Window
  decide

theorem lead_window {b low high : UInt8} (first : lead b = .more (.within scalar due low high)) :
    Window low high := by
  rcases lead_class b with ascii | refused | ⟨l, u⟩ | ⟨l, u⟩ | ⟨l, u⟩
  · simp [lead_ascii ascii] at first
  · simp [lead_refused refused] at first
  · rw [lead_two l u, Verdict.more.injEq, Progress.within.injEq] at first
    obtain ⟨-, -, rfl, rfl⟩ := first
    exact window_full
  · rw [lead_three l u, Verdict.more.injEq, Progress.within.injEq] at first
    obtain ⟨-, -, rfl, rfl⟩ := first
    simp only [Window, UInt8.le_iff_toNat_le, apply_ite UInt8.toNat, UInt8.reduceToNat]
    split <;> split <;> omega
  · rw [lead_four l u, Verdict.more.injEq, Progress.within.injEq] at first
    obtain ⟨-, -, rfl, rfl⟩ := first
    simp only [Window, UInt8.le_iff_toNat_le, apply_ite UInt8.toNat, UInt8.reduceToNat]
    split <;> split <;> omega

section reached

variable {held rest : List UInt8} {p : Progress} {b : UInt8}

theorem Reached.window {low high : UInt8} (h : Reached held (.within scalar due low high)) :
    Window low high := by
  cases h with
  | @more _ p b _ _ verdict =>
    cases p with
    | boundary => exact lead_window verdict
    | within scalar due low high =>
      simp only [step] at verdict
      split at verdict
      · cases due with
        | zero => cases verdict
        | succ due =>
          simp only [Verdict.more.injEq, Progress.within.injEq] at verdict
          obtain ⟨-, -, rfl, rfl⟩ := verdict
          exact window_full
      · cases verdict

theorem Reached.begins {low high : UInt8} (h : Reached held (.within scalar due low high)) :
    Begins held.reverse := by
  let tail := low :: List.replicate due 0x80
  have trailing : ∀ x ∈ List.replicate due (0x80 : UInt8), Trailing x := by
    intro x member
    rw [List.eq_of_mem_replicate member, Trailing]
    decide
  have finished := scanFrom_trailing scalar held [] (UInt8.le_refl low) h.window.2.1
    (List.replicate due 0x80) trailing
  rw [List.length_replicate, List.append_nil, ← scan_of_reached h] at finished
  have whole := encode_scan (held.reverse ++ tail)
  simp only [tail, finished] at whole
  exact ⟨_, tail, by simpa [encode, scan, scanFrom] using whole.symm⟩

theorem Reached.encodeChar (h : Reached held p) (verdict : step p b = .char c) :
    held.reverse ++ [b] = String.utf8EncodeChar c := by
  have finished : scan (held.reverse ++ [b]) = ([c], []) := by
    rw [scan_of_reached h, scanFrom, verdict]
    rfl
  have whole := encode_scan (held.reverse ++ [b])
  rw [finished] at whole
  simpa [encode] using whole.symm

theorem Reached.unreadable (h : Reached held p) (stopped : (scanFrom p held rest).1 = [])
    (c : Char) : ¬ String.utf8EncodeChar c <+: held.reverse ++ rest := by
  rintro ⟨behind, split⟩
  rw [← scan_of_reached h, ← split, scan_encodeChar] at stopped
  cases stopped

theorem Reached.not_begins (h : Reached held p) (refused : step p b = .refused) :
    ¬ Begins (held.reverse ++ [b]) := by
  rintro ⟨c, tail, split⟩
  have read := scan_text [c]
  rw [encode, List.flatMap_singleton, ← split, List.append_assoc, scan_of_reached h,
    List.singleton_append, scanFrom, refused] at read
  cases read

theorem Reached.length_le_of_begins {other : List UInt8} (h : Reached held p)
    (refused : step p b = .refused) (front : other <+: held.reverse ++ b :: rest)
    (begins : Begins other) : other.length ≤ held.length := by
  refine Nat.le_of_not_lt fun longer => ?_
  have reaches : held.reverse ++ [b] <+: held.reverse ++ b :: rest := by simp
  have inside : held.reverse ++ [b] <+: other :=
    List.prefix_of_prefix_length_le reaches front (by simp; omega)
  obtain ⟨c, start⟩ := begins
  exact h.not_begins refused ⟨c, inside.trans start⟩

theorem Reached.replaceable (h : Reached held p) (inside : p ≠ .boundary) :
    Replaceable held.reverse := by
  cases p with
  | boundary => exact absurd rfl inside
  | within =>
    refine ⟨?_, .inl h.begins⟩
    cases h
    simp

theorem Reached.illFormed_end (h : Reached held p) (inside : p ≠ .boundary) :
    IllFormed held.reverse [] := by
  refine ⟨h.unreadable rfl, h.replaceable inside, fun other front _ => ?_⟩
  rw [List.append_nil] at front
  exact front.length_le

theorem Reached.illFormed_refused (h : Reached held p) (inside : p ≠ .boundary)
    (refused : step p b = .refused) : IllFormed held.reverse (b :: rest) := by
  have some_held : 1 ≤ held.length := by
    rw [← List.length_reverse]
    exact List.length_pos_iff.mpr (h.replaceable inside).1
  refine ⟨h.unreadable (by rw [scanFrom, refused]), h.replaceable inside, ?_⟩
  rintro other front ⟨-, begins | single⟩
  · rw [List.length_reverse]
    exact h.length_le_of_begins refused front begins
  · rwa [single, List.length_reverse]

theorem illFormed_byte (refused : lead b = .refused) : IllFormed [b] rest := by
  have stopped : (scanFrom .boundary [] (b :: rest)).1 = [] := by
    rw [scanFrom, step, refused]
  refine ⟨Reached.start.unreadable stopped, ⟨by simp, .inr rfl⟩, ?_⟩
  rintro other front ⟨-, begins | single⟩
  · exact Nat.le_succ_of_le (Reached.start.length_le_of_begins refused front begins)
  · exact Nat.le_of_eq single

end reached

section

variable {held bs : List UInt8} {p : Progress} {b : UInt8}

theorem lossyFrom_nil (inside : p ≠ .boundary) : lossyFrom p [] = [replacement] := by
  cases p with
  | boundary => exact absurd rfl inside
  | within => rfl

theorem lossyFrom_more (verdict : step p b = .more q) : lossyFrom p (b :: bs) = lossyFrom q bs := by
  cases p <;> simp only [lossyFrom, verdict]

theorem lossyFrom_char (verdict : step p b = .char c) : lossyFrom p (b :: bs) = c :: lossy bs := by
  cases p <;> simp only [lossyFrom, verdict, lossy]

theorem lossy_refused (refused : lead b = .refused) :
    lossy (b :: bs) = replacement :: lossy bs := by
  simp only [lossy, lossyFrom, step, refused]

theorem lossyFrom_refused (inside : p ≠ .boundary) (refused : step p b = .refused) :
    lossyFrom p (b :: bs) = replacement :: lossy (b :: bs) := by
  cases p with
  | boundary => exact absurd rfl inside
  | within =>
    simp only [lossyFrom, refused]
    cases first : lead b with
    | more q => rw [lossy, lossyFrom_more (p := .boundary) first]
    | char c => rw [lossy, lossyFrom_char (p := .boundary) first, lossy]
    | refused => rw [lossy_refused first, lossy]

/-- A byte adds the same to the text whatever follows it, and that is a repair of the bytes it uses
up: those held until now, without those held from now on. -/
def Settles (held : List UInt8) (p : Progress) (b : UInt8) : Prop :=
  ∃ front held' q, Reached held' q ∧ ∀ bs, lossyFrom p (b :: bs) = front ++ lossyFrom q bs ∧
    ∀ cs, Repaired (held'.reverse ++ bs) cs → Repaired (held.reverse ++ b :: bs) (front ++ cs)

theorem Reached.settles_taken (h : Reached held p) (taken : step p b ≠ .refused) :
    Settles held p b := by
  cases verdict : step p b with
  | refused => exact absurd verdict taken
  | more q =>
    refine ⟨[], _, q, h.more verdict, fun bs => ⟨lossyFrom_more verdict, fun cs repaired => ?_⟩⟩
    simpa using repaired
  | char c =>
    refine ⟨[c], [], .boundary, .start, fun bs => ⟨lossyFrom_char verdict, fun cs repaired => ?_⟩⟩
    have last : held.reverse ++ b :: bs = String.utf8EncodeChar c ++ bs := by
      rw [← h.encodeChar verdict, List.append_assoc, List.singleton_append]
    rw [last]
    exact .kept c repaired

theorem Reached.settles (h : Reached held p) (b : UInt8) : Settles held p b := by
  -- A byte refused inside a character is repaired as the first of what is left.
  have fresh : Settles [] .boundary b := by
    by_cases refused : lead b = .refused
    · refine ⟨[replacement], [], .boundary, .start, fun bs => ⟨lossy_refused refused, ?_⟩⟩
      intro cs repaired
      have single : Repaired ([b] ++ bs) (replacement :: cs) :=
        .replaced (illFormed_byte refused) repaired
      exact single
    · exact Reached.start.settles_taken refused
  by_cases refused : step p b = .refused
  · by_cases inside : p = .boundary
    · subst inside
      rw [h.length_le.2 rfl]
      exact fresh
    · obtain ⟨front, held', q, reached, read⟩ := fresh
      refine ⟨replacement :: front, held', q, reached, fun bs => ⟨?_, fun cs repaired => ?_⟩⟩
      · rw [lossyFrom_refused inside refused, lossy, (read bs).1, List.cons_append]
      · exact .replaced (h.illFormed_refused inside refused) ((read bs).2 cs repaired)
  · exact h.settles_taken refused

theorem repaired_lossyFrom (h : Reached held p) (bs : List UInt8) :
    Repaired (held.reverse ++ bs) (lossyFrom p bs) := by
  induction bs generalizing held p with
  | nil =>
    by_cases inside : p = .boundary
    · subst inside
      rw [h.length_le.2 rfl]
      exact .done
    · rw [lossyFrom_nil inside]
      exact .replaced (h.illFormed_end inside) .done
  | cons b bs ih =>
    obtain ⟨front, held', q, reached, settled⟩ := h.settles b
    rw [(settled bs).1]
    exact (settled bs).2 _ (ih reached)

end

theorem encodeChar_append_inj {c d : Char} {xs ys : List UInt8}
    (same : String.utf8EncodeChar c ++ xs = String.utf8EncodeChar d ++ ys) : c = d ∧ xs = ys := by
  have read := congrArg scan same
  rw [scan_encodeChar, scan_encodeChar, Prod.mk.injEq, List.cons.injEq] at read
  obtain ⟨rfl, -⟩ := read.1
  exact ⟨rfl, List.append_cancel_left same⟩

theorem IllFormed.append_inj {part other xs ys : List UInt8} (first : IllFormed part xs)
    (second : IllFormed other ys) (same : part ++ xs = other ++ ys) : part = other ∧ xs = ys := by
  have shorter : other.length ≤ part.length :=
    first.longest other (same ▸ List.prefix_append other ys) second.replaceable
  have longer : part.length ≤ other.length :=
    second.longest part (same ▸ List.prefix_append part xs) first.replaceable
  exact List.append_inj same (Nat.le_antisymm longer shorter)

theorem IllFormed.ne_encodeChar {part xs ys : List UInt8} {c : Char} (ill : IllFormed part xs) :
    part ++ xs ≠ String.utf8EncodeChar c ++ ys := by
  intro same
  exact ill.unreadable c (same ▸ List.prefix_append _ ys)

theorem Repaired.unique {bs : List UInt8} {cs ds : List Char} (first : Repaired bs cs)
    (second : Repaired bs ds) : cs = ds := by
  induction first generalizing ds with
  | done =>
    generalize none_left : ([] : List UInt8) = bs at second
    cases second with
    | done => rfl
    | kept c => simp [String.utf8EncodeChar_ne_nil] at none_left
    | replaced ill =>
      obtain ⟨empty, -⟩ := List.append_eq_nil_iff.mp none_left.symm
      exact absurd empty ill.replaceable.1
  | @kept rest cs c _ ih =>
    generalize same : String.utf8EncodeChar c ++ rest = bs at second
    cases second with
    | done => simp [String.utf8EncodeChar_ne_nil] at same
    | kept d later =>
      obtain ⟨rfl, rfl⟩ := encodeChar_append_inj same
      rw [ih later]
    | replaced ill => exact absurd same.symm ill.ne_encodeChar
  | @replaced part rest cs ill _ ih =>
    generalize same : part ++ rest = bs at second
    cases second with
    | done =>
      obtain ⟨empty, -⟩ := List.append_eq_nil_iff.mp same
      exact absurd empty ill.replaceable.1
    | kept c => exact absurd same ill.ne_encodeChar
    | replaced other later =>
      obtain ⟨rfl, rfl⟩ := ill.append_inj other same
      rw [ih later]

/-- The lossy reader repairs, and repairing has one result. -/
theorem repaired_iff {bs : List UInt8} {cs : List Char} : Repaired bs cs ↔ cs = lossy bs := by
  constructor
  · intro repaired
    exact repaired.unique (repaired_lossyFrom .start bs)
  · rintro rfl
    exact repaired_lossyFrom .start bs

theorem Repaired.eq_nil_iff {bs : List UInt8} {cs : List Char} (repaired : Repaired bs cs) :
    cs = [] ↔ bs = [] := by
  cases repaired with
  | done => simp
  | kept c => simp [String.utf8EncodeChar_ne_nil]
  | replaced ill => simp [ill.replaceable.1]

theorem step_refused_of_lead {held : List UInt8} {p : Progress} {a : UInt8} (h : Reached held p)
    (inside : p ≠ .boundary) (first : lead a ≠ .refused) : step p a = .refused := by
  cases p with
  | boundary => exact absurd rfl inside
  | within scalar due low high =>
    obtain ⟨least, -, most⟩ := h.window
    rw [step, if_neg]
    rintro ⟨above, below⟩
    have bounds : 0x80 ≤ a.toNat ∧ a.toNat ≤ 0xbf :=
      ⟨UInt8.le_trans least above, UInt8.le_trans below most⟩
    exact first (lead_refused (.inl (by omega)))

theorem encodeChar_head (c : Char) :
    ∃ a tail, String.utf8EncodeChar c = a :: tail ∧ lead a ≠ .refused := by
  rcases encodeChar_accepted c with ⟨a, bytes, first⟩ | ⟨a, b, tail, _, _, _, bytes, first, -⟩
  · exact ⟨a, [], bytes, by simp [first]⟩
  · exact ⟨a, b :: tail, bytes, by simp [first]⟩

theorem lossyFrom_encodeChar {held : List UInt8} {p : Progress} (h : Reached held p) (c : Char)
    (rest : List UInt8) :
    lossyFrom p (String.utf8EncodeChar c ++ rest) =
      lossyFrom p [] ++ lossy (String.utf8EncodeChar c ++ rest) := by
  by_cases inside : p = .boundary
  · subst inside
    rfl
  · obtain ⟨a, tail, bytes, first⟩ := encodeChar_head c
    rw [bytes, List.cons_append, lossyFrom_nil inside,
      lossyFrom_refused inside (step_refused_of_lead h inside first)]
    rfl

theorem lossyFrom_append_encodeChar {held : List UInt8} {p : Progress} (h : Reached held p)
    (bs : List UInt8) (c : Char) (rest : List UInt8) :
    lossyFrom p (bs ++ (String.utf8EncodeChar c ++ rest)) =
      lossyFrom p bs ++ lossy (String.utf8EncodeChar c ++ rest) := by
  induction bs generalizing held p with
  | nil => exact lossyFrom_encodeChar h c rest
  | cons b bs ih =>
    obtain ⟨front, held', q, reached, settled⟩ := h.settles b
    rw [List.cons_append, (settled _).1, (settled _).1, ih reached, List.append_assoc]

theorem Repaired.behind {bs : List UInt8} {ds : List Char} (repaired : Repaired bs ds)
    (cs : List Char) : Repaired (encode cs ++ bs) (cs ++ ds) := by
  induction cs with
  | nil => exact repaired
  | cons c cs ih =>
    rw [encode, List.flatMap_cons, List.append_assoc]
    exact .kept c ih

theorem lossy_encode_append (cs : List Char) (bs : List UInt8) :
    lossy (encode cs ++ bs) = cs ++ lossy bs :=
  (repaired_iff.mp ((repaired_iff.mpr rfl).behind cs)).symm

theorem lossy_encode (cs : List Char) : lossy (encode cs) = cs := by
  simpa [lossy, lossyFrom] using lossy_encode_append cs []

/-- A stretch of text is kept whatever stands around it, and is repaired around as if it were not
there. -/
theorem lossy_stretch (before after : List UInt8) {cs : List Char} (stretch : cs ≠ []) :
    lossy (before ++ encode cs ++ after) = lossy before ++ cs ++ lossy after := by
  cases cs with
  | nil => exact absurd rfl stretch
  | cons c cs =>
    rw [encode, List.flatMap_cons, List.append_assoc, List.append_assoc, lossy,
      lossyFrom_append_encodeChar .start, ← List.append_assoc, ← List.flatMap_cons, ← encode,
      lossy_encode_append, List.append_assoc]
    rfl

end CheckIn.Text.Utf8
