import CheckIn.Text.Utf8

/-! The byte machine against the encoding of characters: a walk reads a text exactly where the
bytes are its encoding, and cutting the bytes anywhere changes nothing but where a walk resumes. -/
namespace CheckIn.Text.Utf8

def Trailing (b : UInt8) : Prop := 0x80 ≤ b ∧ b ≤ 0xbf

def continued (scalar : Nat) (tail : List UInt8) : Nat :=
  tail.foldl (fun n b => n * 64 + (b.toNat - 0x80)) scalar

section lead

variable {b : UInt8}

theorem lead_ascii (h : b.toNat < 0x80) : lead b = .char (Char.ofNat b.toNat) := by
  have small : b < 0x80 := h
  simp [lead, small]

theorem lead_two (low : 0xc2 ≤ b.toNat) (high : b.toNat < 0xe0) :
    lead b = .more (.within (b.toNat - 0xc0) 0 0x80 0xbf) := by
  have all : ∀ n < 256, 0xc2 ≤ n → n < 0xe0 →
      lead (UInt8.ofNat n) = .more (.within (n - 0xc0) 0 0x80 0xbf) := by decide +kernel
  simpa using all b.toNat b.toNat_lt low high

theorem lead_three (low : 0xe0 ≤ b.toNat) (high : b.toNat < 0xf0) :
    lead b = .more (.within (b.toNat - 0xe0) 1 (if b.toNat = 0xe0 then 0xa0 else 0x80)
      (if b.toNat = 0xed then 0x9f else 0xbf)) := by
  have all : ∀ n < 256, 0xe0 ≤ n → n < 0xf0 →
      lead (UInt8.ofNat n) = .more (.within (n - 0xe0) 1 (if n = 0xe0 then 0xa0 else 0x80)
        (if n = 0xed then 0x9f else 0xbf)) := by decide +kernel
  simpa using all b.toNat b.toNat_lt low high

theorem lead_four (low : 0xf0 ≤ b.toNat) (high : b.toNat < 0xf5) :
    lead b = .more (.within (b.toNat - 0xf0) 2 (if b.toNat = 0xf0 then 0x90 else 0x80)
      (if b.toNat = 0xf4 then 0x8f else 0xbf)) := by
  have all : ∀ n < 256, 0xf0 ≤ n → n < 0xf5 →
      lead (UInt8.ofNat n) = .more (.within (n - 0xf0) 2 (if n = 0xf0 then 0x90 else 0x80)
        (if n = 0xf4 then 0x8f else 0xbf)) := by decide +kernel
  simpa using all b.toNat b.toNat_lt low high

theorem lead_refused (h : 0x80 ≤ b.toNat ∧ b.toNat < 0xc2 ∨ 0xf5 ≤ b.toNat) :
    lead b = .refused := by
  have all : ∀ n < 256, 0x80 ≤ n ∧ n < 0xc2 ∨ 0xf5 ≤ n → lead (UInt8.ofNat n) = .refused := by
    decide +kernel
  simpa using all b.toNat b.toNat_lt h

theorem lead_class (b : UInt8) : b.toNat < 0x80 ∨
    (0x80 ≤ b.toNat ∧ b.toNat < 0xc2 ∨ 0xf5 ≤ b.toNat) ∨ (0xc2 ≤ b.toNat ∧ b.toNat < 0xe0) ∨
      (0xe0 ≤ b.toNat ∧ b.toNat < 0xf0) ∨ (0xf0 ≤ b.toNat ∧ b.toNat < 0xf5) := by
  omega

theorem lead_more (h : lead b = .more p) :
    ∃ scalar due low high, p = .within scalar due low high ∧ due ≤ 2 := by
  rcases lead_class b with ascii | refused | ⟨l, u⟩ | ⟨l, u⟩ | ⟨l, u⟩
  · simp [lead_ascii ascii] at h
  · simp [lead_refused refused] at h
  · rw [lead_two l u] at h
    cases h
    exact ⟨_, _, _, _, rfl, by omega⟩
  · rw [lead_three l u] at h
    cases h
    exact ⟨_, _, _, _, rfl, by omega⟩
  · rw [lead_four l u] at h
    cases h
    exact ⟨_, _, _, _, rfl, by omega⟩

end lead

/-- The bytes of an unfinished character, last first, and where they lead. -/
inductive Reached : List UInt8 → Progress → Prop where
  | start : Reached [] .boundary
  | more : Reached held p → step p b = .more q → Reached (b :: held) q

theorem scan_of_reached (h : Reached held p) (bs : List UInt8) :
    scan (held.reverse ++ bs) = scanFrom p held bs := by
  induction h generalizing bs with
  | start => rfl
  | more _ step ih =>
    rw [List.reverse_cons, List.append_assoc, ih]
    simp [scanFrom, step]

theorem scanFrom_append (h : Reached held p) (xs ys : List UInt8) :
    scanFrom p held (xs ++ ys) =
      let r := scanFrom p held xs
      (r.1 ++ (scan (r.2 ++ ys)).1, (scan (r.2 ++ ys)).2) := by
  induction xs generalizing held p with
  | nil => simp [scanFrom, scan_of_reached h]
  | cons b xs ih =>
    simp only [List.cons_append, scanFrom]
    cases verdict : step p b with
    | more q => exact ih (h.more verdict)
    | char c => simp [ih .start]
    | refused =>
      simp only [List.nil_append, List.append_assoc, List.cons_append]
      rw [scan_of_reached h]
      simp [scanFrom, verdict]

theorem scan_append (xs ys : List UInt8) :
    scan (xs ++ ys) =
      ((scan xs).1 ++ (scan ((scan xs).2 ++ ys)).1, (scan ((scan xs).2 ++ ys)).2) :=
  scanFrom_append .start xs ys

theorem scan_left (xs : List UInt8) : scan (scan xs).2 = ([], (scan xs).2) := by
  have again := scan_append xs []
  rw [List.append_nil, List.append_nil, Prod.ext_iff] at again
  exact Prod.ext (List.self_eq_append_right.mp again.1) again.2.symm

def Progress.due : Progress → Nat
  | .boundary => 0
  | .within _ due _ _ => due

theorem Reached.length_le (h : Reached held p) :
    held.length + p.due ≤ 3 ∧ (p = .boundary → held = []) := by
  induction h with
  | start => simp [Progress.due]
  | @more held p b q reached verdict ih =>
    cases p with
    | boundary =>
      obtain ⟨scalar, due, low, high, rfl, short⟩ := lead_more verdict
      rw [ih.2 rfl]
      simp only [Progress.due, List.length_cons, List.length_nil, reduceCtorEq, false_implies,
        and_true]
      omega
    | within scalar due low high =>
      have bound := ih.1
      simp only [Utf8.step] at verdict
      split at verdict
      · cases due with
        | zero => cases verdict
        | succ due =>
          cases verdict
          simp only [Progress.due, List.length_cons, reduceCtorEq, false_implies, and_true] at *
          omega
      · cases verdict

/-- More bytes than an unfinished character has are left only in front of a refused one, which no
later bytes mend. -/
theorem scanFrom_left (h : Reached held p) (xs : List UInt8) :
    (scanFrom p held xs).2.length ≤ 3 ∨
      ∀ ys, scan ((scanFrom p held xs).2 ++ ys) = ([], (scanFrom p held xs).2 ++ ys) := by
  induction xs generalizing held p with
  | nil =>
    have short := h.length_le.1
    exact .inl (by simp only [scanFrom, List.length_reverse]; omega)
  | cons b xs ih =>
    simp only [scanFrom]
    cases verdict : step p b with
    | more q => exact ih (h.more verdict)
    | char c => exact ih .start
    | refused =>
      refine .inr fun ys => ?_
      simp only [List.append_assoc, List.cons_append]
      rw [scan_of_reached h]
      simp [scanFrom, verdict]

theorem scanFrom_trailing {low high b : UInt8} (scalar : Nat) (held rest : List UInt8)
    (least : low ≤ b) (most : b ≤ high) (tail : List UInt8) (trailing : ∀ x ∈ tail, Trailing x) :
    scanFrom (.within scalar tail.length low high) held (b :: (tail ++ rest)) =
      (Char.ofNat (continued scalar (b :: tail)) :: (scan rest).1, (scan rest).2) := by
  induction tail generalizing scalar low high b held with
  | nil => simp [scanFrom, step, least, most, continued, scan]
  | cons x tail ih =>
    have now := trailing x List.mem_cons_self
    have later := ih (scalar * 64 + (b.toNat - 0x80)) (b :: held) now.1 now.2
      fun y member => trailing y (List.mem_cons_of_mem x member)
    simp only [List.cons_append, List.length_cons, continued, List.foldl_cons] at later ⊢
    rw [scanFrom]
    simp only [step, least, most, and_self, if_true]
    exact later

theorem scanFrom_within (scalar due : Nat) (low high : UInt8) (held bs : List UInt8) :
    scanFrom (.within scalar due low high) held bs = ([], held.reverse ++ bs) ∨
      ∃ b tail rest, bs = b :: (tail ++ rest) ∧ tail.length = due ∧ low ≤ b ∧ b ≤ high ∧
        ∀ x ∈ tail, Trailing x := by
  induction due generalizing scalar low high held bs with
  | zero =>
    cases bs with
    | nil => simp [scanFrom]
    | cons b bs =>
      by_cases inside : low ≤ b ∧ b ≤ high
      · exact .inr ⟨b, [], bs, rfl, rfl, inside.1, inside.2, by simp⟩
      · exact .inl (by simp [scanFrom, step, inside])
  | succ due ih =>
    cases bs with
    | nil => simp [scanFrom]
    | cons b bs =>
      by_cases inside : low ≤ b ∧ b ≤ high
      · rcases ih (scalar * 64 + (b.toNat - 0x80)) 0x80 0xbf (b :: held) bs with left | found
        · exact .inl (by simpa [scanFrom, step, inside] using left)
        · obtain ⟨x, tail, rest, rfl, length, least, most, trailing⟩ := found
          refine .inr ⟨b, x :: tail, rest, rfl, by simp [length], inside.1, inside.2, ?_⟩
          simpa using ⟨⟨least, most⟩, trailing⟩
      · exact .inl (by simp [scanFrom, step, inside])

section encodeChar

theorem toNat_ofNat {n : Nat} (h : n.isValidChar) : (Char.ofNat n).val.toNat = n := by
  rw [Char.ofNat, dif_pos h]
  rfl

theorem byte_eq {b : UInt8} {n : Nat} (h : n = b.toNat) : UInt8.ofNat n = b := by
  rw [h, UInt8.ofNat_toNat]

variable {n : Nat}

theorem encodeChar_one (high : n < 0x80) : String.utf8EncodeChar (Char.ofNat n) =
    [UInt8.ofNat n] := by
  have valid := toNat_ofNat (n := n) (by unfold Nat.isValidChar; omega)
  simp only [String.utf8EncodeChar, valid]
  rw [if_pos (by omega)]

theorem encodeChar_two (low : 0x80 ≤ n) (high : n < 0x800) : String.utf8EncodeChar (Char.ofNat n) =
    [UInt8.ofNat (n / 64 + 0xc0), UInt8.ofNat (n % 64 + 0x80)] := by
  have valid := toNat_ofNat (n := n) (by unfold Nat.isValidChar; omega)
  simp only [String.utf8EncodeChar, valid]
  rw [if_neg (by omega), if_pos (by omega), Nat.mod_eq_of_lt (by omega : n / 64 < 0x20)]

theorem encodeChar_three (low : 0x800 ≤ n) (high : n < 0x10000) (valid : n.isValidChar) :
    String.utf8EncodeChar (Char.ofNat n) = [UInt8.ofNat (n / 4096 + 0xe0),
      UInt8.ofNat (n / 64 % 64 + 0x80), UInt8.ofNat (n % 64 + 0x80)] := by
  simp only [String.utf8EncodeChar, toNat_ofNat valid]
  rw [if_neg (by omega), if_neg (by omega), if_pos (by omega),
    Nat.mod_eq_of_lt (by omega : n / 4096 < 0x10)]

theorem encodeChar_four (low : 0x10000 ≤ n) (high : n < 0x110000) :
    String.utf8EncodeChar (Char.ofNat n) = [UInt8.ofNat (n / 262144 + 0xf0),
      UInt8.ofNat (n / 4096 % 64 + 0x80), UInt8.ofNat (n / 64 % 64 + 0x80),
      UInt8.ofNat (n % 64 + 0x80)] := by
  have valid := toNat_ofNat (n := n) (by unfold Nat.isValidChar; omega)
  simp only [String.utf8EncodeChar, valid]
  rw [if_neg (by omega), if_neg (by omega), if_neg (by omega),
    Nat.mod_eq_of_lt (by omega : n / 262144 < 0x08)]

end encodeChar

theorem encodeChar_of_accepted {a b low high : UInt8} {scalar : Nat} {tail : List UInt8}
    (first : lead a = .more (.within scalar tail.length low high)) (least : low ≤ b)
    (most : b ≤ high) (trailing : ∀ x ∈ tail, Trailing x) :
    String.utf8EncodeChar (Char.ofNat (continued scalar (b :: tail))) = a :: b :: tail := by
  have least : low.toNat ≤ b.toNat := least
  have most : b.toNat ≤ high.toNat := most
  have bounds (x) (member : x ∈ tail) : 0x80 ≤ x.toNat ∧ x.toNat ≤ 0xbf := trailing x member
  rcases lead_class a with ascii | refused | ⟨l, u⟩ | ⟨l, u⟩ | ⟨l, u⟩
  · simp [lead_ascii ascii] at first
  · simp [lead_refused refused] at first
  · rw [lead_two l u, Verdict.more.injEq, Progress.within.injEq] at first
    obtain ⟨rfl, due, rfl, rfl⟩ := first
    obtain rfl := List.length_eq_zero_iff.mp due.symm
    simp only [continued, List.foldl_cons, List.foldl_nil, UInt8.reduceToNat] at *
    rw [encodeChar_two (by omega) (by omega), byte_eq (b := a) (by omega),
      byte_eq (b := b) (by omega)]
  · rw [lead_three l u, Verdict.more.injEq, Progress.within.injEq] at first
    obtain ⟨rfl, due, rfl, rfl⟩ := first
    obtain ⟨x, rfl⟩ := List.length_eq_one_iff.mp due.symm
    have last := bounds x (by simp)
    simp only [continued, List.foldl_cons, List.foldl_nil, apply_ite UInt8.toNat,
      UInt8.reduceToNat] at *
    have second : 0x80 ≤ b.toNat ∧ b.toNat ≤ 0xbf ∧ (a.toNat = 0xe0 → 0xa0 ≤ b.toNat) ∧
        (a.toNat = 0xed → b.toNat ≤ 0x9f) := by
      split at least <;> split at most <;> omega
    rw [encodeChar_three (by omega) (by omega) (by unfold Nat.isValidChar; omega),
      byte_eq (b := a) (by omega), byte_eq (b := b) (by omega), byte_eq (b := x) (by omega)]
  · rw [lead_four l u, Verdict.more.injEq, Progress.within.injEq] at first
    obtain ⟨rfl, due, rfl, rfl⟩ := first
    obtain ⟨x, y, rfl⟩ : ∃ x y, tail = [x, y] := by
      match tail, due with
      | [x, y], _ => exact ⟨x, y, rfl⟩
    have third := bounds x (by simp)
    have last := bounds y (by simp)
    simp only [continued, List.foldl_cons, List.foldl_nil, apply_ite UInt8.toNat,
      UInt8.reduceToNat] at *
    have second : 0x80 ≤ b.toNat ∧ b.toNat ≤ 0xbf ∧ (a.toNat = 0xf0 → 0x90 ≤ b.toNat) ∧
        (a.toNat = 0xf4 → b.toNat ≤ 0x8f) := by
      split at least <;> split at most <;> omega
    rw [encodeChar_four (by omega) (by omega), byte_eq (b := a) (by omega),
      byte_eq (b := b) (by omega), byte_eq (b := x) (by omega), byte_eq (b := y) (by omega)]

theorem encodeChar_accepted (c : Char) :
    (∃ a, String.utf8EncodeChar c = [a] ∧ lead a = .char c) ∨
      ∃ a b tail scalar low high, String.utf8EncodeChar c = a :: b :: tail ∧
        lead a = .more (.within scalar tail.length low high) ∧ low ≤ b ∧ b ≤ high ∧
        (∀ x ∈ tail, Trailing x) ∧ continued scalar (b :: tail) = c.toNat := by
  obtain ⟨n, valid, rfl⟩ : ∃ n, n.isValidChar ∧ Char.ofNat n = c :=
    ⟨c.toNat, c.valid, Char.ofNat_toNat c⟩
  have value : (Char.ofNat n).toNat = n := toNat_ofNat valid
  have byte {m : Nat} (h : m < 256) : (UInt8.ofNat m).toNat = m := UInt8.toNat_ofNat_of_lt' h
  have tail (m : Nat) : (UInt8.ofNat (m % 64 + 0x80)).toNat = m % 64 + 0x80 := byte (by omega)
  have trailing (m : Nat) : Trailing (UInt8.ofNat (m % 64 + 0x80)) := by
    simp only [Trailing, UInt8.le_iff_toNat_le, tail, UInt8.reduceToNat]
    omega
  rcases (by unfold Nat.isValidChar at valid; omega : n < 0x80 ∨ (0x80 ≤ n ∧ n < 0x800) ∨
    (0x800 ≤ n ∧ n < 0x10000) ∨ (0x10000 ≤ n ∧ n < 0x110000)) with small | ⟨l, u⟩ | ⟨l, u⟩ | ⟨l, u⟩
  · have first := byte (m := n) (by omega)
    exact .inl ⟨_, encodeChar_one small, by rw [lead_ascii (by omega), first]⟩
  · have first := byte (m := n / 64 + 0xc0) (by omega)
    refine .inr ⟨_, _, [], _, _, _, encodeChar_two l u, lead_two (by omega) (by omega),
      (trailing n).1, (trailing n).2, by simp, ?_⟩
    simp only [continued, List.foldl_cons, List.foldl_nil, first, tail, value]
    omega
  · have first := byte (m := n / 4096 + 0xe0) (by omega)
    refine .inr ⟨_, _, [_], _, _, _, encodeChar_three l u valid, lead_three (by omega) (by omega),
      ?_, ?_, by simpa using trailing n, ?_⟩
    · simp only [UInt8.le_iff_toNat_le, apply_ite UInt8.toNat, UInt8.reduceToNat, first, tail]
      split <;> omega
    · unfold Nat.isValidChar at valid
      simp only [UInt8.le_iff_toNat_le, apply_ite UInt8.toNat, UInt8.reduceToNat, first, tail]
      split <;> omega
    · simp only [continued, List.foldl_cons, List.foldl_nil, first, tail, value]
      omega
  · have first := byte (m := n / 262144 + 0xf0) (by omega)
    refine .inr ⟨_, _, [_, _], _, _, _, encodeChar_four l u, lead_four (by omega) (by omega),
      ?_, ?_, ?_, ?_⟩
    · simp only [UInt8.le_iff_toNat_le, apply_ite UInt8.toNat, UInt8.reduceToNat, first, tail]
      split <;> omega
    · simp only [UInt8.le_iff_toNat_le, apply_ite UInt8.toNat, UInt8.reduceToNat, first, tail]
      split <;> omega
    · rintro x (_ | ⟨_, _ | ⟨_, ⟨⟩⟩⟩)
      · exact trailing (n / 64)
      · exact trailing n
    · simp only [continued, List.foldl_cons, List.foldl_nil, first, tail, value]
      omega

theorem scan_encodeChar (c : Char) (rest : List UInt8) :
    scan (String.utf8EncodeChar c ++ rest) = (c :: (scan rest).1, (scan rest).2) := by
  rcases encodeChar_accepted c with ⟨a, bytes, first⟩ |
    ⟨a, b, tail, scalar, low, high, bytes, first, least, most, trailing, value⟩
  · rw [bytes]
    simp [scan, scanFrom, step, first]
  · rw [bytes, scan, List.cons_append, List.cons_append, scanFrom]
    simp only [step, first]
    rw [scanFrom_trailing scalar _ rest least most tail trailing, value, Char.ofNat_toNat]

theorem scan_encode (cs : List Char) (rest : List UInt8) :
    scan (encode cs ++ rest) = (cs ++ (scan rest).1, (scan rest).2) := by
  induction cs with
  | nil => simp [encode]
  | cons c cs ih =>
    rw [encode, List.flatMap_cons, List.append_assoc, scan_encodeChar, ← encode, ih]
    rfl

theorem scan_text (cs : List Char) : scan (encode cs) = (cs, []) := by
  simpa [scan, scanFrom] using scan_encode cs []

theorem scan_first (bs : List UInt8) :
    scan bs = ([], bs) ∨ ∃ c rest, bs = String.utf8EncodeChar c ++ rest := by
  cases bs with
  | nil => exact .inl rfl
  | cons a bs =>
    cases first : lead a with
    | refused => exact .inl (by simp [scan, scanFrom, step, first])
    | char c =>
      refine .inr ⟨c, bs, ?_⟩
      rcases lead_class a with ascii | refused | ⟨l, u⟩ | ⟨l, u⟩ | ⟨l, u⟩
      · rw [lead_ascii ascii, Verdict.char.injEq] at first
        rw [← first, encodeChar_one ascii, UInt8.ofNat_toNat]
        rfl
      · simp [lead_refused refused] at first
      · simp [lead_two l u] at first
      · simp [lead_three l u] at first
      · simp [lead_four l u] at first
    | more p =>
      obtain ⟨scalar, due, low, high, rfl, -⟩ := lead_more first
      rcases scanFrom_within scalar due low high [a] bs with left | found
      · exact .inl (by simpa [scan, scanFrom, step, first] using left)
      · obtain ⟨b, tail, rest, rfl, rfl, least, most, trailing⟩ := found
        refine .inr ⟨Char.ofNat (continued scalar (b :: tail)), rest, ?_⟩
        rw [encodeChar_of_accepted first least most trailing]
        rfl

/-- A walk splits the bytes into the encoding of what it reads and what it leaves. -/
theorem encode_scan (bs : List UInt8) : encode (scan bs).1 ++ (scan bs).2 = bs := by
  induction bs using (measure List.length).wf.induction with
  | _ bs ih =>
    rcases scan_first bs with left | ⟨c, rest, rfl⟩
    · rw [left]
      rfl
    · have shorter : rest.length < (String.utf8EncodeChar c ++ rest).length := by
        rw [List.length_append, String.length_utf8EncodeChar]
        have := c.utf8Size_pos
        omega
      rw [scan_encodeChar, encode, List.flatMap_cons, List.append_assoc, ← encode, ih rest shorter]

theorem decode?_eq_some_iff {bs : List UInt8} {cs : List Char} :
    decode? bs = some cs ↔ bs = encode cs := by
  constructor
  · intro h
    have split := encode_scan bs
    unfold decode? at h
    split at h
    · next read =>
      cases h
      rw [← split, read, List.append_nil]
    · cases h
  · rintro rfl
    rw [decode?, scan_text]

theorem encode_append (cs ds : List Char) : encode (cs ++ ds) = encode cs ++ encode ds :=
  List.flatMap_append

/-- A text cut anywhere leaves at most three bytes, with which the rest is a text again. -/
theorem scan_cut {xs ys : List UInt8} {cs : List Char} (text : xs ++ ys = encode cs) :
    (scan xs).2.length ≤ 3 ∧ ∃ ds, cs = (scan xs).1 ++ ds ∧ (scan xs).2 ++ ys = encode ds := by
  have read := scan_text cs
  rw [← text, scan_append, Prod.mk.injEq] at read
  obtain ⟨front, back⟩ := read
  have split := encode_scan ((scan xs).2 ++ ys)
  rw [back, List.append_nil] at split
  refine ⟨?_, _, front.symm, split.symm⟩
  rcases scanFrom_left .start xs with short | lost
  · exact short
  · have none_left : (scan xs).2 ++ ys = [] := by
      rw [← back]
      exact (congrArg Prod.snd (lost ys)).symm
    simp [(List.append_eq_nil_iff.mp none_left).1]

end CheckIn.Text.Utf8
