import CheckIn.Proofs.Cbor.Grammar
import CheckIn.Proofs.Cbor.Reading
import Mathlib.Data.List.Induction

/-! Heads: what is read as a head is spelled as one, in any width. -/
namespace CheckIn.Cbor

theorem spelled_append (bs : List UInt8) (b : UInt8) :
    spelled (bs ++ [b]) = 256 * spelled bs + b.toNat := by
  simp [spelled, Nat.ofDigits_cons, Nat.add_comm]

theorem spelled_lt (bs : List UInt8) : spelled bs < 256 ^ bs.length := by
  have bound := Nat.ofDigits_lt_base_pow_length (b := 256) (l := bs.reverse.map UInt8.toNat)
    (by decide) (by simpa using fun b _ => b.toNat_lt)
  simpa [spelled] using bound

theorem bigEndian_eq_spelled (bs : List UInt8) : bigEndian bs = spelled bs := by
  induction bs using List.reverseRecOn with
  | nil => rfl
  | append_singleton bs b ih =>
    rw [spelled_append, ← ih, bigEndian, bigEndian, List.foldl_append, Nat.mul_comm]
    rfl

theorem initial_toNat {major info : Nat} (small : major < 8) (few : info < 32) :
    (initial major info).toNat = 32 * major + info :=
  UInt8.toNat_ofNat_of_lt' (by simp only [UInt8.size]; omega)

theorem initial_div_mod (b : UInt8) : initial (b.toNat / 32) (b.toNat % 32) = b := by
  rw [initial, Nat.div_add_mod, UInt8.ofNat_toNat]

theorem AnyHead.length_pos {major n : Nat} {bs : List UInt8} (head : AnyHead major n bs) :
    0 < bs.length := by
  cases head <;> simp

/-- How a head is spelled. -/
def Head.Spelled : Head → List UInt8 → Prop
  | .unsigned n, bs => AnyHead 0 n bs
  | .negative n, bs => AnyHead 1 n bs
  | .bytes (some n), bs => AnyHead 2 n bs
  | .bytes none, bs => bs = [opening 2]
  | .text (some n), bs => AnyHead 3 n bs
  | .text none, bs => bs = [opening 3]
  | .array (some n), bs => AnyHead 4 n bs
  | .array none, bs => bs = [opening 4]
  | .map (some n), bs => AnyHead 5 n bs
  | .map none, bs => bs = [opening 5]
  | .tag n, bs => AnyHead 6 n bs
  | .simple n, bs => AnyHead 7 n bs ∧ bs.length ≤ 2
  | .float16 word, bs => ∃ tail, bs = initial 7 25 :: tail ∧ tail.length = 2 ∧ word = spelled tail
  | .float32 word, bs => ∃ tail, bs = initial 7 26 :: tail ∧ tail.length = 4 ∧ word = spelled tail
  | .float64 word, bs => ∃ tail, bs = initial 7 27 :: tail ∧ tail.length = 8 ∧ word = spelled tail
  | .stop, bs => bs = [Cbor.stop]

/-- The three forms of a head by its first byte: with the argument in it, behind it, or open. -/
inductive Head.Form (h : Head) : List UInt8 → Prop where
  | direct : major < 8 → n < 24 → Head.make major 0 n = some h → Form h [initial major n]
  | following : major < 8 → k ≤ 3 → bs.length = 2 ^ k →
      Head.make major (2 ^ k) (spelled bs) = some h → Form h (initial major (24 + k) :: bs)
  | openLength : major < 8 → Head.open? major = some h → Form h [initial major 31]

section

variable {major : Nat} (small : major < 8)

include small

theorem read_direct {n : Nat} (few : n < 24) (rest : List UInt8) (offset : Nat) :
    Head.read ⟨initial major n :: rest, offset⟩ =
      Head.found offset (Head.make major 0 n) ⟨rest, offset + 1⟩ := by
  have quotient : (32 * major + n) / 32 = major := by omega
  have remainder : (32 * major + n) % 32 = n := by omega
  simp [Head.read, initial_toNat small (show n < 32 by omega), quotient, remainder, argumentWidth,
    few]

theorem read_following {k : Nat} (width : k ≤ 3) (rest : List UInt8) (offset : Nat) :
    Head.read ⟨initial major (24 + k) :: rest, offset⟩ =
      (Cursor.take (2 ^ k) ⟨rest, offset + 1⟩).bind fun (bs, next) =>
        Head.found offset (Head.make major (2 ^ k) (bigEndian bs)) next := by
  have quotient : (32 * major + (24 + k)) / 32 = major := by omega
  have remainder : (32 * major + (24 + k)) % 32 = 24 + k := by omega
  have info : argumentWidth (24 + k) = some (2 ^ k) := by
    match k, width with
    | 0, _ | 1, _ | 2, _ | 3, _ => rfl
  simp only [Head.read, initial_toNat small (show 24 + k < 32 by omega), quotient, remainder, info]
  match k, width with
  | 0, _ | 1, _ | 2, _ | 3, _ => rfl

theorem read_open (rest : List UInt8) (offset : Nat) :
    Head.read ⟨initial major 31 :: rest, offset⟩ =
      Head.found offset (Head.open? major) ⟨rest, offset + 1⟩ := by
  have quotient : (32 * major + 31) / 32 = major := by omega
  have remainder : (32 * major + 31) % 32 = 31 := by omega
  simp [Head.read, initial_toNat small (show 31 < 32 by omega), quotient, remainder, argumentWidth]

theorem read_reserved {info : Nat} (least : 28 ≤ info) (most : info < 31) (rest : List UInt8)
    (offset : Nat) :
    Head.read ⟨initial major info :: rest, offset⟩ = .error (.malformed offset) := by
  have remainder : (32 * major + info) % 32 = info := by omega
  have reserved : argumentWidth info = none := by
    obtain rfl | rfl | rfl : info = 28 ∨ info = 29 ∨ info = 30 := by omega
    all_goals rfl
  simp [Head.read, initial_toNat small (show info < 32 by omega), remainder, reserved, Head.found,
    show info ≠ 31 by omega]

end

theorem found_eq_ok_iff {offset : Nat} {head : Option Head} {next next' : Cursor} {h : Head} :
    Head.found offset head next = .ok (h, next') ↔ head = some h ∧ next = next' := by
  cases head <;> simp [Head.found]

theorem initial_cases (b : UInt8) : ∃ major, major < 8 ∧
    ((∃ n, n < 24 ∧ b = initial major n) ∨ (∃ k, k ≤ 3 ∧ b = initial major (24 + k)) ∨
      b = initial major 31 ∨ ∃ info, 28 ≤ info ∧ info < 31 ∧ b = initial major info) := by
  have byte := b.toNat_lt
  have few : b.toNat % 32 < 32 := Nat.mod_lt _ (by omega)
  have whole := (initial_div_mod b).symm
  refine ⟨b.toNat / 32, by omega, ?_⟩
  generalize b.toNat % 32 = info at whole few
  rcases (by omega : info < 24 ∨ (24 ≤ info ∧ info ≤ 27) ∨ info = 31 ∨ (28 ≤ info ∧ info < 31))
    with direct | ⟨least, most⟩ | rfl | reserved
  · exact .inl ⟨info, direct, whole⟩
  · refine .inr (.inl ⟨info - 24, by omega, ?_⟩)
    rw [show 24 + (info - 24) = info by omega]
    exact whole
  · exact .inr (.inr (.inl whole))
  · exact .inr (.inr (.inr ⟨info, reserved.1, reserved.2, whole⟩))

theorem reads_form : Reads Head.read Head.Form where
  sound {c c' h} ok := by
    obtain ⟨bytes, offset⟩ := c
    cases bytes with
    | nil => simp [Head.read] at ok
    | cons b rest =>
      have first : Cursor.Moves ⟨b :: rest, offset⟩ [b] ⟨rest, offset + 1⟩ := ⟨rfl, rfl⟩
      obtain ⟨major, small, ⟨n, few, rfl⟩ | ⟨k, width, rfl⟩ | rfl | ⟨info, least, most, rfl⟩⟩ :=
        initial_cases b
      · rw [read_direct small few, found_eq_ok_iff] at ok
        obtain ⟨made, rfl⟩ := ok
        exact ⟨_, first, .direct small few made⟩
      · rw [read_following small width] at ok
        obtain ⟨r, taken, ok⟩ := bind_eq_ok_iff.mp ok
        simp only [found_eq_ok_iff, bigEndian_eq_spelled] at ok
        obtain ⟨made, rfl⟩ := ok
        obtain ⟨tail, moved, same, length⟩ := (Reads.take _).sound taken
        rw [same] at made
        exact ⟨_, first.trans moved, .following small width length made⟩
      · rw [read_open small, found_eq_ok_iff] at ok
        obtain ⟨made, rfl⟩ := ok
        exact ⟨_, first, .openLength small made⟩
      · rw [read_reserved small least most] at ok
        cases ok
  complete {c c' h bs} form moved := by
    obtain ⟨_, offset⟩ := c
    obtain ⟨rest, rfl⟩ : ∃ rest, c' = ⟨rest, offset + bs.length⟩ :=
      ⟨c'.rest, by rw [← moved.offset]⟩
    obtain rfl := moved.rest
    cases form with
    | direct small few made =>
      exact (read_direct small few _ _).trans (found_eq_ok_iff.mpr ⟨made, rfl⟩)
    | @following major k tail small width length made =>
      have taken : Cursor.take (2 ^ k) ⟨tail ++ rest, offset + 1⟩ =
          .ok (tail, ⟨rest, offset + 1 + tail.length⟩) :=
        (Reads.take (2 ^ k)).complete ⟨rfl, length⟩ (.append rest _)
      rw [List.cons_append, read_following small width, taken]
      simp only [Except.bind, found_eq_ok_iff, bigEndian_eq_spelled]
      exact ⟨made, by simp [Nat.add_comm, Nat.add_left_comm]⟩
    | openLength small made =>
      exact (read_open small _ _).trans (found_eq_ok_iff.mpr ⟨made, rfl⟩)

theorem spelled_of_form {h : Head} {bs : List UInt8} (form : Head.Form h bs) : h.Spelled bs := by
  cases form with
  | @direct major n small few made =>
    match major, small with
    | 0, _ | 1, _ | 2, _ | 3, _ | 4, _ | 5, _ | 6, _ =>
      cases made
      exact .direct few
    | 7, _ =>
      cases made
      exact ⟨.direct few, by simp⟩
  | @following major k tail small width length made =>
    match major, small with
    | 0, _ | 1, _ | 2, _ | 3, _ | 4, _ | 5, _ | 6, _ =>
      cases made
      exact .following width length
    | 7, _ =>
      match k, width with
      | 0, width =>
        cases made
        exact ⟨.following width length, by simp [length]⟩
      | 1, _ | 2, _ | 3, _ =>
        cases made
        exact ⟨tail, rfl, length, rfl⟩
  | @openLength major small made =>
    match major, small with
    | 0, _ | 1, _ | 6, _ => cases made
    | 2, _ | 3, _ | 4, _ | 5, _ | 7, _ =>
      cases made
      rfl

theorem form_of_anyHead {h : Head} (major : Nat) {n : Nat} {bs : List UInt8} (small : major < 8)
    (made : ∀ width, Head.make major width n = some h) (head : AnyHead major n bs) :
    Head.Form h bs := by
  cases head with
  | direct few => exact .direct small few (made 0)
  | following width length => exact .following small width length (made _)

theorem form_of_spelled {h : Head} {bs : List UInt8} (spelling : h.Spelled bs) :
    Head.Form h bs := by
  match h, spelling with
  | .unsigned _, head => exact form_of_anyHead 0 (by decide) (fun _ => rfl) head
  | .negative _, head => exact form_of_anyHead 1 (by decide) (fun _ => rfl) head
  | .bytes (some _), head => exact form_of_anyHead 2 (by decide) (fun _ => rfl) head
  | .text (some _), head => exact form_of_anyHead 3 (by decide) (fun _ => rfl) head
  | .array (some _), head => exact form_of_anyHead 4 (by decide) (fun _ => rfl) head
  | .map (some _), head => exact form_of_anyHead 5 (by decide) (fun _ => rfl) head
  | .tag _, head => exact form_of_anyHead 6 (by decide) (fun _ => rfl) head
  | .bytes none, rfl => exact .openLength (by decide) rfl
  | .text none, rfl => exact .openLength (by decide) rfl
  | .array none, rfl => exact .openLength (by decide) rfl
  | .map none, rfl => exact .openLength (by decide) rfl
  | .stop, rfl => exact @Head.Form.openLength .stop 7 (by decide) rfl
  | .simple n, ⟨head, short⟩ =>
    cases head with
    | direct few => exact .direct (by decide) few rfl
    | @following k tail width length =>
      match k, width with
      | 0, width => exact .following (by decide) width length rfl
      | 1, _ | 2, _ | 3, _ => simp [length] at short
  | .float16 _, ⟨tail, rfl, length, rfl⟩ =>
    exact .following (k := 1) (by decide) (by decide) length rfl
  | .float32 _, ⟨tail, rfl, length, rfl⟩ =>
    exact .following (k := 2) (by decide) (by decide) length rfl
  | .float64 _, ⟨tail, rfl, length, rfl⟩ =>
    exact .following (k := 3) (by decide) (by decide) length rfl

/-- What is read as a head is spelled as one, in whatever width. -/
theorem reads_head : Reads Head.read Head.Spelled :=
  reads_form.congr fun _ _ => ⟨spelled_of_form, form_of_spelled⟩

end CheckIn.Cbor
