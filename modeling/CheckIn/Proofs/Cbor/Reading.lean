import CheckIn.Cbor.Decoder
import CheckIn.Proofs.Except

/-! Readers against relations between results and bytes. A reader reads a relation if it succeeds on
exactly the related bytes in front of any others, takes those and counts them. What readers are put
together from is put together here for the relations. -/
namespace CheckIn.Cbor

theorem takeExactly_eq_some_iff {n : Nat} {bs data rest : List UInt8} :
    takeExactly n bs = some (data, rest) ↔ bs = data ++ rest ∧ data.length = n := by
  induction n generalizing bs data with
  | zero => cases data <;> simp [takeExactly, eq_comm]
  | succ n ih =>
    cases bs with
    | nil => cases data <;> simp [takeExactly]
    | cons b bs =>
      cases data with
      | nil => simp [takeExactly]
      | cons d data =>
        have step : takeExactly (n + 1) (b :: bs) = some (d :: data, rest) ↔
            b = d ∧ takeExactly n bs = some (data, rest) := by
          simp only [takeExactly, Option.map_eq_some_iff, Prod.mk.injEq, List.cons.injEq]
          constructor
          · rintro ⟨⟨_, _⟩, taken, ⟨rfl, rfl⟩, rfl⟩
            exact ⟨rfl, taken⟩
          · rintro ⟨rfl, taken⟩
            exact ⟨_, taken, ⟨rfl, rfl⟩, rfl⟩
        rw [step, ih]
        simp only [List.cons_append, List.cons.injEq, List.length_cons, Nat.add_right_cancel_iff,
          and_assoc]

/-- Some bytes lie between two cursors. -/
structure Cursor.Moves (c : Cursor) (bs : List UInt8) (c' : Cursor) : Prop where
  rest : c.rest = bs ++ c'.rest
  offset : c'.offset = c.offset + bs.length

namespace Cursor.Moves

variable {c c' c'' : Cursor} {u v : List UInt8}

theorem nil_iff : c.Moves [] c' ↔ c = c' := by
  constructor
  · rintro ⟨rest, offset⟩
    cases c
    cases c'
    cases rest
    cases offset
    rfl
  · rintro rfl
    exact ⟨rfl, rfl⟩

theorem append (rest : List UInt8) (offset : Nat) :
    Moves ⟨u ++ rest, offset⟩ u ⟨rest, offset + u.length⟩ :=
  ⟨rfl, rfl⟩

theorem length_le (h : c.Moves u c') : u.length ≤ c.rest.length := by
  rw [h.rest, List.length_append]
  exact Nat.le_add_right _ _

theorem trans (first : c.Moves u c') (second : c'.Moves v c'') : c.Moves (u ++ v) c'' where
  rest := by rw [first.rest, second.rest, List.append_assoc]
  offset := by rw [second.offset, first.offset, List.length_append, Nat.add_assoc]

theorem split (h : c.Moves (u ++ v) c') : ∃ between, c.Moves u between ∧ between.Moves v c' := by
  refine ⟨⟨v ++ c'.rest, c.offset + u.length⟩, ⟨?_, rfl⟩, rfl, ?_⟩
  · rw [h.rest, List.append_assoc]
  · rw [h.offset, List.length_append, Nat.add_assoc]

theorem exists_append (shorter : c.Moves u c') (longer : c.Moves v c'')
    (le : u.length ≤ v.length) : ∃ w, v = u ++ w := by
  have first : u <+: c.rest := ⟨c'.rest, shorter.rest.symm⟩
  have second : v <+: c.rest := ⟨c''.rest, longer.rest.symm⟩
  obtain ⟨w, split⟩ := List.prefix_of_prefix_length_le first second le
  exact ⟨w, split.symm⟩

theorem unique (one : c.Moves u c') (other : c.Moves v c'') (same : u.length = v.length) :
    u = v ∧ c' = c'' := by
  obtain ⟨w, split⟩ := one.exists_append other (Nat.le_of_eq same)
  obtain rfl : w = [] := by simpa [split] using same
  obtain rfl : v = u := by simpa using split
  have rest : c'.rest = c''.rest := by simpa [one.rest] using other.rest
  have offset : c'.offset = c''.offset := one.offset.trans other.offset.symm
  cases c'
  cases c''
  cases rest
  cases offset
  exact ⟨rfl, rfl⟩

end Cursor.Moves

structure Reads (read : Reader α) (P : α → List UInt8 → Prop) : Prop where
  sound {c c' : Cursor} {a : α} : read c = .ok (a, c') → ∃ bs, c.Moves bs c' ∧ P a bs
  complete {c c' : Cursor} {a : α} {bs : List UInt8} : P a bs → c.Moves bs c' →
    read c = .ok (a, c')

namespace Reads

variable {read : Reader α} {P : α → List UInt8 → Prop}

theorem congr (h : Reads read P) {Q : α → List UInt8 → Prop} (same : ∀ a bs, P a bs ↔ Q a bs) :
    Reads read Q where
  sound ok := by
    obtain ⟨bs, moved, held⟩ := h.sound ok
    exact ⟨bs, moved, (same _ _).mp held⟩
  complete held := h.complete ((same _ _).mpr held)

theorem pure (a : α) : Reads (fun c => .ok (a, c)) fun b bs => b = a ∧ bs = [] where
  sound ok := by
    cases ok
    exact ⟨[], Cursor.Moves.nil_iff.mpr rfl, rfl, rfl⟩
  complete := by
    rintro c c' _ _ ⟨rfl, rfl⟩ moved
    rw [Cursor.Moves.nil_iff.mp moved]

theorem fail (fault : Fault) : Reads (fun _ => .error fault) fun (_ : α) _ => False where
  sound := nofun
  complete := nofun

theorem take (n : Nat) : Reads (fun c => c.take n) fun data bs => data = bs ∧ bs.length = n where
  sound {c c' data} ok := by
    unfold Cursor.take at ok
    split at ok
    · next taken =>
      cases ok
      obtain ⟨split, length⟩ := takeExactly_eq_some_iff.mp taken
      exact ⟨data, ⟨split, by rw [length]⟩, rfl, length⟩
    · cases ok
  complete := by
    rintro c ⟨rest, offset⟩ data _ ⟨rfl, rfl⟩ ⟨split, count⟩
    have taken : takeExactly data.length c.rest = some (data, rest) :=
      takeExactly_eq_some_iff.mpr ⟨split, rfl⟩
    rw [Cursor.take, taken]
    dsimp only at count ⊢
    rw [count]

theorem bind (first : Reads read P) {next : α → Reader β} {Q : α → β → List UInt8 → Prop}
    (second : ∀ a, Reads (next a) (Q a)) :
    Reads (fun c => read c >>= fun r => next r.1 r.2)
      fun b bs => ∃ a u v, bs = u ++ v ∧ P a u ∧ Q a b v where
  sound ok := by
    obtain ⟨r, read₁, read₂⟩ := bind_eq_ok_iff.mp ok
    obtain ⟨u, moved, held⟩ := first.sound read₁
    obtain ⟨v, moved', held'⟩ := (second r.1).sound read₂
    exact ⟨u ++ v, moved.trans moved', r.1, u, v, rfl, held, held'⟩
  complete := by
    rintro c c' b _ ⟨a, u, v, rfl, held, held'⟩ moved
    obtain ⟨between, moved₁, moved₂⟩ := moved.split
    have read₁ := first.complete held moved₁
    have read₂ := (second a).complete held' moved₂
    exact bind_eq_ok_iff.mpr ⟨_, read₁, read₂⟩

theorem map (h : Reads read P) (f : α → β) :
    Reads (fun c => (read c).map fun (a, c) => (f a, c)) fun b bs => ∃ a, b = f a ∧ P a bs where
  sound ok := by
    obtain ⟨r, read₁, same⟩ := map_eq_ok_iff.mp ok
    cases same
    obtain ⟨bs, moved, held⟩ := h.sound read₁
    exact ⟨bs, moved, r.1, rfl, held⟩
  complete := by
    rintro c c' _ bs ⟨a, rfl, held⟩ moved
    exact map_eq_ok_iff.mpr ⟨_, h.complete held moved, rfl⟩

theorem placed {read : ι → Reader α} (h : ∀ i, Reads (read i) P) (place : Cursor → ι) :
    Reads (fun c => read (place c) c) P where
  sound ok := (h _).sound ok
  complete held := (h _).complete held

end Reads

theorem Cursor.take_eq_error {c : Cursor} {n : Nat} {fault : Fault} (failed : c.take n = .error fault) :
    fault = .endOfInput ∧ c.rest.length < n := by
  by_cases enough : n ≤ c.rest.length
  · have there : c.Moves (c.rest.take n) ⟨c.rest.drop n, c.offset + n⟩ :=
      ⟨(List.take_append_drop n c.rest).symm, by simp [enough]⟩
    have taken := (Reads.take n).complete ⟨rfl, List.length_take_of_le enough⟩ there
    rw [failed] at taken
    cases taken
  · refine ⟨?_, Nat.lt_of_not_le enough⟩
    unfold Cursor.take at failed
    split at failed
    · cases failed
    · cases failed
      rfl

/-- Parts one after another, each of them related to its own bytes. -/
inductive Run (P : α → List UInt8 → Prop) : List α → List UInt8 → Prop where
  | nil : Run P [] []
  | cons : P a bs → Run P as rest → Run P (a :: as) (bs ++ rest)

/-- A reader that begins with a byte, and not with the one that closes a sequence. -/
def Reader.Begins (read : Reader α) : Prop :=
  ∀ (c : Cursor) (r : α × Cursor), read c = .ok r → ∃ b bs, c.rest = b :: bs ∧ b ≠ 0xff

variable {read : Reader α} {P : α → List UInt8 → Prop}

theorem Reads.times (h : Reads read P) (n : Nat) :
    Reads (times read n) fun as bs => as.length = n ∧ Run P as bs := by
  induction n with
  | zero =>
    refine (Reads.pure []).congr fun as bs => ⟨?_, ?_⟩
    · rintro ⟨rfl, rfl⟩
      exact ⟨rfl, .nil⟩
    · rintro ⟨length, run⟩
      cases run with
      | nil => exact ⟨rfl, rfl⟩
      | cons => cases length
  | succ n ih =>
    refine (h.bind fun a => ih.bind fun as => Reads.pure (a :: as)).congr fun as bs => ⟨?_, ?_⟩
    · rintro ⟨a, u, v, rfl, held, as, w, _, rfl, ⟨length, run⟩, rfl, rfl⟩
      rw [List.append_nil]
      exact ⟨by simp [length], .cons held run⟩
    · rintro ⟨length, run⟩
      cases run with
      | nil => cases length
      | cons held run =>
        exact ⟨_, _, _, rfl, held, _, _, _, (List.append_nil _).symm,
          ⟨Nat.succ.inj length, run⟩, rfl, rfl⟩

theorem untilStop_sound (h : Reads read P) {fuel : Nat} {c c' : Cursor} {as : List α}
    (ok : untilStop read fuel c = .ok (as, c')) :
    ∃ bs, c.Moves (bs ++ [0xff]) c' ∧ Run P as bs := by
  fun_induction untilStop read fuel c generalizing as c' with
  | case1 fuel c rest stopped =>
    cases ok
    exact ⟨[], ⟨stopped, rfl⟩, .nil⟩
  | case2 => cases ok
  | case3 c fuel _ ih =>
    obtain ⟨r, read₁, ok⟩ := bind_eq_ok_iff.mp ok
    obtain ⟨r', read₂, ok⟩ := bind_eq_ok_iff.mp ok
    cases ok
    obtain ⟨u, moved, held⟩ := h.sound read₁
    obtain ⟨v, moved', run⟩ := ih r.2 read₂
    refine ⟨u ++ v, ?_, .cons held run⟩
    rw [List.append_assoc]
    exact moved.trans moved'

theorem Reads.cons_of_begins (h : Reads read P) (begins : Reader.Begins read) {a : α}
    {bs : List UInt8} (held : P a bs) : ∃ b rest, bs = b :: rest ∧ b ≠ 0xff := by
  cases bs with
  | nil =>
    obtain ⟨b, bs, empty, -⟩ := begins _ _ (h.complete held (.append [] 0))
    cases empty
  | cons b rest =>
    obtain ⟨b', bs, same, differs⟩ := begins _ _ (h.complete held (.append [] 0))
    cases same
    exact ⟨b, rest, rfl, differs⟩

theorem untilStop_stop (read : Reader α) (fuel : Nat) {c c' : Cursor} (moved : c.Moves [0xff] c') :
    untilStop read fuel c = .ok ([], c') := by
  obtain ⟨_, offset⟩ := c
  obtain ⟨rest, _⟩ := c'
  obtain ⟨split, count⟩ := moved
  dsimp only at split count
  subst split count
  cases fuel <;> rfl

theorem untilStop_next (read : Reader α) (fuel : Nat) {b : UInt8} {bs : List UInt8} {c : Cursor}
    (starts : c.rest = b :: bs) (differs : b ≠ 0xff) :
    untilStop read (fuel + 1) c = (do
      let (a, c) ← read c
      let (as, c) ← untilStop read fuel c
      .ok (a :: as, c)) := by
  obtain ⟨_, offset⟩ := c
  dsimp only at starts
  subst starts
  rw [untilStop.eq_def]
  dsimp only
  split
  · next same =>
    cases same
    exact (differs rfl).elim
  · next spent _ => cases spent
  · next same _ =>
    cases same
    rfl

theorem untilStop_complete (h : Reads read P) (begins : Reader.Begins read) {as : List α}
    {bs : List UInt8} (run : Run P as bs) :
    ∀ {fuel : Nat} {c c' : Cursor}, bs.length ≤ fuel → c.Moves (bs ++ [0xff]) c' →
      untilStop read fuel c = .ok (as, c') := by
  induction run with
  | nil =>
    intro fuel c c' _ moved
    exact untilStop_stop read fuel moved
  | @cons a u as v held run ih =>
    intro fuel c c' enough moved
    obtain ⟨b, t, rfl, differs⟩ := h.cons_of_begins begins held
    cases fuel with
    | zero => simp at enough
    | succ fuel =>
      have short : v.length ≤ fuel := by
        simp only [List.cons_append, List.length_cons, List.length_append] at enough
        omega
      rw [List.append_assoc] at moved
      obtain ⟨between, moved₁, moved₂⟩ := moved.split
      have read₁ := h.complete held moved₁
      rw [untilStop_next read fuel moved₁.rest differs]
      exact bind_eq_ok_iff.mpr ⟨_, read₁, bind_eq_ok_iff.mpr ⟨_, ih short moved₂, rfl⟩⟩

theorem Reads.untilStop (h : Reads read P) (begins : Reader.Begins read) :
    Reads (fun c => untilStop read c.rest.length c)
      fun as bs => ∃ u, bs = u ++ [0xff] ∧ Run P as u where
  sound ok := by
    obtain ⟨u, moved, run⟩ := untilStop_sound h ok
    exact ⟨_, moved, u, rfl, run⟩
  complete := by
    rintro c c' as _ ⟨u, rfl, run⟩ moved
    have least := moved.length_le
    rw [List.length_append] at least
    exact untilStop_complete h begins run (Nat.le_of_add_right_le least) moved

/-- The bytes of counted parts, or of parts up to the byte that closes them. -/
def Many (P : α → List UInt8 → Prop) : Option Nat → List α → List UInt8 → Prop
  | some n, as, bs => as.length = n ∧ Run P as bs
  | none, as, bs => ∃ u, bs = u ++ [0xff] ∧ Run P as u

theorem Reads.many (h : Reads read P) (begins : Reader.Begins read) (length : Option Nat) :
    Reads (many read length) (Many P length) :=
  match length with
  | some n => h.times n
  | none => h.untilStop begins

def EntryOf (P : Value → List UInt8 → Prop) (e : Value × Value) (bs : List UInt8) : Prop :=
  ∃ ks vs, bs = ks ++ vs ∧ P e.1 ks ∧ P e.2 vs

theorem Reads.entry {read : Reader Value} {P : Value → List UInt8 → Prop} (h : Reads read P) :
    Reads (entry read) (EntryOf P) := by
  refine (h.bind fun k => h.bind fun v => Reads.pure (k, v)).congr fun e bs => ⟨?_, ?_⟩
  · rintro ⟨k, ks, _, rfl, key, v, vs, _, rfl, value, rfl, rfl⟩
    exact ⟨ks, vs, by rw [List.append_nil], key, value⟩
  · rintro ⟨ks, vs, rfl, key, value⟩
    exact ⟨e.1, ks, vs, rfl, key, e.2, vs, [], (List.append_nil vs).symm, value, rfl, rfl⟩

theorem entry_begins {read : Reader Value} (begins : Reader.Begins read) :
    Reader.Begins (entry read) := by
  intro c r ok
  obtain ⟨r, read₁, -⟩ := bind_eq_ok_iff.mp ok
  exact begins c r read₁

end CheckIn.Cbor
