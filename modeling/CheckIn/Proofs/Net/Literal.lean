import CheckIn.Net.Address
import CheckIn.Proofs.Text.Digits
import CheckIn.Proofs.Text.Fields
import Mathlib.Algebra.Group.Nat.Defs
import Mathlib.Data.List.Induction

/-! Texts of IP addresses as a grammar, and the reader of literals against it: it takes exactly the
texts of the grammar, each for the address that it spells. -/
namespace CheckIn.Net

/-- A numeral of a number with any zeros in front, in digits that `norm` brings to one spelling. -/
def SpellsNumber (base : Nat) (norm : Char → Char) (cs : List Char) (n : Nat) : Prop :=
  ∃ zeros, cs.map norm = List.replicate zeros '0' ++ Nat.toDigits base n

def SpellsGroup (cs : List Char) (g : UInt16) : Prop :=
  cs.length ≤ 4 ∧ SpellsNumber 16 Char.toLower cs g.toNat

/-- Groups between colons. Where `quad` allows it, a dotted quad stands for the last two. -/
inductive SpellsGroups (quad : Bool) : List Char → List UInt16 → Prop where
  | last : SpellsGroup cs g → SpellsGroups quad cs [g]
  | quad (q : Ipv4) : quad = true → g.toNat = q.a.toNat * 256 + q.b.toNat →
      h.toNat = q.c.toNat * 256 + q.d.toNat → SpellsGroups quad q.display.toList [g, h]
  | next : SpellsGroup cs g → SpellsGroups quad rest gs →
      SpellsGroups quad (cs ++ ':' :: rest) (g :: gs)

/-- The groups on one side of `::`, possibly none. -/
inductive SpellsSide (quad : Bool) : List Char → List UInt16 → Prop where
  | empty : SpellsSide quad [] []
  | groups : SpellsGroups quad cs gs → SpellsSide quad cs gs

/-- All eight groups, or `::` in place of one or more zero groups. -/
inductive SpellsIpv6 : List Char → Ipv6 → Prop where
  | full : SpellsGroups true cs a.groups → SpellsIpv6 cs a
  | compressed {a : Ipv6} {gs hs : List UInt16} {zeros : Nat} : SpellsSide false front gs →
      SpellsSide true back hs → 0 < zeros → a.groups = gs ++ List.replicate zeros 0 ++ hs →
      SpellsIpv6 (front ++ ':' :: ':' :: back) a

/-- The texts of an address: four octets without leading zeros, or an IPv6 text. -/
inductive Spells : List Char → Address → Prop where
  | v4 (q : Ipv4) : Spells q.display.toList (.v4 q)
  | v6 : SpellsIpv6 cs a → Spells cs (.v6 a)

theorem hexDigit?_bounds {c : Char} {d : Nat} (read : hexDigit? c = some d) :
    d < 16 ∧ c.toNat < 128 := by
  unfold hexDigit? at read
  split at read
  · next inside =>
    have bounds : 48 ≤ c.toNat ∧ c.toNat ≤ 57 := inside
    have value : c.toNat - 48 = d := Option.some.inj read
    omega
  · split at read
    · next inside =>
      have bounds : 97 ≤ c.toNat ∧ c.toNat ≤ 102 := inside
      have value : c.toNat - 97 + 10 = d := Option.some.inj read
      omega
    · split at read
      · next inside =>
        have bounds : 65 ≤ c.toNat ∧ c.toNat ≤ 70 := inside
        have value : c.toNat - 65 + 10 = d := Option.some.inj read
        omega
      · cases read

theorem toLower_of_not_ascii {c : Char} (large : 128 ≤ c.toNat) : c.toLower = c := by
  have other : ¬(c.val ≥ 'A'.val ∧ c.val ≤ 'Z'.val) := by
    rintro ⟨-, below⟩
    have small : c.toNat ≤ 90 := below
    omega
  exact dif_neg other

theorem hexDigit?_eq_some_iff (c : Char) (d : Nat) :
    hexDigit? c = some d ↔ d < 16 ∧ c.toLower = Nat.digitChar d := by
  have ascii : ∀ n < 128, ∀ d < 16,
      hexDigit? (Char.ofNat n) = some d ↔ (Char.ofNat n).toLower = Nat.digitChar d := by
    decide +kernel
  by_cases small : c.toNat < 128
  · have same := ascii c.toNat small
    rw [Char.ofNat_toNat] at same
    constructor
    · intro read
      have bound := (hexDigit?_bounds read).1
      exact ⟨bound, (same d bound).mp read⟩
    · rintro ⟨bound, lower⟩
      exact (same d bound).mpr lower
  · constructor
    · intro read
      exact absurd (hexDigit?_bounds read).2 small
    · rintro ⟨bound, lower⟩
      rw [toLower_of_not_ascii (by omega)] at lower
      exact absurd (lower ▸ Text.digitChar_ascii d bound) small

section numeral

variable {base : Nat} {digit? : Char → Option Nat} {norm : Char → Char}

theorem SpellsNumber.ne_nil {cs : List Char} {n : Nat} (spells : SpellsNumber base norm cs n) :
    cs ≠ [] := by
  rintro rfl
  obtain ⟨zeros, numeral⟩ := spells
  exact Nat.toDigits_ne_nil (List.append_eq_nil_iff.mp numeral.symm).2

theorem spellsNumber_concat_iff (counting : 1 < base) (cs : List Char) (c : Char) (n : Nat) :
    SpellsNumber base norm (cs ++ [c]) n ↔ ∃ m d, d < base ∧ norm c = Nat.digitChar d ∧
      m * base + d = n ∧ (cs = [] ∧ m = 0 ∨ SpellsNumber base norm cs m) := by
  constructor
  · rintro ⟨zeros, numeral⟩
    rw [List.map_append, List.map_singleton, Nat.toDigits_eq_if counting] at numeral
    split at numeral
    · next small =>
      obtain ⟨front, last⟩ := List.append_inj' numeral rfl
      refine ⟨0, n, small, List.singleton_inj.mp last, by omega, ?_⟩
      cases zeros with
      | zero => exact .inl ⟨List.map_eq_nil_iff.mp front, rfl⟩
      | succ zeros =>
        refine .inr ⟨zeros, ?_⟩
        rw [front, Nat.toDigits_zero, List.replicate_succ']
    · rw [← List.append_assoc] at numeral
      obtain ⟨front, last⟩ := List.append_inj' numeral rfl
      exact ⟨n / base, n % base, Nat.mod_lt n (by omega), List.singleton_inj.mp last,
        Nat.div_add_mod' n base, .inr ⟨zeros, front⟩⟩
  · rintro ⟨m, d, small, last, rfl, ⟨rfl, rfl⟩ | ⟨zeros, numeral⟩⟩
    · refine ⟨0, ?_⟩
      rw [Nat.zero_mul, Nat.zero_add, Nat.toDigits_of_lt_base small, ← last]
      rfl
    · by_cases zero : m = 0
      · subst zero
        refine ⟨zeros + 1, ?_⟩
        rw [Nat.zero_mul, Nat.zero_add, Nat.toDigits_of_lt_base small, List.map_append, numeral,
          Nat.toDigits_zero, List.replicate_succ', ← last]
        rfl
      · refine ⟨zeros, ?_⟩
        rw [Nat.mul_comm, ← Nat.toDigits_append_toDigits counting (by omega) small,
          Nat.toDigits_of_lt_base small, List.map_append, numeral, List.append_assoc, ← last]
        rfl

theorem digits?_eq_some_iff (counting : 1 < base)
    (digit : ∀ c d, digit? c = some d ↔ d < base ∧ norm c = Nat.digitChar d) {cs : List Char}
    {n : Nat} : digits? base digit? cs = some n ↔ SpellsNumber base norm cs n := by
  let value (cs : List Char) := cs.foldlM (fun n c => (digit? c).map (n * base + ·)) 0
  have read : ∀ n, value cs = some n ↔ cs = [] ∧ n = 0 ∨ SpellsNumber base norm cs n := by
    induction cs using List.reverseRecOn with
    | nil =>
      intro n
      have none : ¬ SpellsNumber base norm [] n := fun spells => spells.ne_nil rfl
      simp [value, none, eq_comm]
    | append_singleton cs c ih =>
      intro n
      have step : value (cs ++ [c]) = some n ↔
          ∃ m d, value cs = some m ∧ digit? c = some d ∧ m * base + d = n := by
        simp [value, List.foldlM_append, Option.bind_eq_some_iff]
      simp only [step, ih, digit, spellsNumber_concat_iff counting, List.append_eq_nil_iff,
        List.cons_ne_nil, and_false, false_and, false_or]
      constructor
      · rintro ⟨m, d, front, ⟨small, last⟩, sum⟩
        exact ⟨m, d, small, last, sum, front⟩
      · rintro ⟨m, d, small, last, sum, front⟩
        exact ⟨m, d, front, ⟨small, last⟩, sum⟩
  by_cases empty : cs = []
  · subst empty
    have none : ¬ SpellsNumber base norm [] n := fun spells => spells.ne_nil rfl
    simp [digits?, none]
  · have whole : digits? base digit? cs = value cs := by simp [digits?, value, empty]
    rw [whole, read]
    simp [empty]

theorem SpellsNumber.digit {cs : List Char} {n : Nat} {c : Char}
    (spells : SpellsNumber base norm cs n) (counting : 1 < base) (member : c ∈ cs) :
    ∃ d < base, norm c = Nat.digitChar d := by
  obtain ⟨zeros, numeral⟩ := spells
  have shown : norm c ∈ List.replicate zeros '0' ++ Nat.toDigits base n :=
    numeral ▸ List.mem_map_of_mem member
  rcases List.mem_append.mp shown with zero | digit
  · exact ⟨0, by omega, List.eq_of_mem_replicate zero⟩
  · exact Text.exists_of_mem_toDigits counting digit

theorem SpellsNumber.lt {cs : List Char} {n k : Nat} (spells : SpellsNumber base norm cs n)
    (counting : 1 < base) (some_digit : 0 < k) (short : cs.length ≤ k) : n < base ^ k := by
  obtain ⟨zeros, numeral⟩ := spells
  have length := congrArg List.length numeral
  rw [List.length_map, List.length_append] at length
  exact (Nat.length_toDigits_le_iff counting some_digit).mp (by omega)

end numeral

theorem octet?_eq_some_iff {cs : List Char} {n : UInt8} :
    octet? cs = some n ↔ cs = Nat.toDigits 10 n.toNat := by
  have decimal (m : Nat) : digits? 10 Text.Numeral.digit? cs = some m ↔
      ∃ zeros, cs = List.replicate zeros '0' ++ Nat.toDigits 10 m := by
    have law : _ ↔ SpellsNumber 10 id cs m :=
      digits?_eq_some_iff (by decide) Text.Numeral.digit?_eq_some_iff
    simpa [SpellsNumber] using law
  constructor
  · intro read
    rw [octet?] at read
    split at read
    · cases read
    · next plain =>
      obtain ⟨-, noZero⟩ := not_or.mp plain
      split at read
      · next m value =>
        split at read
        · next small =>
          obtain rfl := Option.some.inj read
          have fits : m < 256 := by omega
          have exact_value : (UInt8.ofNat m).toNat = m := UInt8.toNat_ofNat_of_lt' fits
          rw [exact_value]
          obtain ⟨zeros, rfl⟩ := (decimal m).mp value
          cases zeros with
          | zero => rfl
          | succ zeros =>
            have digits : 0 < (Nat.toDigits 10 m).length := Nat.length_toDigits_pos
            refine absurd ⟨rfl, ?_⟩ noZero
            simp only [List.length_append, List.length_replicate]
            omega
        · cases read
      · cases read
  · rintro rfl
    have plain : ∀ n < 256, ¬ (3 < (Nat.toDigits 10 n).length ∨
        ((Nat.toDigits 10 n).head? = some '0' ∧ 1 < (Nat.toDigits 10 n).length)) := by
      decide +kernel
    have value := (decimal n.toNat).mpr ⟨0, rfl⟩
    have small : n.toNat ≤ 255 := by
      have := n.toNat_lt
      omega
    rw [octet?, if_neg (plain n.toNat n.toNat_lt), value]
    simp [small]

theorem Ipv4.toList_display (q : Ipv4) : q.display.toList =
    ['.'].intercalate ([q.a, q.b, q.c, q.d].map fun o => Nat.toDigits 10 o.toNat) := by
  simp [Ipv4.display]

theorem Ipv4.parse?_eq_some_iff {cs : List Char} {q : Ipv4} :
    Ipv4.parse? cs = some q ↔ cs = q.display.toList := by
  rw [Ipv4.toList_display, Ipv4.parse?, Text.fields_eq_splitOn]
  constructor
  · intro read
    split at read
    · next a b c d four =>
      obtain rfl := Option.some.inj read
      simp only [List.map_eq_cons_iff, List.map_eq_nil_iff, octet?_eq_some_iff] at four
      obtain ⟨_, _, split, rfl, _, _, rfl, rfl, _, _, rfl, rfl, _, _, rfl, rfl, rfl⟩ := four
      have whole : ['.'].intercalate (cs.splitOn '.') = cs := List.intercalate_splitOn '.'
      rw [← whole, split]
      rfl
    · cases read
  · rintro rfl
    rw [List.splitOn_intercalate]
    · have octet (n : UInt8) : octet? (Nat.toDigits 10 n.toNat) = some n :=
        octet?_eq_some_iff.mpr rfl
      simp [octet]
    · intro part member
      obtain ⟨o, -, rfl⟩ := List.mem_map.mp member
      exact Text.not_mem_toDigits (by decide) (fun _ => Nat.digitChar_ne _ rfl) o.toNat
    · simp

theorem group?_eq_some_iff {cs : List Char} {g : UInt16} :
    group? cs = some g ↔ SpellsGroup cs g := by
  have number (n : Nat) : digits? 16 hexDigit? cs = some n ↔ SpellsNumber 16 Char.toLower cs n :=
    digits?_eq_some_iff (by decide) hexDigit?_eq_some_iff
  rw [group?, SpellsGroup]
  split
  · next long => simp [Nat.not_le_of_lt long]
  · next short =>
    have short : cs.length ≤ 4 := Nat.le_of_not_lt short
    simp only [Option.map_eq_some_iff, number, short, true_and]
    constructor
    · rintro ⟨n, spells, rfl⟩
      have fits : n < 16 ^ 4 := spells.lt (by decide) (by decide) short
      rwa [UInt16.toNat_ofNat_of_lt' fits]
    · intro spells
      exact ⟨g.toNat, spells, UInt16.ofNat_toNat⟩

section group

variable {cs : List Char} {g : UInt16} {c : Char}

theorem SpellsGroup.ne_nil (spells : SpellsGroup cs g) : cs ≠ [] := spells.2.ne_nil

theorem SpellsGroup.digit (spells : SpellsGroup cs g) (member : c ∈ cs) :
    ∃ d < 16, c.toLower = Nat.digitChar d := spells.2.digit (by decide) member

theorem not_mark_of_digit (digit : ∃ d < 16, c.toLower = Nat.digitChar d) :
    c ≠ ':' ∧ c ≠ '.' ∧ c ≠ '[' ∧ c ≠ ']' := by
  obtain ⟨d, -, lower⟩ := digit
  refine ⟨?_, ?_, ?_, ?_⟩ <;> rintro rfl <;> exact Nat.digitChar_ne _ rfl lower.symm

theorem SpellsGroup.colon_not_mem (spells : SpellsGroup cs g) : ':' ∉ cs :=
  fun member => (not_mark_of_digit (spells.digit member)).1 rfl

theorem SpellsGroup.dot_not_mem (spells : SpellsGroup cs g) : '.' ∉ cs :=
  fun member => (not_mark_of_digit (spells.digit member)).2.1 rfl

end group

section quad

variable (q : Ipv4)

theorem Ipv4.dot_mem_display : '.' ∈ q.display.toList := by
  rw [Ipv4.toList_display, List.map_cons, List.map_cons, List.intercalate_cons_cons]
  simp

theorem Ipv4.mem_display {c : Char} (member : c ∈ q.display.toList) :
    (∃ d < 10, c = Nat.digitChar d) ∨ c = '.' := by
  have digit {n : Nat} (inside : c ∈ Nat.toDigits 10 n) : ∃ d < 10, c = Nat.digitChar d :=
    Text.exists_of_mem_toDigits (by decide) inside
  rw [Ipv4.toList_display] at member
  simp only [List.map_cons, List.map_nil, List.intercalate_cons_cons, List.intercalate_singleton,
    List.mem_append, List.mem_singleton] at member
  rcases member with (a | dot) | (b | dot) | (c | dot) | d
  · exact .inl (digit a)
  · exact .inr dot
  · exact .inl (digit b)
  · exact .inr dot
  · exact .inl (digit c)
  · exact .inr dot
  · exact .inl (digit d)

theorem Ipv4.colon_not_mem_display : ':' ∉ q.display.toList := by
  intro member
  rcases q.mem_display member with ⟨d, -, digit⟩ | dot
  · exact Nat.digitChar_ne _ rfl digit.symm
  · cases dot

theorem Ipv4.not_bracket_of_mem_display {c : Char} (member : c ∈ q.display.toList) :
    c ≠ '[' ∧ c ≠ ']' := by
  rcases q.mem_display member with ⟨d, -, rfl⟩ | rfl
  · exact ⟨Nat.digitChar_ne _ rfl, Nat.digitChar_ne _ rfl⟩
  · decide

theorem group?_display : group? q.display.toList = none := by
  cases read : group? q.display.toList with
  | none => rfl
  | some g => exact absurd q.dot_mem_display (group?_eq_some_iff.mp read).dot_not_mem

theorem Ipv4.groups_eq_iff {g h : UInt16} : q.groups = [g, h] ↔
    g.toNat = q.a.toNat * 256 + q.b.toNat ∧ h.toNat = q.c.toNat * 256 + q.d.toNat := by
  have pair (x y : UInt8) : (x.toUInt16 * 256 + y.toUInt16).toNat = x.toNat * 256 + y.toNat := by
    have := x.toNat_lt
    have := y.toNat_lt
    simp only [UInt16.toNat_add, UInt16.toNat_mul, UInt8.toNat_toUInt16, UInt16.reduceToNat]
    omega
  rw [Ipv4.groups, List.cons.injEq, List.cons.injEq, ← UInt16.toNat_inj, ← UInt16.toNat_inj, pair,
    pair]
  simp [eq_comm]

end quad

section groups

variable {quad : Bool} {cs : List Char} {gs : List UInt16}

theorem SpellsGroups.begins (spells : SpellsGroups quad cs gs) :
    cs ≠ [] ∧ cs.head? ≠ some ':' := by
  have field {f : List Char} (nonempty : f ≠ []) (none : ':' ∉ f) (rest : List Char) :
      f ++ rest ≠ [] ∧ (f ++ rest).head? ≠ some ':' := by
    obtain ⟨c, f, rfl⟩ := List.exists_cons_of_ne_nil nonempty
    refine ⟨by simp, fun first => none ?_⟩
    rw [← Option.some.inj first]
    exact List.mem_cons_self
  cases spells with
  | last group => simpa using field group.ne_nil group.colon_not_mem []
  | quad q => simpa using field (List.ne_nil_of_mem q.dot_mem_display) q.colon_not_mem_display []
  | next group => exact field group.ne_nil group.colon_not_mem _

theorem spellsGroups_of_groupsOf? {fs : List (List Char)} (some_field : fs ≠ [])
    (read : groupsOf? quad fs = some gs) : SpellsGroups quad ([':'].intercalate fs) gs := by
  induction fs generalizing gs with
  | nil => exact absurd rfl some_field
  | cons f fs ih =>
    cases fs with
    | nil =>
      rw [List.intercalate_singleton]
      rw [groupsOf?] at read
      split at read
      · next g group =>
        obtain rfl := Option.some.inj read
        exact .last (group?_eq_some_iff.mp group)
      · split at read
        · next allowed =>
          obtain ⟨q, parsed, value⟩ := Option.map_eq_some_iff.mp read
          obtain rfl := Ipv4.parse?_eq_some_iff.mp parsed
          obtain ⟨g, h, rfl⟩ : ∃ g h, gs = [g, h] := ⟨_, _, value.symm⟩
          obtain ⟨high, low⟩ := q.groups_eq_iff.mp value
          exact .quad q allowed high low
        · cases read
    | cons f' fs =>
      simp only [groupsOf?, Option.bind_eq_bind, Option.bind_eq_some_iff, Option.some.injEq] at read
      obtain ⟨g, group, gs, later, rfl⟩ := read
      rw [List.intercalate_cons_cons, List.append_assoc]
      exact .next (group?_eq_some_iff.mp group) (ih (by simp) later)

theorem groupsOf?_of_spells (spells : SpellsGroups quad cs gs) :
    groupsOf? quad (cs.splitOn ':') = some gs := by
  induction spells with
  | last group =>
    rw [List.splitOn_eq_singleton group.colon_not_mem, groupsOf?, group?_eq_some_iff.mpr group]
  | quad q allowed high low =>
    have parsed : Ipv4.parse? q.display.toList = some q := Ipv4.parse?_eq_some_iff.mpr rfl
    rw [List.splitOn_eq_singleton q.colon_not_mem_display, groupsOf?, group?_display,
      if_pos allowed, parsed, Option.map_some, q.groups_eq_iff.mpr ⟨high, low⟩]
  | @next cs g rest gs group _ ih =>
    rw [List.splitOn_append_cons_self_of_not_mem group.colon_not_mem]
    obtain ⟨f, fs, split⟩ := List.exists_cons_of_ne_nil (List.splitOn_ne_nil ':' rest)
    rw [split] at ih ⊢
    rw [groupsOf?, group?_eq_some_iff.mpr group, ih]
    · rfl
    · simp

theorem groupsOf?_eq_some_iff :
    groupsOf? quad (Text.fields ':' cs) = some gs ↔ SpellsGroups quad cs gs := by
  rw [Text.fields_eq_splitOn]
  constructor
  · intro read
    have spells := spellsGroups_of_groupsOf? (List.splitOn_ne_nil ':' cs) read
    rwa [List.intercalate_splitOn] at spells
  · exact groupsOf?_of_spells

theorem side?_eq_some_iff : side? quad cs = some gs ↔ SpellsSide quad cs gs := by
  rw [side?]
  split
  · next empty =>
    obtain rfl := List.isEmpty_iff.mp empty
    constructor
    · intro read
      obtain rfl := Option.some.inj read
      exact .empty
    · intro spells
      cases spells with
      | empty => rfl
      | groups spells => exact absurd rfl spells.begins.1
  · next nonempty =>
    rw [groupsOf?_eq_some_iff]
    constructor
    · exact .groups
    · intro spells
      cases spells with
      | empty => exact absurd rfl nonempty
      | groups spells => exact spells

theorem SpellsGroups.cutPair?_none (spells : SpellsGroups quad cs gs) :
    Text.cutPair? ':' cs = none := by
  induction spells with
  | last group => exact Text.cutPair?_eq_none group.colon_not_mem
  | quad q => exact Text.cutPair?_eq_none q.colon_not_mem_display
  | next group later ih =>
    rw [Text.cutPair?_single group.colon_not_mem later.begins.2, ih, Option.map_none]

theorem SpellsGroups.cutPair?_pair (spells : SpellsGroups quad cs gs) (back : List Char) :
    Text.cutPair? ':' (cs ++ ':' :: ':' :: back) = some (cs, back) := by
  induction spells with
  | last group => exact Text.cutPair?_pair group.colon_not_mem back
  | quad q => exact Text.cutPair?_pair q.colon_not_mem_display back
  | @next cs g rest gs group later ih =>
    have alone : (rest ++ ':' :: ':' :: back).head? ≠ some ':' := by
      rw [List.head?_append, Option.or_of_isSome]
      · exact later.begins.2
      · simpa using later.begins.1
    rw [List.append_assoc, List.cons_append, Text.cutPair?_single group.colon_not_mem alone, ih]
    rfl

theorem SpellsSide.cutPair?_pair (spells : SpellsSide quad cs gs) (back : List Char) :
    Text.cutPair? ':' (cs ++ ':' :: ':' :: back) = some (cs, back) := by
  cases spells with
  | empty => exact Text.cutPair?_pair List.not_mem_nil back
  | groups spells => exact spells.cutPair?_pair back

end groups

theorem Ipv6.ofGroups?_eq_some_iff {gs : List UInt16} {a : Ipv6} :
    Ipv6.ofGroups? gs = some a ↔ a.groups = gs := by
  constructor
  · intro read
    rw [Ipv6.ofGroups?] at read
    split at read
    · rw [← Option.some.inj read]
    · cases read
  · rintro rfl
    rw [Ipv6.ofGroups?, dif_pos a.length_eq]

theorem Ipv6.parse?_eq_some_iff {cs : List Char} {a : Ipv6} :
    Ipv6.parse? cs = some a ↔ SpellsIpv6 cs a := by
  constructor
  · intro read
    rw [Ipv6.parse?] at read
    split at read
    · obtain ⟨gs, groups, eight⟩ := Option.bind_eq_some_iff.mp read
      obtain rfl := Ipv6.ofGroups?_eq_some_iff.mp eight
      exact .full (groupsOf?_eq_some_iff.mp groups)
    · next front back cut =>
      simp only [Option.bind_eq_bind, Option.bind_eq_some_iff] at read
      obtain ⟨gs, before, hs, behind, read⟩ := read
      obtain rfl := Text.eq_of_cutPair? cut
      split at read
      · next room =>
        refine .compressed (side?_eq_some_iff.mp before) (side?_eq_some_iff.mp behind) ?_
          (Ipv6.ofGroups?_eq_some_iff.mp read)
        omega
      · cases read
  · intro spells
    cases spells with
    | full groups =>
      rw [Ipv6.parse?, groups.cutPair?_none]
      dsimp only
      rw [groupsOf?_eq_some_iff.mpr groups]
      exact Ipv6.ofGroups?_eq_some_iff.mpr rfl
    | @compressed front back _ gs hs zeros before behind some_zero all =>
      have length := congrArg List.length all
      rw [a.length_eq, List.length_append, List.length_append, List.length_replicate] at length
      have between : 8 - gs.length - hs.length = zeros := by omega
      rw [Ipv6.parse?, before.cutPair?_pair]
      simp only [side?_eq_some_iff.mpr before, side?_eq_some_iff.mpr behind, Option.bind_eq_bind,
        Option.bind_some]
      rw [if_pos (by omega), between]
      exact Ipv6.ofGroups?_eq_some_iff.mpr all

theorem SpellsIpv6.colon_mem {cs : List Char} {a : Ipv6} (spells : SpellsIpv6 cs a) :
    ':' ∈ cs := by
  cases spells with
  | compressed => simp
  | full groups =>
    have eight := a.length_eq
    generalize a.groups = gs at groups eight
    cases groups with
    | last => cases eight
    | quad => cases eight
    | next => simp

theorem SpellsGroups.not_bracket {quad : Bool} {cs : List Char} {gs : List UInt16} {c : Char}
    (spells : SpellsGroups quad cs gs) (member : c ∈ cs) : c ≠ '[' ∧ c ≠ ']' := by
  induction spells with
  | last group => exact (not_mark_of_digit (group.digit member)).2.2
  | quad q => exact q.not_bracket_of_mem_display member
  | next group _ ih =>
    rcases List.mem_append.mp member with inGroup | behind
    · exact (not_mark_of_digit (group.digit inGroup)).2.2
    · rcases List.mem_cons.mp behind with rfl | later
      · decide
      · exact ih later

theorem SpellsSide.not_bracket {quad : Bool} {cs : List Char} {gs : List UInt16} {c : Char}
    (spells : SpellsSide quad cs gs) (member : c ∈ cs) : c ≠ '[' ∧ c ≠ ']' := by
  cases spells with
  | empty => cases member
  | groups spells => exact spells.not_bracket member

theorem Spells.not_bracket {cs : List Char} {a : Address} {c : Char} (spells : Spells cs a)
    (member : c ∈ cs) : c ≠ '[' ∧ c ≠ ']' := by
  cases spells with
  | v4 q => exact q.not_bracket_of_mem_display member
  | v6 spells =>
    cases spells with
    | full groups => exact groups.not_bracket member
    | compressed before behind =>
      rcases List.mem_append.mp member with inFront | rest
      · exact before.not_bracket inFront
      · rcases List.mem_cons.mp rest with rfl | rest
        · decide
        · rcases List.mem_cons.mp rest with rfl | inBack
          · decide
          · exact behind.not_bracket inBack

theorem Address.parse?_eq_some_iff {cs : List Char} {a : Address} :
    Address.parse? cs = some a ↔ Spells cs a := by
  rw [Address.parse?]
  constructor
  · intro read
    split at read
    · next q parsed =>
      obtain rfl := Option.some.inj read
      rw [Ipv4.parse?_eq_some_iff.mp parsed]
      exact .v4 q
    · obtain ⟨b, parsed, rfl⟩ := Option.map_eq_some_iff.mp read
      exact .v6 (Ipv6.parse?_eq_some_iff.mp parsed)
  · intro spells
    cases spells with
    | v4 q => rw [Ipv4.parse?_eq_some_iff.mpr rfl]
    | @v6 cs b spells =>
      have other : Ipv4.parse? cs = none := by
        cases parsed : Ipv4.parse? cs with
        | none => rfl
        | some q =>
          obtain rfl := Ipv4.parse?_eq_some_iff.mp parsed
          exact absurd spells.colon_mem q.colon_not_mem_display
      rw [other, Ipv6.parse?_eq_some_iff.mpr spells]
      rfl

theorem Spells.inj {cs : List Char} {a b : Address} (spells : Spells cs a) (other : Spells cs b) :
    a = b :=
  Option.some.inj ((Address.parse?_eq_some_iff.mpr spells).symm.trans
    (Address.parse?_eq_some_iff.mpr other))

end CheckIn.Net
