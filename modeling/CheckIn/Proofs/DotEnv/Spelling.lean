import CheckIn.Proofs.DotEnv
import CheckIn.Proofs.Text.Repair
import Mathlib.Tactic.SplitIfs

/-! What the text of a file of variables assigns. The texts here are plain ones: remarks and
assignments line by line, with values that are bare or in quotes and hold nothing that is special
there. A zero character is not special in a text, although no variable can hold one. -/
namespace CheckIn.DotEnv

open Text.Utf8 (encode)

/-- A name starts with a letter or an underscore. -/
structure IsName (name : List Char) : Prop where
  first : ∃ c cs, name = c :: cs ∧ (c.isAlpha ∨ c = '_')
  chars : ∀ c ∈ name, c.isAlphanum ∨ c = '_' ∨ c = '.'

/-- How a value is written. -/
inductive SpellsValue (value : List Char) : List Char → Prop where
  | bare : (∀ c ∈ value, Text.isBlank c = false ∧ c ∉ ['\'', '"', '\\', '$', '#']) →
      SpellsValue value value
  | strong : (∀ c ∈ value, c ∉ ['\'', '\\', '\n']) → SpellsValue value ('\'' :: (value ++ ['\'']))
  | weak : (∀ c ∈ value, c ∉ ['"', '\\', '$', '\n']) → SpellsValue value ('"' :: (value ++ ['"']))

inductive IsBreak : List Char → Prop where
  | short : IsBreak ['\n']
  | long : IsBreak ['\r', '\n']

/-- A line that assigns nothing. -/
inductive IsRemark : List Char → Prop where
  | empty : IsRemark []
  | comment (text : List Char) : '\n' ∉ text → IsRemark ('#' :: text)

/-- A text with some assignments, in their order. The line break at its end may be absent. -/
inductive Spells : List (String × List Char) → List Char → Prop where
  | nothing : Spells [] []
  | remark {line ending rest : List Char} {as : List (String × List Char)} :
      IsRemark line → IsBreak ending → Spells as rest → Spells as (line ++ (ending ++ rest))
  | assign {name value text ending rest : List Char} {as : List (String × List Char)} :
      IsName name → SpellsValue value text → IsBreak ending → Spells as rest →
      Spells ((String.ofList name, value) :: as) (name ++ '=' :: text ++ (ending ++ rest))
  | last {name value text : List Char} : IsName name → SpellsValue value text →
      Spells [(String.ofList name, value)] (name ++ '=' :: text)

theorem eq_newline_of_mem {c : Char} (member : 0x0a ∈ String.utf8EncodeChar c) : c = '\n' := by
  rcases Text.Utf8.encodeChar_accepted c with
    ⟨a, bytes, first⟩ | ⟨a, b, tail, _, _, _, bytes, first, least, -, trailing, -⟩
  · rw [bytes, List.mem_singleton] at member
    subst member
    exact (Text.Utf8.Verdict.char.inj first).symm
  · rw [bytes, List.mem_cons, List.mem_cons] at member
    rcases member with rfl | rfl | inside
    · cases first
    · exact absurd (UInt8.le_trans (Text.Utf8.lead_window first).1 least) (by decide)
    · exact absurd (trailing _ inside).1 (by decide)

/-- A line break is one byte, which no other character has. -/
theorem newline_not_mem_encode {cs : List Char} (unbroken : '\n' ∉ cs) : 0x0a ∉ encode cs := by
  intro member
  obtain ⟨c, inside, byte⟩ := List.mem_flatMap.mp member
  exact unbroken (eq_newline_of_mem byte ▸ inside)

theorem pieces_line {bs : List UInt8} (unbroken : 0x0a ∉ bs) (rest : List UInt8) :
    pieces (bs ++ 0x0a :: rest) = (bs ++ [0x0a]) :: pieces rest := by
  induction bs with
  | nil => exact if_pos rfl
  | cons b bs ih =>
    rw [List.mem_cons, not_or] at unbroken
    rw [List.cons_append, pieces, if_neg (Ne.symm unbroken.1), ih unbroken.2]
    rfl

theorem pieces_last {b : UInt8} {bs : List UInt8} (unbroken : 0x0a ∉ b :: bs) :
    pieces (b :: bs) = [b :: bs] := by
  induction bs generalizing b with
  | nil => exact if_neg fun same => unbroken (by simp [same])
  | cons b' bs ih =>
    rw [List.mem_cons, not_or] at unbroken
    rw [pieces, if_neg (Ne.symm unbroken.1), ih unbroken.2]

/-- Characters that leave quotes as they are, outside and within either kind. -/
def Quoting.Keeps (q : Quoting) (c : Char) : Prop := q.step c = some q

theorem scan_of_keeps {q : Quoting} {cs : List Char} (keeps : ∀ c ∈ cs, q.Keeps c)
    (rest : List Char) : (scan q (cs ++ rest)).2 = (scan q rest).2 := by
  induction cs with
  | nil => rfl
  | cons c cs ih =>
    obtain ⟨first, others⟩ := List.forall_mem_cons.mp keeps
    rw [List.cons_append, scan, first]
    exact ih others

theorem keeps_plain {c : Char} (noBlank : Text.isBlank c = false)
    (literal : c ∉ ['\'', '"', '\\']) : Quoting.plain.Keeps c := by
  simp only [List.mem_cons, List.not_mem_nil, or_false, not_or] at literal
  obtain ⟨strong, weak, escape⟩ := literal
  simp [Quoting.Keeps, Quoting.step, noBlank, strong, weak, escape]

theorem keeps_plain_of_break {ending : List Char} (isBreak : IsBreak ending) :
    ∀ c ∈ ending, Quoting.plain.Keeps c := by
  cases isBreak <;> simp [Quoting.Keeps, Quoting.step]

theorem withoutBreak_line (front : List Char) {last : Char} {ending : List Char}
    (noBlank : Text.isBlank last = false) (closed : ending = [] ∨ IsBreak ending) :
    withoutBreak (front ++ [last] ++ ending) = front ++ [last] := by
  have noReturn : last ≠ '\r' := by rintro rfl; cases noBlank
  have noNewline : last ≠ '\n' := by rintro rfl; cases noBlank
  have reversed : (front ++ [last] ++ ending).reverse = ending.reverse ++ last :: front.reverse := by
    simp
  have whole : (last :: front.reverse).reverse = front ++ [last] := by simp
  rw [withoutBreak, reversed]
  rcases closed with rfl | isBreak
  · simp [noNewline]
  · cases isBreak
    · simp [noReturn]
    · exact whole

section

variable {c : Char} {name value text : List Char}

theorem toNat_lt_of_nameChar (valid : c.isAlphanum ∨ c = '_' ∨ c = '.') : c.toNat < 128 := by
  rcases valid with alphanumeric | rfl | rfl
  · have bound {d : Char} (ascii : d.toNat < 128) (below : c.val ≤ d.val) : c.toNat < 128 :=
      Nat.lt_of_le_of_lt (UInt32.le_iff_toNat_le.mp below) ascii
    have classes : (c.isUpper || c.isLower) || c.isDigit := alphanumeric
    rcases Bool.or_eq_true _ _ |>.mp classes with letter | isDigit
    · rcases Bool.or_eq_true _ _ |>.mp letter with isUpper | isLower
      · exact bound (by decide) (of_decide_eq_true isUpper).2
      · exact bound (by decide) (of_decide_eq_true (Bool.and_eq_true _ _ |>.mp isLower).2)
    · exact bound (by decide) (of_decide_eq_true (Bool.and_eq_true _ _ |>.mp isDigit).2)
  · decide
  · decide

theorem noBlank_of_nameChar (valid : c.isAlphanum ∨ c = '_' ∨ c = '.') :
    Text.isBlank c = false ∧ isNameChar c = true ∧ c ∉ ['\'', '"', '\\', '\n', '#', '='] := by
  have all : ∀ n < 128, ((Char.ofNat n).isAlphanum ∨ Char.ofNat n = '_' ∨ Char.ofNat n = '.') →
      Text.isBlank (Char.ofNat n) = false ∧ isNameChar (Char.ofNat n) = true ∧
        Char.ofNat n ∉ ['\'', '"', '\\', '\n', '#', '='] := by
    decide +kernel
  have checked := all c.toNat (toNat_lt_of_nameChar valid)
  rw [Char.ofNat_toNat] at checked
  exact checked valid

theorem exists_first_of_name (isName : IsName name) (text : List Char) :
    ∃ c cs, name ++ '=' :: text = c :: cs ∧ Text.isBlank c = false ∧ c ≠ '#' := by
  obtain ⟨c, cs, rfl, -⟩ := isName.first
  obtain ⟨noBlank, -, literal⟩ := noBlank_of_nameChar (isName.chars c List.mem_cons_self)
  exact ⟨c, cs ++ '=' :: text, rfl, noBlank, fun same => literal (by simp [same])⟩

variable (spells : SpellsValue value text)

include spells

theorem scan_value (rest : List Char) :
    (scan .plain (text ++ rest)).2 = (scan .plain rest).2 := by
  cases spells with
  | bare chars =>
    refine scan_of_keeps (fun c member => keeps_plain (chars c member).1 ?_) rest
    exact fun special => (chars c member).2 (List.mem_append_left ['$', '#'] special)
  | strong chars =>
    have inside : ∀ c ∈ value, Quoting.strong.Keeps c := by
      intro c member
      have literal := chars c member
      simp only [List.mem_cons, List.not_mem_nil, or_false, not_or] at literal
      simp [Quoting.Keeps, Quoting.step, literal.1, literal.2.1]
    have opened : (scan .plain ('\'' :: (value ++ ['\'']) ++ rest)).2 =
      (scan .strong (value ++ '\'' :: rest)).2 := by simp [scan, Quoting.step, Text.isBlank]
    rw [opened, scan_of_keeps inside]
    rfl
  | weak chars =>
    have inside : ∀ c ∈ value, Quoting.weak.Keeps c := by
      intro c member
      have literal := chars c member
      simp only [List.mem_cons, List.not_mem_nil, or_false, not_or] at literal
      simp [Quoting.Keeps, Quoting.step, literal.1, literal.2.1]
    have opened : (scan .plain ('"' :: (value ++ ['"']) ++ rest)).2 =
      (scan .weak (value ++ '"' :: rest)).2 := by simp [scan, Quoting.step, Text.isBlank]
    rw [opened, scan_of_keeps inside]
    rfl

theorem valueFrom_value (known : String → List Char) :
    valueFrom known .plain text = some value := by
  cases spells with
  | bare chars =>
    induction value with
    | nil => rfl
    | cons c cs ih =>
      obtain ⟨first, others⟩ := List.forall_mem_cons.mp chars
      obtain ⟨noBlank, literal⟩ := first
      simp only [List.mem_cons, List.not_mem_nil, or_false, not_or] at literal
      have noSpace : isSpace c = false := by
        rw [isSpace, Bool.or_eq_false_iff, beq_eq_false_iff_ne, beq_eq_false_iff_ne]
        constructor <;> rintro rfl <;> cases noBlank
      simp [valueFrom, literal, noSpace, ih others]
  | strong chars =>
    have inside : valueFrom known .strong (value ++ ['\'']) = some value := by
      induction value with
      | nil => rfl
      | cons c cs ih =>
        obtain ⟨literal, others⟩ := List.forall_mem_cons.mp chars
        simp only [List.mem_cons, List.not_mem_nil, or_false, not_or] at literal
        simp [valueFrom, literal, ih others]
    simp [valueFrom, inside]
  | weak chars =>
    have inside : valueFrom known .weak (value ++ ['"']) = some value := by
      induction value with
      | nil => rfl
      | cons c cs ih =>
        obtain ⟨literal, others⟩ := List.forall_mem_cons.mp chars
        simp only [List.mem_cons, List.not_mem_nil, or_false, not_or] at literal
        simp [valueFrom, literal, ih others]
    simp [valueFrom, inside]

/-- A value ends in no blank, not even if it is empty, since an equals sign comes before it. -/
theorem exists_last_of_value :
    ∃ front last, '=' :: text = front ++ [last] ∧ Text.isBlank last = false := by
  cases spells with
  | bare chars =>
    rcases List.eq_nil_or_concat value with rfl | ⟨front, last, rfl⟩
    · exact ⟨[], '=', rfl, rfl⟩
    · rw [List.concat_eq_append] at chars ⊢
      exact ⟨'=' :: front, last, rfl, (chars last (by simp)).1⟩
  | strong => exact ⟨'=' :: '\'' :: value, '\'', rfl, rfl⟩
  | weak => exact ⟨'=' :: '"' :: value, '"', rfl, rfl⟩

theorem newline_not_mem_value : '\n' ∉ text := by
  cases spells with
  | bare chars => exact fun member => absurd (chars _ member).1 (by decide)
  | strong chars =>
    have inside : '\n' ∉ value := fun member => (chars _ member) (by simp)
    simp [inside]
  | weak chars =>
    have inside : '\n' ∉ value := fun member => (chars _ member) (by simp)
    simp [inside]

theorem first_of_value : Text.trimStart text = text ∧
    (isNothing text = true → value = []) := by
  cases spells with
  | bare chars =>
    cases value with
    | nil => exact ⟨rfl, fun _ => rfl⟩
    | cons c cs =>
      obtain ⟨noBlank, literal⟩ := chars c List.mem_cons_self
      refine ⟨List.dropWhile_cons_of_neg (by simp [noBlank]), fun nothing => ?_⟩
      simp only [List.mem_cons, List.not_mem_nil, or_false, not_or] at literal
      simp [isNothing, literal] at nothing
  | strong => exact ⟨rfl, nofun⟩
  | weak => exact ⟨rfl, nofun⟩

theorem exists_last_of_line (name : List Char) : ∃ front last,
    name ++ '=' :: text = front ++ [last] ∧ Text.isBlank last = false := by
  obtain ⟨front, last, same, noBlank⟩ := exists_last_of_value spells
  exact ⟨name ++ front, last, by rw [same, List.append_assoc], noBlank⟩

variable (isName : IsName name)

include isName

theorem newline_not_mem_line : '\n' ∉ name ++ '=' :: text := by
  have inName : '\n' ∉ name := fun member =>
    (noBlank_of_nameChar (isName.chars _ member)).2.2 (by simp)
  simp [inName, newline_not_mem_value spells]

theorem parse_line (known : String → List Char) :
    Line.parse? known (name ++ '=' :: text) = some (.assign (String.ofList name) value) := by
  obtain ⟨c, cs, front, noBlank, noComment⟩ := exists_first_of_name isName text
  obtain ⟨before, last, back, noBlankLast⟩ := exists_last_of_line spells name
  have whole : Text.trimStart (Text.trimEnd (name ++ '=' :: text)) = name ++ '=' :: text := by
    have untrimmed : Text.trimEnd (name ++ '=' :: text) = name ++ '=' :: text := by
      rw [back, Text.trimEnd, List.reverse_append, List.reverse_singleton, List.singleton_append,
        List.dropWhile_cons_of_neg (by simp [noBlankLast]), List.reverse_cons, List.reverse_reverse]
    rw [untrimmed, front]
    exact List.dropWhile_cons_of_neg (by simp [noBlank])
  have something : isNothing (name ++ '=' :: text) = false := by
    rw [front]
    simp [isNothing, noComment]
  have chars : ∀ c ∈ name, isNameChar c = true := fun c member =>
    (noBlank_of_nameChar (isName.chars c member)).2.1
  have named : name? (name ++ '=' :: text) = some (name, '=' :: text) := by
    have starts : (name ++ '=' :: text).head?.any isNameStart = true := by
      obtain ⟨c, cs, rfl, letter | underscore⟩ := isName.first
      · simp [isNameStart, letter]
      · simp [isNameStart, underscore]
    have equal : ¬isNameChar '=' = true := by decide
    rw [name?, if_pos starts, List.takeWhile_append_of_pos chars,
      List.dropWhile_append_of_pos chars, List.takeWhile_cons_of_neg equal,
      List.dropWhile_cons_of_neg equal, List.append_nil]
  have halves : halves? (name ++ '=' :: text) = some (name, text) := by
    rw [halves?, named]
    rfl
  obtain ⟨noBlanks, empty⟩ := first_of_value spells
  rw [Line.parse?]
  simp only [whole, something, halves, Bool.false_eq_true, if_false, Option.bind_eq_bind,
    Option.bind_some, noBlanks]
  by_cases nothing : isNothing text = true
  · rw [if_pos nothing, empty nothing]
  · rw [if_neg nothing, valueFrom_value spells]
    rfl

/-- A line with an assignment is one piece, and loses its line break only. -/
theorem linesFrom_line {ending : List Char} (closed : ending = [] ∨ IsBreak ending)
    (rest : List (List UInt8)) :
    linesFrom [] .plain (encode (name ++ '=' :: text ++ ending) :: rest) =
      (name ++ '=' :: text) :: linesFrom [] .plain rest := by
  obtain ⟨c, cs, front, noBlank, noComment⟩ := exists_first_of_name isName text
  obtain ⟨before, last, back, noBlankLast⟩ := exists_last_of_line spells name
  have decoded : Text.Utf8.decode? (encode (name ++ '=' :: text ++ ending)) =
    some (name ++ '=' :: text ++ ending) := Text.Utf8.decode?_eq_some_iff.mpr rfl
  have noRemark : isComment (name ++ '=' :: text ++ ending) = false := by
    rw [front, List.cons_append, isComment, Text.trimStart,
      List.dropWhile_cons_of_neg (by simp [noBlank])]
    simpa using noComment
  have balanced : (scan .plain (name ++ '=' :: text ++ ending)).2 = some .plain := by
    have inName : ∀ c ∈ name, Quoting.plain.Keeps c := by
      intro c member
      obtain ⟨noBlank, -, literal⟩ := noBlank_of_nameChar (isName.chars c member)
      exact keeps_plain noBlank fun special => literal (List.mem_append_left ['\n', '#', '='] special)
    have equal : ∀ c ∈ ['='], Quoting.plain.Keeps c := by
      simp [Quoting.Keeps, Quoting.step, Text.isBlank]
    have inEnding : ∀ c ∈ ending, Quoting.plain.Keeps c := by
      rcases closed with rfl | isBreak
      · exact nofun
      · exact keeps_plain_of_break isBreak
    have atEnd := scan_of_keeps inEnding []
    rw [List.append_nil] at atEnd
    have whole : name ++ '=' :: text ++ ending = name ++ (['='] ++ (text ++ ending)) := by simp
    rw [whole, scan_of_keeps inName, scan_of_keeps equal, scan_value spells, atEnd]
    rfl
  have unbroken : withoutBreak (name ++ '=' :: text ++ ending) = name ++ '=' :: text := by
    rw [back]
    exact withoutBreak_line before noBlankLast closed
  rw [linesFrom]
  simp only [decoded, List.nil_append, noRemark, Bool.false_eq_true, if_false]
  generalize scanned : scan .plain (name ++ '=' :: text ++ ending) = result at balanced
  obtain ⟨kept, end'⟩ := result
  obtain rfl : end' = some .plain := balanced
  dsimp only
  rw [unbroken]

end

theorem pieces_encode_line {body ending : List Char} (unbroken : '\n' ∉ body)
    (isBreak : IsBreak ending) (rest : List Char) :
    pieces (encode (body ++ (ending ++ rest))) =
      encode (body ++ ending) :: pieces (encode rest) := by
  have newline (front : List Char) (unbroken : '\n' ∉ front) :
      pieces (encode (front ++ '\n' :: rest)) =
        encode (front ++ ['\n']) :: pieces (encode rest) := by
    rw [Text.Utf8.encode_append, Text.Utf8.encode_append]
    exact pieces_line (newline_not_mem_encode unbroken) (encode rest)
  cases isBreak with
  | short => exact newline body unbroken
  | long =>
    have returned := newline (body ++ ['\r']) (by simp [unbroken])
    rw [List.append_assoc, List.append_assoc] at returned
    exact returned

theorem assignmentsFrom_remark {line ending : List Char} (isRemark : IsRemark line)
    (isBreak : IsBreak ending) (env : Environment) (assigned : List (String × List Char))
    (rest : List (List UInt8)) :
    assignmentsFrom env assigned (linesFrom [] .plain (encode (line ++ ending) :: rest)) =
      assignmentsFrom env assigned (linesFrom [] .plain rest) := by
  have decoded : Text.Utf8.decode? (encode (line ++ ending)) = some (line ++ ending) :=
    Text.Utf8.decode?_eq_some_iff.mpr rfl
  rw [linesFrom]
  simp only [decoded, List.nil_append]
  cases isRemark with
  | empty => cases isBreak <;> rfl
  | comment text => rfl

/-- What a plain text assigns is what it spells, whatever is known before it. By induction on its
lines, each of which is one piece. -/
theorem assignmentsFrom_of_spells {as : List (String × List Char)} {text : List Char}
    (spells : Spells as text) (env : Environment) (assigned : List (String × List Char)) :
    assignmentsFrom env assigned (linesFrom [] .plain (pieces (encode text))) = as := by
  induction spells generalizing env assigned with
  | nothing => rfl
  | @remark line ending rest as isRemark isBreak _ ih =>
    have unbroken : '\n' ∉ line := by
      cases isRemark with
      | empty => exact List.not_mem_nil
      | comment text unbroken => simp [unbroken]
    rw [pieces_encode_line unbroken isBreak, assignmentsFrom_remark isRemark isBreak]
    exact ih env assigned
  | @assign name value text ending rest as isName spellsValue isBreak _ ih =>
    rw [pieces_encode_line (newline_not_mem_line spellsValue isName) isBreak,
      linesFrom_line spellsValue isName (.inr isBreak), assignmentsFrom,
      parse_line spellsValue isName]
    dsimp only
    rw [ih]
  | @last name value text isName spellsValue =>
    have single : pieces (encode (name ++ '=' :: text)) = [encode (name ++ '=' :: text)] := by
      have unbroken := newline_not_mem_encode (newline_not_mem_line spellsValue isName)
      cases bytes : encode (name ++ '=' :: text) with
      | nil =>
        have nothing : Text.Utf8.decode? [] = some (name ++ '=' :: text) :=
          Text.Utf8.decode?_eq_some_iff.mpr bytes.symm
        have empty : [] = name ++ '=' :: text := Option.some.inj nothing
        simp at empty
      | cons b bs =>
        rw [bytes] at unbroken
        exact pieces_last unbroken
    have one := linesFrom_line spellsValue isName (.inl rfl) []
    rw [List.append_nil] at one
    rw [single, one, assignmentsFrom, parse_line spellsValue isName]
    rfl

theorem withoutMark_of_spells {as : List (String × List Char)} {text : List Char}
    (spells : Spells as text) : withoutMark (encode text) = encode text := by
  have plain {c : Char} (ascii : c.toNat < 0x80) (rest : List Char) :
      withoutMark (encode (c :: rest)) = encode (c :: rest) := by
    have first : encode (c :: rest) = UInt8.ofNat c.toNat :: encode rest := by
      have bytes := Text.Utf8.encodeChar_one ascii
      rw [Char.ofNat_toNat] at bytes
      rw [encode, List.flatMap_cons, bytes]
      rfl
    have other : UInt8.ofNat c.toNat ≠ 0xef := by
      intro same
      have value := congrArg UInt8.toNat same
      rw [UInt8.toNat_ofNat_of_lt' (show c.toNat < 2 ^ 8 by omega)] at value
      have mark : (0xef : UInt8).toNat = 0xef := rfl
      omega
    rw [first, withoutMark]
    exact fun bs same => other (List.cons.inj same).1
  have named {name : List Char} (isName : IsName name) (rest : List Char) :
      withoutMark (encode (name ++ rest)) = encode (name ++ rest) := by
    obtain ⟨c, cs, rfl, -⟩ := isName.first
    exact plain (toNat_lt_of_nameChar (isName.chars c List.mem_cons_self)) (cs ++ rest)
  cases spells with
  | nothing => rfl
  | @remark line ending rest _ isRemark isBreak _ =>
    cases isRemark with
    | empty => cases isBreak <;> exact plain (by decide) _
    | comment text => exact plain (by decide) _
  | assign isName =>
    rw [List.append_assoc]
    exact named isName _
  | last isName => exact named isName _

theorem assignments_of_spells {as : List (String × List Char)} {text : List Char}
    (spells : Spells as text) (env : Environment) : assignments env (encode text) = as := by
  rw [assignments, lines, withoutMark_of_spells spells]
  exact assignmentsFrom_of_spells spells env []

end CheckIn.DotEnv
