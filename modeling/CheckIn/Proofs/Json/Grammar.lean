import CheckIn.Net.Address

/-! The grammar of JSON texts, as relations on characters. Values that are passed over only have to
have the right form: a string in them may hold code units that are no text. The names of an object
that is read spell texts. -/
namespace CheckIn.Json

def Blanks (ws : List Char) : Prop := ∀ c ∈ ws, c = ' ' ∨ c = '\t' ∨ c = '\n' ∨ c = '\r'

/-- A text with blanks before and behind it. -/
def Padded (core text : List Char) : Prop :=
  ∃ before behind, Blanks before ∧ Blanks behind ∧ text = before ++ core ++ behind

theorem padded_self (core : List Char) : Padded core core :=
  ⟨[], [], List.forall_mem_nil _, List.forall_mem_nil _, (List.append_nil _).symm⟩

def AllDigits (ds : List Char) : Prop := ds ≠ [] ∧ ∀ d ∈ ds, d.isDigit = true

def WholePart (ds : List Char) : Prop := AllDigits ds ∧ (ds.head? = some '0' → ds = ['0'])

inductive FractionPart : List Char → Prop where
  | absent : FractionPart []
  | digits : AllDigits ds → FractionPart ('.' :: ds)

inductive ExponentPart : List Char → Prop where
  | absent : ExponentPart []
  | digits : mark = 'e' ∨ mark = 'E' → sign = [] ∨ sign = ['+'] ∨ sign = ['-'] → AllDigits ds →
      ExponentPart (mark :: (sign ++ ds))

def Unsigned (cs : List Char) : Prop := ∃ whole fraction exponent,
  WholePart whole ∧ FractionPart fraction ∧ ExponentPart exponent ∧
    cs = whole ++ (fraction ++ exponent)

theorem allDigits_of_all {ds : List Char} (some : ds ≠ []) (digits : ds.all Char.isDigit = true) :
    AllDigits ds := ⟨some, List.all_eq_true.mp digits⟩

theorem wholePart_digit {d : Char} (digit : d.isDigit = true) : WholePart [d] :=
  ⟨⟨List.cons_ne_nil _ _, List.forall_mem_singleton.mpr digit⟩, fun zero => by simpa using zero⟩

theorem unsigned_digit {d : Char} (digit : d.isDigit = true) : Unsigned [d] :=
  ⟨[d], [], [], wholePart_digit digit, .absent, .absent, rfl⟩

def Unescaped (c : Char) : Prop := 0x20 ≤ c.toNat ∧ c ≠ '"' ∧ c ≠ '\\'

/-- The letters of short escapes and what they stand for. -/
def shortEscapes : List (Char × Char) := [
  ('"', '"'), ('\\', '\\'), ('/', '/'), ('b', '\x08'), ('f', '\x0c'), ('n', '\n'), ('r', '\r'),
  ('t', '\t')]

def HexDigit (c : Char) (d : Nat) : Prop := d < 16 ∧ c.toLower = Nat.digitChar d

/-- Four hexadecimal digits. -/
inductive CodeUnit : List Char → Nat → Prop where
  | digits : HexDigit a w → HexDigit b x → HexDigit c y → HexDigit d z →
      CodeUnit [a, b, c, d] (((w * 16 + x) * 16 + y) * 16 + z)

/-- What stands between quotes, of any code units. -/
inductive IsString : List Char → Prop where
  | nil : IsString []
  | plain : Unescaped c → IsString cs → IsString (c :: cs)
  | short : (letter, c) ∈ shortEscapes → IsString cs → IsString ('\\' :: letter :: cs)
  | unit : CodeUnit ds n → IsString cs → IsString ('\\' :: 'u' :: (ds ++ cs))

def Leading (n : Nat) : Prop := 0xd800 ≤ n ∧ n ≤ 0xdbff
def Trailing (n : Nat) : Prop := 0xdc00 ≤ n ∧ n ≤ 0xdfff

/-- What stands between quotes for a text. -/
inductive SpellsText : List Char → List Char → Prop where
  | nil : SpellsText [] []
  | plain : Unescaped c → SpellsText cs text → SpellsText (c :: cs) (c :: text)
  | short : (letter, c) ∈ shortEscapes → SpellsText cs text →
      SpellsText ('\\' :: letter :: cs) (c :: text)
  | unit : CodeUnit ds n → ¬Leading n → ¬Trailing n → SpellsText cs text →
      SpellsText ('\\' :: 'u' :: (ds ++ cs)) (Char.ofNat n :: text)
  | pair : CodeUnit ds lead → Leading lead → CodeUnit ds' trail → Trailing trail →
      SpellsText cs text →
      SpellsText ('\\' :: 'u' :: (ds ++ '\\' :: 'u' :: (ds' ++ cs)))
        (Char.ofNat ((lead - 0xd800) * 0x400 + (trail - 0xdc00) + 0x10000) :: text)

theorem SpellsText.isString {cs text : List Char} (spells : SpellsText cs text) : IsString cs := by
  induction spells with
  | nil => exact .nil
  | plain itself _ ih => exact .plain itself ih
  | short listed _ ih => exact .short listed ih
  | unit digits _ _ _ ih => exact .unit digits ih
  | pair digits _ digits' _ _ ih => exact .unit digits (.unit digits' ih)

instance (c : Char) : Decidable (Unescaped c) := inferInstanceAs (Decidable (_ ∧ _ ∧ _))
instance (c : Char) (d : Nat) : Decidable (HexDigit c d) := inferInstanceAs (Decidable (_ ∧ _))
instance (n : Nat) : Decidable (Leading n) := inferInstanceAs (Decidable (_ ∧ _))
instance (n : Nat) : Decidable (Trailing n) := inferInstanceAs (Decidable (_ ∧ _))

theorem SpellsText.self {cs : List Char} (plain : cs.all (Unescaped ·) = true) :
    SpellsText cs cs := by
  induction cs with
  | nil => exact .nil
  | cons c cs ih =>
    rw [List.all_cons, Bool.and_eq_true, decide_eq_true_eq] at plain
    exact .plain plain.1 (ih plain.2)

def quoted (cs : List Char) : List Char := '"' :: (cs ++ ['"'])

inductive Form where
  | value
  | elements
  | members

inductive IsForm : Form → List Char → Prop where
  | null : IsForm .value ['n', 'u', 'l', 'l']
  | true : IsForm .value ['t', 'r', 'u', 'e']
  | false : IsForm .value ['f', 'a', 'l', 's', 'e']
  | positive : Unsigned cs → IsForm .value cs
  | negative : Unsigned cs → IsForm .value ('-' :: cs)
  | string : IsString cs → IsForm .value (quoted cs)
  | emptyArray : Blanks ws → IsForm .value ('[' :: (ws ++ [']']))
  | array : IsForm .elements es → IsForm .value ('[' :: (es ++ [']']))
  | emptyObject : Blanks ws → IsForm .value ('{' :: (ws ++ ['}']))
  | object : IsForm .members ms → IsForm .value ('{' :: (ms ++ ['}']))
  | lastElement : IsForm .value v → Padded v text → IsForm .elements text
  | element : IsForm .value v → Padded v text → IsForm .elements es →
      IsForm .elements (text ++ ',' :: es)
  | lastMember : IsString cs → Padded (quoted cs) key → IsForm .value v → Padded v text →
      IsForm .members (key ++ ':' :: text)
  | member : IsString cs → Padded (quoted cs) key → IsForm .value v → Padded v text →
      IsForm .members ms → IsForm .members (key ++ ':' :: (text ++ ',' :: ms))

/-- A name and the text of a value. -/
abbrev Member := String × List Char

/-- Members whose names are these texts and whose values have these forms. -/
inductive SpellsMembers : List Member → List Char → Prop where
  | last : SpellsText cs name → Padded (quoted cs) key → IsForm .value v → Padded v text →
      SpellsMembers [(String.ofList name, v)] (key ++ ':' :: text)
  | member : SpellsText cs name → Padded (quoted cs) key → IsForm .value v → Padded v text →
      SpellsMembers ms rest →
      SpellsMembers ((String.ofList name, v) :: ms) (key ++ ':' :: (text ++ ',' :: rest))

inductive SpellsObject : List Member → List Char → Prop where
  | empty : Blanks ws → SpellsObject [] ('{' :: (ws ++ ['}']))
  | members : SpellsMembers ms text → SpellsObject ms ('{' :: (text ++ ['}']))

def SpellsDocument (ms : List Member) (text : List Char) : Prop :=
  ∃ object, SpellsObject ms object ∧ Padded object text

theorem SpellsMembers.isForm {ms : List Member} {text : List Char}
    (spells : SpellsMembers ms text) : IsForm .members text := by
  induction spells with
  | last name padded value padded' => exact .lastMember name.isString padded value padded'
  | member name padded value padded' _ ih => exact .member name.isString padded value padded' ih

theorem SpellsObject.isForm {ms : List Member} {text : List Char}
    (spells : SpellsObject ms text) : IsForm .value text := by
  cases spells with
  | empty blanks => exact .emptyObject blanks
  | members spells => exact .object spells.isForm

end CheckIn.Json
