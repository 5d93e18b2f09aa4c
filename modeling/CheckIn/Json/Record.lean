import CheckIn.Json.Skip

/-! Records in a JSON text: objects whose members are fields in any order, or arrays of fields in
the order of their declaration. A field that is missing keeps its value, one that comes twice is a
fault, and a member that is no field is passed over. -/
namespace CheckIn.Json

/-- What the value ahead is, for a fault that says what should have stood there. -/
def unexpected (expected : String) : Reader α := fun c =>
  let mismatch (found : Found) (c : Cursor) : Except Fault (α × Cursor) :=
    c.fail (.invalidType found expected)
  match c.peek? with
  | none => c.fail .eofInValue
  | some b =>
    if b = 0x6e then (wordNull c.next).bind fun r => mismatch .null r.2
    else if b = 0x74 then (wordTrue c.next).bind fun r => mismatch (.boolean true) r.2
    else if b = 0x66 then (wordFalse c.next).bind fun r => mismatch (.boolean false) r.2
    else if b = 0x2d then (number true c.next).bind fun (n, c) => mismatch n.found c
    else if isDigit b then (number false c).bind fun (n, c) => mismatch n.found c
    else if b = 0x22 then (string c.next).bind fun (s, c) => mismatch (.string s) c
    else if b = 0x5b then mismatch .sequence c
    else if b = 0x7b then mismatch .object c
    else c.failAhead .expectedValue

def integer (low high : Nat) (expected : String) : Reader Int := fun c =>
  let c := c.skipBlanks
  let check (r : Number × Cursor) : Except Fault (Int × Cursor) :=
    let within (n : Int) : Except Fault (Int × Cursor) :=
      if -(low : Int) ≤ n ∧ n ≤ high then .ok (n, r.2)
      else r.2.fail (.invalidValue (.integer n) expected)
    match r.1 with
    | .unsigned n => within n
    | .negative n => within n
    | .float _ => r.2.fail (.invalidType r.1.found expected)
  if c.seesByte 0x2d then (number true c.next).bind check
  else if c.sees isDigit then (number false c).bind check
  else unexpected expected c

/-- A field of a record: its name, and how its value changes the record. -/
structure FieldReader (σ : Type) where
  name : String
  read : σ → Reader σ

/-- Where a fault of the record as a whole stands: behind its end, if that comes next. -/
def Cursor.behindEnd (closer : UInt8) (c : Cursor) : Cursor :=
  let c := c.skipBlanks
  if c.seesByte closer then c.next else c

/-- A member of an object, from behind the opening quote of its key. -/
def member (fields : List (FieldReader σ)) (seen : List String) (s : σ) :
    Reader (σ × List String) := fun c => do
  let (key, c) ← string c
  match fields.find? (·.name == key) with
  | some field =>
    if seen.contains key then (c.behindEnd 0x7d).fail (.duplicateField key)
    else
      let ((), c) ← colon c
      let (s, c) ← field.read s c
      .ok ((s, key :: seen), c)
  | none =>
    let ((), c) ← colon c
    let ((), c) ← skipValue c
    .ok ((s, seen), c)

/-- What follows a member: the end of the object, or a comma and what `next` reads. -/
def behindMember (next : σ → Reader σ) (s : σ) : Reader σ := fun c =>
  let c := c.skipBlanks
  match c.peek? with
  | none => c.fail .eofInObject
  | some b =>
    if b = 0x7d then .ok (s, c.next)
    else if b = 0x2c then
      let c := c.next.skipBlanks
      if c.seesByte 0x22 then next s c
      else if c.seesByte 0x7d then c.failAhead .trailingComma
      else if c.rest.isEmpty then c.fail .eofInValue
      else c.failAhead .keyMustBeString
    else c.failAhead .expectedObjectCommaOrEnd

/-- Members from the first one on; each takes at least one byte. -/
def members (fields : List (FieldReader σ)) : Nat → List String → σ → Reader σ
  | 0, _, _, c => c.fail .eofInObject
  | fuel + 1, seen, s, c => do
    let ((s, seen), c) ← member fields seen s c.next
    behindMember (members fields fuel seen) s c

def object (fields : List (FieldReader σ)) (s : σ) : Reader σ := fun c =>
  let c := c.skipBlanks
  if c.seesByte 0x7d then .ok (s, c.next)
  else if c.seesByte 0x22 then members fields c.rest.length [] s c
  else if c.rest.isEmpty then c.fail .eofInObject
  else c.failAhead .keyMustBeString

def arrayEnd : Reader Unit := fun c =>
  let c := c.skipBlanks
  if c.seesByte 0x5d then .ok ((), c.next)
  else if c.seesByte 0x2c then
    let c := c.next.skipBlanks
    if c.seesByte 0x5d then c.failAhead .trailingComma else c.failAhead .trailingCharacters
  else if c.rest.isEmpty then c.fail .eofInList
  else c.failAhead .trailingCharacters

/-- The elements of an array that are left, `first` if none has been read. -/
def elements : List (FieldReader σ) → Bool → σ → Reader σ
  | [], _, s, c => (arrayEnd c).map fun r => (s, r.2)
  | field :: fields, first, s, c => do
    let c := c.skipBlanks
    if c.rest.isEmpty then c.fail .eofInList
    else if c.seesByte 0x5d then .ok (s, c.next)
    else if first then
      let (s, c) ← field.read s c
      elements fields false s c
    else if c.seesByte 0x2c then
      let c := c.next.skipBlanks
      if c.rest.isEmpty then c.fail .eofInValue
      else if c.seesByte 0x5d then c.failAhead .trailingComma
      else
        let (s, c) ← field.read s c
        elements fields false s c
    else c.failAhead .expectedListCommaOrEnd

def record (expected : String) (fields : List (FieldReader σ)) (s : σ) : Reader σ := fun c =>
  let c := c.skipBlanks
  if c.seesByte 0x5b then elements fields true s c.next
  else if c.seesByte 0x7b then object fields s c.next
  else unexpected expected c

/-- A whole text: one value and blanks around it. -/
def document (read : Reader α) (bs : List UInt8) : Except Fault α := do
  let (a, c) ← read (.start bs)
  let c := c.skipBlanks
  if c.rest.isEmpty then .ok a else c.failAhead .trailingCharacters

end CheckIn.Json
