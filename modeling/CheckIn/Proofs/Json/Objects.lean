import CheckIn.Proofs.Json.Names
import Mathlib.Data.List.TakeWhile
import Mathlib.Tactic.SplitIfs

/-! Objects of any layout read as records. The members may stand in any order, with blanks anywhere
and with members between them that are no fields. What is made of the record is told by the fields
among the members alone; a field that stands there twice is refused. -/
namespace CheckIn.Json

open Text.Utf8 (encode encode_append)

/-- Why a text is not read. -/
inductive Refusal where
  | repeated (name : String)
  | other

def Refusal.Explains : Refusal → Fault → Prop
  | repeated name, fault => fault.complaint = .duplicateField name
  | other, _ => True

/-- A member of an object, with what its field makes of its value if it is one. -/
structure Item (ω : Type) where
  name : String
  value : List Char
  change : Except Refusal ω

def Item.member {ω : Type} (i : Item ω) : Member := (i.name, i.value)

section

variable {ω : Type} [Monoid ω] (names : List String)

/-- What a member changes, and the fields seen after it. -/
def itemChange (seen : List String) (i : Item ω) : Except Refusal (ω × List String) :=
  if i.name ∈ names then
    if i.name ∈ seen then .error (.repeated i.name)
    else i.change.map fun o => (o, i.name :: seen)
  else .ok (1, seen)

def total : List String → List (Item ω) → Except Refusal ω
  | _, [] => .ok 1
  | seen, i :: is => do
    let (o, seen) ← itemChange names seen i
    let o' ← total seen is
    .ok (o' * o)

def fieldNames (is : List (Item ω)) : List String := (is.map Item.name).filter (· ∈ names)

variable {names} {seen : List String} {is : List (Item ω)}

theorem itemChange_eq_ok_iff {i : Item ω} {o : ω} {seen' : List String} :
    itemChange names seen i = .ok (o, seen') ↔
      (i.name ∉ names ∧ o = 1 ∧ seen' = seen) ∨
        (i.name ∈ names ∧ i.name ∉ seen ∧ i.change = .ok o ∧ seen' = i.name :: seen) := by
  unfold itemChange
  by_cases known : i.name ∈ names
  · by_cases repeated : i.name ∈ seen
    · simp [known, repeated]
    · cases i.change <;> simp [known, repeated, Except.map, eq_comm]
  · simp [known, eq_comm]

theorem total_cons_eq_ok_iff {i : Item ω} {o : ω} : total names seen (i :: is) = .ok o ↔
    ∃ first seen' later, itemChange names seen i = .ok (first, seen') ∧
      total names seen' is = .ok later ∧ o = later * first := by
  rw [total]
  cases itemChange names seen i with
  | error r => simp [bind, Except.bind]
  | ok r =>
    obtain ⟨first, seen'⟩ := r
    cases later : total names seen' is with
    | error r => simp [bind, Except.bind, later]
    | ok o' => simp [bind, Except.bind, later, eq_comm]

/-- Members are read if no field is among them twice and the value of each field is read. -/
theorem exists_total_iff : (∃ o, total names seen is = .ok o) ↔
    (fieldNames names is).Nodup ∧ (∀ name ∈ fieldNames names is, name ∉ seen) ∧
      ∀ i ∈ is, i.name ∈ names → ∃ o, i.change = .ok o := by
  induction is generalizing seen with
  | nil => simp [total, fieldNames]
  | cons i is ih =>
    by_cases known : i.name ∈ names
    · have shown : fieldNames names (i :: is) = i.name :: fieldNames names is := by
        simp [fieldNames, known]
      simp only [shown, List.nodup_cons, List.forall_mem_cons]
      constructor
      · rintro ⟨o, read⟩
        obtain ⟨first, seen', later, step, others, -⟩ := total_cons_eq_ok_iff.mp read
        obtain ⟨other, -⟩ | ⟨-, fresh, change, rfl⟩ := itemChange_eq_ok_iff.mp step
        · exact absurd known other
        obtain ⟨distinct, apart, reads⟩ := ih.mp ⟨later, others⟩
        refine ⟨⟨fun again => apart _ again List.mem_cons_self, distinct⟩, ⟨fresh, ?_⟩,
          fun _ => ⟨first, change⟩, reads⟩
        exact fun name member seen => apart name member (List.mem_cons_of_mem _ seen)
      · rintro ⟨⟨once, distinct⟩, ⟨fresh, apart⟩, reads, others⟩
        obtain ⟨first, change⟩ := reads known
        have apart' : ∀ name ∈ fieldNames names is, name ∉ i.name :: seen := by
          intro name member again
          rcases List.mem_cons.mp again with rfl | seen
          · exact once member
          · exact apart name member seen
        obtain ⟨later, read⟩ := ih.mpr ⟨distinct, apart', others⟩
        exact ⟨later * first, total_cons_eq_ok_iff.mpr ⟨first, _, later,
          itemChange_eq_ok_iff.mpr (.inr ⟨known, fresh, change, rfl⟩), read, rfl⟩⟩
    · have hidden : fieldNames names (i :: is) = fieldNames names is := by
        simp [fieldNames, known]
      have passed : itemChange names seen i = .ok (1, seen) :=
        itemChange_eq_ok_iff.mpr (.inl ⟨known, rfl, rfl⟩)
      have goesOn : (∃ o, total names seen (i :: is) = .ok o) ↔
          ∃ o, total names seen is = .ok o := by
        simp [total_cons_eq_ok_iff, passed]
      rw [goesOn, ih, hidden, List.forall_mem_cons]
      simp [known]

theorem refusal_of_total {r : Refusal} (refused : total names seen is = .error r) :
    (∃ name, r = .repeated name) ∨ ∃ i ∈ is, i.name ∈ names ∧ i.change = .error r := by
  induction is generalizing seen with
  | nil => cases refused
  | cons i is ih =>
    rw [total] at refused
    cases step : itemChange names seen i with
    | error r' =>
      rw [step] at refused
      obtain rfl : r' = r := Except.error.inj refused
      unfold itemChange at step
      split_ifs at step with known repeated
      · exact .inl ⟨_, (Except.error.inj step).symm⟩
      · cases change : i.change with
        | error r'' =>
          rw [change] at step
          obtain rfl : r'' = r' := Except.error.inj step
          exact .inr ⟨i, List.mem_cons_self, known, change⟩
        | ok o =>
          rw [change] at step
          cases step
    | ok first =>
      rw [step] at refused
      cases others : total names first.2 is with
      | ok later =>
        simp only [bind, Except.bind, others] at refused
        cases refused
      | error r' =>
        simp only [bind, Except.bind, others] at refused
        obtain rfl : r' = r := Except.error.inj refused
        rcases ih others with repeated | ⟨i', member, found⟩
        · exact .inl repeated
        · exact .inr ⟨i', List.mem_cons_of_mem i member, found⟩

theorem view_total {ι α : Type} {view : ω → Option α} (nothing : view 1 = none)
    (either : ∀ later first, view (later * first) = (view later).or (view first))
    {item : ι → Item ω} {values : ι → List α} {xs : List ι}
    (each : ∀ x ∈ xs, (item x).name ∈ names → ∀ o, (item x).change = .ok o →
      view o = (values x).getLast?) {o : ω} (read : total names seen (xs.map item) = .ok o) :
    view o = ((xs.filter fun x => (item x).name ∈ names).flatMap values).getLast? := by
  induction xs generalizing seen o with
  | nil =>
    cases read
    exact nothing
  | cons x xs ih =>
    obtain ⟨first, seen', later, step, others, rfl⟩ := total_cons_eq_ok_iff.mp read
    have tail := ih (fun x member => each x (List.mem_cons_of_mem _ member)) others
    rw [either, tail]
    obtain ⟨other, rfl, -⟩ | ⟨known, -, change, -⟩ := itemChange_eq_ok_iff.mp step
    · rw [nothing, Option.or_none, List.filter_cons_of_neg (by simpa using other)]
    · rw [List.filter_cons_of_pos (by simpa using known), List.flatMap_cons, List.getLast?_append,
        each x List.mem_cons_self known first change]

end

section

variable {ω σ : Type} [Monoid ω] [MulAction ω σ]

/-- A result as a verdict has it: the record changed and `rest` ahead, or an explained fault. -/
def Meets (rest : List UInt8) (s : σ) (verdict : Except Refusal ω)
    (result : Except Fault (σ × Cursor)) : Prop :=
  match verdict with
  | .ok o => ∃ c, c.rest = rest ∧ result = .ok (o • s, c)
  | .error r => ∃ fault, r.Explains fault ∧ result = .error fault

theorem Meets.after {rest : List UInt8} {s : σ} {o : ω} {verdict : Except Refusal ω}
    {result : Except Fault (σ × Cursor)} (meets : Meets rest (o • s) verdict result) :
    Meets rest s (verdict >>= fun later => .ok (later * o)) result := by
  cases verdict with
  | error r => exact meets
  | ok later =>
    obtain ⟨c, ahead, same⟩ := meets
    exact ⟨c, ahead, by rw [same, mul_smul]⟩

/-- What a reader makes of every record from the text of a value. -/
def Judges (read : σ → Reader σ) (v : List Char) (verdict : Except Refusal ω) : Prop :=
  ∀ s mark rest c, IsEnd mark → Cursor.Faces c (encode v ++ mark :: rest) →
    Meets (mark :: rest) s verdict (read s c)

/-- The field of a member, if there is one, makes of its value what the member has it make. -/
def Item.Fits (fields : List (FieldReader σ)) (i : Item ω) : Prop :=
  ∀ field, fields.find? (·.name == i.name) = some field → Judges field.read i.value i.change

variable {fields : List (FieldReader σ)}

theorem find?_eq_none_iff (name : String) :
    fields.find? (·.name == name) = none ↔ name ∉ fields.map FieldReader.name := by
  simp [List.find?_eq_none]

theorem member_meets {i : Item ω} (fits : i.Fits fields) {cs key text name : List Char}
    (named : i.name = String.ofList name) (spells : SpellsText cs name)
    (padded : Padded (quoted cs) key) (value : IsForm .value i.value)
    (padded' : Padded i.value text) {b : UInt8} (isEnd : IsEnd b) (noBlank : isBlank b = false)
    {rest : List UInt8} (seen : List String) (s : σ) {c : Cursor}
    (faces : c.Faces (encode key ++ 0x3a :: (encode text ++ b :: rest))) :
    (∃ more, c.skipBlanks.rest = 0x22 :: more) ∧
    match itemChange (fields.map FieldReader.name) seen i with
    | .ok (o, seen') => ∃ c', c'.skipBlanks.rest = b :: rest ∧
        member fields seen s c.skipBlanks.next = .ok ((o • s, seen'), c')
    | .error r => ∃ fault, r.Explains fault ∧
        member fields seen s c.skipBlanks.next = .error fault := by
  obtain ⟨more, c₁, c₂, quote, read₁, read₂, ahead₂⟩ :=
    takes_key (fun _ => takes_spelled spells) padded faces
  rw [← named] at read₁
  refine ⟨⟨more, quote⟩, ?_⟩
  obtain ⟨before, behind, blanks, blanks', rfl⟩ := padded'
  obtain ⟨mark, rest', tail, isEnd'⟩ := end_behind blanks' isEnd rest
  have inside : c₂.Faces (encode i.value ++ mark :: rest') := by
    have all := Cursor.faces ahead₂
    rwa [encode_append, encode_append, List.append_assoc, List.append_assoc, tail, Cursor.Faces,
      List.dropWhile_append_of_pos (isBlank_of_mem blanks)] at all
  have reached {c₃ : Cursor} (ahead₃ : c₃.rest = mark :: rest') : c₃.skipBlanks.rest = b :: rest :=
    (Cursor.faces (ahead₃.trans tail.symm)).behind blanks' noBlank
  unfold itemChange
  by_cases known : i.name ∈ fields.map FieldReader.name
  · rw [if_pos known]
    obtain ⟨field, found⟩ : ∃ field, fields.find? (·.name == i.name) = some field := by
      rw [← Option.ne_none_iff_exists', ne_eq, find?_eq_none_iff]
      exact not_not_intro known
    by_cases repeated : i.name ∈ seen
    · rw [if_pos repeated]
      have contained : seen.contains i.name = true := by simpa using repeated
      let place := c₁.behindEnd 0x7d
      refine ⟨⟨.duplicateField i.name, place.line, place.column⟩, rfl, ?_⟩
      simp only [member, read₁, bind, Except.bind, found, if_pos contained]
      rfl
    · rw [if_neg repeated]
      have contained : ¬seen.contains i.name = true := by simpa using repeated
      have meets := fits field found s mark rest' c₂ isEnd' inside
      cases change : i.change with
      | ok o =>
        rw [change] at meets
        obtain ⟨c₃, ahead₃, read₃⟩ := meets
        refine ⟨c₃, reached ahead₃, ?_⟩
        simp only [member, read₁, bind, Except.bind, found, if_neg contained, read₂, read₃]
      | error r =>
        rw [change] at meets
        obtain ⟨fault, explains, read₃⟩ := meets
        refine ⟨fault, explains, ?_⟩
        simp only [member, read₁, bind, Except.bind, found, if_neg contained, read₂, read₃]
  · rw [if_neg known]
    obtain ⟨c₃, ahead₃, read₃⟩ := skipValue_of_faces value isEnd' inside
    refine ⟨c₃, reached ahead₃, ?_⟩
    simp only [member, read₁, bind, Except.bind, (find?_eq_none_iff i.name).mpr known, read₂,
      read₃, one_smul]

omit [Monoid ω] [MulAction ω σ] in
theorem behindMember_end {next : σ → Reader σ} {s : σ} {c : Cursor} {rest : List UInt8}
    (behind : c.skipBlanks.rest = 0x7d :: rest) :
    behindMember next s c = .ok (s, c.skipBlanks.next) := by
  simp only [behindMember]
  rw [Cursor.peek?_of_ahead behind]
  rfl

theorem behindMember_more {next : σ → Reader σ} {s : σ} {c : Cursor} {rest more : List UInt8}
    (behind : c.skipBlanks.rest = 0x2c :: rest)
    (quote : c.skipBlanks.next.skipBlanks.rest = 0x22 :: more) :
    behindMember next s c = next s c.skipBlanks.next.skipBlanks := by
  simp only [behindMember]
  rw [Cursor.peek?_of_ahead behind, Cursor.seesByte_of_ahead quote]
  rfl

theorem members_refused {fuel : Nat} {seen : List String} {s : σ} {c : Cursor} {fault : Fault}
    (read : member fields seen s c.next = .error fault) :
    members fields (fuel + 1) seen s c = .error fault := by
  rw [members, read]
  rfl

theorem members_read {fuel : Nat} {seen seen' : List String} {s s' : σ} {c c' : Cursor}
    (read : member fields seen s c.next = .ok ((s', seen'), c')) :
    members fields (fuel + 1) seen s c = behindMember (members fields fuel seen') s' c' := by
  rw [members, read]
  rfl

/-- The members are read one by one, each as its change: by induction on their spelling. -/
theorem members_meets {ms : List Member} {text : List Char} (spells : SpellsMembers ms text)
    {is : List (Item ω)} (same : is.map Item.member = ms) (fits : ∀ i ∈ is, i.Fits fields)
    {fuel : Nat} (room : is.length ≤ fuel) (seen : List String) (s : σ) {rest : List UInt8}
    {c : Cursor} (faces : c.Faces (encode text ++ 0x7d :: rest)) :
    (∃ more, c.skipBlanks.rest = 0x22 :: more) ∧
      Meets rest s (total (fields.map FieldReader.name) seen is)
        (members fields fuel seen s c.skipBlanks) := by
  induction spells generalizing is fuel seen s c with
  | @last cs name key v text spells padded value padded' =>
    obtain ⟨i, rfl, only⟩ := List.map_eq_singleton_iff.mp same
    have named : i.name = String.ofList name := congrArg Prod.fst only
    obtain rfl : i.value = v := congrArg Prod.snd only
    rw [encode_colon] at faces
    obtain ⟨quote, first⟩ := member_meets (fits i List.mem_cons_self) named spells padded value
      padded' (.inr (.inr (.inr rfl))) rfl seen s faces
    refine ⟨quote, ?_⟩
    obtain ⟨fuel, rfl⟩ := Nat.exists_eq_add_of_le' room
    simp only [total]
    cases step : itemChange (fields.map FieldReader.name) seen i with
    | error r =>
      rw [step] at first
      obtain ⟨fault, explains, read⟩ := first
      exact ⟨fault, explains, members_refused read⟩
    | ok r =>
      obtain ⟨o, seen'⟩ := r
      rw [step] at first
      obtain ⟨c', behind, read⟩ := first
      refine ⟨c'.skipBlanks.next, Cursor.next_rest behind, ?_⟩
      rw [one_mul]
      exact (members_read read).trans (behindMember_end behind)
  | @member cs name key v text ms tail spells padded value padded' _ ih =>
    obtain ⟨i, is, rfl, first, others⟩ := List.map_eq_cons_iff.mp same
    have named : i.name = String.ofList name := congrArg Prod.fst first
    obtain rfl : i.value = v := congrArg Prod.snd first
    rw [encode_colon, encode_comma] at faces
    obtain ⟨quote, first⟩ := member_meets (fits i List.mem_cons_self) named spells padded value
      padded' (.inr (.inl rfl)) rfl seen s faces
    refine ⟨quote, ?_⟩
    obtain ⟨fuel, rfl⟩ := Nat.exists_eq_add_of_le' (Nat.le_trans (Nat.le_add_left 1 _) room)
    simp only [total]
    cases step : itemChange (fields.map FieldReader.name) seen i with
    | error r =>
      rw [step] at first
      obtain ⟨fault, explains, read⟩ := first
      exact ⟨fault, explains, members_refused read⟩
    | ok r =>
      obtain ⟨o, seen'⟩ := r
      rw [step] at first
      obtain ⟨c', behind, read⟩ := first
      obtain ⟨⟨more, quote'⟩, others⟩ := ih others
        (fun i member => fits i (List.mem_cons_of_mem _ member)) (Nat.le_of_succ_le_succ room) seen'
        (o • s) (Cursor.faces (Cursor.next_rest behind))
      have goesOn : members fields (fuel + 1) seen s c.skipBlanks =
          members fields fuel seen' (o • s) c'.skipBlanks.next.skipBlanks :=
        (members_read read).trans (behindMember_more behind quote')
      rw [goesOn]
      exact others.after

theorem SpellsMembers.length_le {ms : List Member} {text : List Char}
    (spells : SpellsMembers ms text) : ms.length ≤ text.length := by
  induction spells with
  | last => simp only [List.length_cons, List.length_nil, List.length_append]; omega
  | member _ _ _ _ _ ih => simp only [List.length_cons, List.length_append]; omega

theorem SpellsMembers.length_le_dropWhile {ms : List Member} {text : List Char}
    (spells : SpellsMembers ms text) (rest : List UInt8) :
    ms.length ≤ ((encode text ++ rest).dropWhile isBlank).length := by
  obtain ⟨key, tail, rfl, shorter⟩ : ∃ key tail, text = key ++ ':' :: tail ∧
      ms.length ≤ tail.length + 1 := by
    cases spells with
    | @last cs name key v text => exact ⟨key, text, rfl, Nat.le_add_left _ _⟩
    | @member cs name key v text ms tail _ _ _ _ others =>
      refine ⟨key, text ++ ',' :: tail, rfl, ?_⟩
      have := others.length_le
      simp only [List.length_append, List.length_cons]
      omega
  have kept (front back : List UInt8) :
      back.length + 1 ≤ ((front ++ 0x3a :: back).dropWhile isBlank).length := by
    rw [List.dropWhile_append]
    split
    · exact Nat.le_refl _
    · simp only [List.length_append, List.length_cons]
      omega
  rw [encode_colon]
  refine Nat.le_trans shorter (Nat.le_trans (Nat.succ_le_succ ?_) (kept _ _))
  have := length_le_encode tail
  rw [List.length_append]
  omega

theorem record_meets {ms : List Member} {text : List Char} (spells : SpellsObject ms text)
    {is : List (Item ω)} (same : is.map Item.member = ms) (fits : ∀ i ∈ is, i.Fits fields)
    (expected : String) (s : σ) {rest : List UInt8} {c : Cursor}
    (faces : c.Faces (encode text ++ rest)) :
    Meets rest s (total (fields.map FieldReader.name) [] is) (record expected fields s c) := by
  cases spells with
  | empty blanks =>
    obtain rfl := List.map_eq_nil_iff.mp same
    rw [encode_braced] at faces
    obtain ⟨closed, behind⟩ := closed_behind blanks rfl (Cursor.next_rest faces)
    refine ⟨_, behind, ?_⟩
    simp only [record, object]
    rw [Cursor.seesByte_of_ahead faces, Cursor.seesByte_of_ahead faces, closed, one_smul]
    rfl
  | @members _ text spells =>
    rw [encode_braced] at faces
    have inside := Cursor.next_rest faces
    obtain ⟨⟨more, quote⟩, -⟩ :=
      members_meets spells same fits (Nat.le_refl _) [] s (Cursor.faces inside)
    have room : is.length ≤ c.skipBlanks.next.skipBlanks.rest.length := by
      rw [← List.length_map Item.member, same, Cursor.skipBlanks, Cursor.rest_skipWhile, inside]
      exact spells.length_le_dropWhile _
    obtain ⟨-, meets⟩ := members_meets spells same fits room [] s (Cursor.faces inside)
    have opened : record expected fields s c = members fields
        c.skipBlanks.next.skipBlanks.rest.length [] s c.skipBlanks.next.skipBlanks := by
      simp only [record, object]
      rw [Cursor.seesByte_of_ahead faces, Cursor.seesByte_of_ahead faces,
        Cursor.seesByte_of_ahead quote, Cursor.seesByte_of_ahead quote]
      rfl
    rw [opened]
    exact meets

theorem document_meets {ms : List Member} {text : List Char} (spells : SpellsDocument ms text)
    {is : List (Item ω)} (same : is.map Item.member = ms) (fits : ∀ i ∈ is, i.Fits fields)
    (expected : String) (s : σ) :
    match total (fields.map FieldReader.name) [] is with
    | .ok o => document (record expected fields s) (encode text) = .ok (o • s)
    | .error r => ∃ fault, r.Explains fault ∧
        document (record expected fields s) (encode text) = .error fault := by
  obtain ⟨object, spells, before, behind, blanks, blanks', rfl⟩ := spells
  have faces : (Cursor.start (encode (before ++ object ++ behind))).Faces
      (encode object ++ encode behind) := by
    have all : (Cursor.start (encode (before ++ object ++ behind))).Faces
        (encode before ++ (encode object ++ encode behind)) := by
      refine Cursor.faces ?_
      rw [Cursor.start, encode_append, encode_append, List.append_assoc]
    rwa [Cursor.Faces, List.dropWhile_append_of_pos (isBlank_of_mem blanks)] at all
  have meets := record_meets spells same fits expected s faces
  cases verdict : total (fields.map FieldReader.name) [] is with
  | error r =>
    rw [verdict] at meets
    obtain ⟨fault, explains, read⟩ := meets
    exact ⟨fault, explains, by rw [document, read]; rfl⟩
  | ok o =>
    rw [verdict] at meets
    obtain ⟨c, ahead, read⟩ := meets
    have finished : c.skipBlanks.rest.isEmpty = true := by
      rw [Cursor.skipBlanks, Cursor.rest_skipWhile, ahead, List.isEmpty_iff,
        List.dropWhile_eq_nil_iff]
      exact isBlank_of_mem blanks'
    rw [document, read]
    exact if_pos finished

end

end CheckIn.Json
