import CheckIn.Proofs.Cbor.Chunks
import CheckIn.Proofs.Cbor.Head

/-! The contents of strings. A text of known length is read as what its bytes are as a whole, and an
open string up to the stop that belongs to it. -/
namespace CheckIn.Cbor

open Text.Utf8

def TextOf (length : Nat) (cs : List Char) (data : List UInt8) : Prop :=
  data = encode cs ∧ data.length = length

theorem Reads.of_judged {read : Reader (List Char)} {start length : Nat}
    (judged : ∀ c, Judged start length c (read c)) : Reads read (TextOf length) where
  sound {c c' cs} ok := by
    have verdict := judged c
    rw [ok] at verdict
    cases verdict with
    | text moved count => exact ⟨_, moved, rfl, count⟩
  complete := by
    rintro c c' cs _ ⟨rfl, count⟩ moved
    exact (judged c).eq_of_text moved count

theorem Reads.textSegment (start length : Nat) :
    Reads (textSegment start length) (TextOf length) :=
  .of_judged (textSegment_judged start length)

theorem Reads.definiteText (start length : Nat) :
    Reads (definiteText start length) (TextOf length) :=
  .of_judged (definiteText_judged start length)

/-- Segments up to the stop of the outermost of some more open strings. -/
def Layered (major : Nat) (Content : List α → List UInt8 → Prop) :
    Nat → List α → List UInt8 → Prop
  | 0, content, bs => ∃ u, bs = u ++ [stop] ∧ Segments AnyHead major Content content u
  | depth + 1, content, bs => ∃ front back u v, content = front ++ back ∧ bs = u ++ stop :: v ∧
      Segments AnyHead major Content front u ∧ Layered major Content depth back v

section

variable {major : Nat} {Content : List α → List UInt8 → Prop}

theorem Layered.prepend {front content : List α} {u bs : List UInt8}
    (first : ∀ {content bs}, Segments AnyHead major Content content bs →
      Segments AnyHead major Content (front ++ content) (u ++ bs)) :
    ∀ {depth}, Layered major Content depth content bs →
      Layered major Content depth (front ++ content) (u ++ bs)
  | 0, ⟨v, split, segments⟩ => ⟨u ++ v, by rw [split, List.append_assoc], first segments⟩
  | _ + 1, ⟨middle, back, v, w, whole, split, segments, later⟩ =>
    ⟨front ++ middle, back, u ++ v, w, by rw [whole, List.append_assoc],
      by rw [split, List.append_assoc], first segments, later⟩

theorem Layered.close {depth : Nat} {content : List α} {bs : List UInt8}
    (later : Layered major Content depth content bs) :
    Layered major Content (depth + 1) content (stop :: bs) :=
  ⟨[], content, [], bs, rfl, rfl, .nil, later⟩

theorem Layered.known {depth : Nat} {content rest : List α} {head data bs : List UInt8}
    (spelling : AnyHead major data.length head) (held : Content content data)
    (later : Layered major Content depth rest bs) :
    Layered major Content depth (content ++ rest) (head ++ data ++ bs) :=
  later.prepend (Segments.known spelling held)

theorem Layered.nested {depth : Nat} {content : List α} {bs : List UInt8}
    (inside : Layered major Content (depth + 1) content bs) :
    Layered major Content depth content (opening major :: bs) := by
  obtain ⟨front, back, u, v, rfl, rfl, segments, later⟩ := inside
  have closed := later.prepend (u := opening major :: u ++ [stop]) fun outside => by
    simpa using Segments.nested segments outside
  simpa using closed

end

/-- The heads that a string of one major type has. -/
structure StringHead (make : Option Nat → Head) (major : Nat)
    (lengthOf : Head → Option (Option Nat)) : Prop where
  lengthOf_eq {h : Head} {length : Option Nat} : lengthOf h = some length ↔ h = make length
  known {n : Nat} {bs : List UInt8} : (make (some n)).Spelled bs ↔ AnyHead major n bs
  unknown {bs : List UInt8} : (make none).Spelled bs ↔ bs = [opening major]
  ne_stop {length : Option Nat} : make length ≠ .stop

section

variable (lengthOf : Head → Option (Option Nat))
  (segment : Nat → Nat → Cursor → Except Fault (List α × Cursor))

/-- What one head leads to among segments. -/
inductive SegmentStep (fuel : Nat) (c : Cursor) : Nat → List α → Cursor → Prop where
  | stop : Head.read c = .ok (.stop, next) → SegmentStep fuel c 0 [] next
  | close : Head.read c = .ok (.stop, next) →
      segments lengthOf segment fuel depth next = .ok (content, last) →
      SegmentStep fuel c (depth + 1) content last
  | nested : Head.read c = .ok (h, next) → h ≠ .stop → lengthOf h = some none →
      segments lengthOf segment fuel (depth + 1) next = .ok (content, last) →
      SegmentStep fuel c depth content last
  | known : Head.read c = .ok (h, next) → h ≠ .stop → lengthOf h = some (some n) →
      segment c.offset n next = .ok (content, later) →
      segments lengthOf segment fuel depth later = .ok (rest, last) →
      SegmentStep fuel c depth (content ++ rest) last

variable {lengthOf segment} {fuel depth : Nat} {c c' : Cursor} {content : List α}

theorem segments_of_step (h : SegmentStep lengthOf segment fuel c depth content c') :
    segments lengthOf segment (fuel + 1) depth c = .ok (content, c') := by
  cases h with
  | stop read => simp [segments, read, Bind.bind, Except.bind]
  | close read later => simp [segments, read, Bind.bind, Except.bind, later]
  | @nested h _ _ _ _ read other length later =>
    cases h <;> simp_all [segments, Bind.bind, Except.bind]
  | @known h _ _ _ _ _ _ _ read other length inside later =>
    cases h <;> simp_all [segments, Bind.bind, Except.bind]

theorem step_of_segments (ok : segments lengthOf segment (fuel + 1) depth c = .ok (content, c')) :
    SegmentStep lengthOf segment fuel c depth content c' := by
  obtain ⟨⟨h, next⟩, read, ok⟩ := bind_eq_ok_iff.mp ok
  dsimp only at ok
  split at ok
  · split at ok
    · cases ok
      exact .stop read
    · exact .close read ok
  · next other length => exact .nested read other length ok
  · next other length =>
    obtain ⟨⟨front, later⟩, inside, ok⟩ := bind_eq_ok_iff.mp ok
    obtain ⟨⟨rest, last⟩, outside, ok⟩ := bind_eq_ok_iff.mp ok
    cases ok
    exact .known read other length inside outside
  · cases ok

variable (lengthOf segment) in
/-- What the segment reader takes for the content of these bytes, which it closes behind. -/
structure Closes (depth : Nat) (content : List α) (bs : List UInt8) : Prop where
  reads {fuel : Nat} {c c' : Cursor} : bs.length ≤ fuel → c.Moves bs c' →
    segments lengthOf segment fuel depth c = .ok (content, c')

theorem Closes.stop : Closes lengthOf segment 0 [] [stop] where
  reads {fuel _ _} enough moved := by
    cases fuel with
    | zero => simp at enough
    | succ fuel => exact segments_of_step (.stop (reads_head.complete rfl moved))

theorem Closes.close {bs : List UInt8} (h : Closes lengthOf segment depth content bs) :
    Closes lengthOf segment (depth + 1) content (Cbor.stop :: bs) where
  reads {fuel _ _} enough moved := by
    cases fuel with
    | zero => simp at enough
    | succ fuel =>
      obtain ⟨between, moved₁, moved₂⟩ := Cursor.Moves.split (u := [Cbor.stop]) moved
      have read := reads_head.complete (a := .stop) rfl moved₁
      have later := h.reads (Nat.le_of_succ_le_succ enough) moved₂
      exact segments_of_step (.close read later)

end

section

variable {make : Option Nat → Head} {major : Nat} {lengthOf : Head → Option (Option Nat)}
  {segment : Nat → Nat → Cursor → Except Fault (List α × Cursor)}
  {Content : List α → List UInt8 → Prop} (form : StringHead make major lengthOf)
  (inside : ∀ start n, Reads (segment start n) fun content data =>
    Content content data ∧ data.length = n)

include form inside

theorem segments_sound {fuel : Nat} : ∀ {depth : Nat} {c c' : Cursor} {content : List α},
    segments lengthOf segment fuel depth c = .ok (content, c') →
    ∃ bs, c.Moves bs c' ∧ Layered major Content depth content bs := by
  induction fuel with
  | zero =>
    intro depth c c' content ok
    cases ok
  | succ fuel ih =>
    intro depth c c' content ok
    cases step_of_segments ok with
    | stop read =>
      obtain ⟨bs, moved, rfl⟩ := reads_head.sound read
      exact ⟨_, moved, [], rfl, .nil⟩
    | close read later =>
      obtain ⟨bs, moved, rfl⟩ := reads_head.sound read
      obtain ⟨rest, moved', layers⟩ := ih later
      exact ⟨_, moved.trans moved', layers.close⟩
    | nested read _ length later =>
      obtain rfl := form.lengthOf_eq.mp length
      obtain ⟨bs, moved, head⟩ := reads_head.sound read
      obtain rfl := form.unknown.mp head
      obtain ⟨rest, moved', layers⟩ := ih later
      exact ⟨_, moved.trans moved', layers.nested⟩
    | known read _ length content later =>
      obtain rfl := form.lengthOf_eq.mp length
      obtain ⟨bs, moved, head⟩ := reads_head.sound read
      obtain ⟨data, moved', held, rfl⟩ := (inside _ _).sound content
      obtain ⟨rest, moved'', layers⟩ := ih later
      exact ⟨_, (moved.trans moved').trans moved'', layers.known (form.known.mp head) held⟩

omit inside in
theorem Closes.nested {depth : Nat} {content : List α} {bs : List UInt8}
    (h : Closes lengthOf segment (depth + 1) content bs) :
    Closes lengthOf segment depth content (opening major :: bs) where
  reads {fuel _ _} enough moved := by
    cases fuel with
    | zero => simp at enough
    | succ fuel =>
      obtain ⟨between, moved₁, moved₂⟩ := Cursor.Moves.split (u := [opening major]) moved
      have read := reads_head.complete (form.unknown.mpr rfl) moved₁
      have later := h.reads (Nat.le_of_succ_le_succ enough) moved₂
      exact segments_of_step (.nested read form.ne_stop (form.lengthOf_eq.mpr rfl) later)

theorem Closes.known {depth : Nat} {content rest : List α} {head data bs : List UInt8}
    (spelling : AnyHead major data.length head) (held : Content content data)
    (h : Closes lengthOf segment depth rest bs) :
    Closes lengthOf segment depth (content ++ rest) (head ++ data ++ bs) where
  reads {fuel c _} enough moved := by
    have least := spelling.length_pos
    simp only [List.length_append] at enough
    cases fuel with
    | zero => omega
    | succ fuel =>
      obtain ⟨later, moved, moved₃⟩ := moved.split
      obtain ⟨next, moved₁, moved₂⟩ := moved.split
      have read := reads_head.complete (form.known.mpr spelling) moved₁
      have front := (inside c.offset data.length).complete ⟨held, rfl⟩ moved₂
      have back := h.reads (by omega : bs.length ≤ fuel) moved₃
      exact segments_of_step (.known read form.ne_stop (form.lengthOf_eq.mpr rfl) front back)

theorem Closes.segments {front : List α} {u : List UInt8}
    (parts : Segments AnyHead major Content front u) : ∀ {depth : Nat} {back : List α}
    {v : List UInt8}, Closes lengthOf segment depth back v →
    Closes lengthOf segment depth (front ++ back) (u ++ v) := by
  induction parts with
  | nil => exact id
  | known spelling held _ ih =>
    intro depth back v closes
    rw [List.append_assoc, List.append_assoc]
    exact .known form inside spelling held (ih closes)
  | nested _ _ inner outer =>
    intro depth back v closes
    have closed := (inner (outer closes).close).nested form
    simpa using closed

/-- The contents of an open string, up to the stop that belongs to it. -/
theorem Reads.segments :
    Reads (fun c => segments lengthOf segment c.rest.length 0 c)
      fun content bs => ∃ u, bs = u ++ [stop] ∧ Segments AnyHead major Content content u where
  sound ok := segments_sound form inside ok
  complete := by
    rintro c c' content _ ⟨u, rfl, parts⟩ moved
    have closes := Closes.segments form inside parts .stop
    rw [List.append_nil] at closes
    exact closes.reads moved.length_le moved

end

theorem bytes_head :
    StringHead .bytes 2 (fun | .bytes length => some length | _ => none) where
  lengthOf_eq {h length} := by cases h <;> simp
  known := Iff.rfl
  unknown := Iff.rfl
  ne_stop := nofun

theorem text_head :
    StringHead .text 3 (fun | .text length => some length | _ => none) where
  lengthOf_eq {h length} := by cases h <;> simp
  known := Iff.rfl
  unknown := Iff.rfl
  ne_stop := nofun

theorem Reads.openBytes : Reads openBytes
    fun data bs => ∃ u, bs = u ++ [stop] ∧ Segments AnyHead 2 Eq data u :=
  Reads.segments bytes_head fun _ n => Reads.take n

theorem Reads.openText : Reads openText fun cs bs => ∃ u, bs = u ++ [stop] ∧
    Segments AnyHead 3 (fun cs data => data = encode cs) cs u :=
  Reads.segments text_head Reads.textSegment

end CheckIn.Cbor
