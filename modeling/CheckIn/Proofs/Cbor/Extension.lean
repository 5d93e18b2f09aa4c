import CheckIn.Outcome
import CheckIn.Proofs.Cbor.Decoding

/-! Decoding in front of more bytes. Whatever a reader comes to, it comes to it again however many
bytes follow, unless it came to the end of its input. So an item that was cut short is found out
wherever the cut is, and what follows an item does not matter. -/
namespace CheckIn.Cbor

/-- A cursor with more bytes behind those that are left. -/
def Cursor.longer (c : Cursor) (more : List UInt8) : Cursor := ⟨c.rest ++ more, c.offset⟩

def longer (more : List UInt8) : Except Fault (α × Cursor) → Except Fault (α × Cursor) :=
  Except.map fun r => (r.1, r.2.longer more)

/-- What the first reader comes to is final: the second comes to it in front of any more bytes. Only
the end of the input is not final. -/
def Reader.Settles (read later : Reader α) : Prop :=
  ∀ c more, read c ≠ .error .endOfInput → later (c.longer more) = longer more (read c)

namespace Reader.Settles

variable {read later : Reader α}

theorem pure (a : α) : Settles (fun c => .ok (a, c)) (fun c => .ok (a, c)) := fun _ _ _ => rfl

theorem fail (fault : Fault) :
    Settles (fun _ => .error fault : Reader α) (fun _ => .error fault) := fun _ _ _ => rfl

theorem known (verdict : Except Fault α) :
    Settles (fun c => verdict.map (·, c)) (fun c => verdict.map (·, c)) := by
  intro c more _
  cases verdict <;> rfl

theorem take (n : Nat) : Settles (fun c => c.take n) (fun c => c.take n) := by
  intro c more enough
  dsimp only at enough ⊢
  cases read : c.take n with
  | error fault =>
    obtain ⟨rfl, -⟩ := Cursor.take_eq_error read
    exact absurd read enough
  | ok r =>
    obtain ⟨bs, moved, same, length⟩ := (Reads.take n).sound read
    have further : Cursor.Moves (c.longer more) bs (r.2.longer more) :=
      ⟨by simp [Cursor.longer, moved.rest], moved.offset⟩
    exact (Reads.take n).complete ⟨same, length⟩ further

theorem followed (first : Settles read later)
    {next next' : Cursor → α × Cursor → Except Fault (β × Cursor)}
    (second : ∀ c a c' more, next c (a, c') ≠ .error .endOfInput →
      next' (c.longer more) (a, c'.longer more) = longer more (next c (a, c'))) :
    Settles (fun c => read c >>= next c) (fun c => later c >>= next' c) := by
  intro c more goesOn
  dsimp only at goesOn ⊢
  cases begun : read c with
  | error fault =>
    have final : read c ≠ .error .endOfInput := by
      intro ended
      rw [ended] at goesOn
      exact goesOn rfl
    rw [first c more final, begun]
    rfl
  | ok r =>
    rw [begun] at goesOn
    rw [first c more (by simp [begun]), begun]
    exact second c r.1 r.2 more goesOn

theorem bind (first : Settles read later) {next next' : α × Cursor → Except Fault (β × Cursor)}
    (second : ∀ a, Settles (fun c => next (a, c)) (fun c => next' (a, c))) :
    Settles (fun c => read c >>= next) (fun c => later c >>= next') :=
  first.followed fun _ a c' more goesOn => second a c' more goesOn

theorem map (h : Settles read later) (f : α → β) :
    Settles (fun c => (read c).map fun (a, c) => (f a, c))
      (fun c => (later c).map fun (a, c) => (f a, c)) := by
  have chained (read : Reader α) : (fun c => (read c).map fun (a, c) => (f a, c)) =
      fun c => read c >>= fun r => .ok (f r.1, r.2) := by
    funext c
    cases read c <;> rfl
  rw [chained, chained]
  exact h.bind fun a => .pure (f a)

theorem placed {read later : Nat → Reader α} (h : ∀ offset, Settles (read offset) (later offset)) :
    Settles (fun c => read c.offset c) (fun c => later c.offset c) :=
  fun c more goesOn => h c.offset c more goesOn

theorem fuelled {read : Nat → Reader α}
    (h : ∀ {fuel fuel'}, fuel ≤ fuel' → Settles (read fuel) (read fuel')) :
    Settles (fun c => read c.rest.length c) (fun c => read c.rest.length c) := by
  intro c more goesOn
  apply h _ c more goesOn
  simp [Cursor.longer]

end Reader.Settles

open Reader (Settles)

def Reader.Hungry (read : Reader α) : Prop := ∀ offset, read ⟨[], offset⟩ = .error .endOfInput

theorem settles_found (offset : Nat) (head : Option Head) :
    Settles (Head.found offset head) (Head.found offset head) := by
  cases head with
  | none => exact .fail _
  | some h => exact .pure h

theorem settles_head : Settles Head.read Head.read := by
  rintro ⟨bytes, offset⟩ more goesOn
  cases bytes with
  | nil => exact absurd rfl goesOn
  | cons b rest =>
    obtain ⟨major, small, ⟨n, few, rfl⟩ | ⟨k, width, rfl⟩ | rfl | ⟨info, least, most, rfl⟩⟩ :=
      initial_cases b
    · rw [read_direct small few] at goesOn ⊢
      exact (read_direct small few _ _).trans (settles_found _ _ _ _ goesOn)
    · rw [read_following small width] at goesOn ⊢
      exact (read_following small width _ _).trans
        (((Settles.take (2 ^ k)).bind fun bs => settles_found offset
          (Head.make major (2 ^ k) (bigEndian bs))) _ _ goesOn)
    · rw [read_open small] at goesOn ⊢
      exact (read_open small _ _).trans (settles_found _ _ _ _ goesOn)
    · rw [read_reserved small least most]
      exact read_reserved small least most _ _

theorem settles_chunks (start fuel : Nat) : ∀ (carried : List UInt8) (unread : Nat),
    Settles (chunks start fuel carried unread) (chunks start fuel carried unread) := by
  have ended (carried : List UInt8) :
      Settles (fun c => if carried.isEmpty then .ok (([] : List Char), c) else
        .error (.malformed start)) (fun c => if carried.isEmpty then .ok ([], c) else
        .error (.malformed start)) := by
    cases carried with
    | nil => exact .pure []
    | cons => exact .fail _
  induction fuel with
  | zero => exact fun carried _ => ended carried
  | succ fuel ih =>
    intro carried unread
    cases unread with
    | zero => exact ended carried
    | succ unread =>
      have unfolded := funext (chunks_next start fuel carried unread)
      rw [unfolded]
      refine (Settles.take _).bind fun bs => ?_
      by_cases long : carriedLimit < (Text.Utf8.scan (carried ++ bs)).2.length
      · simpa only [long, if_true] using Settles.fail _
      · simp only [long, if_false]
        exact (ih _ _).bind fun rest => Settles.pure (_ ++ rest)

theorem settles_definiteText (start length : Nat) :
    Settles (definiteText start length) (definiteText start length) := by
  by_cases fits : length ≤ scratch
  · have unfolded : definiteText start length = fun c => c.take length >>= fun r =>
        (Text.Utf8.decode? r.1).elim (.error (.malformed start)) fun cs => .ok (cs, r.2) := by
      funext c
      rw [definiteText, if_pos fits]
      rcases c.take length with fault | ⟨bs, next⟩
      · rfl
      · simp only [Bind.bind, Except.bind]
        cases Text.Utf8.decode? bs <;> rfl
    rw [unfolded]
    refine (Settles.take length).bind fun bs => ?_
    dsimp only
    cases Text.Utf8.decode? bs with
    | none => exact .fail _
    | some cs => exact .pure cs
  · have unfolded : definiteText start length = textSegment start length := by
      funext c
      exact if_neg fits
    rw [unfolded]
    exact settles_chunks start length [] length

section

variable (lengthOf : Head → Option (Option Nat))
  (segment : Nat → Nat → Cursor → Except Fault (List α × Cursor))

/-- What follows a head among segments, when the head is at an offset. -/
def behindHead (fuel depth offset : Nat) (head : Head) : Reader (List α) := fun next =>
  match head, lengthOf head with
  | .stop, _ => match depth with
    | 0 => .ok ([], next)
    | depth + 1 => segments lengthOf segment fuel depth next
  | _, some none => segments lengthOf segment fuel (depth + 1) next
  | _, some (some length) => do
    let (content, next) ← segment offset length next
    let (rest, next) ← segments lengthOf segment fuel depth next
    .ok (content ++ rest, next)
  | _, none => .error (.malformed offset)

theorem segments_eq (fuel depth : Nat) : segments lengthOf segment (fuel + 1) depth = fun c =>
    Head.read c >>= fun r => behindHead lengthOf segment fuel depth c.offset r.1 r.2 := rfl

variable {lengthOf segment}

theorem settles_behindHead (inside : ∀ start n, Settles (segment start n) (segment start n))
    {fuel fuel' : Nat} (rests : ∀ depth, Settles (segments lengthOf segment fuel depth)
      (segments lengthOf segment fuel' depth)) (depth offset : Nat) (head : Head) :
    Settles (behindHead lengthOf segment fuel depth offset head)
      (behindHead lengthOf segment fuel' depth offset head) := by
  unfold behindHead
  generalize lengthOf head = length
  cases head with
  | stop =>
    cases depth with
    | zero => exact .pure []
    | succ depth => exact rests depth
  | _ =>
    rcases length with _ | _ | n
    · exact .fail _
    · exact rests (depth + 1)
    · exact (inside offset n).bind fun content => (rests depth).bind fun rest =>
        .pure (content ++ rest)

theorem settles_segments (inside : ∀ start n, Settles (segment start n) (segment start n))
    {fuel fuel' : Nat} (enough : fuel ≤ fuel') (depth : Nat) :
    Settles (segments lengthOf segment fuel depth) (segments lengthOf segment fuel' depth) := by
  induction fuel generalizing fuel' depth with
  | zero => exact fun c more goesOn => absurd rfl goesOn
  | succ fuel ih =>
    obtain ⟨fuel', rfl⟩ : ∃ k, fuel' = k + 1 := ⟨fuel' - 1, by omega⟩
    have rests := fun depth => ih (Nat.le_of_succ_le_succ enough) depth
    rw [segments_eq, segments_eq]
    have behind (offset : Nat) : Settles
        (fun c => Head.read c >>= fun r => behindHead lengthOf segment fuel depth offset r.1 r.2)
        (fun c => Head.read c >>= fun r => behindHead lengthOf segment fuel' depth offset r.1 r.2) :=
      settles_head.bind (settles_behindHead inside rests depth offset)
    exact Settles.placed behind

end

theorem settles_openText : Settles openText openText :=
  Settles.fuelled fun enough => settles_segments (fun start n => settles_chunks start n [] n) enough 0

theorem settles_openBytes : Settles openBytes openBytes :=
  Settles.fuelled fun enough => settles_segments (fun _ n => .take n) enough 0

section

variable {read : Reader α} (settles : Settles read read)

include settles

theorem settles_times (n : Nat) : Settles (times read n) (times read n) := by
  induction n with
  | zero => exact .pure []
  | succ n ih => exact settles.bind fun a => ih.bind fun as => .pure (a :: as)

omit settles in
theorem untilStop_zero (b : UInt8) (bs : List UInt8) (offset : Nat) (differs : b ≠ 0xff) :
    untilStop read 0 ⟨b :: bs, offset⟩ = .error .endOfInput := by
  rw [untilStop.eq_def]
  dsimp only
  split
  · next same => exact absurd (List.cons.inj same).1 differs
  · rfl
  · next spent _ => cases spent

omit settles in
theorem untilStop_nil (hungry : Reader.Hungry read) (fuel offset : Nat) :
    untilStop read fuel ⟨[], offset⟩ = .error .endOfInput := by
  cases fuel with
  | zero => rfl
  | succ fuel =>
    have step : untilStop read (fuel + 1) ⟨[], offset⟩ = (do
        let (a, c) ← read ⟨[], offset⟩
        let (as, c) ← untilStop read fuel c
        .ok (a :: as, c)) := rfl
    rw [step, hungry offset]
    rfl

/-- A sequence that has not been closed goes on with what more bytes there are, so nothing may be
read where there is nothing. -/
theorem settles_untilStop (hungry : Reader.Hungry read) {fuel fuel' : Nat} (enough : fuel ≤ fuel') :
    Settles (untilStop read fuel) (untilStop read fuel') := by
  induction fuel generalizing fuel' with
  | zero =>
    rintro ⟨bytes, offset⟩ more goesOn
    rcases bytes with _ | ⟨b, bs⟩
    · exact absurd rfl goesOn
    · by_cases closed : b = 0xff
      · subst closed
        have stops : Cursor.Moves ⟨0xff :: bs, offset⟩ [0xff] ⟨bs, offset + 1⟩ := ⟨rfl, rfl⟩
        rw [untilStop_stop read 0 stops]
        exact untilStop_stop read fuel' ⟨rfl, rfl⟩
      · exact absurd (untilStop_zero b bs offset closed) goesOn
  | succ fuel ih =>
    obtain ⟨fuel', rfl⟩ : ∃ k, fuel' = k + 1 := ⟨fuel' - 1, by omega⟩
    rintro ⟨bytes, offset⟩ more goesOn
    rcases bytes with _ | ⟨b, bs⟩
    · exact absurd (untilStop_nil hungry (fuel + 1) offset) goesOn
    · by_cases closed : b = 0xff
      · subst closed
        have stops : Cursor.Moves ⟨0xff :: bs, offset⟩ [0xff] ⟨bs, offset + 1⟩ := ⟨rfl, rfl⟩
        rw [untilStop_stop read (fuel + 1) stops]
        exact untilStop_stop read (fuel' + 1) ⟨rfl, rfl⟩
      · have rest := ih (Nat.le_of_succ_le_succ enough)
        rw [untilStop_next read fuel rfl closed] at goesOn ⊢
        have starts : (Cursor.longer ⟨b :: bs, offset⟩ more).rest = b :: (bs ++ more) := rfl
        rw [untilStop_next read fuel' starts closed]
        exact (settles.bind fun a => rest.bind fun as => .pure (a :: as)) _ more goesOn

theorem settles_many (hungry : Reader.Hungry read) (length : Option Nat) :
    Settles (many read length) (many read length) := by
  cases length with
  | none => exact .fuelled (settles_untilStop settles hungry)
  | some n => exact settles_times settles n

end

theorem settles_entry {read : Reader Value} (settles : Settles read read) :
    Settles (entry read) (entry read) :=
  settles.bind fun k => settles.bind fun v => .pure (k, v)

theorem hungry_entry {read : Reader Value} (hungry : Reader.Hungry read) :
    Reader.Hungry (entry read) := by
  intro offset
  rw [entry, hungry offset]
  rfl

def lookAhead (number : Nat) : Reader (Option (List UInt8)) := fun c =>
  Head.read c >>= fun r => match r.1 with
    | .bytes (some length) =>
      if (number = 2 ∨ number = 3) ∧ length ≤ bigNumberBytes then
        (r.2.take length).map fun (bs, c) => (some bs, c)
      else .ok (none, r.2)
    | _ => .ok (none, r.2)

theorem settles_lookAhead (number : Nat) : Settles (lookAhead number) (lookAhead number) := by
  refine settles_head.bind fun head => ?_
  dsimp only
  split
  · next length =>
    by_cases taken : (number = 2 ∨ number = 3) ∧ length ≤ bigNumberBytes
    · simp only [taken, and_self, if_true]
      exact (Settles.take length).map some
    · simp only [taken, if_false]
      exact .pure none
  · exact .pure none

theorem bigNumberContent_eq (number : Nat) (c : Cursor) : bigNumberContent number c =
    (lookAhead number c).map fun (found, next) => found.map (·, next) := by
  unfold bigNumberContent lookAhead
  rcases Head.read c with fault | ⟨head, next⟩
  · rfl
  · match head with
    | .bytes (some length) =>
      by_cases taken : (number = 2 ∨ number = 3) ∧ length ≤ bigNumberBytes
      · simp only [Bind.bind, Except.bind, taken, and_self, if_true]
        cases next.take length <;> rfl
      · simp only [Bind.bind, Except.bind, taken, if_false]
        rfl
    | .bytes none | .unsigned _ | .negative _ | .text _ | .array _ | .map _ | .tag _ | .simple _
    | .float16 _ | .float32 _ | .float64 _ | .stop => rfl

def tagged (number : Nat) (read : Reader Value) : Reader Value := fun c =>
  (read c).map fun r => (.tag number r.1, r.2)

section

variable {inner : Option (Reader Value)}
  (levels : ∀ read ∈ inner, Settles read read ∧ Reader.Hungry read)

include levels

theorem settles_nested {f : Reader Value → Reader Value}
    (settles : ∀ {read}, Settles read read → Reader.Hungry read → Settles (f read) (f read)) :
    Settles (nested inner f) (nested inner f) := by
  cases inner with
  | none => exact .fail _
  | some read =>
    obtain ⟨inside, hungry⟩ := levels read rfl
    exact settles inside hungry

theorem settles_tag (number : Nat) :
    Settles (afterHead inner (.tag number)) (afterHead inner (.tag number)) := by
  have wrapped : Settles (nested inner (tagged number)) (nested inner (tagged number)) :=
    settles_nested levels fun inside _ => inside.map (Value.tag number)
  have unfolded : afterHead inner (.tag number) = fun c => lookAhead number c >>= fun r =>
      r.1.elim (nested inner (tagged number) c) fun bs =>
        (bigNumber (number == 3) bs).map (·, r.2) := by
    funext c
    rw [afterHead, bigNumberContent_eq]
    rcases lookAhead number c with fault | ⟨found, next⟩
    · rfl
    · cases found <;> rfl
  rw [unfolded]
  apply (settles_lookAhead number).followed
  intro c found next more goesOn
  cases found with
  | none => exact wrapped c more goesOn
  | some bs => exact Settles.known (bigNumber (number == 3) bs) next more goesOn

theorem settles_afterHead (h : Head) : Settles (afterHead inner h) (afterHead inner h) := by
  match h with
  | .unsigned n | .negative n | .float16 word | .float32 word | .float64 word => exact .pure _
  | .stop => exact .fail _
  | .simple n => exact .known (simple n)
  | .bytes (some n) => exact (Settles.take n).map Value.bytes
  | .bytes none => exact settles_openBytes.map Value.bytes
  | .text (some n) =>
    have contents := Settles.placed fun offset => settles_definiteText (offset - headLength n) n
    exact contents.map fun cs => Value.text (String.ofList cs)
  | .text none => exact settles_openText.map fun cs => Value.text (String.ofList cs)
  | .array length =>
    exact settles_nested levels fun read hungry => (settles_many read hungry length).map Value.array
  | .map length =>
    exact settles_nested levels fun read hungry =>
      (settles_many (settles_entry read) (hungry_entry hungry) length).map Value.map
  | .tag number => exact settles_tag levels number

theorem settles_itemWith : Settles (itemWith inner) (itemWith inner) :=
  settles_head.bind (settles_afterHead levels)

end

theorem hungry_itemWith (inner : Option (Reader Value)) : Reader.Hungry (itemWith inner) :=
  fun _ => rfl

theorem settles_item (levels : Nat) : Settles (item levels) (item levels) := by
  induction levels with
  | zero => exact settles_itemWith nofun
  | succ levels ih =>
    refine settles_itemWith fun read same => ?_
    cases same
    refine ⟨ih, ?_⟩
    rw [item_eq]
    exact hungry_itemWith _

theorem decode_append {bs : List UInt8} (goesOn : decode bs ≠ .error .endOfInput)
    (more : List UInt8) : decode (bs ++ more) = decode bs := by
  have settled := settles_item nestingLimit ⟨bs, 0⟩ more
  have longer_eq : Cursor.longer ⟨bs, 0⟩ more = ⟨bs ++ more, 0⟩ := rfl
  rw [longer_eq] at settled
  unfold decode decodeItem at *
  rcases read : item nestingLimit ⟨bs, 0⟩ with fault | ⟨v, c⟩
  · rw [read] at goesOn settled
    have final : (.error fault : Except Fault (Value × Cursor)) ≠ .error .endOfInput := by
      intro ended
      cases ended
      exact goesOn rfl
    rw [settled final]
    rfl
  · rw [read] at settled
    rw [settled (by simp)]
    rfl

theorem rest_of_decodeItem {bs : List UInt8} {v : Value} {c : Cursor}
    (ok : decodeItem bs = .ok (v, c)) : c.offset ≤ bs.length ∧ c.rest = bs.drop c.offset := by
  obtain ⟨front, moved, -⟩ := (reads_item nestingLimit).sound ok
  have split : bs = front ++ c.rest := moved.rest
  have offset : c.offset = front.length := by simpa using moved.offset
  rw [offset, split]
  simp

/-- An item that is cut short is not finished: what comes to anything else comes to that in front
of the bytes that were cut off as well, and would end too early. -/
theorem decode_take {bs : List UInt8} {v : Value} {c : Cursor} (ok : decodeItem bs = .ok (v, c))
    {m : Nat} (short : m < c.offset) : decode (bs.take m) = .error .endOfInput := by
  by_contra goesOn
  have final : decodeItem (bs.take m) ≠ .error .endOfInput := by
    intro ended
    rw [decode, ended] at goesOn
    exact goesOn rfl
  have settled := settles_item nestingLimit ⟨bs.take m, 0⟩ (bs.drop m) final
  have whole : Cursor.longer ⟨bs.take m, 0⟩ (bs.drop m) = ⟨bs, 0⟩ := by
    simp [Cursor.longer]
  rw [whole] at settled
  obtain ⟨⟨w, c'⟩, read, same⟩ := map_eq_ok_iff.mp (settled.symm.trans ok)
  cases same
  have early := (rest_of_decodeItem read).1
  rw [List.length_take] at early
  have late : m < c'.offset := short
  omega

/-- Whatever bytes come to, be it a value or a fault with its offset, they come to in front of any
more bytes, unless they end too early. An item that is cut short anywhere ends too early, so that
no such body is a success, and what follows an item changes neither its value nor the outcome. -/
theorem decoding_is_final (bs : List UInt8) :
    (∀ more, decode bs ≠ .error .endOfInput → decode (bs ++ more) = decode bs) ∧
    ∀ v c, decodeItem bs = .ok (v, c) →
      (c.offset ≤ bs.length ∧ c.rest = bs.drop c.offset) ∧
      (∀ m < c.offset, decode (bs.take m) = .error .endOfInput ∧
        ∀ code, (Outcome.ofResponse ⟨code, bs.take m⟩).isSuccess = false) ∧
      ∀ more, decode (bs.take c.offset ++ more) = .ok v ∧
        Outcome.ofResponse ⟨.content, bs.take c.offset ++ more⟩ =
          Outcome.ofResponse ⟨.content, bs⟩ := by
  refine ⟨fun more goesOn => decode_append goesOn more, fun v c ok => ?_⟩
  have whole : decode bs = .ok v := by rw [decode, ok]; rfl
  refine ⟨rest_of_decodeItem ok, fun m short => ?_, fun more => ?_⟩
  · have cut := decode_take ok short
    refine ⟨cut, fun code => ?_⟩
    rw [Outcome.ofResponse]
    by_cases content : code.isContent
    · rw [if_pos content, Heartbeat.Response.decode, cut]
      rfl
    · rw [if_neg content]
      rfl
  · obtain ⟨front, moved, item⟩ := (reads_item nestingLimit).sound ok
    have split : bs = front ++ c.rest := moved.rest
    have offset : c.offset = front.length := by simpa using moved.offset
    have taken : bs.take c.offset = front := by rw [offset, split, List.take_left]
    have read : decode (bs.take c.offset ++ more) = .ok v := by
      rw [taken]
      exact decode_of_item item more
    refine ⟨read, ?_⟩
    rw [Outcome.ofResponse, Outcome.ofResponse, Heartbeat.Response.decode,
      Heartbeat.Response.decode, read, whole]
    rfl

/-- A number under tag 2, cut inside the bytes that the tag looks ahead to. -/
example : decode [0xc2, 0x42, 0x01] = .error .endOfInput ∧
    decode [0xc2, 0x42, 0x01, 0x00, 0xff] = .ok (.integer 256) := by
  constructor <;> rfl

end CheckIn.Cbor
