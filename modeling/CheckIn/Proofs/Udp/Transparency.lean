import CheckIn.Proofs.Udp.Dialling
import CheckIn.Proofs.Udp.Reassembly

/-! Served block by block, a body has the outcome that it would have in one piece, unless a request
goes unanswered or its time is over. A server that answers each request in time is fast enough for
every deadline beyond a bound; one that answers it once, and before it is sent again, is asked for
each block once. -/
namespace CheckIn.Udp

open Coap Net

section

variable (message : Packet) (replies : List (List Arrival)) (sends : Requests)

/-- Requests from the `i`th on that are copies of one. -/
def AreCopies (i copies : Nat) : Prop := ∀ k < copies, sends[i + k]? = sends[i]?

/-- Of some copies from the `i`th request on, each sent when the one before it has had its time, one
is answered within some time of the first. -/
def AnsweredFrom (i copies d : Nat) : Prop :=
  ∃ k < copies, ∃ a ∈ replies.getD (i + k) [],
    ¬AnswersNothing message a.datagram ∧ k * answerTime + a.time ≤ d

/-- A request that has been under way for some time is answered within it. -/
def AnsweredWithin (d : Nat) : Prop :=
  ∀ i < sends.length, ∀ copies ≤ sends.length, 0 < copies → AreCopies sends i copies →
    d ≤ copies * answerTime → AnsweredFrom message replies i copies d

instance (i copies : Nat) : Decidable (AreCopies sends i copies) :=
  inferInstanceAs (Decidable (∀ k < copies, sends[i + k]? = sends[i]?))

instance (i copies d : Nat) : Decidable (AnsweredFrom message replies i copies d) :=
  inferInstanceAs (Decidable (∃ k < copies, ∃ a ∈ replies.getD (i + k) [],
    ¬AnswersNothing message a.datagram ∧ k * answerTime + a.time ≤ d))

instance (d : Nat) : Decidable (AnsweredWithin message replies sends d) :=
  inferInstanceAs (Decidable (∀ i < sends.length, ∀ copies ≤ sends.length, 0 < copies →
    AreCopies sends i copies → d ≤ copies * answerTime → AnsweredFrom message replies i copies d))

/-- No answer takes longer. -/
def NoSlower (d : Nat) : Prop :=
  ∀ i < sends.length, ∀ a ∈ replies.getD i [], AnswersNothing message a.datagram ∨ a.time ≤ d

/-- Of two datagrams that a copy of a request draws one is no answer. -/
def SingleAnswers : Prop :=
  ∀ i < sends.length, (replies.getD i []).Pairwise fun a b =>
    AnswersNothing message a.datagram ∨ AnswersNothing message b.datagram

end

section

variable {message : Packet} {replies : List (List Arrival)} {sends more : Requests} {d : Nat}

theorem AnsweredWithin.mono (h : AnsweredWithin message replies (sends ++ more) d) :
    AnsweredWithin message replies sends d := by
  intro i inside n few some copies
  have known {j : Nat} (early : j < sends.length) : (sends ++ more)[j]? = sends[j]? :=
    List.getElem?_append_left early
  refine h i (by rw [List.length_append]; omega) n (by rw [List.length_append]; omega) some ?_
  intro k early
  have here : i + k < sends.length := by
    have same := copies k early
    rw [List.getElem?_eq_getElem inside] at same
    exact (List.getElem?_eq_some_iff.mp same).1
  rw [known here, known inside]
  exact copies k early

theorem NoSlower.mono (h : NoSlower message replies (sends ++ more) d) :
    NoSlower message replies sends d :=
  fun i inside => h i (by rw [List.length_append]; omega)

theorem SingleAnswers.mono (h : SingleAnswers message replies (sends ++ more)) :
    SingleAnswers message replies sends :=
  fun i inside => h i (by rw [List.length_append]; omega)

/-- An answer that is due is on its way, if none has come. -/
theorem Copies.answered {copies start : Nat} {s : SocketAddress × Packet} {v : View}
    (h : Copies message replies copies start s sends v) (positive : 0 < copies)
    (answered : AnsweredWithin message replies sends d) (due : d ≤ copies * answerTime) :
    ∃ a ∈ v.inbox, ¬AnswersNothing message a.datagram ∧ a.time ≤ start + d := by
  obtain ⟨earlier, rfl, pending⟩ := h
  have copy {k : Nat} (few : k < copies) :
      (earlier ++ List.replicate copies s)[earlier.length + k]? = some s := by
    rw [List.getElem?_append_right (Nat.le_add_right ..), Nat.add_sub_cancel_left,
      List.getElem?_replicate, if_pos few]
  obtain ⟨k, few, a, drawn, answering, intime⟩ := answered earlier.length (by simpa using positive)
    copies (by simp) positive (fun k few => (copy few).trans (copy positive).symm) due
  refine ⟨Arrival.after (start + k * answerTime) a, ?_, answering, ?_⟩
  · exact (pending k few a drawn).resolve_left answering
  · rw [Arrival.after]
    dsimp only
    omega

end

section

variable (terms : Terms) (message : Packet) (o : Offer) (replies : List (List Arrival))
  (start d : Nat)

/-- How late a request can be that began at `start` and whose messages are answered within `d`. The
copies of a message and their answers may take twice that time. -/
def Stage.Timely (v : View) : Stage → Prop
  | sending t spare =>
    v.now ≤ start + 2 * (requested t.message * d) + (repeats - spare) * answerTime ∧
      (repeats - spare) * answerTime ≤ d
  | waiting t spare limit =>
    limit ≤ start + 2 * (requested t.message * d) + (repeats + 1 - spare) * answerTime
  | clearing (.send t) => v.now ≤ start + 2 * (requested t.message * d)
  | clearing _ | done _ => True
  | _ => False

/-- A request under way to a server that answers in time. -/
structure Timely (sends : Requests) (stage : Stage) (v : View) : Prop where
  gathers : Gathers terms message o replies sends stage v
  due : ∀ a ∈ v.inbox, ∀ p, Packet.parse? (a.datagram.take datagramLimit) = some p →
    answers message p = true → a.time ≤ start + 2 * ((requested p + 1) * d)
  timely : stage.Timely start d v

end

theorem Terms.Permits.horizon_of_le {terms : Terms} {moment limit : Nat}
    (permits : terms.Permits moment) (soon : terms.horizon limit ≤ moment) :
    terms.horizon limit = limit := by
  obtain ⟨bounded, patient⟩ := permits
  unfold Terms.horizon at *
  split at soon
  · next p patience =>
    have lasts := patient p patience
    omega
  · omega

namespace Timely

variable {terms : Terms} {message : Packet} {o : Offer} {replies : List (List Arrival)}
  {start d : Nat} {sends : Requests} {stage stage' : Stage} {v v' : View} {t : Transfer}
  {spare limit : Nat}

theorem below {blocks : Nat} {asked : List Nat} (wants : Wants message o asked t blocks) :
    requested t.message * d + d ≤ o.count * d := by
  rw [← Nat.succ_mul]
  exact Nat.mul_le_mul_right d (Nat.lt_of_le_of_lt wants.known wants.left)

theorem permits_now (h : Timely terms message o replies start d sends (.sending t spare) v)
    (permits : terms.Permits (start + 2 * (o.count * d))) : terms.Permits v.now := by
  obtain ⟨⟨blocks, wants⟩, _⟩ := h.gathers.stands
  obtain ⟨late, spent⟩ := h.timely
  have below := below (d := d) wants
  exact permits.mono (by omega)

theorem send (h : Timely terms message o replies start d sends (.sending t spare) v)
    (drawn : v.replies = replies.drop sends.length)
    (serves : Serves message o replies (sends ++ [(terms.peer, t.message)]))
    (noSlower : NoSlower message replies (sends ++ [(terms.peer, t.message)]) d) :
    Timely terms message o replies start d (sends ++ [(terms.peer, t.message)])
      (.waiting t spare (v.now + answerTime)) (v.ask terms.peer t.message) := by
  have gathers := h.gathers.send drawn serves
  obtain ⟨wants, copies, first, few, now, pending⟩ := h.gathers.stands
  obtain ⟨late, spent⟩ := h.timely
  refine ⟨gathers, ?_, ?_⟩
  · intro a inside p spelled answering
    rcases mem_arriving.mp inside with old | ⟨b, among, rfl⟩
    · exact h.due a old p spelled answering
    · have reaction : b ∈ replies.getD sends.length [] := by
        rwa [drawn, reaction_eq] at among
      obtain ⟨_, block, _⟩ := serves.last b reaction p spelled answering
      have quick : b.time ≤ d :=
        (noSlower sends.length (by simp) b reaction).resolve_left
          fun nothing => nothing.not_answers spelled answering
      rw [requested_of_block block, Nat.succ_mul (requested t.message) d, Arrival.after]
      dsimp only
      omega
  · have once : repeats + 1 - spare = repeats - spare + 1 := by omega
    rw [Stage.Timely, once, Nat.succ_mul (repeats - spare) answerTime]
    omega

theorem silence (h : Timely terms message o replies start d sends (.waiting t spare limit) v)
    (permits : terms.Permits (start + 2 * (o.count * d)))
    (window : d ≤ (repeats + 1) * answerTime)
    (answered : AnsweredWithin message replies sends d)
    (quiet : ∀ a, v.inbox.head? = some a → terms.horizon limit < a.time) :
    Timely terms message o replies start d sends (.expire terms t spare limit)
      { v with now := max v.now (terms.horizon limit) } := by
  have gathers := h.gathers.silence quiet
  obtain ⟨⟨blocks, wants⟩, copies, first, few, positive, moment, early, pending⟩ :=
    h.gathers.stands
  have below := below (d := d) wants
  have late := h.timely
  rw [Stage.Timely, show repeats + 1 - spare = copies by omega] at late
  have waiting := h.gathers.inbound.quiet quiet
  have soon : terms.horizon limit ≤ first + d := by
    rcases Nat.le_total d (copies * answerTime) with due | soon
    · obtain ⟨a, inside, _, intime⟩ := pending.answered positive answered due
      exact (Nat.lt_of_lt_of_le (waiting a inside) intime).le
    · have whole := horizon_le terms limit
      omega
  have horizon : terms.horizon limit = limit :=
    (permits.mono (by omega : first + d ≤ _)).horizon_of_le soon
  -- An answer that was due would have come.
  have outstanding : copies * answerTime < d := by
    apply Nat.lt_of_not_le
    intro due
    obtain ⟨a, inside, _, intime⟩ := pending.answered positive answered due
    have behind := waiting a inside
    omega
  refine ⟨gathers, h.due, ?_⟩
  rw [Stage.expire, if_pos horizon.ge, horizon, Nat.max_eq_right early]
  cases spare with
  | zero =>
    obtain rfl : copies = repeats + 1 := few
    omega
  | succ spare =>
    obtain rfl : copies = repeats - spare := by omega
    exact ⟨late, outstanding.le⟩

theorem answer {a : Arrival} {inbox : List Arrival} {reply : Packet}
    (h : Timely terms message o replies start d sends (.waiting t spare limit) v)
    (plain : Transfer.block2? message = none) (next : v.inbox = a :: inbox)
    (spelled : Packet.parse? (a.datagram.take datagramLimit) = some reply)
    (answers : answers t.message reply = true) :
    Timely terms message o replies start d sends (.clearing (t.take reply)) (v.give a inbox) := by
  obtain ⟨k, block, gathers, leads⟩ := h.gathers.answer plain next spelled answers
  obtain ⟨⟨blocks, wants⟩, _⟩ := h.gathers.stands
  have due := h.due a (next ▸ List.mem_cons_self) reply spelled (wants.answers_eq reply ▸ answers)
  rw [requested_of_block block] at due
  refine ⟨gathers, fun b later => h.due b (next ▸ List.mem_cons_of_mem a later), ?_⟩
  cases taken : t.take reply with
  | send t' =>
    rw [Stage.Timely, h.gathers.inbound.now_give next, leads t' taken]
    exact due
  | finish => trivial
  | fail => trivial

theorem cleared {next : Step}
    (h : Timely terms message o replies start d sends (.clearing next) v)
    (fits : ∀ k < o.count,
      (asking message o.exponent message.messageId k).encode.length ≤ Packet.sizeLimit) :
    Timely terms message o replies start d sends (.ofStep next) v := by
  refine ⟨h.gathers.cleared fits, h.due, ?_⟩
  have stands := h.gathers.stands
  have timely := h.timely
  cases next with
  | send t =>
    obtain ⟨blocks, wants⟩ := stands
    rw [Stage.ofStep, wants.begin_eq fits]
    refine ⟨?_, by simp⟩
    rwa [Nat.sub_self, Nat.zero_mul]
  | finish r => trivial
  | fail cause => exact stands.elim

/-- No turn of a request that is answered in time ends it before its end. -/
theorem step {made : Requests} (h : Timely terms message o replies start d sends stage v)
    (plain : Transfer.block2? message = none)
    (fits : ∀ k < o.count,
      (asking message o.exponent message.messageId k).encode.length ≤ Packet.sizeLimit)
    (permits : terms.Permits (start + 2 * (o.count * d)))
    (window : d ≤ (repeats + 1) * answerTime) (drawn : v.replies = replies.drop sends.length)
    (serves : Serves message o replies (sends ++ made))
    (answered : AnsweredWithin message replies (sends ++ made) d)
    (noSlower : NoSlower message replies (sends ++ made) d)
    (turn : Turns terms v stage made stage' v') :
    Timely terms message o replies start d (sends ++ made) stage' v' := by
  cases turn with
  | sent => exact h.send drawn serves noSlower
  | expired late =>
    exact absurd (h.permits_now permits).1 (Nat.not_lt.mpr late)
  | left impatient => exact absurd impatient (by simp [(h.permits_now permits).patient])
  | silence quiet =>
    rw [List.append_nil] at *
    exact h.silence permits window answered quiet
  | noise next intime nothing =>
    rw [List.append_nil] at *
    exact ⟨h.gathers.noise next (Nat.le_trans intime (horizon_le ..)) nothing,
      fun b later => h.due b (next ▸ List.mem_cons_of_mem _ later), h.timely⟩
  | answer next _ spelled answers =>
    rw [List.append_nil] at *
    exact h.answer plain next spelled answers
  | cleared =>
    rw [List.append_nil] at *
    exact h.cleared fits
  | @drained next a inbox pending arrived =>
    rw [List.append_nil] at *
    have now : (v.give a inbox).now = v.now := Nat.max_eq_left arrived
    refine ⟨h.gathers.drained pending,
      fun b later => h.due b (pending ▸ List.mem_cons_of_mem _ later), ?_⟩
    have timely := h.timely
    cases next with
    | send t => rwa [Stage.Timely, now]
    | finish r => trivial
    | fail cause => trivial
  | ended =>
    rw [List.append_nil] at *
    exact h

end Timely

section

variable (terms : Terms) (message : Packet) (o : Offer) (replies : List (List Arrival))

/-- Where a request can stand of which each message is sent and answered once: the blocks have been
asked for in their order, and nothing is on its way but an answer to the last message. -/
def Stage.Single (asked : List Nat) (v : View) : Stage → Prop
  | sending t spare => spare = repeats ∧ asked = List.range (requested t.message) ∧
      ∀ a ∈ v.inbox, AnswersNothing message a.datagram
  | waiting t spare _ => spare = repeats ∧ asked = List.range (requested t.message + 1) ∧
      (∀ a ∈ v.inbox, ServesBlock message o (requested t.message) a.datagram) ∧
      v.inbox.Pairwise fun a b =>
        AnswersNothing message a.datagram ∨ AnswersNothing message b.datagram
  | clearing next => (∀ t, next = .send t → asked = List.range (requested t.message)) ∧
      ∀ a ∈ v.inbox, AnswersNothing message a.datagram
  | _ => True

/-- A request under way to a server that answers each message once and in time. -/
structure Single (sends : Requests) (stage : Stage) (v : View) : Prop where
  gathers : Gathers terms message o replies sends stage v
  range : ∃ n, blocksAsked sends = List.range n
  single : stage.Single message o (blocksAsked sends) v

end

namespace Single

variable {terms : Terms} {message : Packet} {o : Offer} {replies : List (List Arrival)}
  {sends : Requests} {stage stage' : Stage} {v v' : View} {t : Transfer} {spare limit : Nat}

theorem send (h : Single terms message o replies sends (.sending t spare) v)
    (drawn : v.replies = replies.drop sends.length)
    (serves : Serves message o replies (sends ++ [(terms.peer, t.message)]))
    (singles : SingleAnswers message replies (sends ++ [(terms.peer, t.message)])) :
    Single terms message o replies (sends ++ [(terms.peer, t.message)])
      (.waiting t spare (v.now + answerTime)) (v.ask terms.peer t.message) := by
  obtain ⟨full, inOrder, nothing⟩ := h.single
  have asks : blocksAsked (sends ++ [(terms.peer, t.message)]) =
      List.range (requested t.message + 1) := by
    rw [blocksAsked_append, inOrder, List.range_succ]
    rfl
  have reaction : v.replies.headD [] = replies.getD sends.length [] := by
    rw [drawn, reaction_eq]
  refine ⟨h.gathers.send drawn serves, ⟨_, asks⟩, full, asks, ?_, ?_⟩
  · intro a inside
    rcases mem_arriving.mp inside with old | ⟨b, among, rfl⟩
    · intro p spelled answering
      exact absurd answering ((nothing a old).not_answers spelled)
    · exact serves.last b (reaction ▸ among)
  · have one := singles sends.length (by simp)
    rw [← reaction] at one
    refine (perm_arriving.pairwise_iff fun both => both.symm).mpr
      (List.pairwise_append.mpr ⟨?_, ?_, ?_⟩)
    · exact List.pairwise_of_forall_mem_list fun a old _ _ => .inl (nothing a old)
    · rw [List.pairwise_map]
      exact one
    · intro a old b _
      exact .inl (nothing a old)

theorem silence (h : Single terms message o replies sends (.waiting t spare limit) v)
    (answered : AnsweredWithin message replies sends answerTime)
    (quiet : ∀ a, v.inbox.head? = some a → terms.horizon limit < a.time) :
    Single terms message o replies sends (.expire terms t spare limit)
      { v with now := max v.now (terms.horizon limit) } := by
  obtain ⟨_, copies, first, few, positive, moment, _, pending⟩ := h.gathers.stands
  obtain ⟨full, _⟩ := h.single
  obtain rfl : copies = 1 := by omega
  obtain ⟨a, inside, _, intime⟩ := pending.answered positive answered (by rw [Nat.one_mul])
  have behind := h.gathers.inbound.quiet quiet a inside
  refine ⟨h.gathers.silence quiet, h.range, ?_⟩
  rw [Stage.expire, if_neg (by omega), Stage.overdue]
  split_ifs <;> trivial

theorem answer {a : Arrival} {inbox : List Arrival} {reply : Packet}
    (h : Single terms message o replies sends (.waiting t spare limit) v)
    (plain : Transfer.block2? message = none) (next : v.inbox = a :: inbox)
    (spelled : Packet.parse? (a.datagram.take datagramLimit) = some reply)
    (answers : answers t.message reply = true) :
    Single terms message o replies sends (.clearing (t.take reply)) (v.give a inbox) := by
  obtain ⟨k, block, gathers, leads⟩ := h.gathers.answer plain next spelled answers
  obtain ⟨⟨blocks, wants⟩, _⟩ := h.gathers.stands
  obtain ⟨_, inOrder, served, one⟩ := h.single
  rw [wants.answers_eq] at answers
  obtain ⟨_, block', _⟩ := served a (next ▸ List.mem_cons_self) reply spelled answers
  have named : k = requested t.message :=
    (requested_of_block block).symm.trans (requested_of_block block')
  rw [next, List.pairwise_cons] at one
  refine ⟨gathers, h.range, ?_, ?_⟩
  · intro t' taken
    rw [leads t' taken, named]
    exact inOrder
  · intro b later
    exact (one.1 b later).resolve_left fun nothing => nothing.not_answers spelled answers

theorem cleared {next : Step} (h : Single terms message o replies sends (.clearing next) v)
    (fits : ∀ k < o.count,
      (asking message o.exponent message.messageId k).encode.length ≤ Packet.sizeLimit) :
    Single terms message o replies sends (.ofStep next) v := by
  obtain ⟨inOrder, nothing⟩ := h.single
  refine ⟨h.gathers.cleared fits, h.range, ?_⟩
  have stands := h.gathers.stands
  cases next with
  | send t =>
    obtain ⟨blocks, wants⟩ := stands
    rw [Stage.ofStep, wants.begin_eq fits]
    exact ⟨rfl, inOrder t rfl, nothing⟩
  | finish r => trivial
  | fail cause => trivial

theorem step {made : Requests} (h : Single terms message o replies sends stage v)
    (plain : Transfer.block2? message = none)
    (fits : ∀ k < o.count,
      (asking message o.exponent message.messageId k).encode.length ≤ Packet.sizeLimit)
    (drawn : v.replies = replies.drop sends.length)
    (serves : Serves message o replies (sends ++ made))
    (answered : AnsweredWithin message replies (sends ++ made) answerTime)
    (singles : SingleAnswers message replies (sends ++ made))
    (turn : Turns terms v stage made stage' v') :
    Single terms message o replies (sends ++ made) stage' v' := by
  have gathers := h.gathers.step plain fits drawn serves turn
  cases turn with
  | sent => exact h.send drawn serves singles
  | expired =>
    rw [List.append_nil] at *
    exact ⟨gathers, h.range, trivial⟩
  | left =>
    rw [List.append_nil] at *
    exact ⟨gathers, h.range, trivial⟩
  | silence quiet =>
    rw [List.append_nil] at *
    exact h.silence answered quiet
  | noise next =>
    rw [List.append_nil] at *
    obtain ⟨full, inOrder, served, one⟩ := h.single
    rw [next] at served one
    exact ⟨gathers, h.range, full, inOrder, fun b later => served b (List.mem_cons_of_mem _ later),
      (List.pairwise_cons.mp one).2⟩
  | answer next _ spelled answers =>
    rw [List.append_nil] at *
    exact h.answer plain next spelled answers
  | cleared =>
    rw [List.append_nil] at *
    exact h.cleared fits
  | drained pending =>
    rw [List.append_nil] at *
    obtain ⟨inOrder, nothing⟩ := h.single
    exact ⟨gathers, h.range, inOrder,
      fun b later => nothing b (pending ▸ List.mem_cons_of_mem _ later)⟩
  | ended =>
    rw [List.append_nil] at *
    exact h

end Single

section

variable {terms : Terms} {message : Packet} {o : Offer} {replies : List (List Arrival)}
  {sends : Requests} {net : Simulation}

theorem gathers_first (plain : Transfer.block2? message = none)
    (short : message.payload.length ≤ uploadSize) :
    Gathers terms message o replies [] (.clearing (.send (.start message)))
      ⟨net.now, [], replies, requests net⟩ := by
  refine ⟨nofun, nofun, ⟨.nil, nofun, nofun⟩, 0, ?_⟩
  rw [Transfer.start, if_pos short]
  exact Wants.first plain

variable (plain : Transfer.block2? message = none) (short : message.payload.length ≤ uploadSize)
  (kind : message.kind ≠ .acknowledgement)
  (fits : ∀ k < o.count,
    (asking message o.exponent message.messageId k).encode.length ≤ Packet.sizeLimit)
  (working : Shows terms.peer ⟨net.now, [], replies, requests net⟩ net)
  (asks : requests (deliver terms ⟨.sound, .begin (.start message)⟩ net).2 =
    requests net ++ sends)
  (serves : Serves message o replies sends)

include plain short kind fits working asks serves

theorem deliver_gathers :
    let ended := deliver terms ⟨.sound, .begin (.start message)⟩ net
    ended.1.stage.isOver = true ∧ ∃ v, Shows terms.peer v ended.2 ∧
      Gathers terms message o replies sends ended.1.stage v :=
  deliver_keeps (Serves message o replies) (Gathers terms message o replies)
    (fun _ _ => Serves.mono)
    (fun _ _ _ _ _ _ drawn serves h turn => h.step plain fits drawn serves turn)
    short kind working rfl ((gathers_first plain short).cleared fits) asks serves

theorem deliver_done {d : Nat} (permits : terms.Permits (net.now + 2 * (o.count * d)))
    (window : d ≤ (repeats + 1) * answerTime) (answered : AnsweredWithin message replies sends d)
    (noSlower : NoSlower message replies sends d) :
    ∃ r, (deliver terms ⟨.sound, .begin (.start message)⟩ net).1.stage = .done r := by
  have begins : Timely terms message o replies net.now d [] (.clearing (.send (.start message)))
      ⟨net.now, [], replies, requests net⟩ :=
    ⟨gathers_first plain short, nofun, Nat.le_add_right ..⟩
  obtain ⟨isOver, v, _, timely⟩ := deliver_keeps
    (fun sends => Serves message o replies sends ∧ AnsweredWithin message replies sends d ∧
      NoSlower message replies sends d)
    (Timely terms message o replies net.now d)
    (fun _ _ h => ⟨h.1.mono, h.2.1.mono, h.2.2.mono⟩)
    (fun _ _ _ _ _ _ drawn h timely turn =>
      timely.step plain fits permits window drawn h.1 h.2.1 h.2.2 turn)
    short kind working rfl (begins.cleared fits) asks ⟨serves, answered, noSlower⟩
  have stands := timely.timely
  generalize (deliver terms ⟨.sound, .begin (.start message)⟩ net).1.stage = stage at *
  cases stage with
  | done r => exact ⟨r, rfl⟩
  | failed => exact stands.elim
  | abandoned => exact stands.elim
  | _ => cases isOver

/-- Answered once and in time, a request asks for the blocks in their order. -/
theorem deliver_inOrder (answered : AnsweredWithin message replies sends answerTime)
    (singles : SingleAnswers message replies sends) :
    ∃ n, blocksAsked sends = List.range n := by
  have begins : Single terms message o replies [] (.clearing (.send (.start message)))
      ⟨net.now, [], replies, requests net⟩ := by
    refine ⟨gathers_first plain short, ⟨0, rfl⟩, ?_, nofun⟩
    rintro t ⟨⟩
    rw [Transfer.start, if_pos short, requested, plain]
    rfl
  obtain ⟨_, v, _, single⟩ := deliver_keeps
    (fun sends => Serves message o replies sends ∧
      AnsweredWithin message replies sends answerTime ∧ SingleAnswers message replies sends)
    (Single terms message o replies)
    (fun _ _ h => ⟨h.1.mono, h.2.1.mono, h.2.2.mono⟩)
    (fun _ _ _ _ _ _ drawn h single turn =>
      single.step plain fits drawn h.1 h.2.1 h.2.2 turn)
    short kind working rfl (begins.cleared fits) asks ⟨serves, answered, singles⟩
  exact single.range

end

/-- An exchange that has come to the outcome of a whole body, for which every block has been asked
for: once if each request draws one answer, before it would be sent again. -/
structure ArrivesWhole (message : Packet) (o : Offer) (replies : List (List Arrival))
    (sends : Requests) (ended : Option Outcome) : Prop where
  outcome : ended = some (.ofResponse ⟨.content, o.body⟩)
  asked : ∀ k < o.count, k ∈ blocksAsked sends
  once : AnsweredWithin message replies sends answerTime → SingleAnswers message replies sends →
    blocksAsked sends = List.range o.count

theorem Gathers.arrivesWhole {terms : Terms} {message : Packet} {o : Offer}
    {replies : List (List Arrival)} {sends : Requests} {v : View} {r : Transport.Response}
    (h : Gathers terms message o replies sends (.done r) v)
    (inOrder : AnsweredWithin message replies sends answerTime →
      SingleAnswers message replies sends → ∃ n, blocksAsked sends = List.range n) :
    ArrivesWhole message o replies sends (some (.ofResponse r)) := by
  obtain ⟨rfl, last⟩ := h.stands
  have all : ∀ k < o.count, k ∈ blocksAsked sends :=
    fun k inside => h.inTurn.mem_of_le last (by omega)
  refine ⟨rfl, all, fun answered singles => ?_⟩
  obtain ⟨n, range⟩ := inOrder answered singles
  have below := h.below
  rw [range] at all below ⊢
  have most : n ≤ o.count := by
    apply Nat.le_of_not_lt
    intro more
    exact Nat.lt_irrefl _ (below o.count (List.mem_range.mpr more))
  have least : o.count ≤ n := by
    apply Nat.le_of_not_lt
    intro fewer
    exact Nat.lt_irrefl _ (List.mem_range.mp (all n fewer))
  rw [Nat.le_antisymm most least]

section

variable {timeoutMs : Nat} {patience : Option Nat} {firstId : UInt16} {host : String}
  {port : UInt16} {heartbeat : Heartbeat.Request} {peer : SocketAddress} {net : Simulation}

variable (timeoutMs firstId heartbeat) in
/-- A server that answers with 2.05 and serves a body in blocks of any one size has the outcome of
the whole body, unless a request goes unanswered until the last of its copies has had its time, or
a deadline passes. It has that outcome if all its answers come within some part of that time, and
the deadlines allow twice as much for each block. A block is asked for only behind the one before
it. -/
theorem blockwise_transparent (w : World) (o : Offer) (replies : List (List Arrival))
    (dialled : dial patience (Exchange.endpoint host port) w.network = (some (.ok peer), net))
    (fits : ∀ k < o.count,
      (asking (heartbeatPacket firstId host port heartbeat) o.exponent firstId k).encode.length ≤
        Packet.sizeLimit)
    (working : Shows peer ⟨net.now, [], replies, requests net⟩ net)
    {ended : Option Outcome} {w' : World} {sends : Requests}
    (ran : exchangeIn timeoutMs patience firstId host port heartbeat w = (ended, w'))
    (asks : requests w'.network = requests net ++ sends)
    (serves : Serves (heartbeatPacket firstId host port heartbeat) o replies sends) :
    (ArrivesWhole (heartbeatPacket firstId host port heartbeat) o replies sends ended ∨
      (ended = some (.transportError "timed out: send timeout") ∧
        Unanswered (heartbeatPacket firstId host port heartbeat) replies sends) ∨
      (ended = some (.transportError
          (heartbeatTerms timeoutMs patience peer net).expired.message) ∧
        net.now + timeoutMs ≤ w'.network.now) ∨
      (ended = none ∧ patience.any (· ≤ w'.network.now) = true)) ∧
    InTurn (blocksAsked sends) ∧ (∀ k ∈ blocksAsked sends, k < o.count) ∧
    ∀ d ≤ (repeats + 1) * answerTime,
      AnsweredWithin (heartbeatPacket firstId host port heartbeat) replies sends d →
      NoSlower (heartbeatPacket firstId host port heartbeat) replies sends d →
      (heartbeatTerms timeoutMs patience peer net).Permits (net.now + 2 * (o.count * d)) →
      ArrivesWhole (heartbeatPacket firstId host port heartbeat) o replies sends ended := by
  have plain := block2?_heartbeatPacket firstId host port heartbeat
  have short := length_payload_heartbeatPacket firstId host port heartbeat
  have kind : (heartbeatPacket firstId host port heartbeat).kind ≠ .acknowledgement := nofun
  obtain ⟨w'', ran', network⟩ := acts_exchange timeoutMs firstId heartbeat dialled w rfl
  obtain ⟨rfl, rfl⟩ := Prod.mk.inj (ran.symm.trans ran')
  have unseen (net : Simulation) : requests net.detach = requests net := rfl
  rw [network, unseen] at asks
  obtain ⟨isOver, v, shows, gathers⟩ := deliver_gathers plain short kind fits working asks serves
  have inOrder := deliver_inOrder plain short kind fits working asks serves
  have done {d : Nat} := deliver_done plain short kind fits working asks serves (d := d)
  have unmoved (net : Simulation) : net.detach.now = net.now := rfl
  have now : w'.network.now = v.now := by
    rw [network, unmoved, shows.now_eq]
  rw [now]
  generalize (deliver (heartbeatTerms timeoutMs patience peer net) ⟨.sound,
    .begin (.start (heartbeatPacket firstId host port heartbeat))⟩ net).1.stage = stage at *
  refine ⟨?_, gathers.inTurn, gathers.below, ?_⟩
  · cases stage with
    | done r => exact .inl (gathers.arrivesWhole inOrder)
    | failed cause =>
      rcases gathers.stands with ⟨rfl, unanswered⟩ | ⟨rfl, late⟩
      · exact .inr (.inl ⟨rfl, unanswered⟩)
      · exact .inr (.inr (.inl ⟨rfl, late⟩))
    | abandoned => exact .inr (.inr (.inr ⟨rfl, gathers.stands⟩))
    | _ => cases isOver
  · intro d window answered noSlower permits
    obtain ⟨r, rfl⟩ := done permits window answered noSlower
    exact gathers.arrivesWhole inOrder

end

/-- A map with a wanted firmware in two blocks: it is three bytes longer than the first. -/
def firmwareOffer : Offer where
  body := [0xa1, 0x70, 0x64, 0x65, 0x73, 0x69, 0x72, 0x65, 0x64, 0x5f, 0x66, 0x69, 0x72, 0x6d, 0x77,
    0x61, 0x72, 0x65, 0x07]
  exponent := 0
  count := 2
  small := by decide
  positive := by decide
  few := by decide
  reaches := by decide
  covers := by decide

/-- The blocks of that map, each in a message of its own. -/
def firstBlock : List UInt8 :=
  [0x50, 0x45, 0, 9, 0xd1, 0x0a, 0x08, 0xff] ++ firmwareOffer.body.take 16
def secondBlock : List UInt8 :=
  [0x50, 0x45, 0, 9, 0xd1, 0x0a, 0x10, 0xff] ++ firmwareOffer.body.drop 16

/-- A server that answers the first message behind an empty acknowledgement, and of the second only
a copy. -/
def lossyReplies : List (List Arrival) :=
  [[⟨3, [0x60, 0, 0, 0]⟩, ⟨5, firstBlock⟩], [], [⟨5, secondBlock⟩]]

def lossyWorld : World := .ofNetwork (.ofReplies 5683 lossyReplies [])
def lossyRequests : Requests :=
  [0, 1, 1].map fun k => (⟨.v4 ⟨127, 0, 0, 1⟩, 5683⟩,
    asking (heartbeatPacket 0 "127.0.0.1" 5683 ⟨1, 2⟩) 0 (UInt16.ofNat k) k)

theorem firmware_in_two_blocks :
    ∃ w', exchangeIn 9000 none 0 "127.0.0.1" 5683 ⟨1, 2⟩ lossyWorld =
        (some (.ofResponse ⟨.content, firmwareOffer.body⟩), w') ∧
      blocksAsked (requests w'.network) = [0, 1, 1] := by
  have literal : (Exchange.endpoint "127.0.0.1" 5683).literal? = some (.v4 ⟨127, 0, 0, 1⟩) := by
    decide +kernel
  have dialled : dial none (Exchange.endpoint "127.0.0.1" 5683) lossyWorld.network =
      (some (.ok ⟨.v4 ⟨127, 0, 0, 1⟩, 5683⟩), lossyWorld.network) := dial_literal literal _ _
  have asks : requests (exchangeIn 9000 none 0 "127.0.0.1" 5683 ⟨1, 2⟩ lossyWorld).2.network =
      lossyRequests := by decide +kernel
  have serves : Serves (heartbeatPacket 0 "127.0.0.1" 5683 ⟨1, 2⟩) firmwareOffer lossyReplies
      lossyRequests := by decide +kernel
  have answered : AnsweredWithin (heartbeatPacket 0 "127.0.0.1" 5683 ⟨1, 2⟩) lossyReplies
      lossyRequests 2005 := by decide +kernel
  have noSlower : NoSlower (heartbeatPacket 0 "127.0.0.1" 5683 ⟨1, 2⟩) lossyReplies
      lossyRequests 2005 := by
    unfold NoSlower
    decide +kernel
  have blocks : blocksAsked lossyRequests = [0, 1, 1] := by decide +kernel
  have permits : (heartbeatTerms 9000 none ⟨.v4 ⟨127, 0, 0, 1⟩, 5683⟩ lossyWorld.network).Permits
      (lossyWorld.network.now + 2 * (firmwareOffer.count * 2005)) := ⟨by decide, nofun⟩
  rcases ran : exchangeIn 9000 none 0 "127.0.0.1" 5683 ⟨1, 2⟩ lossyWorld with ⟨ended, w'⟩
  rw [ran] at asks
  obtain ⟨_, _, _, timely⟩ := blockwise_transparent 9000 0 ⟨1, 2⟩ lossyWorld firmwareOffer
    lossyReplies dialled (by decide +kernel) ⟨rfl, by decide, nofun, rfl, rfl, rfl, rfl⟩ ran asks
    serves
  have whole := timely 2005 (by decide) answered noSlower permits
  refine ⟨w', ?_, ?_⟩
  · rw [whole.outcome]
  · rw [asks]
    exact blocks

/-- Servers of that map: one answers every message 2.4 s after it has been sent, one takes 10.5 s
for the second block, and one asks for an acknowledgement of the first. -/
def slowReplies : List (List Arrival) :=
  [[⟨2400, firstBlock⟩], [⟨2400, firstBlock⟩], [⟨2400, secondBlock⟩], [⟨2400, secondBlock⟩]]
def tardyReplies : List (List Arrival) := [[⟨0, firstBlock⟩], [⟨10500, secondBlock⟩]]
def confirmableReplies : List (List Arrival) :=
  [[⟨0, [0x40, 0x45, 0, 9, 0xd1, 0x0a, 0x08, 0xff] ++ firmwareOffer.body.take 16⟩]]

/-- Within the deadline of 93 s the second block is asked for in two messages, the tardy server is
not waited for, and a block is lost whose acknowledgement cannot be sent. -/
theorem block_asked_twice_missed_or_lost :
    let message := heartbeatPacket 0 "127.0.0.1" 5683 ⟨1, 2⟩
    let slow := exchangeIn 93000 none 0 "127.0.0.1" 5683 ⟨1, 2⟩
      (.ofNetwork (.ofReplies 5683 slowReplies []))
    let tardy := exchangeIn 93000 none 0 "127.0.0.1" 5683 ⟨1, 2⟩
      (.ofNetwork (.ofReplies 5683 tardyReplies []))
    let mute := exchangeIn 93000 none 0 "127.0.0.1" 5683 ⟨1, 2⟩
      (.ofNetwork (.ofReplies 5683 confirmableReplies [none, some (.os 105)]))
    Serves message firmwareOffer slowReplies (requests slow.2.network) ∧
      (requests slow.2.network).map (fun s => (s.2.messageId, requested s.2)) =
        [(0, 0), (0, 0), (1, 1), (2, 1)] ∧
      Serves message firmwareOffer tardyReplies (requests tardy.2.network) ∧
      (Outcome.ofResponse ⟨.content, firmwareOffer.body⟩).isSuccess = true ∧
      tardy.1.map Outcome.display = some "transport error: timed out: send timeout" ∧
      Serves message firmwareOffer confirmableReplies (requests mute.2.network) ∧
      mute.1.map Outcome.display = some "transport error: timed out: send timeout" := by
  decide +kernel

end CheckIn.Udp
