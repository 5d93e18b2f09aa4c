import CheckIn.Proofs.Udp.Arrivals
import CheckIn.Proofs.Udp.Blockwise
import CheckIn.Proofs.Udp.Termination
import CheckIn.Proofs.Udp.Transmissions
import Mathlib.Data.List.GetD

/-! A body that a server serves block by block is put together again, or the exchange fails and says
why. The server may leave copies of a request unanswered, answer each as often as it likes, late,
and beside anything that is no answer: a late block makes the client ask again for the one behind
it, but what has been gathered stays. -/
namespace CheckIn.Udp

open Coap Net

abbrev Requests := List (SocketAddress × Packet)

variable {terms : Terms}

section

variable {v v' : View} {stage stage' : Stage} {made : Requests}

theorem Turns.records (turn : Turns terms v stage made stage' v') :
    v'.requests = v.requests ++ made ∧ v'.replies = v.replies.drop made.length := by
  cases turn with
  | sent => exact ⟨rfl, (List.drop_one ..).symm⟩
  | _ => exact ⟨(List.append_nil _).symm, rfl⟩

theorem retry_ne_blocked (t : Transfer) (cause : IoFault) (spare : Nat) :
    Stage.retry t cause spare ≠ .blocked := by
  cases spare <;> nofun

theorem ofStep_ne_blocked (next : Step) : Stage.ofStep next ≠ .blocked := by
  cases next with
  | send t =>
    unfold Stage.ofStep Stage.begin
    dsimp only
    split_ifs <;> nofun
  | finish => nofun
  | fail => nofun

theorem Turns.ne_blocked (turn : Turns terms v stage made stage' v') (going : stage ≠ .blocked) :
    stage' ≠ .blocked := by
  cases turn with
  | silence =>
    unfold Stage.expire Stage.overdue
    dsimp only
    split_ifs
    · exact retry_ne_blocked _ _ _
    · nofun
    · nofun
  | cleared => exact ofStep_ne_blocked _
  | ended => exact going
  | _ => nofun

end

section

variable {message : Packet} {net : Simulation} {v : View}

/-- What every turn of a request preserves holds when the request is over. -/
theorem deliver_preserves (inv : Stage → View → Prop)
    (preserves : ∀ stage v made stage' v', inv stage v → Turns terms v stage made stage' v' →
      inv stage' v')
    (short : message.payload.length ≤ uploadSize) (kind : message.kind ≠ .acknowledgement)
    (shows : Shows terms.peer v net) (begins : inv (.begin (.start message)) v) :
    let ended := deliver terms ⟨.sound, .begin (.start message)⟩ net
    ended.1.stage.isOver = true ∧
      ∃ v', Shows terms.peer v' ended.2 ∧ inv ended.1.stage v' := by
  have first : Faithful terms.peer message net ⟨.sound, .begin (.start message)⟩ net :=
    ⟨.refl, fun t held => by
      rcases (rests_ofStep (.send (.start message))).2 with none | same
      · exact nomatch none.symm.trans held
      · cases same.symm.trans held
        exact repeats_start short⟩
  have ends := repeatWith_invariant (·.stage.isOver) (Delivery.step Simulation.wire terms)
    (fun d net' => Faithful terms.peer message net d net' ∧ d.link = .sound ∧
      d.stage ≠ .blocked ∧ ∃ v', Shows terms.peer v' net' ∧ inv d.stage v') ?_ net.budget
    ⟨.sound, .begin (.start message)⟩ net
    ⟨first, rfl, ofStep_ne_blocked (.send (.start message)), v, shows, begins⟩
  · exact ⟨deliver_isOver terms .sound (.start message) net, ends.2.2.2⟩
  · rintro d net' ⟨faithful, sound, unblocked, v, shows, holds⟩
    have step := becomes terms net' d
    have proceeds : d.stage.Proceeds := by
      refine ⟨unblocked, fun t spare sends => ?_⟩
      have own : Repeats message t := faithful.stage t (by rw [sends]; rfl)
      rwa [own.same.kind]
    obtain ⟨sound, made, v', turn, shows'⟩ := step.turns shows sound proceeds
    exact ⟨faithful.step step, sound, turn.ne_blocked unblocked, v', shows',
      preserves _ _ _ _ _ holds turn⟩

end

section

variable (message : Packet) (o : Offer) (replies : List (List Arrival))

/-- A datagram that is a block of a body, if it answers a message at all. -/
def ServesBlock (k : Nat) (datagram : List UInt8) : Prop :=
  ∀ p, Packet.parse? (datagram.take datagramLimit) = some p → answers message p = true →
    p.code = .content ∧ Transfer.block2? p = some (o.block k) ∧ p.payload = o.chunk k

instance (k : Nat) (datagram : List UInt8) : Decidable (ServesBlock message o k datagram) :=
  decidable_of_iff ((Packet.parse? (datagram.take datagramLimit)).all fun p =>
    answers message p = true → p.code = .content ∧ Transfer.block2? p = some (o.block k) ∧
      p.payload = o.chunk k) (by simp [ServesBlock, Option.all_eq_true, imp_iff_not_or])

/-- The numbers of the blocks that requests ask for. -/
def blocksAsked (sends : Requests) : List Nat := sends.map fun s => requested s.2

theorem reaction_eq (n : Nat) : (replies.drop n).headD [] = replies.getD n [] := by
  rw [List.headD_eq_head?_getD, List.head?_drop, ← List.getD_eq_getElem?_getD]

/-- A server that answers requests with the blocks that they ask for. -/
def Serves (sends : Requests) : Prop :=
  ∀ i < sends.length, ∀ a ∈ replies.getD i [],
    ServesBlock message o ((blocksAsked sends).getD i 0) a.datagram

instance (sends : Requests) : Decidable (Serves message o replies sends) :=
  inferInstanceAs (Decidable (∀ i < sends.length, ∀ a ∈ replies.getD i [],
    ServesBlock message o ((blocksAsked sends).getD i 0) a.datagram))

/-- A last request of which no copy has been answered by the time that the last of them had. -/
def Unanswered (sends : Requests) : Prop :=
  ∃ earlier s, sends = earlier ++ List.replicate (repeats + 1) s ∧
    ∀ k < repeats + 1, ∀ a ∈ replies.getD (earlier.length + k) [],
      AnswersNothing message a.datagram ∨
        (repeats + 1) * answerTime < k * answerTime + a.time

end

/-- Blocks of which each is asked for behind the one before it. -/
def InTurn (blocks : List Nat) : Prop := ∀ i k, blocks[i]? = some (k + 1) → k ∈ blocks.take i

namespace InTurn

variable {blocks : List Nat}

theorem snoc {k : Nat} (inTurn : InTurn blocks) (known : ∀ j, k = j + 1 → j ∈ blocks) :
    InTurn (blocks ++ [k]) := by
  intro i j asked
  rcases Nat.lt_or_ge i blocks.length with inside | behind
  · rw [List.getElem?_append_left inside] at asked
    rw [List.take_append_of_le_length inside.le]
    exact inTurn i j asked
  · rw [List.getElem?_append_right behind] at asked
    obtain ⟨here, named⟩ := List.getElem?_eq_some_iff.mp asked
    have last : i = blocks.length := by
      rw [List.length_singleton] at here
      omega
    rw [last, List.take_left]
    exact known j (by simpa using named)

theorem mem_of_le {j k : Nat} (inTurn : InTurn blocks) (asked : k ∈ blocks) (before : j ≤ k) :
    j ∈ blocks := by
  induction k with
  | zero =>
    obtain rfl := Nat.le_zero.mp before
    exact asked
  | succ k ih =>
    rcases Nat.eq_or_lt_of_le before with rfl | before
    · exact asked
    · obtain ⟨i, found⟩ := List.mem_iff_getElem?.mp asked
      exact ih (List.mem_of_mem_take (inTurn i k found)) (Nat.le_of_lt_succ before)

end InTurn

theorem blocksAsked_append (sends more : Requests) :
    blocksAsked (sends ++ more) = blocksAsked sends ++ blocksAsked more := List.map_append

section

variable {message : Packet} {o : Offer} {replies : List (List Arrival)} {sends more : Requests}

theorem Serves.mono (serves : Serves message o replies (sends ++ more)) :
    Serves message o replies sends := by
  intro i inside a drawn
  have early := serves i (by rw [List.length_append]; omega) a drawn
  rwa [blocksAsked_append, List.getD_append _ _ _ _ (by simpa [blocksAsked] using inside)] at early

theorem Serves.last {s : SocketAddress × Packet}
    (serves : Serves message o replies (sends ++ [s])) :
    ∀ a ∈ replies.getD sends.length [], ServesBlock message o (requested s.2) a.datagram := by
  intro a drawn
  have served := serves sends.length (by simp) a drawn
  rw [blocksAsked_append, List.getD_append_right _ _ _ _ (by simp [blocksAsked])] at served
  simpa [blocksAsked] using served

end

/-- A transfer that has gathered as many blocks, all that have been asked for among them, and asks
for one of these or for the next. -/
structure Wants (message : Packet) (o : Offer) (asked : List Nat) (t : Transfer) (blocks : Nat) :
    Prop where
  form : ∃ id, t = gathering message o id blocks (requested t.message)
  known : requested t.message ≤ blocks
  left : blocks < o.count
  gathered : ∀ k ∈ asked, k ≤ blocks
  turn : ∀ k, requested t.message = k + 1 → k ∈ asked

namespace Wants

variable {message : Packet} {o : Offer} {asked : List Nat} {t : Transfer} {blocks : Nat}

theorem first (plain : Transfer.block2? message = none) :
    Wants message o [] ⟨message, [], 0, []⟩ 0 := by
  have names : requested message = 0 := by rw [requested, plain, Option.elim_none]
  refine ⟨⟨message.messageId, ?_⟩, names.le, o.positive, List.forall_mem_nil _, ?_⟩
  · dsimp only
    rw [names, gathering, asking, Offer.gathered, Nat.zero_mul, List.take_zero]
  · intro k later
    exact absurd (names.symm.trans later) (Nat.succ_ne_zero k).symm

theorem token_eq (wants : Wants message o asked t blocks) : t.message.token = message.token := by
  obtain ⟨id, form⟩ := wants.form
  rw [form]
  exact asking_token ..

theorem answers_eq (wants : Wants message o asked t blocks) (p : Packet) :
    answers t.message p = answers message p := by
  rw [answers, answers, wants.token_eq]

theorem begin_eq (wants : Wants message o asked t blocks)
    (fits : ∀ k < o.count,
      (asking message o.exponent message.messageId k).encode.length ≤ Packet.sizeLimit) :
    Stage.begin t = .sending t repeats := by
  obtain ⟨id, form⟩ := wants.form
  have fit := fits (requested t.message) (Nat.lt_of_le_of_lt wants.known wants.left)
  rw [length_encode_asking message o.exponent message.messageId id] at fit
  refine if_neg (Nat.not_lt.mpr ?_)
  rw [form]
  exact fit

theorem ask (wants : Wants message o asked t blocks) :
    Wants message o (asked ++ [requested t.message]) t blocks where
  form := wants.form
  known := wants.known
  left := wants.left
  gathered := by
    intro k among
    rcases List.mem_append.mp among with old | new
    · exact wants.gathered k old
    · rw [List.mem_singleton.mp new]
      exact wants.known
  turn k later := List.mem_append_left _ (wants.turn k later)

/-- A block that has been asked for leads to a request for the one behind it, or to the end. -/
theorem answer (wants : Wants message o asked t blocks) (plain : Transfer.block2? message = none)
    {k : Nat} {p : Packet} (among : k ∈ asked) (code : p.code = .content)
    (block : Transfer.block2? p = some (o.block k)) (payload : p.payload = o.chunk k) :
    (∃ t' blocks', t.take p = .send t' ∧ requested t'.message = k + 1 ∧
        Wants message o asked t' blocks') ∨
      (t.take p = .finish ⟨.content, o.body⟩ ∧ k + 1 = o.count) := by
  obtain ⟨id, form⟩ := wants.form
  have known := wants.gathered k among
  have left := wants.left
  have next := take_gathering message id (j := requested t.message) o code block payload known left
  rw [← form] at next
  by_cases more : k + 1 < o.count
  · rw [if_pos more] at next
    have names : requested (asking message o.exponent (id + 1) (k + 1)) = k + 1 :=
      requested_asking message o.exponent (id + 1) plain o.small (Nat.lt_of_lt_of_le more o.few)
    refine .inl ⟨_, _, next, names, ⟨id + 1, ?_⟩, ?_, Nat.max_lt.mpr ⟨left, more⟩, ?_, ?_⟩
    · exact congrArg (gathering message o (id + 1) (max blocks (k + 1))) names.symm
    · rw [gathering, names]
      exact Nat.le_max_right ..
    · intro j asked
      exact Nat.le_trans (wants.gathered j asked) (Nat.le_max_left ..)
    · intro j later
      rw [gathering, names] at later
      cases later
      exact among
  · rw [if_neg more] at next
    exact .inr ⟨next, by omega⟩

end Wants

section

variable (message : Packet) (o : Offer) (replies : List (List Arrival))

/-- Datagrams on their way to a client that has asked for blocks. -/
structure Inbound (asked : List Nat) (v : View) : Prop where
  ordered : v.inbox.Pairwise (·.time ≤ ·.time)
  ahead : ∀ a ∈ v.inbox, v.now ≤ a.time
  served : ∀ a ∈ v.inbox, ∃ k ∈ asked, ServesBlock message o k a.datagram

/-- The last requests are copies of a message, the first of them sent at some moment: whatever
answers one of them and has not come yet is on its way. -/
def Copies (copies start : Nat) (s : SocketAddress × Packet) (sends : Requests) (v : View) : Prop :=
  ∃ earlier, sends = earlier ++ List.replicate copies s ∧
    ∀ k < copies, ∀ a ∈ replies.getD (earlier.length + k) [],
      AnswersNothing message a.datagram ∨ Arrival.after (start + k * answerTime) a ∈ v.inbox

end

namespace Inbound

variable {message : Packet} {o : Offer} {asked : List Nat} {v : View}

theorem give {a : Arrival} {inbox : List Arrival} (h : Inbound message o asked v)
    (next : v.inbox = a :: inbox) : Inbound message o asked (v.give a inbox) := by
  have ordered := h.ordered
  rw [next, List.pairwise_cons] at ordered
  have inside {b : Arrival} (later : b ∈ inbox) : b ∈ v.inbox := next ▸ List.mem_cons_of_mem a later
  refine ⟨ordered.2, ?_, ?_⟩
  · intro b later
    exact Nat.max_le.mpr ⟨h.ahead b (inside later), ordered.1 b later⟩
  · intro b later
    exact h.served b (inside later)

theorem now_give {a : Arrival} {inbox : List Arrival} (h : Inbound message o asked v)
    (next : v.inbox = a :: inbox) : (v.give a inbox).now = a.time :=
  Nat.max_eq_right (h.ahead a (next ▸ List.mem_cons_self))

theorem quiet {moment : Nat} (h : Inbound message o asked v)
    (quiet : ∀ a, v.inbox.head? = some a → moment < a.time) : ∀ a ∈ v.inbox, moment < a.time := by
  have ordered := h.ordered
  intro b inside
  cases next : v.inbox with
  | nil => rw [next] at inside; cases inside
  | cons a inbox =>
    have first := quiet a (by rw [next, List.head?_cons])
    rw [next] at inside ordered
    rcases List.mem_cons.mp inside with rfl | later
    · exact first
    · exact Nat.lt_of_lt_of_le first ((List.pairwise_cons.mp ordered).1 b later)

theorem pass {moment : Nat} (h : Inbound message o asked v)
    (quiet : ∀ a, v.inbox.head? = some a → moment < a.time) :
    Inbound message o asked { v with now := max v.now moment } where
  ordered := h.ordered
  ahead a inside := Nat.max_le.mpr ⟨h.ahead a inside, (h.quiet quiet a inside).le⟩
  served := h.served

theorem ask {k : Nat} {peer : SocketAddress} {p : Packet} (h : Inbound message o asked v)
    (served : ∀ a ∈ v.replies.headD [], ServesBlock message o k a.datagram) :
    Inbound message o (asked ++ [k]) (v.ask peer p) := by
  refine ⟨ordered_arriving h.ordered, ?_, ?_⟩
  · intro a inside
    rcases mem_arriving.mp inside with old | ⟨b, drawn, rfl⟩
    · exact h.ahead a old
    · exact Nat.le_add_right ..
  · intro a inside
    rcases mem_arriving.mp inside with old | ⟨b, drawn, rfl⟩
    · obtain ⟨j, among, block⟩ := h.served a old
      exact ⟨j, List.mem_append_left _ among, block⟩
    · exact ⟨k, by simp, served b drawn⟩

end Inbound

namespace Copies

variable {message : Packet} {replies : List (List Arrival)} {copies start : Nat}
  {s : SocketAddress × Packet} {sends : Requests} {v v' : View}

theorem none : Copies message replies 0 start s sends v := ⟨sends, by simp, nofun⟩

theorem keep (h : Copies message replies copies start s sends v)
    (kept : ∀ a ∈ v.inbox, AnswersNothing message a.datagram ∨ a ∈ v'.inbox) :
    Copies message replies copies start s sends v' := by
  obtain ⟨earlier, sent, pending⟩ := h
  refine ⟨earlier, sent, ?_⟩
  intro k few a drawn
  rcases pending k few a drawn with nothing | inside
  · exact .inl nothing
  · exact kept _ inside

theorem ask (h : Copies message replies copies start s sends v)
    (drawn : v.replies = replies.drop sends.length)
    (now : v.now = start + copies * answerTime) :
    Copies message replies (copies + 1) start s (sends ++ [s]) (v.ask s.1 s.2) := by
  obtain ⟨earlier, sent, pending⟩ := h
  have count : sends.length = earlier.length + copies := by
    rw [sent, List.length_append, List.length_replicate]
  refine ⟨earlier, ?_, ?_⟩
  · rw [sent, List.append_assoc, List.replicate_succ']
  · intro k few a inside
    rcases Nat.lt_or_eq_of_le (Nat.le_of_lt_succ few) with early | rfl
    · exact (pending k early a inside).imp_right fun old => mem_arriving.mpr (.inl old)
    · refine .inr (mem_arriving.mpr (.inr ⟨a, ?_, by rw [now]⟩))
      rw [drawn, count, reaction_eq]
      exact inside

end Copies

theorem outOfPatience_of_cut {limit moment : Nat} (cut : terms.horizon limit < limit)
    (unbounded : ¬terms.bound ≤ terms.horizon limit) (later : terms.horizon limit ≤ moment) :
    terms.outOfPatience moment = true := by
  unfold Terms.horizon at *
  unfold Terms.outOfPatience
  cases patience : terms.patience with
  | none =>
    simp only [patience] at *
    omega
  | some p =>
    simp only [patience] at *
    simpa using (by omega : p ≤ moment)

section

variable (terms : Terms) (message : Packet) (o : Offer) (replies : List (List Arrival))

def Completes (asked : List Nat) (r : Transport.Response) : Prop :=
  r = ⟨.content, o.body⟩ ∧ o.count - 1 ∈ asked

/-- How a request fails that is answered with blocks: it goes unanswered, or its time is over. -/
def FailsWith (sends : Requests) (v : View) (cause : Transport.Fault) : Prop :=
  (cause = ofIoFault silence ∧ Unanswered message replies sends) ∨
    (cause = terms.expired ∧ terms.bound ≤ v.now)

/-- Where a request that is answered with blocks can stand. -/
def Stage.Gathers (sends : Requests) (v : View) : Stage → Prop
  | sending t spare => (∃ blocks, Wants message o (blocksAsked sends) t blocks) ∧
      ∃ copies start, copies + spare = repeats ∧ v.now = start + copies * answerTime ∧
        Copies message replies copies start (terms.peer, t.message) sends v
  | waiting t spare limit => (∃ blocks, Wants message o (blocksAsked sends) t blocks) ∧
      ∃ copies start, copies + spare = repeats + 1 ∧ 0 < copies ∧
        limit = start + copies * answerTime ∧ v.now ≤ limit ∧
        Copies message replies copies start (terms.peer, t.message) sends v
  | clearing (.send t) => ∃ blocks, Wants message o (blocksAsked sends) t blocks
  | clearing (.finish r) => Completes o (blocksAsked sends) r
  | clearing (.fail _) => False
  | blocked => False
  | done r => Completes o (blocksAsked sends) r
  | failed cause => FailsWith terms message replies sends v cause
  | abandoned => terms.outOfPatience v.now = true

/-- A request under way to a server of blocks. -/
structure Gathers (sends : Requests) (stage : Stage) (v : View) : Prop where
  inTurn : InTurn (blocksAsked sends)
  below : ∀ k ∈ blocksAsked sends, k < o.count
  inbound : Inbound message o (blocksAsked sends) v
  stands : stage.Gathers terms message o replies sends v

end

namespace Gathers

variable {message : Packet} {o : Offer} {replies : List (List Arrival)} {sends : Requests}
  {v v' : View} {stage stage' : Stage} {t : Transfer} {spare limit : Nat}

theorem send (h : Gathers terms message o replies sends (.sending t spare) v)
    (drawn : v.replies = replies.drop sends.length)
    (serves : Serves message o replies (sends ++ [(terms.peer, t.message)])) :
    Gathers terms message o replies (sends ++ [(terms.peer, t.message)])
      (.waiting t spare (v.now + answerTime)) (v.ask terms.peer t.message) := by
  obtain ⟨⟨blocks, wants⟩, copies, start, few, now, pending⟩ := h.stands
  have asks : blocksAsked (sends ++ [(terms.peer, t.message)]) =
      blocksAsked sends ++ [requested t.message] := blocksAsked_append ..
  have reaction : v.replies.headD [] = replies.getD sends.length [] := by
    rw [drawn, reaction_eq]
  refine ⟨?_, ?_, ?_, ⟨blocks, ?_⟩, copies + 1, start, by omega, Nat.succ_pos _, ?_, ?_, ?_⟩
  · rw [asks]
    exact h.inTurn.snoc wants.turn
  · rw [asks]
    intro k among
    rcases List.mem_append.mp among with old | new
    · exact h.below k old
    · rw [List.mem_singleton.mp new]
      exact Nat.lt_of_le_of_lt wants.known wants.left
  · rw [asks]
    exact h.inbound.ask (by rw [reaction]; exact serves.last)
  · rw [asks]
    exact wants.ask
  · rw [now, Nat.succ_mul, Nat.add_assoc]
  · exact Nat.le_add_right ..
  · exact pending.ask drawn now

theorem silence (h : Gathers terms message o replies sends (.waiting t spare limit) v)
    (quiet : ∀ a, v.inbox.head? = some a → terms.horizon limit < a.time) :
    Gathers terms message o replies sends (.expire terms t spare limit)
      { v with now := max v.now (terms.horizon limit) } := by
  obtain ⟨wants, copies, start, few, some, moment, early, pending⟩ := h.stands
  refine ⟨h.inTurn, h.below, h.inbound.pass quiet, ?_⟩
  rw [Stage.expire]
  by_cases whole : limit ≤ terms.horizon limit
  · have horizon : terms.horizon limit = limit := Nat.le_antisymm (horizon_le terms limit) whole
    rw [if_pos whole, horizon, Nat.max_eq_right early]
    rw [horizon] at quiet
    cases spare with
    | zero =>
      obtain ⟨earlier, sent, coming⟩ := pending
      obtain rfl : copies = repeats + 1 := few
      refine .inl ⟨rfl, earlier, _, sent, ?_⟩
      intro k early a drawn
      refine (coming k early a drawn).imp_right fun inside => ?_
      have late := h.inbound.quiet quiet _ inside
      rw [moment, Arrival.after] at late
      dsimp only at late
      omega
    | succ spare =>
      refine ⟨wants, copies, start, by omega, moment, ?_⟩
      exact pending.keep fun a inside => .inr inside
  · rw [if_neg whole, Stage.overdue]
    have cut : terms.horizon limit < limit := Nat.lt_of_not_le whole
    split_ifs with expired
    · exact .inr ⟨rfl, Nat.le_trans expired (Nat.le_max_right ..)⟩
    · exact outOfPatience_of_cut cut expired (Nat.le_max_right ..)

theorem noise {a : Arrival} {inbox : List Arrival}
    (h : Gathers terms message o replies sends (.waiting t spare limit) v)
    (next : v.inbox = a :: inbox) (intime : a.time ≤ limit)
    (nothing : AnswersNothing t.message a.datagram) :
    Gathers terms message o replies sends (.waiting t spare limit) (v.give a inbox) := by
  obtain ⟨⟨blocks, wants⟩, copies, start, few, some, moment, early, pending⟩ := h.stands
  refine ⟨h.inTurn, h.below, h.inbound.give next, ⟨blocks, wants⟩, copies, start, few, some,
    moment, Nat.max_le.mpr ⟨early, intime⟩, pending.keep ?_⟩
  intro b inside
  rw [next] at inside
  rcases List.mem_cons.mp inside with rfl | later
  · refine .inl fun p spelled => ?_
    rw [← wants.answers_eq]
    exact nothing p spelled
  · exact .inr later

/-- A datagram that answers is a block, and leads on from there. -/
theorem answer {a : Arrival} {inbox : List Arrival} {reply : Packet}
    (h : Gathers terms message o replies sends (.waiting t spare limit) v)
    (plain : Transfer.block2? message = none) (next : v.inbox = a :: inbox)
    (spelled : Packet.parse? (a.datagram.take datagramLimit) = some reply)
    (answers : answers t.message reply = true) :
    ∃ k, Transfer.block2? reply = some (o.block k) ∧
      Gathers terms message o replies sends (.clearing (t.take reply)) (v.give a inbox) ∧
      ∀ t', t.take reply = .send t' → requested t'.message = k + 1 := by
  obtain ⟨⟨blocks, wants⟩, _⟩ := h.stands
  obtain ⟨k, among, served⟩ := h.inbound.served a (next ▸ List.mem_cons_self)
  obtain ⟨code, block, payload⟩ := served reply spelled (wants.answers_eq reply ▸ answers)
  refine ⟨k, block, ⟨h.inTurn, h.below, h.inbound.give next, ?_⟩, ?_⟩
  · rcases wants.answer plain among code block payload with
      ⟨t', blocks', leads, _, wants'⟩ | ⟨ends, last⟩
    · rw [leads]
      exact ⟨blocks', wants'⟩
    · rw [ends]
      exact ⟨rfl, by rwa [← last, Nat.add_sub_cancel]⟩
  · intro t' leads
    rcases wants.answer plain among code block payload with
      ⟨t'', _, leads', names, _⟩ | ⟨ends, _⟩
    · cases leads.symm.trans leads'
      exact names
    · cases leads.symm.trans ends

theorem cleared {next : Step} (h : Gathers terms message o replies sends (.clearing next) v)
    (fits : ∀ k < o.count,
      (asking message o.exponent message.messageId k).encode.length ≤ Packet.sizeLimit) :
    Gathers terms message o replies sends (.ofStep next) v := by
  refine ⟨h.inTurn, h.below, h.inbound, ?_⟩
  have stands := h.stands
  cases next with
  | send t =>
    obtain ⟨blocks, wants⟩ := stands
    rw [Stage.ofStep, wants.begin_eq fits]
    exact ⟨⟨blocks, wants⟩, 0, v.now, rfl, by simp, .none⟩
  | finish r => exact stands
  | fail cause => exact stands.elim

theorem drained {a : Arrival} {inbox : List Arrival} {next : Step}
    (h : Gathers terms message o replies sends (.clearing next) v)
    (pending : v.inbox = a :: inbox) :
    Gathers terms message o replies sends (.clearing next) (v.give a inbox) := by
  refine ⟨h.inTurn, h.below, h.inbound.give pending, ?_⟩
  have stands := h.stands
  cases next with
  | send t => exact stands
  | finish r => exact stands
  | fail cause => exact stands

/-- Every turn leads to where a request can stand. -/
theorem step {made : Requests} (h : Gathers terms message o replies sends stage v)
    (plain : Transfer.block2? message = none)
    (fits : ∀ k < o.count,
      (asking message o.exponent message.messageId k).encode.length ≤ Packet.sizeLimit)
    (drawn : v.replies = replies.drop sends.length)
    (serves : Serves message o replies (sends ++ made))
    (turn : Turns terms v stage made stage' v') :
    Gathers terms message o replies (sends ++ made) stage' v' := by
  cases turn with
  | sent => exact h.send drawn serves
  | expired late =>
    rw [List.append_nil]
    exact ⟨h.inTurn, h.below, h.inbound, .inr ⟨rfl, late⟩⟩
  | left impatient =>
    rw [List.append_nil]
    exact ⟨h.inTurn, h.below, h.inbound, impatient⟩
  | silence quiet =>
    rw [List.append_nil]
    exact h.silence quiet
  | noise next intime nothing =>
    rw [List.append_nil]
    exact h.noise next (Nat.le_trans intime (horizon_le ..)) nothing
  | answer next _ spelled answers =>
    rw [List.append_nil]
    obtain ⟨_, _, gathers, _⟩ := h.answer plain next spelled answers
    exact gathers
  | cleared =>
    rw [List.append_nil]
    exact h.cleared fits
  | drained pending =>
    rw [List.append_nil]
    exact h.drained pending
  | ended =>
    rw [List.append_nil]
    exact h

end Gathers

section

variable {message : Packet} {replies : List (List Arrival)} {net : Simulation} {v : View}
  {sends : Requests}

/-- What every turn preserves holds when the request is over, if what it takes for granted of the
requests made so far holds of all requests. -/
theorem deliver_keeps (premise : Requests → Prop) (inv : Requests → Stage → View → Prop)
    (mono : ∀ sends more, premise (sends ++ more) → premise sends)
    (preserves : ∀ sends stage v made stage' v', v.replies = replies.drop sends.length →
      premise (sends ++ made) → inv sends stage v → Turns terms v stage made stage' v' →
      inv (sends ++ made) stage' v')
    (short : message.payload.length ≤ uploadSize) (kind : message.kind ≠ .acknowledgement)
    (shows : Shows terms.peer v net) (drawn : v.replies = replies)
    (begins : inv [] (.begin (.start message)) v)
    (asks : requests (deliver terms ⟨.sound, .begin (.start message)⟩ net).2 =
      v.requests ++ sends) (holds : premise sends) :
    let ended := deliver terms ⟨.sound, .begin (.start message)⟩ net
    ended.1.stage.isOver = true ∧
      ∃ v', Shows terms.peer v' ended.2 ∧ inv sends ended.1.stage v' := by
  have ends := deliver_preserves (fun stage v' => ∃ sends, v'.requests = v.requests ++ sends ∧
      v'.replies = replies.drop sends.length ∧ (premise sends → inv sends stage v')) ?_ short kind
    shows ⟨[], (List.append_nil _).symm, drawn, fun _ => begins⟩
  · obtain ⟨isOver, v', shows', sends', made, _, keeps⟩ := ends
    rw [shows'.requests_eq, made] at asks
    obtain rfl := List.append_cancel_left asks
    exact ⟨isOver, v', shows', keeps holds⟩
  · rintro stage v made stage' v' ⟨sends, asked, drawn, keeps⟩ turn
    obtain ⟨more, rest⟩ := turn.records
    refine ⟨sends ++ made, ?_, ?_, ?_⟩
    · rw [more, asked, List.append_assoc]
    · rw [rest, drawn, List.drop_drop, List.length_append]
    · intro holds
      exact preserves _ _ _ _ _ _ drawn holds (keeps (mono _ _ holds)) turn

end

end CheckIn.Udp
