import CheckIn.Proofs.Coap.Options
import CheckIn.Proofs.Udp.Arrivals
import CheckIn.Proofs.Udp.Blockwise

/-! A reply decides in whatever way it is delivered: on an acknowledgement, on its own behind one,
or only to a copy of the request that was sent because earlier ones were lost. What carries it and
when are free, and so is all that comes beside it and answers nothing. -/
namespace CheckIn.Udp

open Coap Net

/-- What a server sends in answer to the copies of a message, and when it arrives. The copies go out
from a moment on, each when the one before it has had its time. -/
def Reacts (replies : List (List Arrival)) (start copies : Nat) (a : Arrival) : Prop :=
  ∃ k < copies, ∃ b ∈ replies.getD k [], a = Arrival.after (start + k * answerTime) b

theorem reacts_succ {replies : List (List Arrival)} {start copies : Nat} {a : Arrival} :
    Reacts replies start (copies + 1) a ↔
      (∃ b ∈ replies.headD [], a = Arrival.after start b) ∨
        Reacts replies.tail (start + answerTime) copies a := by
  have later (k : Nat) : start + (k + 1) * answerTime = start + answerTime + k * answerTime := by
    rw [Nat.succ_mul]
    omega
  constructor
  · rintro ⟨k, few, b, inside, rfl⟩
    cases k with
    | zero =>
      refine .inl ⟨b, ?_, by simp⟩
      cases replies with
      | nil => exact inside
      | cons => exact inside
    | succ k =>
      refine .inr ⟨k, Nat.lt_of_succ_lt_succ few, b, ?_, by rw [later]⟩
      cases replies with
      | nil => cases inside
      | cons => exact inside
  · rintro (⟨b, inside, rfl⟩ | ⟨k, few, b, inside, rfl⟩)
    · refine ⟨0, Nat.succ_pos copies, b, ?_, by simp⟩
      cases replies with
      | nil => exact inside
      | cons => exact inside
    · refine ⟨k + 1, Nat.succ_lt_succ few, b, ?_, by rw [later]⟩
      cases replies with
      | nil => cases inside
      | cons => exact inside

/-- What a client will be given while it waits until `limit` and then for `spare` more copies. -/
def View.Coming (v : View) (spare limit : Nat) (a : Arrival) : Prop :=
  a ∈ v.inbox ∨ Reacts v.replies limit spare a

/-- A datagram with the reply to a message: a packet with its code and its payload, the message's
token and no block of a body, of any kind and with any id. -/
def Carries (message : Packet) (r : Transport.Response) (datagram : List UInt8) : Prop :=
  ∃ p, Packet.parse? (datagram.take datagramLimit) = some p ∧ p.code = r.code ∧
    p.payload = r.payload ∧ p.token = message.token ∧ Transfer.block2? p = none

instance (message : Packet) (r : Transport.Response) (datagram : List UInt8) :
    Decidable (Carries message r datagram) :=
  decidable_of_iff ((Packet.parse? (datagram.take datagramLimit)).any fun p =>
    p.code = r.code ∧ p.payload = r.payload ∧ p.token = message.token ∧
      Transfer.block2? p = none) (by simp [Carries, Option.any_eq_true])

theorem carries_encode {message p : Packet} (placed : WellPlaced 0 p.options)
    (plain : Transfer.block2? p = none) (short : p.token.length ≤ tokenLimit)
    (fits : p.encode.length ≤ datagramLimit) (same : p.token = message.token) :
    Carries message ⟨p.code, p.payload⟩ p.encode := by
  refine ⟨p, ?_, rfl, rfl, same, plain⟩
  rw [List.take_of_length_le fits]
  exact parse?_encode short placed

theorem acknowledge_answersNothing (message : Packet) (messageId : UInt16) :
    AnswersNothing message (Packet.acknowledge messageId).encode := by
  have length : (Packet.acknowledge messageId).encode.length = 4 := rfl
  have fits : (Packet.acknowledge messageId).encode.length ≤ datagramLimit := by
    rw [length]
    decide
  intro p spelled
  rw [List.take_of_length_le fits, parse?_encode (Nat.zero_le _) .nil] at spelled
  cases spelled
  rfl

section

variable {terms : Terms} (next : Step) (v : View)

theorem takes_drained {a : Arrival} {inbox : List Arrival} (pending : v.inbox = a :: inbox)
    (arrived : a.time ≤ v.now) :
    Takes terms 1 ⟨.sound, .clearing next⟩ v ⟨.sound, .clearing next⟩ (v.give a inbox) := by
  refine .one rfl ⟨nofun, nofun⟩ ?_
  intro made stage v' turn
  cases turn with
  | cleared later => exact absurd arrived (Nat.not_le_of_lt (later a (by simp [pending])))
  | drained pending' =>
    cases pending'.symm.trans pending
    exact ⟨rfl, rfl⟩
  | ended isOver => cases isOver

theorem takes_done (later : ∀ a, v.inbox.head? = some a → v.now < a.time) :
    Takes terms 1 ⟨.sound, .clearing next⟩ v ⟨.sound, .ofStep next⟩ v := by
  refine .one rfl ⟨nofun, nofun⟩ ?_
  intro made stage v' turn
  cases turn with
  | cleared => exact ⟨rfl, rfl⟩
  | drained pending arrived =>
    have late := later _ (by rw [pending, List.head?_cons])
    exact absurd arrived (Nat.not_le_of_lt late)
  | ended isOver => cases isOver

theorem takes_clearing : ∃ n ≤ v.inbox.length + 1, ∃ v',
    Takes terms n ⟨.sound, .clearing next⟩ v ⟨.sound, .ofStep next⟩ v' := by
  obtain ⟨now, inbox, replies, asked⟩ := v
  induction inbox generalizing now with
  | nil => exact ⟨1, Nat.le_refl 1, _, takes_done next _ nofun⟩
  | cons a inbox ih =>
    by_cases arrived : a.time ≤ now
    · obtain ⟨n, few, v', takes⟩ := ih (max now a.time)
      refine ⟨1 + n, ?_, v', (takes_drained next _ rfl arrived).trans takes⟩
      dsimp only [List.length_cons] at few ⊢
      omega
    · refine ⟨1, Nat.le_add_left .., _, takes_done next _ ?_⟩
      rintro b head
      cases head
      exact Nat.lt_of_not_le arrived

end

section

variable {message : Packet} {r : Transport.Response} {datagram : List UInt8}

theorem Carries.answer (carries : Carries message r datagram)
    (registered : r.code.isRegistered = true) :
    ∃ p, Packet.parse? (datagram.take datagramLimit) = some p ∧ answers message p = true ∧
      Transfer.take ⟨message, [], 0, []⟩ p = .finish r := by
  obtain ⟨p, spelled, code, payload, token, plain⟩ := carries
  refine ⟨p, spelled, ?_, ?_⟩
  · rw [answers, code, registered, token]
    simp
  · change Transfer.nextDownload _ p = _
    rw [Transfer.nextDownload, plain]
    dsimp only
    rw [code, payload]

theorem Carries.not_answersNothing (carries : Carries message r datagram)
    (registered : r.code.isRegistered = true) : ¬AnswersNothing message datagram := by
  intro nothing
  obtain ⟨p, spelled, answers, _⟩ := carries.answer registered
  exact absurd (nothing p spelled) (by simp [answers])

variable (message r) in
/-- A client waits until `limit`, and then for `spare` more copies, for a reply that comes at a
moment; nothing that comes before answers otherwise. -/
structure Awaits (spare limit moment : Nat) (v : View) : Prop where
  ordered : v.inbox.Pairwise (·.time ≤ ·.time)
  comes : ∃ a, v.Coming spare limit a ∧ a.time = moment ∧ Carries message r a.datagram
  first : ∀ a, v.Coming spare limit a → a.time ≤ moment →
    Carries message r a.datagram ∨ AnswersNothing message a.datagram
  reached : moment ≤ limit + spare * answerTime
  early : v.now ≤ limit
  before : v.now ≤ moment

namespace Awaits

variable {spare limit moment : Nat} {v : View} {a : Arrival} {inbox : List Arrival}

theorem head_le (h : Awaits message r spare limit moment v) (pending : v.inbox = a :: inbox)
    (intime : a.time ≤ limit) : a.time ≤ moment := by
  obtain ⟨c, coming, rfl, _⟩ := h.comes
  have ordered := h.ordered
  rcases coming with inside | ⟨k, _, b, _, rfl⟩
  · rw [pending] at inside ordered
    rcases List.mem_cons.mp inside with rfl | inside
    · exact Nat.le_refl _
    · exact (List.pairwise_cons.mp ordered).1 c inside
  · exact Nat.le_trans intime (Nat.le_trans (Nat.le_add_right ..) (Nat.le_add_right ..))

theorem pass (h : Awaits message r spare limit moment v) (pending : v.inbox = a :: inbox)
    (intime : a.time ≤ limit) (nothing : AnswersNothing message a.datagram)
    (registered : r.code.isRegistered = true) :
    Awaits message r spare limit moment (v.give a inbox) where
  ordered := by
    have ordered := h.ordered
    rw [pending] at ordered
    exact (List.pairwise_cons.mp ordered).2
  comes := by
    obtain ⟨c, coming, same, carries⟩ := h.comes
    refine ⟨c, ?_, same, carries⟩
    rcases coming with inside | later
    · rw [pending] at inside
      rcases List.mem_cons.mp inside with rfl | inside
      · exact absurd nothing (carries.not_answersNothing registered)
      · exact .inl inside
    · exact .inr later
  first := by
    intro b coming
    apply h.first b
    rcases coming with inside | later
    · exact .inl (pending ▸ List.mem_cons_of_mem a inside)
    · exact .inr later
  reached := h.reached
  early := Nat.max_le.mpr ⟨h.early, intime⟩
  before := Nat.max_le.mpr ⟨h.before, h.head_le pending intime⟩

theorem outlasts (h : Awaits message r spare limit moment v)
    (quiet : ∀ a, v.inbox.head? = some a → limit < a.time) :
    ∃ fewer, spare = fewer + 1 ∧ limit ≤ moment := by
  obtain ⟨c, coming, rfl, _⟩ := h.comes
  have ordered := h.ordered
  have reached := h.reached
  rcases coming with inside | ⟨k, few, b, _, rfl⟩
  · have late : limit < c.time := by
      cases pending : v.inbox with
      | nil => simp [pending] at inside
      | cons a inbox =>
        have late := quiet a (by simp [pending])
        rw [pending] at inside ordered
        rcases List.mem_cons.mp inside with rfl | inside
        · exact late
        · exact Nat.lt_of_lt_of_le late ((List.pairwise_cons.mp ordered).1 c inside)
    cases spare with
    | zero => omega
    | succ fewer => exact ⟨fewer, rfl, late.le⟩
  · obtain ⟨fewer, rfl⟩ := Nat.exists_eq_add_one_of_ne_zero (Nat.ne_zero_of_lt few)
    exact ⟨fewer, rfl, Nat.le_trans (Nat.le_add_right ..) (Nat.le_add_right ..)⟩

theorem ask (h : Awaits message r (spare + 1) limit moment v) (reached : limit ≤ moment)
    (peer : SocketAddress) :
    Awaits message r spare (limit + answerTime) moment
      (View.ask { v with now := limit } peer message) := by
  have coming (a : Arrival) :
      (View.ask { v with now := limit } peer message).Coming spare (limit + answerTime) a ↔
        v.Coming (spare + 1) limit a := by
    unfold View.Coming View.ask
    dsimp only
    rw [mem_arriving, reacts_succ, or_assoc]
  refine ⟨ordered_arriving h.ordered, ?_, ?_, ?_, Nat.le_add_right .., reached⟩
  · obtain ⟨c, comes, same⟩ := h.comes
    exact ⟨c, (coming c).mpr comes, same⟩
  · intro a comes
    exact h.first a ((coming a).mp comes)
  · have reached := h.reached
    rw [Nat.succ_mul] at reached
    omega

end Awaits

end

/-- Datagrams that are still to be read or sent to a client. -/
def View.pending (v : View) : Nat := v.inbox.length + v.replies.flatten.length

theorem pending_ask (v : View) (peer : SocketAddress) (p : Packet) :
    (v.ask peer p).pending = v.pending := by
  unfold View.pending View.ask
  dsimp only
  rw [length_arriving]
  cases v.replies with
  | nil => simp
  | cons reaction replies => simp [Nat.add_assoc]

section

variable {terms : Terms} {message : Packet} {r : Transport.Response} {moment : Nat}

/-- A reply that comes in time is taken, in one of the waits. Each step leaves fewer datagrams or
fewer copies. -/
theorem takes_awaited (kind : message.kind ≠ .acknowledgement)
    (registered : r.code.isRegistered = true) (permits : terms.Permits moment)
    (spare limit : Nat) (v : View) (h : Awaits message r spare limit moment v) :
    ∃ n ≤ 2 * spare + v.pending + 1, ∃ v', Takes terms n
      ⟨.sound, .waiting ⟨message, [], 0, []⟩ spare limit⟩ v ⟨.sound, .done r⟩ v' := by
  by_cases heard : ∃ a inbox, v.inbox = a :: inbox ∧ a.time ≤ limit
  · obtain ⟨a, inbox, pending, intime⟩ := heard
    have early : a.time ≤ moment := h.head_le pending intime
    have horizon : a.time ≤ terms.horizon limit := (permits.mono early).le_horizon intime
    have fewer : (v.give a inbox).pending + 1 = v.pending := by
      unfold View.pending View.give
      rw [pending, List.length_cons]
      dsimp only
      omega
    rcases h.first a (.inl (pending ▸ List.mem_cons_self)) early with carries | nothing
    · obtain ⟨p, spelled, answer, ends⟩ := carries.answer registered
      have taken := takes_answer ⟨message, [], 0, []⟩ spare limit v pending horizon spelled answer
      rw [ends] at taken
      obtain ⟨n, few, v', clears⟩ := takes_clearing (.finish r) (v.give a inbox)
      refine ⟨1 + n, ?_, v', taken.trans clears⟩
      have : (v.give a inbox).inbox.length ≤ (v.give a inbox).pending := Nat.le_add_right ..
      omega
    · have passed := takes_noise ⟨message, [], 0, []⟩ spare limit v pending horizon nothing
      obtain ⟨n, few, v', takes⟩ := takes_awaited kind registered permits spare limit
        (v.give a inbox) (h.pass pending intime nothing registered)
      exact ⟨1 + n, by omega, v', passed.trans takes⟩
  · have quiet : ∀ a, v.inbox.head? = some a → limit < a.time := by
      intro a head
      obtain ⟨inbox, pending⟩ := List.head?_eq_some_iff.mp head
      apply Nat.lt_of_not_le
      intro intime
      exact heard ⟨a, inbox, pending, intime⟩
    obtain ⟨fewer, rfl, reached⟩ := h.outlasts quiet
    have soon : terms.Permits limit := permits.mono reached
    have waits := takes_silence ⟨message, [], 0, []⟩ fewer limit v quiet soon
    rw [Nat.max_eq_right h.early] at waits
    have sends := takes_sending ⟨message, [], 0, []⟩ fewer { v with now := limit } soon kind
    have same : (View.ask { v with now := limit } terms.peer message).pending = v.pending :=
      pending_ask _ _ _
    obtain ⟨n, few, v', takes⟩ := takes_awaited kind registered permits fewer (limit + answerTime)
      _ (h.ask reached terms.peer)
    exact ⟨1 + 1 + n, by omega, v', (waits.trans sends).trans takes⟩
termination_by 2 * spare + v.pending

end

section

variable {host : String} {port : UInt16} {patience : Option Nat} {peer : SocketAddress}

/-- A heartbeat has the outcome that its reply means once a reply without blocks is delivered in
time: before the deadlines, and before the last copy of the request has had its time. It may come
on an acknowledgement or by a message of its own, to whichever copy, and beside whatever answers
nothing. Any packet with its code, its payload and the request's token will do, and an empty
acknowledgement answers nothing. -/
theorem verdict_of_delivered (timeoutMs : Nat) (firstId : UInt16) (heartbeat : Heartbeat.Request)
    (w : World) {net : Simulation} (r : Transport.Response) (registered : r.code.isRegistered = true)
    (dialled : dial patience (Exchange.endpoint host port) w.network = (some (.ok peer), net))
    (fits : (heartbeatPacket firstId host port heartbeat).encode.length ≤ Packet.sizeLimit)
    (replies : List (List Arrival))
    (working : Shows peer ⟨net.now, [], replies, requests net⟩ net)
    (a : Arrival) (drawn : Reacts replies net.now (repeats + 1) a)
    (carries : Carries (heartbeatPacket firstId host port heartbeat) r a.datagram)
    (first : ∀ b, Reacts replies net.now (repeats + 1) b → b.time ≤ a.time →
      Carries (heartbeatPacket firstId host port heartbeat) r b.datagram ∨
        AnswersNothing (heartbeatPacket firstId host port heartbeat) b.datagram)
    (reached : a.time ≤ net.now + (repeats + 1) * answerTime)
    (permits : (heartbeatTerms timeoutMs patience peer net).Permits a.time) :
    (∃ w', exchangeIn timeoutMs patience firstId host port heartbeat w =
      (some (.ofResponse r), w')) ∧
    (∀ p : Packet, p.code = r.code → p.payload = r.payload → WellPlaced 0 p.options →
      Transfer.block2? p = none →
      p.token = (heartbeatPacket firstId host port heartbeat).token →
      p.encode.length ≤ datagramLimit →
      Carries (heartbeatPacket firstId host port heartbeat) r p.encode) ∧
    ∀ messageId : UInt16, AnswersNothing (heartbeatPacket firstId host port heartbeat)
      (Packet.acknowledge messageId).encode := by
  have begins : Stage.begin (.start (heartbeatPacket firstId host port heartbeat)) =
      .sending ⟨heartbeatPacket firstId host port heartbeat, [], 0, []⟩ repeats := by
    rw [start_heartbeatPacket]
    exact if_neg (Nat.not_lt.mpr fits)
  have later : net.now ≤ a.time := by
    obtain ⟨k, _, b, _, rfl⟩ := drawn
    exact Nat.le_trans (Nat.le_add_right ..) (Nat.le_add_right ..)
  have coming (b : Arrival) :
      View.Coming ⟨net.now, [], replies, requests net⟩ (repeats + 1) net.now b ↔
        Reacts replies net.now (repeats + 1) b := by
    simp [View.Coming]
  have awaits : Awaits (heartbeatPacket firstId host port heartbeat) r (repeats + 1)
      net.now a.time ⟨net.now, [], replies, requests net⟩ :=
    ⟨.nil, ⟨a, (coming a).mpr drawn, rfl, carries⟩, fun b comes => first b ((coming b).mp comes),
      reached, Nat.le_refl _, later⟩
  have kind : (heartbeatPacket firstId host port heartbeat).kind ≠ .acknowledgement := nofun
  have sends := takes_sending ⟨heartbeatPacket firstId host port heartbeat, [], 0, []⟩ repeats
    ⟨net.now, [], replies, requests net⟩ (permits.mono later) kind
  obtain ⟨n, few, v', takes⟩ := takes_awaited kind registered permits repeats _ _
    (awaits.ask later peer)
  rw [pending_ask] at few
  refine ⟨?_, ?_, ?_⟩
  · obtain ⟨net', reaches, _⟩ := (sends.trans takes) net working
    have budget : net.budget = 12 * (replies.flatten.length + 1) := by
      rw [Simulation.budget, Simulation.pending, working.inbox_eq, working.replies_eq]
      simp
    have delivered := reaches.deliver rfl (by
      have copies : repeats = 4 := rfl
      dsimp only [View.pending, List.length_nil] at few
      omega)
    rw [← begins] at delivered
    obtain ⟨w', ran, _⟩ := acts_exchange timeoutMs firstId heartbeat dialled w rfl
    rw [delivered] at ran
    exact ⟨w', ran⟩
  · rintro p code payload placed plain token short
    have carried : Carries (heartbeatPacket firstId host port heartbeat) ⟨p.code, p.payload⟩
        p.encode := carries_encode placed plain (by rw [token]; exact Nat.zero_le _) short token
    rwa [code, payload] at carried
  · intro messageId
    exact acknowledge_answersNothing _ messageId

end

/-- A server that loses the first copy of a heartbeat, acknowledges the second before it refuses
with a message of its own, and repeats the refusal to the third. -/
def lateRefusal : List (List Arrival) :=
  [[], [⟨3, [0x60, 0, 0, 0]⟩, ⟨2500, [0x40, 0x84, 0, 9, 0xff, 0x6e, 0x6f]⟩],
    [⟨700, [0x60, 0x84, 0, 0, 0xff, 0x6e, 0x6f]⟩]]

theorem refusal_behind_lost_copy :
    ∃ w', exchangeIn 5000 (some 4600) 0 "127.0.0.1" 5683 ⟨1, 2⟩
      (.ofNetwork (.ofReplies 5683 lateRefusal [])) =
      (some (.ofResponse ⟨⟨0x84⟩, [0x6e, 0x6f]⟩), w') := by
  have literal : (Exchange.endpoint "127.0.0.1" 5683).literal? = some (.v4 ⟨127, 0, 0, 1⟩) := by
    decide +kernel
  have dialled : dial (some 4600) (Exchange.endpoint "127.0.0.1" 5683)
      (.ofReplies 5683 lateRefusal []) =
      (some (.ok ⟨.v4 ⟨127, 0, 0, 1⟩, 5683⟩), .ofReplies 5683 lateRefusal []) :=
    dial_literal literal _ _
  have first : ∀ k < repeats + 1, ∀ b ∈ lateRefusal.getD k [],
      0 + k * answerTime + b.time ≤ 4500 →
        Carries (heartbeatPacket 0 "127.0.0.1" 5683 ⟨1, 2⟩) ⟨⟨0x84⟩, [0x6e, 0x6f]⟩ b.datagram ∨
          AnswersNothing (heartbeatPacket 0 "127.0.0.1" 5683 ⟨1, 2⟩) b.datagram := by
    decide +kernel
  exact (verdict_of_delivered 5000 0 ⟨1, 2⟩ (.ofNetwork (.ofReplies 5683 lateRefusal []))
    ⟨⟨0x84⟩, [0x6e, 0x6f]⟩ (by decide) dialled (by decide +kernel) lateRefusal
    ⟨rfl, by decide, nofun, rfl, rfl, rfl, rfl⟩
    ⟨4500, [0x40, 0x84, 0, 9, 0xff, 0x6e, 0x6f]⟩ ⟨1, by decide, _, .tail _ (.head _), rfl⟩
    (by decide +kernel) (by rintro _ ⟨k, few, b, inside, rfl⟩; exact first k few b inside)
    (by decide) ⟨by decide, by rintro p same; cases same; decide⟩).1

/-- A server that acknowledges a heartbeat at once, and answers it with an empty map in a message of
its own some time later. -/
def answeringApart (delay : Nat) (faults : List (Option IoFault)) : World :=
  .ofNetwork (.ofReplies 5683
    [[⟨0, [0x60, 0, 0, 0]⟩, ⟨delay, [0x40, 0x45, 0, 9, 0xff, 0xa0]⟩]] faults)

/-- Within the deadline of 93 s a reply is missed that comes behind the time of the last copy, and a
reply is lost at once if its acknowledgement cannot be sent. -/
theorem reply_missed_or_lost :
    Carries (heartbeatPacket 0 "127.0.0.1" 5683 ⟨1, 2⟩) ⟨.content, [0xa0]⟩
        [0x40, 0x45, 0, 9, 0xff, 0xa0] ∧
      (Outcome.ofResponse ⟨.content, [0xa0]⟩).isSuccess = true ∧
      (exchangeIn 93000 none 0 "127.0.0.1" 5683 ⟨1, 2⟩ (answeringApart 10500 [])).1.map
        Outcome.display = some "transport error: timed out: send timeout" ∧
      (exchangeIn 93000 none 0 "127.0.0.1" 5683 ⟨1, 2⟩
        (answeringApart 0 [none, some (.os 105)])).1.map
        Outcome.display = some "transport error: timed out: send timeout" := by
  decide +kernel

end CheckIn.Udp
