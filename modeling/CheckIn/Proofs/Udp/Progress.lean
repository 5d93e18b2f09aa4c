import CheckIn.Proofs.Udp.Exchange
import CheckIn.Proofs.Udp.Steps

/-! Runs of a delivery on a network that works: every send succeeds, and a view of the network says
what is on its way. A run is put together from its steps; acknowledgements do not show. -/
namespace CheckIn.Udp

open Coap Net

variable {terms : Terms}

/-- A delivery that comes to another in some number of steps and is not over before. -/
inductive Reaches (terms : Terms) :
    Nat → Delivery → Simulation → Delivery → Simulation → Prop where
  | refl (d net) : Reaches terms 0 d net d net
  | step {n d net d' net'} : d.stage.isOver = false →
      Reaches terms n (Delivery.step Simulation.wire terms d net).1
        (Delivery.step Simulation.wire terms d net).2 d' net' →
      Reaches terms (n + 1) d net d' net'

namespace Reaches

variable {n k : Nat} {d d' d'' : Delivery} {net net' net'' : Simulation}

theorem trans (first : Reaches terms n d net d' net') (second : Reaches terms k d' net' d'' net'') :
    Reaches terms (n + k) d net d'' net'' := by
  induction first with
  | refl => rwa [Nat.zero_add]
  | step going _ ih =>
    rw [Nat.add_right_comm]
    exact .step going (ih second)

theorem repeatWith (reaches : Reaches terms n d net d' net') (isOver : d'.stage.isOver = true)
    {fuel : Nat} (enough : n ≤ fuel) :
    Net.repeatWith (·.stage.isOver) (Delivery.step Simulation.wire terms) fuel d net =
      (d', net') := by
  induction reaches generalizing fuel with
  | refl =>
    cases fuel with
    | zero => rfl
    | succ fuel =>
      rw [Net.repeatWith, if_pos isOver]
      rfl
  | step going _ ih =>
    cases fuel with
    | zero => exact absurd enough (Nat.not_succ_le_zero _)
    | succ fuel =>
      rw [Net.repeatWith, if_neg (by simp [going])]
      exact ih isOver (Nat.le_of_succ_le_succ enough)

theorem deliver (reaches : Reaches terms n d net d' net') (isOver : d'.stage.isOver = true)
    (enough : n ≤ net.budget) : deliver terms d net = (d', net') :=
  reaches.repeatWith isOver enough

end Reaches

/-- What has been sent, acknowledgements apart. -/
def requests (net : Simulation) : List (SocketAddress × Packet) :=
  net.sent.filter (·.2.kind != .acknowledgement)

/-- A network as far as it matters to a client whose sends succeed. -/
structure View where
  now : Nat
  inbox : List Arrival
  replies : List (List Arrival)
  requests : List (SocketAddress × Packet)

/-- A network that works for a client of `peer`, and what it shows. -/
structure Shows (peer : SocketAddress) (v : View) (net : Simulation) : Prop where
  served : peer.port = net.serverPort
  port_ne : peer.port ≠ 0
  faultless : ∀ fault ∈ net.sendFaults, fault = none
  now_eq : net.now = v.now
  inbox_eq : net.inbox = v.inbox
  replies_eq : net.replies = v.replies
  requests_eq : requests net = v.requests

/-- Datagrams on their way after a reaction at some moment. -/
def arriving (now : Nat) (reaction inbox : List Arrival) : List Arrival :=
  reaction.foldl (fun inbox a => Simulation.insert ⟨now + a.time, a.datagram⟩ inbox) inbox

def View.ask (v : View) (peer : SocketAddress) (p : Packet) : View :=
  { v with
    inbox := arriving v.now (v.replies.headD []) v.inbox
    replies := v.replies.tail
    requests := v.requests ++ [(peer, p)] }

def View.give (v : View) (a : Arrival) (inbox : List Arrival) : View :=
  { v with now := max v.now a.time, inbox }

namespace Shows

variable {peer : SocketAddress} {v : View} {net net' : Simulation} {p : Packet}

theorem head_fault (shows : Shows peer v net) : net.sendFaults.head?.join = none := by
  have faultless := shows.faultless
  cases faults : net.sendFaults with
  | nil => rfl
  | cons fault faults' =>
    rw [faultless fault (by simp [faults])]
    rfl

theorem faultless_rest (shows : Shows peer v net) :
    ∀ fault ∈ net.sendFaults.drop 1, fault = none :=
  fun fault inside => shows.faultless fault (List.mem_of_mem_drop inside)

theorem send_acknowledgement (shows : Shows peer v net) (kind : p.kind = .acknowledgement) :
    ∃ net', net.send peer p = (.ok (), net') ∧ Shows peer v net' := by
  refine ⟨{ net with sendFaults := net.sendFaults.drop 1 }.record peer p, ?_, shows.served,
    shows.port_ne, shows.faultless_rest, shows.now_eq, shows.inbox_eq, shows.replies_eq, ?_⟩
  · rw [Simulation.send, if_neg shows.port_ne, if_pos shows.served, shows.head_fault]
    simp [kind]
  · rw [← shows.requests_eq]
    simp [requests, Simulation.record, List.filter_append, kind]

theorem send_request (shows : Shows peer v net) (kind : p.kind ≠ .acknowledgement) :
    ∃ net', net.send peer p = (.ok (), net') ∧ Shows peer (v.ask peer p) net' := by
  have requested : (net.sent ++ [(peer, p)]).filter (·.2.kind != .acknowledgement) =
      v.requests ++ [(peer, p)] := by
    rw [List.filter_append, ← shows.requests_eq]
    simp [requests, kind]
  refine ⟨({ net with sendFaults := net.sendFaults.drop 1 }.record peer p).draw, ?_, ?_⟩
  · rw [Simulation.send, if_neg shows.port_ne, if_pos shows.served, shows.head_fault]
    simp [kind]
  · have replies := shows.replies_eq
    unfold Simulation.draw Simulation.record View.ask
    dsimp only
    cases drawn : net.replies with
    | nil =>
      rw [drawn] at replies
      rw [← replies]
      exact ⟨shows.served, shows.port_ne, shows.faultless_rest, shows.now_eq, shows.inbox_eq, rfl,
        requested⟩
    | cons reaction rest =>
      rw [drawn] at replies
      rw [← replies]
      refine ⟨shows.served, shows.port_ne, shows.faultless_rest, shows.now_eq, ?_, rfl, requested⟩
      rw [← shows.inbox_eq, ← shows.now_eq]
      rfl

theorem gave {a : Arrival} {inbox : List Arrival} (shows : Shows peer v net) :
    Shows peer (v.give a inbox) (net.gave a inbox) where
  served := shows.served
  port_ne := shows.port_ne
  faultless := shows.faultless
  now_eq := by rw [Simulation.gave, View.give, shows.now_eq]
  inbox_eq := rfl
  replies_eq := shows.replies_eq
  requests_eq := shows.requests_eq

theorem passed (shows : Shows peer v net) (limit : Nat) :
    Shows peer { v with now := max v.now limit } (net.passed limit) where
  served := shows.served
  port_ne := shows.port_ne
  faultless := shows.faultless
  now_eq := by rw [Simulation.passed, shows.now_eq]
  inbox_eq := shows.inbox_eq
  replies_eq := shows.replies_eq
  requests_eq := shows.requests_eq

theorem hears {datagram : List UInt8} {link : Link} {reply : Option Packet}
    (shows : Shows peer v net) (h : Hears peer datagram net .sound link reply net') :
    link = .sound ∧ reply = Packet.parse? (datagram.take datagramLimit) ∧ Shows peer v net' := by
  cases h with
  | deaf deaf => exact absurd rfl deaf
  | malformed spelled => exact ⟨rfl, spelled.symm, shows⟩
  | plain spelled => exact ⟨rfl, spelled.symm, shows⟩
  | @acknowledged reply _ spelled _ sending =>
    obtain ⟨net'', sent, shows⟩ :=
      shows.send_acknowledgement (p := .acknowledge reply.messageId) rfl
    cases sent.symm.trans sending
    exact ⟨rfl, spelled.symm, shows⟩
  | @lost reply _ _ _ _ sending =>
    obtain ⟨net'', sent, _⟩ := shows.send_acknowledgement (p := .acknowledge reply.messageId) rfl
    cases sent.symm.trans sending

end Shows

/-- Both the time of a request and its caller's patience last beyond a moment. -/
def Terms.Permits (terms : Terms) (moment : Nat) : Prop :=
  moment < terms.bound ∧ ∀ p, terms.patience = some p → moment < p

theorem Terms.Permits.patient {moment : Nat} (permits : terms.Permits moment) :
    terms.outOfPatience moment = false := by
  unfold Terms.outOfPatience
  cases patience : terms.patience with
  | none => rfl
  | some p => simpa using permits.2 p patience

theorem Terms.Permits.mono {moment earlier : Nat} (permits : terms.Permits moment)
    (before : earlier ≤ moment) : terms.Permits earlier :=
  ⟨Nat.lt_of_le_of_lt before permits.1,
    fun p patience => Nat.lt_of_le_of_lt before (permits.2 p patience)⟩

theorem Terms.Permits.le_horizon {moment limit : Nat} (permits : terms.Permits moment)
    (intime : moment ≤ limit) : moment ≤ terms.horizon limit := by
  obtain ⟨bounded, patient⟩ := permits
  unfold Terms.horizon
  split
  · next p patience =>
    have := patient p patience
    omega
  · omega

/-- A datagram that is no answer to a message. -/
def AnswersNothing (message : Packet) (datagram : List UInt8) : Prop :=
  ∀ p, Packet.parse? (datagram.take datagramLimit) = some p → answers message p = false

instance (message : Packet) (datagram : List UInt8) : Decidable (AnswersNothing message datagram) :=
  decidable_of_iff ((Packet.parse? (datagram.take datagramLimit)).all fun p => !answers message p)
    (by simp [AnswersNothing, Option.all_eq_true])

theorem AnswersNothing.not_answers {message p : Packet} {datagram : List UInt8}
    (nothing : AnswersNothing message datagram)
    (spelled : Packet.parse? (datagram.take datagramLimit) = some p) : ¬answers message p = true :=
  Bool.eq_false_iff.mp (nothing p spelled)

/-- What one step of a delivery can come to on a network that works, and the requests that it
makes. -/
inductive Turns (terms : Terms) (v : View) :
    Stage → List (SocketAddress × Packet) → Stage → View → Prop where
  | expired {t spare} : terms.bound ≤ v.now →
      Turns terms v (.sending t spare) [] (.failed terms.expired) v
  | left {t spare} : terms.outOfPatience v.now = true →
      Turns terms v (.sending t spare) [] .abandoned v
  | sent {t spare} : v.now < terms.bound → terms.outOfPatience v.now = false →
      Turns terms v (.sending t spare) [(terms.peer, t.message)]
        (.waiting t spare (v.now + answerTime)) (v.ask terms.peer t.message)
  | silence {t spare limit} : (∀ a, v.inbox.head? = some a → terms.horizon limit < a.time) →
      Turns terms v (.waiting t spare limit) [] (.expire terms t spare limit)
        { v with now := max v.now (terms.horizon limit) }
  | noise {t spare limit a inbox} : v.inbox = a :: inbox → a.time ≤ terms.horizon limit →
      AnswersNothing t.message a.datagram →
      Turns terms v (.waiting t spare limit) [] (.waiting t spare limit) (v.give a inbox)
  | answer {t spare limit a inbox reply} : v.inbox = a :: inbox → a.time ≤ terms.horizon limit →
      Packet.parse? (a.datagram.take datagramLimit) = some reply →
      answers t.message reply = true →
      Turns terms v (.waiting t spare limit) [] (.clearing (t.take reply)) (v.give a inbox)
  | cleared {next} : (∀ a, v.inbox.head? = some a → v.now < a.time) →
      Turns terms v (.clearing next) [] (.ofStep next) v
  | drained {next a inbox} : v.inbox = a :: inbox → a.time ≤ v.now →
      Turns terms v (.clearing next) [] (.clearing next) (v.give a inbox)
  | ended {stage} : stage.isOver = true → Turns terms v stage [] stage v

/-- A stage that is not blocked, and whose message is no acknowledgement if it sends one. -/
structure Stage.Proceeds (stage : Stage) : Prop where
  unblocked : stage ≠ .blocked
  kind : ∀ t spare, stage = .sending t spare → t.message.kind ≠ .acknowledgement

/-- On a network that works each step of a sound socket is a turn, and leaves it sound. -/
theorem Becomes.turns {d d' : Delivery} {v : View} {net net' : Simulation}
    (step : Becomes terms net d d' net') (shows : Shows terms.peer v net) (sound : d.link = .sound)
    (proceeds : d.stage.Proceeds) :
    d'.link = .sound ∧
      ∃ made v', Turns terms v d.stage made d'.stage v' ∧ Shows terms.peer v' net' := by
  have now := shows.now_eq
  have inbox := shows.inbox_eq
  cases step with
  | expired late => exact ⟨sound, [], v, .expired (now ▸ late), shows⟩
  | left _ impatient => exact ⟨sound, [], v, .left (now ▸ impatient), shows⟩
  | stuck => cases sound
  | @sent t spare _ _ intime patient _ sending =>
    obtain ⟨net'', sent, shows'⟩ := shows.send_request (proceeds.kind t spare rfl)
    cases sent.symm.trans sending
    rw [now] at intime patient ⊢
    exact ⟨sound, _, _, .sent intime patient, shows'⟩
  | @unsent t spare _ _ _ _ _ _ sending =>
    obtain ⟨net'', sent, _⟩ := shows.send_request (proceeds.kind t spare rfl)
    cases sent.symm.trans sending
  | @hung t spare _ _ _ _ _ _ sending =>
    obtain ⟨net'', sent, _⟩ := shows.send_request (proceeds.kind t spare rfl)
    cases sent.symm.trans sending
  | silence quiet => exact ⟨sound, [], _, .silence (inbox ▸ quiet), shows.passed _⟩
  | @noise t _ _ a _ _ _ _ pending intime hears =>
    cases sound
    obtain ⟨rfl, unheard, shows'⟩ := shows.gave.hears hears
    refine ⟨rfl, [], _, .noise (inbox ▸ pending) intime ?_, shows'⟩
    intro p spelled
    cases unheard.trans spelled
  | @heard t _ _ a _ _ _ reply _ pending intime hears =>
    cases sound
    obtain ⟨rfl, spelled, shows'⟩ := shows.gave.hears hears
    refine ⟨rfl, [], _, ?_, shows'⟩
    rw [Stage.hear]
    split_ifs with answering
    · exact .answer (inbox ▸ pending) intime spelled.symm answering
    · refine .noise (inbox ▸ pending) intime ?_
      intro p spelled'
      cases spelled.trans spelled'
      exact Bool.eq_false_iff.mpr answering
  | cleared quiet => exact ⟨sound, [], v, .cleared (inbox ▸ now ▸ quiet), shows⟩
  | drained pending arrived hears =>
    cases sound
    obtain ⟨rfl, _, shows'⟩ := shows.gave.hears hears
    exact ⟨rfl, [], _, .drained (inbox ▸ pending) (now ▸ arrived), shows'⟩
  | overdue => exact absurd rfl proceeds.unblocked
  | discarded => exact absurd rfl proceeds.unblocked
  | ended isOver => exact ⟨sound, [], v, .ended isOver, shows⟩

/-- Runs of a delivery from one view to another. -/
def Takes (terms : Terms) (n : Nat) (d : Delivery) (v : View) (d' : Delivery) (v' : View) : Prop :=
  ∀ net, Shows terms.peer v net →
    ∃ net', Reaches terms n d net d' net' ∧ Shows terms.peer v' net'

theorem Takes.trans {n k : Nat} {d d' d'' : Delivery} {v v' v'' : View}
    (first : Takes terms n d v d' v') (second : Takes terms k d' v' d'' v'') :
    Takes terms (n + k) d v d'' v'' := by
  intro net shows
  obtain ⟨net', reaches, shows⟩ := first net shows
  obtain ⟨net'', reaches', shows⟩ := second net' shows
  exact ⟨net'', reaches.trans reaches', shows⟩

/-- One step, of which it is enough to know what it can come to. -/
theorem Takes.one {stage stage' : Stage} {v v' : View} (going : stage.isOver = false)
    (proceeds : stage.Proceeds)
    (only : ∀ made next v'', Turns terms v stage made next v'' → next = stage' ∧ v'' = v') :
    Takes terms 1 ⟨.sound, stage⟩ v ⟨.sound, stage'⟩ v' := by
  intro net shows
  obtain ⟨sound, made, v'', turn, shows'⟩ :=
    (becomes terms net ⟨.sound, stage⟩).turns shows rfl proceeds
  obtain ⟨stands, rfl⟩ := only made _ v'' turn
  refine ⟨_, .step going ?_, shows'⟩
  generalize Delivery.step Simulation.wire terms ⟨.sound, stage⟩ net = reached at *
  obtain ⟨⟨link, next⟩, net'⟩ := reached
  cases sound
  cases stands
  exact .refl _ _

section

variable (t : Transfer) (spare limit : Nat) (v : View)

theorem takes_sending (permits : terms.Permits v.now) (kind : t.message.kind ≠ .acknowledgement) :
    Takes terms 1 ⟨.sound, .sending t spare⟩ v ⟨.sound, .waiting t spare (v.now + answerTime)⟩
      (v.ask terms.peer t.message) := by
  refine .one rfl ⟨nofun, by rintro _ _ ⟨⟩; exact kind⟩ ?_
  intro made next v' turn
  cases turn with
  | expired late => exact absurd permits.1 (Nat.not_lt.mpr late)
  | left impatient => exact absurd impatient (by simp [permits.patient])
  | sent => exact ⟨rfl, rfl⟩
  | ended isOver => cases isOver

theorem takes_noise {a : Arrival} {inbox : List Arrival} (next : v.inbox = a :: inbox)
    (intime : a.time ≤ terms.horizon limit) (noise : AnswersNothing t.message a.datagram) :
    Takes terms 1 ⟨.sound, .waiting t spare limit⟩ v ⟨.sound, .waiting t spare limit⟩
      (v.give a inbox) := by
  refine .one rfl ⟨nofun, nofun⟩ ?_
  intro made stage v' turn
  cases turn with
  | silence quiet => exact absurd intime (Nat.not_le_of_lt (quiet a (by simp [next])))
  | noise pending =>
    cases pending.symm.trans next
    exact ⟨rfl, rfl⟩
  | answer pending _ spelled answering =>
    cases pending.symm.trans next
    exact absurd (noise _ spelled) (by simp [answering])
  | ended isOver => cases isOver

theorem takes_answer {a : Arrival} {inbox : List Arrival} {reply : Packet}
    (next : v.inbox = a :: inbox) (intime : a.time ≤ terms.horizon limit)
    (spelled : Packet.parse? (a.datagram.take datagramLimit) = some reply)
    (answer : answers t.message reply = true) :
    Takes terms 1 ⟨.sound, .waiting t spare limit⟩ v ⟨.sound, .clearing (t.take reply)⟩
      (v.give a inbox) := by
  refine .one rfl ⟨nofun, nofun⟩ ?_
  intro made stage v' turn
  cases turn with
  | silence quiet => exact absurd intime (Nat.not_le_of_lt (quiet a (by simp [next])))
  | noise pending _ noise =>
    cases pending.symm.trans next
    exact absurd (noise _ spelled) (by simp [answer])
  | answer pending _ spelled' =>
    cases pending.symm.trans next
    cases spelled'.symm.trans spelled
    exact ⟨rfl, rfl⟩
  | ended isOver => cases isOver

theorem horizon_le (terms : Terms) (limit : Nat) : terms.horizon limit ≤ limit := by
  unfold Terms.horizon
  split <;> omega

theorem Terms.Permits.horizon_eq (permits : terms.Permits limit) :
    terms.horizon limit = limit :=
  Nat.le_antisymm (horizon_le terms limit) (permits.le_horizon (Nat.le_refl limit))

theorem takes_silence (quiet : ∀ a, v.inbox.head? = some a → limit < a.time)
    (permits : terms.Permits limit) :
    Takes terms 1 ⟨.sound, .waiting t (spare + 1) limit⟩ v ⟨.sound, .sending t spare⟩
      { v with now := max v.now limit } := by
  have horizon := permits.horizon_eq
  refine .one rfl ⟨nofun, nofun⟩ ?_
  intro made stage v' turn
  cases turn with
  | silence =>
    rw [Stage.expire, horizon, if_pos (Nat.le_refl limit), Stage.retry]
    exact ⟨rfl, rfl⟩
  | noise pending intime =>
    have late := quiet _ (by rw [pending, List.head?_cons])
    exact absurd (horizon ▸ intime) (Nat.not_le_of_lt late)
  | answer pending intime =>
    have late := quiet _ (by rw [pending, List.head?_cons])
    exact absurd (horizon ▸ intime) (Nat.not_le_of_lt late)
  | ended isOver => cases isOver

end

end CheckIn.Udp
