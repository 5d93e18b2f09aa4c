import CheckIn.Proofs.Net.Simulation
import CheckIn.Udp.Client

/-! What one step of a delivery can come to on a simulated network, case by case. -/
namespace CheckIn.Udp

open Coap Net

/-- What a socket can make of a datagram: nothing, or the packet that it spells. -/
inductive Hears (peer : SocketAddress) (datagram : List UInt8) (net : Simulation) :
    Link → Link → Option Packet → Simulation → Prop where
  | deaf {link} : link ≠ .sound → Hears peer datagram net link link none net
  | malformed : Packet.parse? (datagram.take datagramLimit) = none →
      Hears peer datagram net .sound .sound none net
  | plain {reply} : Packet.parse? (datagram.take datagramLimit) = some reply →
      wantsAcknowledgement reply = false →
      Hears peer datagram net .sound .sound (some reply) net
  | acknowledged {reply net'} : Packet.parse? (datagram.take datagramLimit) = some reply →
      wantsAcknowledgement reply = true →
      net.send peer (.acknowledge reply.messageId) = (.ok (), net') →
      Hears peer datagram net .sound .sound (some reply) net'
  | lost {reply : Packet} {net' cause} :
      Packet.parse? (datagram.take datagramLimit) = some reply →
      wantsAcknowledgement reply = true →
      net.send peer (.acknowledge reply.messageId) = (.error cause, net') →
      Hears peer datagram net .sound (.after cause .deaf) none net'

/-- What a delivery can come to. -/
inductive Becomes (terms : Terms) (net : Simulation) :
    Delivery → Delivery → Simulation → Prop where
  | expired {t spare link} : terms.bound ≤ net.now →
      Becomes terms net ⟨link, .sending t spare⟩ ⟨link, .failed terms.expired⟩ net
  | left {t spare link} : net.now < terms.bound → terms.outOfPatience net.now = true →
      Becomes terms net ⟨link, .sending t spare⟩ ⟨link, .abandoned⟩ net
  | stuck {t spare} : net.now < terms.bound → terms.outOfPatience net.now = false →
      Becomes terms net ⟨.stuck, .sending t spare⟩ ⟨.stuck, .blocked⟩ net
  | sent {t spare link net'} : net.now < terms.bound → terms.outOfPatience net.now = false →
      link ≠ .stuck → net.send terms.peer t.message = (.ok (), net') →
      Becomes terms net ⟨link, .sending t spare⟩
        ⟨link, .waiting t spare (net.now + answerTime)⟩ net'
  | unsent {t spare link cause net'} : net.now < terms.bound →
      terms.outOfPatience net.now = false → link ≠ .stuck →
      net.send terms.peer t.message = (.error cause, net') → cause.kind ≠ .wouldBlock →
      Becomes terms net ⟨link, .sending t spare⟩ ⟨link, .retry t cause spare⟩ net'
  | hung {t spare link cause net'} : net.now < terms.bound →
      terms.outOfPatience net.now = false → link ≠ .stuck →
      net.send terms.peer t.message = (.error cause, net') → cause.kind = .wouldBlock →
      Becomes terms net ⟨link, .sending t spare⟩ ⟨.stuck, .blocked⟩ net'
  | silence {t spare limit link} : (∀ a, net.inbox.head? = some a → terms.horizon limit < a.time) →
      Becomes terms net ⟨link, .waiting t spare limit⟩ ⟨link, .expire terms t spare limit⟩
        (net.passed (terms.horizon limit))
  | noise {t spare limit a inbox link link' net'} : net.inbox = a :: inbox →
      a.time ≤ terms.horizon limit →
      Hears terms.peer a.datagram (net.gave a inbox) link link' none net' →
      Becomes terms net ⟨link, .waiting t spare limit⟩ ⟨link', .waiting t spare limit⟩ net'
  | heard {t spare limit a inbox link link' reply net'} : net.inbox = a :: inbox →
      a.time ≤ terms.horizon limit →
      Hears terms.peer a.datagram (net.gave a inbox) link link' (some reply) net' →
      Becomes terms net ⟨link, .waiting t spare limit⟩ ⟨link', .hear t spare limit reply⟩ net'
  | cleared {next link} : (∀ a, net.inbox.head? = some a → net.now < a.time) →
      Becomes terms net ⟨link, .clearing next⟩ ⟨link, .ofStep next⟩ net
  | drained {next a inbox link link' reply net'} : net.inbox = a :: inbox → a.time ≤ net.now →
      Hears terms.peer a.datagram (net.gave a inbox) link link' reply net' →
      Becomes terms net ⟨link, .clearing next⟩ ⟨link', .clearing next⟩ net'
  | overdue {link} :
      (∀ a, net.inbox.head? = some a → terms.horizon terms.bound < a.time) →
      Becomes terms net ⟨link, .blocked⟩ ⟨link, .overdue terms (terms.horizon terms.bound)⟩
        (net.passed (terms.horizon terms.bound))
  | discarded {a inbox link} : net.inbox = a :: inbox → a.time ≤ terms.horizon terms.bound →
      Becomes terms net ⟨link, .blocked⟩ ⟨link, .blocked⟩ (net.gave a inbox)
  | ended {d} : d.stage.isOver = true → Becomes terms net d d net

section

variable (terms : Terms) (net : Simulation)

theorem hears (peer : SocketAddress) (datagram : List UInt8) (link : Link) :
    let r := hearken Simulation.wire peer datagram link net
    Hears peer datagram net link r.1.1 r.1.2 r.2 := by
  unfold hearken
  cases link with
  | deaf => exact .deaf nofun
  | stuck => exact .deaf nofun
  | sound =>
    cases spelled : Packet.parse? (datagram.take datagramLimit) with
    | none => exact .malformed spelled
    | some reply =>
      dsimp only
      split_ifs with wants
      · rw [bind_state, Simulation.wire_send]
        rcases sending : net.send peer (.acknowledge reply.messageId) with ⟨verdict, net'⟩
        cases verdict with
        | ok => exact .acknowledged spelled wants sending
        | error cause => exact .lost spelled wants sending
      · exact .plain spelled (Bool.eq_false_iff.mpr wants)

theorem becomes_send (t : Transfer) (spare : Nat) (link : Link) :
    let r := sendStep Simulation.wire terms link t spare net
    Becomes terms net ⟨link, .sending t spare⟩ r.1 r.2 := by
  unfold sendStep
  rw [bind_state, Simulation.wire_now]
  dsimp only
  split_ifs with late left stuck
  · exact .expired late
  · exact .left (Nat.lt_of_not_le late) left
  · subst stuck
    exact .stuck (Nat.lt_of_not_le late) (Bool.eq_false_iff.mpr left)
  · have intime := Nat.lt_of_not_le late
    have patient := Bool.eq_false_iff.mpr left
    rw [bind_state, Simulation.wire_send]
    rcases sending : net.send terms.peer t.message with ⟨verdict, net'⟩
    cases verdict with
    | ok => exact .sent intime patient stuck sending
    | error cause =>
      dsimp only
      unfold Link.after
      split_ifs with blocks
      · exact .hung intime patient stuck sending blocks
      · cases link with
        | stuck => exact absurd rfl stuck
        | sound => exact .unsent intime patient stuck sending blocks
        | deaf => exact .unsent intime patient stuck sending blocks

theorem becomes_receive (t : Transfer) (spare limit : Nat) (link : Link) :
    let r := receiveStep Simulation.wire terms link t spare limit net
    Becomes terms net ⟨link, .waiting t spare limit⟩ r.1 r.2 := by
  unfold receiveStep
  rw [bind_state, Simulation.wire_receive]
  rcases net.receive_cases (terms.horizon limit) with
    ⟨a, inbox, pending, intime, received⟩ | ⟨quiet, received⟩
  · rw [received]
    dsimp only
    rw [bind_state]
    have heard := hears (net.gave a inbox) terms.peer a.datagram link
    generalize hearken Simulation.wire terms.peer a.datagram link (net.gave a inbox) = hearing at *
    obtain ⟨⟨link', reply⟩, net'⟩ := hearing
    cases reply with
    | none => exact .noise pending intime heard
    | some reply => exact .heard pending intime heard
  · rw [received]
    exact .silence quiet

theorem becomes_clear (next : Step) (link : Link) :
    let r := clearStep Simulation.wire terms link next net
    Becomes terms net ⟨link, .clearing next⟩ r.1 r.2 := by
  unfold clearStep
  rw [bind_state, Simulation.wire_now]
  dsimp only
  rw [bind_state, Simulation.wire_receive]
  rcases net.receive_cases net.now with
    ⟨a, inbox, pending, intime, received⟩ | ⟨quiet, received⟩
  · rw [received]
    exact .drained pending intime (hears (net.gave a inbox) terms.peer a.datagram link)
  · have same : net.passed net.now = net := by simp [Simulation.passed]
    rw [received, same]
    exact .cleared quiet

theorem becomes_blocked (link : Link) :
    let r := blockedStep Simulation.wire terms link net
    Becomes terms net ⟨link, .blocked⟩ r.1 r.2 := by
  unfold blockedStep
  dsimp only
  rw [bind_state, Simulation.wire_receive]
  rcases net.receive_cases (terms.horizon terms.bound) with
    ⟨a, inbox, pending, intime, received⟩ | ⟨quiet, received⟩
  · rw [received]
    exact .discarded pending intime
  · rw [received]
    exact .overdue quiet

theorem becomes (d : Delivery) :
    let r := Delivery.step Simulation.wire terms d net
    Becomes terms net d r.1 r.2 := by
  obtain ⟨link, stage⟩ := d
  cases stage with
  | sending t spare => exact becomes_send terms net t spare link
  | waiting t spare limit => exact becomes_receive terms net t spare limit link
  | clearing next => exact becomes_clear terms net next link
  | blocked => exact becomes_blocked terms net link
  | done r => exact .ended rfl
  | failed cause => exact .ended rfl
  | abandoned => exact .ended rfl

end

end CheckIn.Udp
