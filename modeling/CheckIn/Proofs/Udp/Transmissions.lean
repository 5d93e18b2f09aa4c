import CheckIn.Proofs.Coap.Block
import CheckIn.Proofs.Udp.Exchange
import CheckIn.Proofs.Udp.Provenance

/-! What a delivery puts on the network. A message whose payload fits one block goes out as it is
however often it is repeated, and so does every request for a further block of its answer, but for
its number and the option that names the block. All else that is sent acknowledges. -/
namespace CheckIn.Udp

open Coap Net

/-- A packet that says what a message says. Only its number and the block of an answer that it asks
for are its own. -/
structure Restates (message p : Packet) : Prop where
  kind : p.kind = message.kind
  code : p.code = message.code
  token : p.token = message.token
  options : p.options.filter (·.1 != block2) = message.options.filter (·.1 != block2)
  payload : p.payload = message.payload

theorem Restates.refl (message : Packet) : Restates message message := ⟨rfl, rfl, rfl, rfl, rfl⟩

theorem Restates.ask {message p : Packet} (same : Restates message p) (block : Block) :
    Restates message { Transfer.follow p with options := p.options.set block2 block.encode } where
  kind := same.kind
  code := same.code
  token := same.token
  options := by
    rw [Options.set, Options.filter_add, List.filter_filter]
    simpa using same.options
  payload := same.payload

/-- A transfer that has nothing to send but what the message says. -/
structure Repeats (message : Packet) (t : Transfer) : Prop where
  whole : t.ahead = []
  same : Restates message t.message

theorem repeats_start {message : Packet} (short : message.payload.length ≤ uploadSize) :
    Repeats message (.start message) := by
  rw [Transfer.start, if_pos short]
  exact ⟨rfl, .refl message⟩

theorem Repeats.take {message answer : Packet} {t next : Transfer} (repeats : Repeats message t)
    (leads : t.take answer = .send next) : Repeats message next := by
  rw [Transfer.take, repeats.whole] at leads
  dsimp only [Transfer.nextDownload] at leads
  split at leads
  · cases leads
  · split at leads
    · cases leads
    · split_ifs at leads
      cases leads
      exact ⟨repeats.whole, repeats.same.ask _⟩

/-- What a delivery may send: its message in one form or another, and acknowledgements. -/
def IsOwn (peer : SocketAddress) (message : Packet) (m : SocketAddress × Packet) : Prop :=
  m.1 = peer ∧ ((∃ id, m.2 = .acknowledge id) ∨ Restates message m.2)

section

variable {peer : SocketAddress} {message : Packet} {terms : Terms} {net net' : Simulation}

theorem isOwn_sendRecord {p : Packet} (own : (∃ id, p = .acknowledge id) ∨ Restates message p)
    (verdict : Except IoFault Unit) :
    ∀ m ∈ Simulation.sendRecord peer p verdict, IsOwn peer message m := by
  intro m member
  cases verdict with
  | ok =>
    obtain rfl := List.mem_singleton.mp member
    exact ⟨rfl, own⟩
  | error cause => cases member

/-- A network on which a delivery has sent nothing but its own since `before`. -/
def SentOwn (peer : SocketAddress) (message : Packet) (before net : Simulation) : Prop :=
  ∃ sent, net.sent = before.sent ++ sent ∧ ∀ m ∈ sent, IsOwn peer message m

namespace SentOwn

variable {before : Simulation}

theorem refl : SentOwn peer message net net := ⟨[], by simp, nofun⟩

theorem same (sentOwn : SentOwn peer message before net) (sent : net'.sent = net.sent) :
    SentOwn peer message before net' := by
  obtain ⟨old, record, own⟩ := sentOwn
  exact ⟨old, sent.trans record, own⟩

theorem send {p : Packet} {verdict : Except IoFault Unit}
    (sentOwn : SentOwn peer message before net)
    (own : (∃ id, p = .acknowledge id) ∨ Restates message p)
    (sending : net.send peer p = (verdict, net')) : SentOwn peer message before net' := by
  obtain ⟨old, record, oldOwn⟩ := sentOwn
  have records := (net.send_records peer p).2.2
  rw [sending] at records
  refine ⟨old ++ Simulation.sendRecord peer p verdict, ?_, ?_⟩
  · rw [← List.append_assoc, ← record]
    exact records
  · intro m member
    rcases List.mem_append.mp member with was | new
    · exact oldOwn m was
    · exact isOwn_sendRecord own verdict m new

theorem hears {datagram : List UInt8} {link link' : Link} {reply : Option Packet}
    (sentOwn : SentOwn peer message before net)
    (h : Hears peer datagram net link link' reply net') : SentOwn peer message before net' := by
  cases h with
  | deaf => exact sentOwn
  | malformed => exact sentOwn
  | plain => exact sentOwn
  | acknowledged _ _ sending => exact sentOwn.send (.inl ⟨_, rfl⟩) sending
  | lost _ _ sending => exact sentOwn.send (.inl ⟨_, rfl⟩) sending

theorem hearsGiven {a : Arrival} {inbox : List Arrival} {link link' : Link}
    {reply : Option Packet} (sentOwn : SentOwn peer message before net)
    (h : Hears peer a.datagram (net.gave a inbox) link link' reply net') :
    SentOwn peer message before net' := by
  have given : SentOwn peer message before (net.gave a inbox) := sentOwn.same rfl
  exact given.hears h

end SentOwn

/-- A stage from which nothing but what the message says can be sent. -/
def Stage.StandsFor (stage : Stage) (message : Packet) : Prop :=
  ∀ t, stage.standing? = some (.send t) → Repeats message t

theorem Stage.StandsFor.rest {stage stage' : Stage} (stands : stage.StandsFor message)
    (rests : stage'.Rests stage.standing?) : stage'.StandsFor message := by
  intro t held
  rcases rests.2 with none | same
  · exact nomatch none.symm.trans held
  · exact stands t (same.symm.trans held)

/-- A delivery under way: what it has sent is its own, and so is what it may still send. -/
structure Faithful (peer : SocketAddress) (message : Packet) (before : Simulation) (d : Delivery)
    (net : Simulation) : Prop where
  sent : SentOwn peer message before net
  stage : d.stage.StandsFor message

/-- No step sends anything else. -/
theorem Faithful.step {before : Simulation} {d d' : Delivery}
    (h : Faithful terms.peer message before d net) (step : Becomes terms net d d' net') :
    Faithful terms.peer message before d' net' := by
  obtain ⟨sentOwn, stands⟩ := h
  cases step with
  | expired => exact ⟨sentOwn, nofun⟩
  | left => exact ⟨sentOwn, nofun⟩
  | stuck => exact ⟨sentOwn, nofun⟩
  | @sent t _ _ _ _ _ _ sending => exact ⟨sentOwn.send (.inr (stands t rfl).same) sending, stands⟩
  | @unsent t _ _ _ _ _ _ _ sending =>
    exact ⟨sentOwn.send (.inr (stands t rfl).same) sending, stands.rest (rests_retry ..)⟩
  | @hung t _ _ _ _ _ _ _ sending =>
    exact ⟨sentOwn.send (.inr (stands t rfl).same) sending, nofun⟩
  | silence => exact ⟨sentOwn.same rfl, stands.rest (rests_expire ..)⟩
  | noise _ _ hears => exact ⟨sentOwn.hearsGiven hears, stands⟩
  | @heard t _ _ _ _ _ _ reply _ _ _ hears =>
    refine ⟨sentOwn.hearsGiven hears, ?_⟩
    dsimp only [Stage.hear]
    split_ifs
    · intro next leads
      exact (stands t rfl).take (Option.some.inj leads)
    · exact stands
  | cleared => exact ⟨sentOwn, stands.rest (rests_ofStep _)⟩
  | drained _ _ hears => exact ⟨sentOwn.hearsGiven hears, stands⟩
  | overdue => exact ⟨sentOwn.same rfl, stands.rest (rests_overdue ..)⟩
  | discarded => exact ⟨sentOwn.same rfl, nofun⟩
  | ended => exact ⟨sentOwn, stands⟩

theorem sentOwn_deliver (link : Link) (short : message.payload.length ≤ uploadSize) :
    SentOwn terms.peer message net (deliver terms ⟨link, .begin (.start message)⟩ net).2 := by
  have first : (Stage.clearing (.send (.start message))).StandsFor message := by
    intro t held
    cases held
    exact repeats_start short
  have begins : Faithful terms.peer message net ⟨link, .begin (.start message)⟩ net :=
    ⟨.refl, first.rest (rests_ofStep (.send (.start message)))⟩
  have ends := repeatWith_invariant (·.stage.isOver) (Delivery.step Simulation.wire terms)
    (Faithful terms.peer message net) (fun d net' h => h.step (becomes terms net' d)) net.budget
    ⟨link, .begin (.start message)⟩ net begins
  exact ends.sent

end

section

variable {timeoutMs : Nat} {patience : Option Nat} {firstId : UInt16} {host : String}
  {port : UInt16} {heartbeat : Heartbeat.Request}

/-- What an exchange sends goes to the address of its endpoint, as copies of its request and
acknowledgements. -/
theorem sent_exchangeIn (w : World) :
    ∃ sent, (exchangeIn timeoutMs patience firstId host port heartbeat w).2.network.sent =
        w.network.sent ++ sent ∧
      ∀ m ∈ sent,
        (dial patience (Exchange.endpoint host port) w.network).1 = some (.ok m.1) ∧
        ((∃ id, m.2 = .acknowledge id) ∨
          Restates (heartbeatPacket firstId host port heartbeat) m.2) := by
  have later := dial_later patience w.network (Exchange.endpoint host port)
  rcases found : dial patience (Exchange.endpoint host port) w.network with ⟨_ | cause | peer, net⟩
  all_goals
    rw [found] at later
    have unsent := later.sent_eq
    dsimp only at unsent
  · obtain ⟨w', ran, same⟩ := acts_exchange_left timeoutMs firstId heartbeat found w rfl
    exact ⟨[], by rw [ran, same, unsent, List.append_nil], nofun⟩
  · obtain ⟨w', ran, same⟩ := acts_exchange_failed timeoutMs firstId heartbeat found w rfl
    exact ⟨[], by rw [ran, same, unsent, List.append_nil], nofun⟩
  · obtain ⟨w', ran, same⟩ := acts_exchange timeoutMs firstId heartbeat found w rfl
    obtain ⟨sent, record, own⟩ := @sentOwn_deliver _
      (heartbeatTerms timeoutMs patience peer net) net .sound
      (length_payload_heartbeatPacket firstId host port heartbeat)
    refine ⟨sent, ?_, ?_⟩
    · rw [ran, same, Simulation.detach_sent, ← unsent]
      exact record
    · intro m member
      obtain ⟨addressed, said⟩ := own m member
      refine ⟨?_, said⟩
      rw [addressed]
      rfl

end

end CheckIn.Udp
