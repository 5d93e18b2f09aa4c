import CheckIn.Proofs.Udp.Exchange
import CheckIn.Proofs.Udp.Steps

/-! Where a delivered outcome comes from. Whatever arrives while a request is under way, the reply
is made of answers alone: responses with the token of the message that they answer, in time. A
datagram of any other kind may cost an acknowledgement, and a look, but leaves no trace in it. -/
namespace CheckIn.Udp

open Coap Net

/-- A datagram that is a response to a message, with its token and no later than a deadline. -/
structure Answer (deadline : Nat) where
  message : Packet
  arrival : Arrival
  reply : Packet
  spelled : Packet.parse? (arrival.datagram.take datagramLimit) = some reply
  inTime : arrival.time ≤ deadline
  isResponse : reply.code.isResponse = true
  sameToken : reply.token = message.token

/-- The steps that answers lead to, each an answer to the message then under way. -/
inductive Leads {deadline : Nat} (first : Transfer) : List (Answer deadline) → Step → Prop where
  | start : Leads first [] (.send first)
  | answer {answers t} (a : Answer deadline) : Leads first answers (.send t) →
      a.message = t.message → Leads first (answers ++ [a]) (t.take a.reply)

def Step.collected : Step → List UInt8
  | .send t => t.body
  | .finish r => r.payload
  | .fail _ => []

theorem isResponse_of_isRegistered {c : Code} (registered : c.isRegistered = true) :
    c.isResponse = true := by
  have classes : ∀ entry ∈ Code.registry, (⟨entry.1⟩ : Code).isResponse = true := by decide
  obtain ⟨name, found⟩ := Option.isSome_iff_exists.mp registered
  obtain ⟨before, behind, listed, _⟩ := List.lookup_eq_some_iff.mp found
  exact classes (c.raw, name) (by simp [listed])

/-- A block leaves nothing but its own bytes and zeros beside what was there. -/
theorem mem_place {body body' payload : List UInt8} {b : Block} {x : UInt8}
    (placed : place body b payload = some body') (member : x ∈ body') :
    x = 0 ∨ x ∈ body ∨ x ∈ payload := by
  unfold place at placed
  dsimp only at placed
  split_ifs at placed
  cases placed
  have padded : ∀ y ∈ body ++ List.replicate (b.offset + b.size - body.length) 0,
      y = 0 ∨ y ∈ body := by
    intro y inside
    rcases List.mem_append.mp inside with old | zero
    · exact .inr old
    · exact .inl (List.eq_of_mem_replicate zero)
  rcases List.mem_append.mp member with before | behind
  · rcases List.mem_append.mp before with before | inside
    · exact (padded x (List.mem_of_mem_take before)).imp_right .inl
    · exact .inr (.inr inside)
  · exact (padded x (List.mem_of_mem_drop behind)).imp_right .inl

theorem mem_collected_take {t : Transfer} {reply : Packet} {x : UInt8}
    (member : x ∈ (t.take reply).collected) : x = 0 ∨ x ∈ t.body ∨ x ∈ reply.payload := by
  unfold Transfer.take at member
  split at member
  · unfold Transfer.nextDownload at member
    split at member
    · exact .inr (.inr member)
    · split at member
      · cases member
      · next placed =>
        split_ifs at member
        · exact mem_place placed member
        · exact mem_place placed member
  · unfold Transfer.nextUpload at member
    split at member
    · cases member
    · split at member
      · cases member
      · split_ifs at member
        · cases member
        · exact .inr (.inl member)

theorem code_of_take {t : Transfer} {reply : Packet} {r : Transport.Response}
    (finished : t.take reply = .finish r) : r.code = reply.code := by
  unfold Transfer.take at finished
  split at finished
  · unfold Transfer.nextDownload at finished
    split at finished
    · cases finished
      rfl
    · split at finished
      · cases finished
      · split_ifs at finished
        cases finished
        rfl
  · unfold Transfer.nextUpload at finished
    split at finished
    · cases finished
    · split at finished
      · cases finished
      · split_ifs at finished

theorem token_of_take {t t' : Transfer} {reply : Packet} (sent : t.take reply = .send t') :
    t'.message.token = t.message.token := by
  unfold Transfer.take at sent
  split at sent
  · unfold Transfer.nextDownload at sent
    split at sent
    · cases sent
    · split at sent
      · cases sent
      · split_ifs at sent
        cases sent
        rfl
  · unfold Transfer.nextUpload at sent
    split at sent
    · cases sent
    · split at sent
      · cases sent
      · split_ifs at sent
        cases sent
        rfl

@[simp] theorem start_token (p : Packet) : (Transfer.start p).message.token = p.token := by
  unfold Transfer.start
  split_ifs
  · rfl
  · split <;> rfl

@[simp] theorem start_body (p : Packet) : (Transfer.start p).body = [] := by
  unfold Transfer.start
  split_ifs
  · rfl
  · split <;> rfl

namespace Leads

variable {deadline : Nat} {first : Transfer} {answers : List (Answer deadline)} {next : Step}

theorem mem_collected (leads : Leads first answers next) (fresh : first.body = []) {x : UInt8}
    (member : x ∈ next.collected) : x = 0 ∨ ∃ a ∈ answers, x ∈ a.reply.payload := by
  induction leads with
  | start =>
    rw [Step.collected, fresh] at member
    cases member
  | @answer answers t a _ _ ih =>
    rcases mem_collected_take member with zero | old | new
    · exact .inl zero
    · refine (ih old).imp_right ?_
      rintro ⟨b, among, inside⟩
      exact ⟨b, List.mem_append_left _ among, inside⟩
    · exact .inr ⟨a, by simp, new⟩

theorem token {t : Transfer} (leads : Leads first answers (.send t)) :
    t.message.token = first.message.token := by
  generalize same : Step.send t = next at leads
  induction leads generalizing t with
  | start =>
    cases same
    rfl
  | answer a _ _ ih => exact (token_of_take same.symm).trans (ih rfl)

theorem reply_token (leads : Leads first answers next) :
    ∀ a ∈ answers, a.reply.token = first.message.token := by
  induction leads with
  | start => exact nofun
  | answer a before answered ih =>
    intro b among
    rcases List.mem_append.mp among with old | new
    · exact ih b old
    · rw [List.mem_singleton.mp new, a.sameToken, answered, before.token]

theorem code {r : Transport.Response} (leads : Leads first answers (.finish r)) :
    ∃ a, answers.getLast? = some a ∧ r.code = a.reply.code := by
  generalize same : Step.finish r = next at leads
  cases leads with
  | start => cases same
  | answer a _ _ => exact ⟨a, by simp, code_of_take same.symm⟩

end Leads

/-- The step of the transfer that a stage stands for, if it stands for one. -/
def Stage.standing? : Stage → Option Step
  | sending t _ => some (.send t)
  | waiting t _ _ => some (.send t)
  | clearing next => some next
  | done r => some (.finish r)
  | _ => none

def Stage.awaited? : Stage → Option Packet
  | waiting t _ _ => some t.message
  | _ => none

/-- A stage that waits for nothing and stands for nothing but `next?`. -/
def Stage.Rests (stage : Stage) (next? : Option Step) : Prop :=
  stage.awaited? = none ∧ (stage.standing? = none ∨ stage.standing? = next?)

theorem rests_ofStep (next : Step) : (Stage.ofStep next).Rests (some next) := by
  cases next with
  | send t =>
    unfold Stage.ofStep Stage.begin
    dsimp only
    split_ifs
    · exact ⟨rfl, .inl rfl⟩
    · exact ⟨rfl, .inr rfl⟩
  | finish r => exact ⟨rfl, .inr rfl⟩
  | fail cause => exact ⟨rfl, .inl rfl⟩

theorem rests_retry (t : Transfer) (cause : IoFault) (spare : Nat) :
    (Stage.retry t cause spare).Rests (some (.send t)) := by
  cases spare with
  | zero => exact ⟨rfl, .inl rfl⟩
  | succ spare => exact ⟨rfl, .inr rfl⟩

theorem rests_overdue (terms : Terms) (moment : Nat) (next? : Option Step) :
    (Stage.overdue terms moment).Rests next? := by
  unfold Stage.overdue
  split_ifs <;> exact ⟨rfl, .inl rfl⟩

theorem rests_expire (terms : Terms) (t : Transfer) (spare limit : Nat) :
    (Stage.expire terms t spare limit).Rests (some (.send t)) := by
  unfold Stage.expire
  dsimp only
  split_ifs
  · exact rests_retry ..
  · exact rests_overdue ..

/-- How a delivery that began with `first` in `before` has come to a stage: what it has been given
and has sent since, and the answers among what it has been given that have led it there. -/
structure Traced (terms : Terms) (first : Transfer) (before net : Simulation) (stage : Stage)
    (heard : List Arrival) (sent : List (SocketAddress × Packet))
    (answers : List (Answer terms.bound)) : Prop where
  now_le : net.now ≤ terms.bound
  heard_eq : net.heard = before.heard ++ heard
  sent_eq : net.sent = before.sent ++ sent
  arrivals : (answers.map Answer.arrival).Sublist heard
  messages : ∀ a ∈ answers, (terms.peer, a.message) ∈ sent
  awaited : ∀ p, stage.awaited? = some p → (terms.peer, p) ∈ sent
  leads : ∀ next, stage.standing? = some next → Leads first answers next

def Traceable (terms : Terms) (first : Transfer) (before : Simulation) (stage : Stage)
    (net : Simulation) : Prop :=
  ∃ heard sent answers, Traced terms first before net stage heard sent answers

section

variable {terms : Terms} {first : Transfer} {before net net' : Simulation} {stage stage' : Stage}
  {heard given : List Arrival} {sent more : List (SocketAddress × Packet)}
  {answers : List (Answer terms.bound)}

theorem Traced.quiet (h : Traced terms first before net stage heard sent answers)
    (now_le : net'.now ≤ terms.bound) (heard_eq : net'.heard = net.heard ++ given)
    (sent_eq : net'.sent = net.sent ++ more)
    (awaited : ∀ p, stage'.awaited? = some p →
      stage.awaited? = some p ∨ (terms.peer, p) ∈ more)
    (standing : stage'.standing? = none ∨ stage'.standing? = stage.standing?) :
    Traceable terms first before stage' net' := by
  refine ⟨heard ++ given, sent ++ more, answers, now_le, ?_, ?_, ?_, ?_, ?_, ?_⟩
  · rw [heard_eq, h.heard_eq, List.append_assoc]
  · rw [sent_eq, h.sent_eq, List.append_assoc]
  · exact h.arrivals.trans (List.sublist_append_left heard given)
  · intro a among
    exact List.mem_append_left more (h.messages a among)
  · intro p awaits
    rcases awaited p awaits with old | new
    · exact List.mem_append_left more (h.awaited p old)
    · exact List.mem_append_right sent new
  · intro next stands
    rcases standing with none | same
    · rw [none] at stands
      cases stands
    · exact h.leads next (same ▸ stands)

theorem Traced.rest (h : Traced terms first before net stage heard sent answers)
    (now_le : net'.now ≤ terms.bound) (heard_eq : net'.heard = net.heard ++ given)
    (sent_eq : net'.sent = net.sent ++ more) (rests : stage'.Rests stage.standing?) :
    Traceable terms first before stage' net' := by
  refine h.quiet now_le heard_eq sent_eq ?_ rests.2
  rw [rests.1]
  exact nofun

theorem Traced.hear {t : Transfer} {spare limit : Nat}
    (h : Traced terms first before net (.waiting t spare limit) heard sent answers)
    (a : Answer terms.bound) (answered : a.message = t.message)
    (now_le : net'.now ≤ terms.bound) (heard_eq : net'.heard = net.heard ++ [a.arrival])
    (sent_eq : net'.sent = net.sent ++ more) :
    Traceable terms first before (.clearing (t.take a.reply)) net' := by
  refine ⟨heard ++ [a.arrival], sent ++ more, answers ++ [a], now_le, ?_, ?_, ?_, ?_, nofun, ?_⟩
  · rw [heard_eq, h.heard_eq, List.append_assoc]
  · rw [sent_eq, h.sent_eq, List.append_assoc]
  · rw [List.map_append]
    exact h.arrivals.append (List.Sublist.refl _)
  · intro b among
    refine List.mem_append_left more ?_
    rcases List.mem_append.mp among with old | new
    · exact h.messages b old
    · rw [List.mem_singleton.mp new, answered]
      exact h.awaited t.message rfl
  · intro next stands
    cases stands
    exact .answer a (h.leads (.send t) rfl) answered

theorem horizon_le_bound (terms : Terms) (limit : Nat) : terms.horizon limit ≤ terms.bound := by
  unfold Terms.horizon
  split <;> omega

theorem Hears.records {peer : SocketAddress} {datagram : List UInt8} {link link' : Link}
    {reply : Option Packet} (h : Hears peer datagram net link link' reply net') :
    net'.now = net.now ∧ net'.heard = net.heard ∧ ∃ more, net'.sent = net.sent ++ more := by
  have unsent : ∃ more, net.sent = net.sent ++ more := ⟨[], by simp⟩
  cases h with
  | deaf => exact ⟨rfl, rfl, unsent⟩
  | malformed => exact ⟨rfl, rfl, unsent⟩
  | plain => exact ⟨rfl, rfl, unsent⟩
  | @acknowledged reply _ _ _ sending =>
    have records := Simulation.send_records net peer (.acknowledge reply.messageId)
    rw [sending] at records
    exact ⟨records.1, records.2.1, _, records.2.2⟩
  | @lost reply _ _ _ _ sending =>
    have records := Simulation.send_records net peer (.acknowledge reply.messageId)
    rw [sending] at records
    exact ⟨records.1, records.2.1, _, records.2.2⟩

theorem Hears.spelled {peer : SocketAddress} {datagram : List UInt8} {link link' : Link}
    {reply : Packet} (h : Hears peer datagram net link link' (some reply) net') :
    Packet.parse? (datagram.take datagramLimit) = some reply := by
  cases h with
  | plain spelled => exact spelled
  | acknowledged spelled => exact spelled

theorem Hears.given_records {peer : SocketAddress} {a : Arrival} {inbox : List Arrival}
    {link link' : Link} {reply : Option Packet} {bound : Nat}
    (h : Hears peer a.datagram (net.gave a inbox) link link' reply net')
    (now_le : net.now ≤ bound) (intime : a.time ≤ bound) :
    net'.now ≤ bound ∧ net'.heard = net.heard ++ [a] ∧ ∃ more, net'.sent = net.sent ++ more := by
  obtain ⟨now, heard, more, record⟩ := h.records
  refine ⟨?_, heard, more, record⟩
  rw [now]
  exact Nat.max_le.mpr ⟨now_le, intime⟩

/-- Every step of a delivery can be traced back if all before it can. -/
theorem Traceable.step {d d' : Delivery} (h : Traceable terms first before d.stage net)
    (step : Becomes terms net d d' net') : Traceable terms first before d'.stage net' := by
  obtain ⟨heard, sent, answers, h⟩ := h
  have unheard : net.heard = net.heard ++ [] := by simp
  have unsent : net.sent = net.sent ++ [] := by simp
  have passed (limit : Nat) : (net.passed (terms.horizon limit)).now ≤ terms.bound :=
    Nat.max_le.mpr ⟨h.now_le, horizon_le_bound terms limit⟩
  cases step with
  | expired => exact h.rest h.now_le unheard unsent ⟨rfl, .inl rfl⟩
  | left => exact h.rest h.now_le unheard unsent ⟨rfl, .inl rfl⟩
  | stuck => exact h.rest h.now_le unheard unsent ⟨rfl, .inl rfl⟩
  | @sent t _ _ _ _ _ _ sending =>
    have records := Simulation.send_records net terms.peer t.message
    rw [sending] at records
    obtain ⟨now, heard, record⟩ := records
    refine h.quiet (now ▸ h.now_le) (heard.trans unheard) record ?_ (.inr rfl)
    rintro p awaits
    cases awaits
    exact .inr (by simp [Simulation.sendRecord])
  | @unsent t _ _ _ _ _ _ _ sending =>
    have records := Simulation.send_records net terms.peer t.message
    rw [sending] at records
    obtain ⟨now, heard, record⟩ := records
    exact h.rest (now ▸ h.now_le) (heard.trans unheard) record (rests_retry ..)
  | @hung t _ _ _ _ _ _ _ sending =>
    have records := Simulation.send_records net terms.peer t.message
    rw [sending] at records
    obtain ⟨now, heard, record⟩ := records
    exact h.rest (now ▸ h.now_le) (heard.trans unheard) record ⟨rfl, .inl rfl⟩
  | silence => exact h.rest (passed _) unheard unsent (rests_expire ..)
  | noise _ intime hears =>
    obtain ⟨now, heard, more, record⟩ :=
      hears.given_records h.now_le (Nat.le_trans intime (horizon_le_bound ..))
    exact h.quiet now heard record (fun _ => .inl) (.inr rfl)
  | @heard t _ _ a _ _ _ reply _ _ intime hears =>
    have intime := Nat.le_trans intime (horizon_le_bound ..)
    obtain ⟨now, heard, more, record⟩ := hears.given_records h.now_le intime
    dsimp only
    unfold Stage.hear
    split_ifs with answer
    · obtain ⟨registered, same⟩ := Bool.and_eq_true_iff.mp answer
      exact h.hear ⟨t.message, a, reply, hears.spelled, intime,
        isResponse_of_isRegistered registered, eq_of_beq same⟩ rfl now heard record
    · exact h.quiet now heard record (fun _ => .inl) (.inr rfl)
  | cleared => exact h.rest h.now_le unheard unsent (rests_ofStep _)
  | drained _ intime hears =>
    obtain ⟨now, heard, more, record⟩ :=
      hears.given_records h.now_le (Nat.le_trans intime h.now_le)
    exact h.rest now heard record ⟨rfl, .inr rfl⟩
  | overdue => exact h.rest (passed _) unheard unsent (rests_overdue ..)
  | @discarded a _ _ _ intime =>
    have now : max net.now a.time ≤ terms.bound :=
      Nat.max_le.mpr ⟨h.now_le, Nat.le_trans intime (horizon_le_bound ..)⟩
    exact h.rest now rfl unsent ⟨rfl, .inl rfl⟩
  | ended => exact ⟨_, _, _, h⟩

variable (first) in
theorem traceable_deliver (link : Link) (intime : net.now ≤ terms.bound) :
    let ended := deliver terms ⟨link, .begin first⟩ net
    Traceable terms first net ended.1.stage ended.2 := by
  refine repeatWith_invariant _ _ (fun d net' => Traceable terms first net d.stage net')
    (fun d net' h => h.step (becomes terms net' d)) net.budget ⟨link, .begin first⟩ net ?_
  obtain ⟨awaits, stands⟩ := rests_ofStep (.send first)
  refine ⟨[], [], [], intime, by simp, by simp, .slnil, by simp, ?_, ?_⟩
  · intro p awaited
    exact nomatch awaits.symm.trans awaited
  · intro next standing
    rcases stands with none | same
    · exact nomatch none.symm.trans standing
    · cases same.symm.trans standing
      exact .start

end

/-- A reply to a message that was made of answers alone, given to a client between two moments of
its network. -/
structure MadeOf (peer : SocketAddress) (message : Packet) (before after : Simulation)
    {deadline : Nat} (answers : List (Answer deadline)) (reply : Transport.Response) : Prop where
  inTime : after.now ≤ deadline
  given : ∃ heard, after.heard = before.heard ++ heard ∧
    (answers.map Answer.arrival).Sublist heard
  asked : ∃ sent, after.sent = before.sent ++ sent ∧ ∀ a ∈ answers, (peer, a.message) ∈ sent
  tokens : ∀ a ∈ answers, a.reply.token = message.token
  leads : Leads (.start message) answers (.finish reply)
  code : ∃ a, answers.getLast? = some a ∧ reply.code = a.reply.code
  bytes : ∀ x ∈ reply.payload, x = 0 ∨ ∃ a ∈ answers, x ∈ a.reply.payload

theorem MadeOf.of_later {peer : SocketAddress} {message : Packet} {before between after : Simulation}
    {deadline : Nat} {answers : List (Answer deadline)} {reply : Transport.Response}
    (made : MadeOf peer message between after answers reply) (later : Later before between) :
    MadeOf peer message before after answers reply where
  inTime := made.inTime
  given := later.heard_eq ▸ made.given
  asked := later.sent_eq ▸ made.asked
  tokens := made.tokens
  leads := made.leads
  code := made.code
  bytes := made.bytes

theorem madeOf_deliver {terms : Terms} {net : Simulation} (intime : net.now ≤ terms.bound)
    (link : Link) (message : Packet) {reply : Transport.Response}
    (replied : (deliver terms ⟨link, .begin (.start message)⟩ net).1.stage = .done reply) :
    ∃ answers : List (Answer terms.bound), MadeOf terms.peer message net
      (deliver terms ⟨link, .begin (.start message)⟩ net).2.detach answers reply := by
  obtain ⟨heard, sent, answers, h⟩ := traceable_deliver (.start message) link intime
  rw [replied] at h
  have leads : Leads (.start message) answers (.finish reply) := h.leads (.finish reply) rfl
  refine ⟨answers, h.now_le, ⟨heard, h.heard_eq, h.arrivals⟩, ⟨sent, h.sent_eq, h.messages⟩, ?_,
    leads, leads.code, ?_⟩
  · intro a among
    rw [leads.reply_token a among, start_token]
  · intro x inside
    exact leads.mem_collected (start_body message) inside

/-- Whatever is on its way to the client, an outcome that is no failure of the transport is the
verdict on a reply made of answers to the heartbeat and to what followed it, all of them by the
deadline. What carries another token gives neither the code nor a byte. -/
theorem delivered_outcome_madeOf_answers (timeoutMs : Nat) (patience : Option Nat)
    (firstId : UInt16) (host : String) (port : UInt16) (heartbeat : Heartbeat.Request) (w : World)
    (o : Outcome)
    (delivered : (exchangeIn timeoutMs patience firstId host port heartbeat w).1 = some o)
    (judged : o.isTransportError = false) :
    ∃ peer reply, ∃ net : Simulation, ∃ answers : List (Answer (net.now + timeoutMs)),
      dial patience (Exchange.endpoint host port) w.network = (some (.ok peer), net) ∧
      o = .ofResponse reply ∧
      MadeOf peer (heartbeatPacket firstId host port heartbeat) w.network
        (exchangeIn timeoutMs patience firstId host port heartbeat w).2.network answers reply := by
  by_cases found : ∃ peer, (dial patience (Exchange.endpoint host port) w.network).1 =
      some (.ok peer)
  · obtain ⟨peer, found⟩ := found
    have later := dial_later patience w.network (Exchange.endpoint host port)
    rcases reached : dial patience (Exchange.endpoint host port) w.network with ⟨verdict, net⟩
    rw [reached] at found later
    subst found
    obtain ⟨w', ran, network⟩ := acts_exchange timeoutMs firstId heartbeat reached w rfl
    rw [ran] at delivered ⊢
    dsimp only at delivered ⊢
    rw [network]
    have intime : net.now ≤ (heartbeatTerms timeoutMs patience peer net).bound :=
      Nat.le_add_right _ timeoutMs
    cases stage : (deliver (heartbeatTerms timeoutMs patience peer net)
        ⟨.sound, .begin (.start (heartbeatPacket firstId host port heartbeat))⟩ net).1.stage with
    | done reply =>
      rw [stage] at delivered
      obtain ⟨answers, made⟩ :=
        madeOf_deliver intime .sound (heartbeatPacket firstId host port heartbeat) stage
      exact ⟨peer, reply, net, answers, rfl, (Option.some.inj delivered).symm,
        made.of_later later⟩
    | failed cause =>
      rw [stage] at delivered
      cases delivered
      exact nomatch judged
    | sending t spare => rw [stage] at delivered; exact nomatch delivered
    | waiting t spare limit => rw [stage] at delivered; exact nomatch delivered
    | clearing next => rw [stage] at delivered; exact nomatch delivered
    | blocked => rw [stage] at delivered; exact nomatch delivered
    | abandoned => rw [stage] at delivered; exact nomatch delivered
  · obtain ⟨o', acts, failure⟩ := acts_exchange_unreached timeoutMs firstId heartbeat
      fun peer same => found ⟨peer, same⟩
    obtain ⟨w', ran, _⟩ := acts w rfl
    rw [ran] at delivered
    exact absurd (failure o delivered) (by simp [judged])

/-- A world whose server sends a 2.05 with a token of its own before it answers with a 4.04. -/
def crowdedWorld : World :=
  .ofNetwork (.ofReplies 5683
    [[⟨5, [0x51, 0x45, 0, 1, 7, 0xff, 0xa0]⟩, ⟨10, [0x50, 0x84, 0, 1]⟩]] [])

/-- What is foreign does not keep the answer behind it from deciding. -/
theorem refusal_behind_foreign_content :
    ∃ o, (exchangeIn 1000 none 0 "127.0.0.1" 5683 ⟨1, 2⟩ crowdedWorld).1 = some o ∧
      o.display = "protocol error 4.04 Not Found" ∧ ∃ peer reply, ∃ net : Simulation,
      ∃ answers : List (Answer (net.now + 1000)), o = .ofResponse reply ∧
      MadeOf peer (heartbeatPacket 0 "127.0.0.1" 5683 ⟨1, 2⟩) crowdedWorld.network
        (exchangeIn 1000 none 0 "127.0.0.1" 5683 ⟨1, 2⟩ crowdedWorld).2.network answers
        reply := by
  have shown : (exchangeIn 1000 none 0 "127.0.0.1" 5683 ⟨1, 2⟩ crowdedWorld).1.map
      (fun o => (o.isTransportError, o.display)) =
      some (false, "protocol error 4.04 Not Found") := by decide +kernel
  obtain ⟨o, delivered, same⟩ := Option.map_eq_some_iff.mp shown
  obtain ⟨judged, display⟩ := Prod.mk.inj same
  obtain ⟨peer, reply, net, answers, _, verdict, made⟩ :=
    delivered_outcome_madeOf_answers 1000 none 0 "127.0.0.1" 5683 ⟨1, 2⟩ crowdedWorld o delivered
      judged
  exact ⟨o, delivered, display, peer, reply, net, answers, verdict, made⟩

end CheckIn.Udp
