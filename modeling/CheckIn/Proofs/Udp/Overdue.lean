import CheckIn.Proofs.Exchange.Joined
import CheckIn.Proofs.Udp.Deadlines
import CheckIn.Proofs.Udp.Exchange

/-! Exchanges under their deadlines, beside the same exchanges with more time. The deadlines either
make no difference or end the exchange, and whatever they end has been released. -/
namespace CheckIn.Udp

open Net

section

variable (timeoutMs : Nat) (patience : Option Nat) (now : Nat)

def deadline : Nat :=
  match patience with
  | some p => min (now + timeoutMs) p
  | none => now + timeoutMs

/-- What becomes of an exchange that is not over before. If its caller leaves at the moment when its
own time is over, then that is what counts. -/
def overdueOutcome : Option Outcome :=
  if now + timeoutMs ≤ deadline timeoutMs patience now then
    some (.transportError ("timed out: no response within " ++ secondsText timeoutMs ++ "s"))
  else none

variable {timeoutMs patience now}

theorem now_le_deadline (future : ∀ p, patience = some p → now ≤ p) :
    now ≤ deadline timeoutMs patience now := by
  unfold deadline
  cases patience with
  | none => exact Nat.le_add_right now timeoutMs
  | some p => exact Nat.le_min.mpr ⟨Nat.le_add_right now timeoutMs, future p rfl⟩

theorem deadline_le : deadline timeoutMs patience now ≤ now + timeoutMs := by
  cases patience with
  | none => exact Nat.le_refl _
  | some p => exact Nat.min_le_left _ _

theorem deadline_of_sooner {p : Nat} (sooner : p < now + timeoutMs) :
    deadline timeoutMs (some p) now = p ∧ overdueOutcome timeoutMs (some p) now = none := by
  have first : deadline timeoutMs (some p) now = p := Nat.min_eq_right (Nat.le_of_lt sooner)
  refine ⟨first, ?_⟩
  unfold overdueOutcome
  rw [first, if_neg (Nat.not_le_of_lt sooner)]

theorem deadline_of_lasting (lasts : ∀ p, patience = some p → now + timeoutMs ≤ p) :
    deadline timeoutMs patience now = now + timeoutMs ∧
      overdueOutcome timeoutMs patience now = some (.transportError
        ("timed out: no response within " ++ secondsText timeoutMs ++ "s")) := by
  have first : deadline timeoutMs patience now = now + timeoutMs := by
    cases patience with
    | none => rfl
    | some p => exact Nat.min_eq_left (lasts p rfl)
  refine ⟨first, ?_⟩
  unfold overdueOutcome
  rw [first, if_pos (Nat.le_refl _)]

theorem deadline_le_patience {p : Nat} (impatient : patience = some p) :
    deadline timeoutMs patience now ≤ p := by
  rw [impatient]
  exact Nat.min_le_right _ _

theorem lt_deadline {moment : Nat} (before : moment < now + timeoutMs)
    (sooner : ∀ p, patience = some p → moment < p) : moment < deadline timeoutMs patience now := by
  cases patience with
  | none => exact before
  | some p => exact Nat.lt_min.mpr ⟨before, sooner p rfl⟩

variable (timeoutMs patience) in
theorem heartbeatTerms_deadline (peer : SocketAddress) (net : Simulation) :
    (heartbeatTerms timeoutMs patience peer net).deadline =
      deadline timeoutMs patience net.now := by
  unfold Terms.deadline Terms.horizon heartbeatTerms deadline
  cases patience with
  | none => exact Nat.min_self _
  | some p => simp

variable (timeoutMs patience) in
theorem overdue_verdict (peer : SocketAddress) (net : Simulation) :
    (Stage.overdue (heartbeatTerms timeoutMs patience peer net)
      (deadline timeoutMs patience net.now)).result.map Exchange.verdict =
      overdueOutcome timeoutMs patience net.now := by
  have text : (heartbeatTerms timeoutMs patience peer net).expired.message =
      "timed out: no response within " ++ secondsText timeoutMs ++ "s" := by
    change "timed out: " ++ ("no response within " ++ secondsText timeoutMs ++ "s") = _
    rw [← String.append_assoc, ← String.append_assoc]
    rfl
  unfold overdueOutcome
  rw [← text]
  unfold Stage.overdue heartbeatTerms
  dsimp only
  split_ifs <;> rfl

end

/-- When the request to an endpoint begins, unless its caller has left before. -/
def requestStart (net : Simulation) (e : Endpoint) : Nat := (dial none e net).2.now

theorem now_le_requestStart (net : Simulation) (e : Endpoint) : net.now ≤ requestStart net e :=
  (dial_later none net e).now_le

theorem dial_cases {patience : Option Nat} {net : Simulation}
    (future : ∀ p, patience = some p → net.now ≤ p) (e : Endpoint) :
    (∀ p, patience = some p → requestStart net e ≤ p) ∧ dial patience e net = dial none e net ∨
      ∃ p, patience = some p ∧ p ≤ requestStart net e ∧ e.literal? = none ∧
        dial patience e net = (none, { net with now := p }) := by
  cases patience with
  | none => exact .inl ⟨nofun, rfl⟩
  | some p =>
    rcases dial_patience (future p rfl) e with ⟨soon, same⟩ | ⟨out, named, left⟩
    · refine .inl ⟨?_, same⟩
      intro q same
      cases same
      exact soon
    · exact .inr ⟨p, rfl, out, named, left⟩

section

variable (timeoutMs : Nat) (patience : Option Nat) (firstId : UInt16) (host : String)
  (port : UInt16) (heartbeat : Heartbeat.Request) (peer : SocketAddress) (net : Simulation)

def deliverHeartbeat : Delivery × Simulation :=
  deliver (heartbeatTerms timeoutMs patience peer net)
    ⟨.sound, .begin (.start (heartbeatPacket firstId host port heartbeat))⟩ net

theorem heartbeat_answered : ∃ reply,
    (deliverHeartbeat timeoutMs none firstId host port heartbeat peer net).1.stage.result =
      some reply :=
  Option.ne_none_iff_exists'.mp (result_ne_none net rfl _ _)

theorem heartbeat_advances : Advances net
    (deliverHeartbeat timeoutMs patience firstId host port heartbeat peer net).2 :=
  advances_deliver _ net _

variable {patience net}

theorem heartbeat_lockstep (future : ∀ p, patience = some p → net.now ≤ p)
    {timeoutMs' : Nat} {patience' : Option Nat}
    (longer : deadline timeoutMs patience net.now ≤ deadline timeoutMs' patience' net.now) :
    Lockstep (heartbeatTerms timeoutMs patience peer net)
      (deliverHeartbeat timeoutMs patience firstId host port heartbeat peer net).1
      (deliverHeartbeat timeoutMs patience firstId host port heartbeat peer net).2
      (deliverHeartbeat timeoutMs' patience' firstId host port heartbeat peer net).1
      (deliverHeartbeat timeoutMs' patience' firstId host port heartbeat peer net).2 := by
  apply deliver_lockstep
  · rfl
  · rwa [heartbeatTerms_deadline, heartbeatTerms_deadline]
  · rw [heartbeatTerms_deadline]
    exact now_le_deadline future

theorem heartbeat_intime (future : ∀ p, patience = some p → net.now ≤ p) :
    (deliverHeartbeat timeoutMs patience firstId host port heartbeat peer net).2.now ≤
      deadline timeoutMs patience net.now := by
  have same := Nat.le_refl (deadline timeoutMs patience net.now)
  have intime := (heartbeat_lockstep timeoutMs firstId host port heartbeat peer future same).now_le
  rwa [heartbeatTerms_deadline] at intime

/-- With more time a heartbeat comes to the same by its deadline, or else it is overdue then. -/
theorem heartbeat_beside (future : ∀ p, patience = some p → net.now ≤ p) {longer : Nat}
    (more : timeoutMs ≤ longer) :
    deliverHeartbeat longer none firstId host port heartbeat peer net =
        deliverHeartbeat timeoutMs patience firstId host port heartbeat peer net ∨
      deadline timeoutMs patience net.now ≤
        (deliverHeartbeat longer none firstId host port heartbeat peer net).2.now ∧
      (deliverHeartbeat timeoutMs patience firstId host port heartbeat peer net).2.now =
        deadline timeoutMs patience net.now ∧
      (deliverHeartbeat timeoutMs patience firstId host port heartbeat peer
        net).1.stage.result.map Exchange.verdict =
        overdueOutcome timeoutMs patience net.now := by
  have sooner : deadline timeoutMs patience net.now ≤ deadline longer none net.now :=
    Nat.le_trans deadline_le (Nat.add_le_add_left more _)
  rcases (heartbeat_lockstep timeoutMs firstId host port heartbeat peer future sooner).ends with
    ⟨same, network⟩ | ⟨finished, now, late⟩
  · exact .inl (Prod.ext same network)
  · rw [heartbeatTerms_deadline] at finished now late
    rw [finished, overdue_verdict]
    exact .inr ⟨late, now, rfl⟩

end

section

variable (timeoutMs : Nat) {patience : Option Nat} {net : Simulation} (firstId : UInt16)
  (host : String) (port : UInt16) (heartbeat : Heartbeat.Request)

theorem acts_heartbeat {peer : SocketAddress} {dialled : Simulation}
    (reached : dial patience (Exchange.endpoint host port) net = (some (.ok peer), dialled)) :
    Acts (exchangeIn timeoutMs patience firstId host port heartbeat) net
      ((deliverHeartbeat timeoutMs patience firstId host port heartbeat peer
        dialled).1.stage.result.map Exchange.verdict)
      (deliverHeartbeat timeoutMs patience firstId host port heartbeat peer dialled).2.detach :=
  acts_exchange timeoutMs firstId heartbeat reached

theorem acts_endless :
    ∃ outcome net', Acts (exchangeIn timeoutMs none firstId host port heartbeat) net
      (some outcome) net' ∧ requestStart net (Exchange.endpoint host port) ≤ net'.now := by
  unfold requestStart
  rcases found : dial none (Exchange.endpoint host port) net with ⟨_ | cause | peer, dialled⟩
  · exact absurd (congrArg Prod.fst found) (dial_patient _ _)
  · exact ⟨_, dialled, acts_exchange_failed timeoutMs firstId heartbeat found, Nat.le_refl _⟩
  · have acts := acts_heartbeat timeoutMs firstId host port heartbeat found
    obtain ⟨reply, ended⟩ := heartbeat_answered timeoutMs firstId host port heartbeat peer dialled
    rw [ended] at acts
    refine ⟨Exchange.verdict reply, _, acts, ?_⟩
    rw [Simulation.detach_now]
    exact (heartbeat_advances timeoutMs none firstId host port heartbeat peer dialled).now_le

/-- The moment at which an exchange is over at the latest. Its own time counts from the beginning of
the request. -/
def lastMoment (patience : Option Nat) (net : Simulation) : Nat :=
  deadline timeoutMs patience (requestStart net (Exchange.endpoint host port))

variable (net) in
/-- How an exchange ends beside one with more time that comes to an outcome and a network. Its
caller may leave before there is a request. -/
inductive Beside (patience : Option Nat) (outcome : Outcome) (net' : Simulation) : Prop where
  | intime : net'.now ≤ lastMoment timeoutMs host port patience net →
      Acts (exchangeIn timeoutMs patience firstId host port heartbeat) net (some outcome) net' →
      Beside patience outcome net'
  | overdue {peer dialled net''} :
      dial patience (Exchange.endpoint host port) net = (some (.ok peer), dialled) →
      lastMoment timeoutMs host port patience net ≤ net'.now →
      net''.now = lastMoment timeoutMs host port patience net →
      Acts (exchangeIn timeoutMs patience firstId host port heartbeat) net
        (overdueOutcome timeoutMs patience (requestStart net (Exchange.endpoint host port))) net'' →
      Beside patience outcome net'
  | left {p net''} : (dial patience (Exchange.endpoint host port) net).1 = none →
      (Exchange.endpoint host port).literal? = none → patience = some p →
      p ≤ requestStart net (Exchange.endpoint host port) → net''.now = p →
      requestStart net (Exchange.endpoint host port) ≤ net'.now →
      Acts (exchangeIn timeoutMs patience firstId host port heartbeat) net none net'' →
      Beside patience outcome net'

/-- With more time and a caller who is patient for ever an exchange comes to the same by its
deadline, or else it ends with the deadline. -/
theorem acts_beside (future : ∀ p, patience = some p → net.now ≤ p) {longer : Nat}
    (more : timeoutMs ≤ longer) :
    ∃ outcome net', Acts (exchangeIn longer none firstId host port heartbeat) net
      (some outcome) net' ∧
      Beside timeoutMs net firstId host port heartbeat patience outcome net' := by
  rcases dial_cases future (Exchange.endpoint host port) with
    ⟨begins, same⟩ | ⟨p, rfl, out, named, left⟩
  · rcases found : dial none (Exchange.endpoint host port) net with ⟨_ | cause | peer, dialled⟩
    · exact absurd (congrArg Prod.fst found) (dial_patient _ _)
    · have own := acts_exchange_failed timeoutMs firstId heartbeat (same.trans found)
      refine ⟨_, dialled, acts_exchange_failed longer firstId heartbeat found, .intime ?_ own⟩
      have now : dialled.now = requestStart net (Exchange.endpoint host port) := by
        rw [requestStart, found]
      rw [now]
      exact now_le_deadline begins
    · have now : requestStart net (Exchange.endpoint host port) = dialled.now := by
        rw [requestStart, found]
      rw [now] at begins
      have endless := acts_heartbeat longer firstId host port heartbeat found
      have own := acts_heartbeat timeoutMs firstId host port heartbeat (same.trans found)
      obtain ⟨reply, ended⟩ := heartbeat_answered longer firstId host port heartbeat peer dialled
      rw [ended] at endless
      refine ⟨Exchange.verdict reply, _, endless, ?_⟩
      rcases heartbeat_beside timeoutMs firstId host port heartbeat peer begins more with
        alike | ⟨late, moment, finished⟩
      · have intime := heartbeat_intime timeoutMs firstId host port heartbeat peer begins
        rw [← alike] at intime
        rw [← alike, ended] at own
        apply Beside.intime _ own
        rw [Simulation.detach_now, lastMoment, now]
        exact intime
      · rw [finished, ← now] at own
        apply Beside.overdue (same.trans found) _ _ own
        · rw [Simulation.detach_now, lastMoment, now]
          exact late
        · rw [Simulation.detach_now, lastMoment, now]
          exact moment
  · obtain ⟨outcome, net', acts, later⟩ := acts_endless longer firstId host port heartbeat
    have own := acts_exchange_left timeoutMs firstId heartbeat left
    exact ⟨outcome, net', acts, .left (congrArg Prod.fst left) named rfl out rfl later own⟩

theorem acts_intime (future : ∀ p, patience = some p → net.now ≤ p) :
    ∃ outcome net', Acts (exchangeIn timeoutMs patience firstId host port heartbeat) net
      outcome net' ∧ net'.now ≤ lastMoment timeoutMs host port patience net ∧
      ∃ heard, net'.heard = net.heard ++ heard ∧
        ∀ a ∈ heard, a.time ≤ lastMoment timeoutMs host port patience net := by
  have nothing {net' : Simulation} (same : net'.heard = net.heard) :
      ∃ heard, net'.heard = net.heard ++ heard ∧
        ∀ a ∈ heard, a.time ≤ lastMoment timeoutMs host port patience net :=
    ⟨[], by rw [same, List.append_nil], nofun⟩
  rcases dial_cases future (Exchange.endpoint host port) with
    ⟨begins, same⟩ | ⟨p, rfl, out, _, left⟩
  · have later := dial_later none net (Exchange.endpoint host port)
    rcases found : dial none (Exchange.endpoint host port) net with ⟨_ | cause | peer, dialled⟩
    all_goals
      have now : requestStart net (Exchange.endpoint host port) = dialled.now := by
        rw [requestStart, found]
      rw [found] at later
      rw [now] at begins
    · exact absurd (congrArg Prod.fst found) (dial_patient _ _)
    · refine ⟨_, dialled, acts_exchange_failed timeoutMs firstId heartbeat (same.trans found), ?_,
        nothing later.heard_eq⟩
      rw [lastMoment, now]
      exact now_le_deadline begins
    · have intime := heartbeat_intime timeoutMs firstId host port heartbeat peer begins
      obtain ⟨heard, given, arrived⟩ :=
        (heartbeat_advances timeoutMs patience firstId host port heartbeat peer dialled).given
      rw [lastMoment, now]
      refine ⟨_, _, acts_heartbeat timeoutMs firstId host port heartbeat (same.trans found), ?_,
        heard, ?_, ?_⟩
      · rw [Simulation.detach_now]
        exact intime
      · rw [Simulation.detach_heard, ← later.heard_eq]
        exact given
      · intro a inside
        exact Nat.le_trans (arrived a inside) intime
  · refine ⟨none, _, acts_exchange_left timeoutMs firstId heartbeat left, ?_, nothing rfl⟩
    exact Nat.le_min.mpr ⟨Nat.le_trans out (Nat.le_add_right _ _), Nat.le_refl _⟩

theorem acts_of_patient {p : Nat} (positive : 0 < timeoutMs)
    (lasts : requestStart net (Exchange.endpoint host port) + timeoutMs ≤ p) :
    ∃ outcome net', Acts (exchangeIn timeoutMs none firstId host port heartbeat) net
        (some outcome) net' ∧
      Acts (exchangeIn timeoutMs (some p) firstId host port heartbeat) net (some outcome) net' := by
  have begins := now_le_requestStart net (Exchange.endpoint host port)
  have same : dial (some p) (Exchange.endpoint host port) net =
      dial none (Exchange.endpoint host port) net := by
    have future : net.now ≤ p := by omega
    rcases dial_patience future (Exchange.endpoint host port) with
      ⟨_, same⟩ | ⟨out, _, _⟩
    · exact same
    · change p ≤ requestStart net (Exchange.endpoint host port) at out
      omega
  rcases found : dial none (Exchange.endpoint host port) net with ⟨_ | cause | peer, dialled⟩
  · exact absurd (congrArg Prod.fst found) (dial_patient _ _)
  · exact ⟨_, dialled, acts_exchange_failed timeoutMs firstId heartbeat found,
      acts_exchange_failed timeoutMs firstId heartbeat (same.trans found)⟩
  · have now : requestStart net (Exchange.endpoint host port) = dialled.now := by
      rw [requestStart, found]
    rw [now] at lasts
    have endless := acts_heartbeat timeoutMs firstId host port heartbeat found
    have own := acts_heartbeat timeoutMs firstId host port heartbeat
      (same.trans found)
    have alike : deliverHeartbeat timeoutMs none firstId host port heartbeat peer dialled =
        deliverHeartbeat timeoutMs (some p) firstId host port heartbeat peer dialled := by
      have own : (heartbeatTerms timeoutMs (some p) peer dialled).patience = some p := rfl
      unfold deliverHeartbeat
      rw [← deliver_of_patient own lasts]
      rfl
    obtain ⟨reply, ended⟩ := heartbeat_answered timeoutMs firstId host port heartbeat peer dialled
    rw [← alike, ended] at own
    rw [ended] at endless
    exact ⟨Exchange.verdict reply, _, endless, own⟩

end

section

variable {timeoutMs : Nat} {patience : Option Nat} {firstId : UInt16} {host : String}
  {port : UInt16} {heartbeat : Heartbeat.Request} {w : World}

variable (timeoutMs patience firstId host port heartbeat w) in
/-- What an exchange in a world does with its transport, in order: the operations of the run that it
is by `exchangeIn_eq`. -/
def operationsIn : List Transport.Use :=
  Exchange.operations (site (worldSetup timeoutMs patience firstId)).joined (none, w) host port
    heartbeat

variable (timeoutMs patience firstId host port heartbeat w) in
/-- The run whose operations these are is the exchange. -/
theorem exchangeIn_eq : exchangeIn timeoutMs patience firstId host port heartbeat w =
    let ran := Exchange.run (site (worldSetup timeoutMs patience firstId)).joined host port
      heartbeat (none, w)
    (ran.1, ran.2.2) := by
  rw [Exchange.run_joined]
  unfold exchangeIn joined
  rw [bind_state]
  generalize Exchange.run (site (worldSetup timeoutMs patience firstId)) host port heartbeat = run
  rfl

theorem opening_resolved :
    ((site (worldSetup timeoutMs patience firstId)).joined.transport.openContext
      (Exchange.endpoint host port)
      (Exchange.opening (site (worldSetup timeoutMs patience firstId)).joined (none, w) host port
        heartbeat)).1 =
      (dial patience (Exchange.endpoint host port) w.network).1.map
        fun r => r.map fun _ => () := by
  obtain ⟨w', opened, _⟩ :=
    runs_open timeoutMs patience firstId w.network (Exchange.endpoint host port)
      (Exchange.opening (site (worldSetup timeoutMs patience firstId)).joined (none, w) host port
        heartbeat).2 rfl
  exact congrArg (fun ran => ran.1.1) opened

theorem operationsIn_of_resolved {peer : SocketAddress}
    (resolved : (dial patience (Exchange.endpoint host port) w.network).1 = some (.ok peer)) :
    ∃ ended release, operationsIn timeoutMs patience firstId host port heartbeat w =
      [.opening (Exchange.endpoint host port) (some (.ok ())),
        .requesting (.post (Exchange.endpoint host port) heartbeat.encode) ended,
        .releasing release] := by
  apply Exchange.operations_of_opened
  rw [opening_resolved, resolved]
  rfl

theorem operationsIn_of_left
    (left : (dial patience (Exchange.endpoint host port) w.network).1 = none) :
    operationsIn timeoutMs patience firstId host port heartbeat w =
      [.opening (Exchange.endpoint host port) none] := by
  apply Exchange.operations_of_left
  rw [opening_resolved, left]
  rfl

end

end CheckIn.Udp
