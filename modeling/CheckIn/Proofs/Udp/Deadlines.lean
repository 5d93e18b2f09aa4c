import CheckIn.Proofs.Udp.Provenance
import CheckIn.Proofs.Udp.Termination

/-! The deadlines of a request: its own bound and its caller's patience. Up to the first of them
they make no difference, and then the request is over, whatever is still to come. Both count from
the beginning of the request; no copy, no block and no datagram starts them again. -/
namespace CheckIn

namespace Net

section

variable (isOver : σ → Bool) (step : σ → StateM τ σ)
  (idle : ∀ x s, isOver x = true → step x s = (x, s))

include idle

theorem repeatWith_succ (fuel : Nat) (x : σ) (s : τ) :
    repeatWith isOver step (fuel + 1) x s =
      repeatWith isOver step fuel (step x s).1 (step x s).2 := by
  by_cases finished : isOver x = true
  · rw [idle x s finished, repeatWith, if_pos finished]
    cases fuel with
    | zero => rfl
    | succ fuel =>
      rw [repeatWith, if_pos finished]
  · rw [repeatWith, if_neg finished]
    rfl

theorem repeatWith_related (step' : σ → StateM τ σ)
    (idle' : ∀ x s, isOver x = true → step' x s = (x, s)) (R : σ → τ → σ → τ → Prop)
    (kept : ∀ x s y t, R x s y t → R (step x s).1 (step x s).2 (step' y t).1 (step' y t).2)
    (fuel : Nat) (x : σ) (s : τ) (y : σ) (t : τ) (start : R x s y t) :
    R (repeatWith isOver step fuel x s).1 (repeatWith isOver step fuel x s).2
      (repeatWith isOver step' fuel y t).1 (repeatWith isOver step' fuel y t).2 := by
  induction fuel generalizing x s y t with
  | zero => exact start
  | succ fuel ih =>
    rw [repeatWith_succ isOver step idle, repeatWith_succ isOver step' idle']
    exact ih _ _ _ _ (kept x s y t start)

end

end Net

namespace Udp

open Net

/-- A network some time later, in which the client has been given what has arrived by then. -/
structure Advances (net net' : Simulation) : Prop where
  now_le : net.now ≤ net'.now
  given : ∃ given, net'.heard = net.heard ++ given ∧ ∀ a ∈ given, a.time ≤ net'.now

namespace Advances

variable {net net' net'' : Simulation}

theorem still (now : net'.now = net.now) (heard : net'.heard = net.heard) : Advances net net' :=
  ⟨Nat.le_of_eq now.symm, [], by simp [heard], nofun⟩

theorem trans (first : Advances net net') (second : Advances net' net'') : Advances net net'' := by
  obtain ⟨given, heard, arrived⟩ := first.given
  obtain ⟨given', heard', arrived'⟩ := second.given
  refine ⟨Nat.le_trans first.now_le second.now_le, given ++ given', ?_, ?_⟩
  · rw [heard', heard, List.append_assoc]
  · intro a inside
    rcases List.mem_append.mp inside with old | new
    · exact Nat.le_trans (arrived a old) second.now_le
    · exact arrived' a new

variable (net) in
theorem send (peer : SocketAddress) (p : Coap.Packet) : Advances net (net.send peer p).2 :=
  .still (net.send_records peer p).1 (net.send_records peer p).2.1

variable (net) in
theorem gave (a : Arrival) (inbox : List Arrival) : Advances net (net.gave a inbox) := by
  refine ⟨Nat.le_max_left .., [a], rfl, ?_⟩
  intro b inside
  rw [List.mem_singleton.mp inside]
  exact Nat.le_max_right ..

variable (net) in
theorem passed (limit : Nat) : Advances net (net.passed limit) :=
  ⟨Nat.le_max_left .., [], by simp [Simulation.passed], nofun⟩

theorem hears {peer : SocketAddress} {a : Arrival} {inbox : List Arrival} {link link' : Link}
    {reply : Option Coap.Packet}
    (h : Hears peer a.datagram (net.gave a inbox) link link' reply net') : Advances net net' :=
  (gave net a inbox).trans (.still h.records.1 h.records.2.1)

end Advances

section

variable {terms : Terms} {net net' : Simulation} {d d' : Delivery}

theorem Becomes.advances (step : Becomes terms net d d' net') : Advances net net' := by
  cases step with
  | expired => exact .still rfl rfl
  | left => exact .still rfl rfl
  | stuck => exact .still rfl rfl
  | @sent t _ _ _ _ _ _ sending =>
    have sends := Advances.send net terms.peer t.message
    rwa [sending] at sends
  | @unsent t _ _ _ _ _ _ _ sending =>
    have sends := Advances.send net terms.peer t.message
    rwa [sending] at sends
  | @hung t _ _ _ _ _ _ _ sending =>
    have sends := Advances.send net terms.peer t.message
    rwa [sending] at sends
  | silence => exact .passed net _
  | noise _ _ hears => exact .hears hears
  | heard _ _ hears => exact .hears hears
  | cleared => exact .still rfl rfl
  | drained _ _ hears => exact .hears hears
  | overdue => exact .passed net _
  | discarded => exact .gave net _ _
  | ended => exact .still rfl rfl

variable (terms d net) in
theorem advances_deliver : Advances net (deliver terms d net).2 := by
  apply repeatWith_invariant (·.stage.isOver) (Delivery.step Simulation.wire terms)
    (fun _ net' => Advances net net')
  · intro d net' before
    exact before.trans (becomes terms net' d).advances
  · exact .still rfl rfl

end

def Terms.deadline (terms : Terms) : Nat := terms.horizon terms.bound

section

variable (terms : Terms)

theorem horizon_eq (limit : Nat) : terms.horizon limit = min limit terms.deadline := by
  unfold Terms.deadline Terms.horizon
  split <;> omega

theorem deadline_le_iff (moment : Nat) : terms.deadline ≤ moment ↔
    terms.bound ≤ moment ∨ terms.outOfPatience moment = true := by
  unfold Terms.deadline Terms.horizon Terms.outOfPatience
  cases terms.patience with
  | none => simp
  | some p =>
    simp only [Option.any_some, decide_eq_true_eq]
    omega

variable (net : Simulation) (t : Transfer) (spare : Nat) (link : Link)

theorem sendStep_overdue (late : terms.deadline ≤ net.now) :
    sendStep Simulation.wire terms link t spare net = (⟨link, .overdue terms net.now⟩, net) := by
  unfold sendStep Stage.overdue
  rw [bind_state, Simulation.wire_now]
  dsimp only
  by_cases expired : terms.bound ≤ net.now
  · rw [if_pos expired, if_pos expired]
    rfl
  · have left := ((deadline_le_iff terms net.now).mp late).resolve_left expired
    rw [if_neg expired, if_pos left, if_neg expired]
    rfl

theorem receiveStep_overdue {limit : Nat} (late : terms.deadline < limit)
    (quiet : ∀ a, net.inbox.head? = some a → terms.deadline < a.time) :
    receiveStep Simulation.wire terms link t spare limit net =
      (⟨link, .overdue terms terms.deadline⟩, net.passed terms.deadline) := by
  have horizon : terms.horizon limit = terms.deadline := by
    rw [horizon_eq]
    omega
  unfold receiveStep Stage.expire
  rw [bind_state, Simulation.wire_receive, horizon]
  rcases net.receive_cases terms.deadline with ⟨a, inbox, next, intime, _⟩ | ⟨_, received⟩
  · exact absurd intime (Nat.not_le_of_lt (quiet a (by simp [next])))
  · rw [received]
    dsimp only
    rw [if_neg (Nat.not_le_of_lt late)]
    rfl

theorem blockedStep_overdue (quiet : ∀ a, net.inbox.head? = some a → terms.deadline < a.time) :
    blockedStep Simulation.wire terms link net =
      (⟨link, .overdue terms terms.deadline⟩, net.passed terms.deadline) := by
  unfold blockedStep
  rw [bind_state, Simulation.wire_receive, ← Terms.deadline]
  rcases net.receive_cases terms.deadline with ⟨a, inbox, next, intime, _⟩ | ⟨_, received⟩
  · exact absurd intime (Nat.not_le_of_lt (quiet a (by simp [next])))
  · rw [received]
    rfl

end

section

variable {terms terms' : Terms} (peer : terms'.peer = terms.peer) {net : Simulation} (t : Transfer)
  (spare : Nat) (link : Link)

include peer

theorem sendStep_congr (early : net.now < terms.deadline) (early' : net.now < terms'.deadline) :
    sendStep Simulation.wire terms' link t spare net =
      sendStep Simulation.wire terms link t spare net := by
  have going := Nat.not_le_of_lt early
  have going' := Nat.not_le_of_lt early'
  rw [deadline_le_iff, not_or] at going going'
  unfold sendStep
  rw [bind_state, bind_state, Simulation.wire_now]
  dsimp only
  rw [if_neg going.1, if_neg going.2, if_neg going'.1, if_neg going'.2, peer]

theorem receiveStep_congr {limit : Nat}
    (same : net.receive (terms'.horizon limit) = net.receive (terms.horizon limit))
    (expires : (net.receive (terms.horizon limit)).1 = none →
      Stage.expire terms' t spare limit = .expire terms t spare limit) :
    receiveStep Simulation.wire terms' link t spare limit net =
      receiveStep Simulation.wire terms link t spare limit net := by
  unfold receiveStep
  rw [bind_state, bind_state, Simulation.wire_receive, Simulation.wire_receive, same, peer]
  cases received : (net.receive (terms.horizon limit)).1 with
  | none =>
    dsimp only
    rw [expires received]
  | some datagram => rfl

theorem clearStep_congr (next : Step) :
    clearStep Simulation.wire terms' link next = clearStep Simulation.wire terms link next := by
  unfold clearStep
  rw [peer]

end

theorem receive_given {net : Simulation} {a : Arrival} {inbox : List Arrival} {limit : Nat}
    (next : net.inbox = a :: inbox) (intime : a.time ≤ limit) :
    net.receive limit = (some a.datagram, net.gave a inbox) := by
  rcases net.receive_cases limit with ⟨b, inbox', next', _, received⟩ | ⟨quiet, _⟩
  · cases next'.symm.trans next
    exact received
  · exact absurd intime (Nat.not_le_of_lt (quiet a (by simp [next])))

theorem step_of_isOver (terms : Terms) (d : Delivery) (net : Simulation)
    (finished : d.stage.isOver = true) : Delivery.step Simulation.wire terms d net = (d, net) := by
  obtain ⟨link, stage⟩ := d
  cases stage with
  | sending => cases finished
  | waiting => cases finished
  | clearing => cases finished
  | blocked => cases finished
  | done => rfl
  | failed => rfl
  | abandoned => rfl

theorem overdue_isOver (terms : Terms) (moment : Nat) :
    (Stage.overdue terms moment).isOver = true := by
  unfold Stage.overdue
  split_ifs <;> rfl

section

variable {terms : Terms} {net net' : Simulation} {d d' : Delivery}

/-- No step goes past the deadline. -/
theorem Becomes.now_le (step : Becomes terms net d d' net') (intime : net.now ≤ terms.deadline) :
    net'.now ≤ terms.deadline := by
  have passed (limit : Nat) : (net.passed (terms.horizon limit)).now ≤ terms.deadline := by
    rw [horizon_eq]
    exact Nat.max_le.mpr ⟨intime, Nat.min_le_right ..⟩
  have soon {limit moment : Nat} (before : moment ≤ terms.horizon limit) :
      moment ≤ terms.deadline := by
    rw [horizon_eq] at before
    exact Nat.le_trans before (Nat.min_le_right ..)
  cases step with
  | expired => exact intime
  | left => exact intime
  | stuck => exact intime
  | @sent t _ _ _ _ _ _ sending =>
    have records := net.send_records terms.peer t.message
    rw [sending] at records
    exact records.1 ▸ intime
  | @unsent t _ _ _ _ _ _ _ sending =>
    have records := net.send_records terms.peer t.message
    rw [sending] at records
    exact records.1 ▸ intime
  | @hung t _ _ _ _ _ _ _ sending =>
    have records := net.send_records terms.peer t.message
    rw [sending] at records
    exact records.1 ▸ intime
  | silence => exact passed _
  | noise _ arrived hears => exact (hears.given_records intime (soon arrived)).1
  | heard _ arrived hears => exact (hears.given_records intime (soon arrived)).1
  | cleared => exact intime
  | drained _ arrived hears =>
    exact (hears.given_records intime (Nat.le_trans arrived intime)).1
  | overdue => exact passed _
  | discarded _ arrived => exact Nat.max_le.mpr ⟨intime, soon arrived⟩
  | ended => exact intime

theorem Becomes.waits {link : Link} {t : Transfer} {spare limit moment : Nat}
    (step : Becomes terms net ⟨link, .waiting t spare limit⟩ d' net')
    (quiet : ∀ a, net.inbox.head? = some a → moment < a.time)
    (within : moment ≤ terms.horizon limit) : moment ≤ net'.now := by
  have given {a : Arrival} {inbox : List Arrival} {link' : Link} {reply : Option Coap.Packet}
      (next : net.inbox = a :: inbox)
      (hears : Hears terms.peer a.datagram (net.gave a inbox) link link' reply net') :
      moment ≤ net'.now := by
    have late := quiet a (by simp [next])
    rw [hears.records.1]
    exact Nat.le_trans (Nat.le_of_lt late) (Nat.le_max_right ..)
  cases step with
  | silence => exact Nat.le_trans within (Nat.le_max_right ..)
  | noise next _ hears => exact given next hears
  | heard next _ hears => exact given next hears
  | ended finished => cases finished

theorem Becomes.blocks {link : Link} {moment : Nat}
    (step : Becomes terms net ⟨link, .blocked⟩ d' net')
    (quiet : ∀ a, net.inbox.head? = some a → moment < a.time)
    (within : moment ≤ terms.deadline) : moment ≤ net'.now := by
  cases step with
  | overdue => exact Nat.le_trans within (Nat.le_max_right ..)
  | @discarded a _ _ next =>
    have late := quiet a (by simp [next])
    exact Nat.le_trans (Nat.le_of_lt late) (Nat.le_max_right ..)
  | ended finished => cases finished

end

/-- A request beside the same request under deadlines that are no sooner: up to its own deadline
they are one, and then it is over. -/
inductive Lockstep (terms : Terms) :
    Delivery → Simulation → Delivery → Simulation → Prop where
  | together {d net} : net.now ≤ terms.deadline → Lockstep terms d net d net
  | apart {d net d' net'} : d.stage = .overdue terms terms.deadline →
      net.now = terms.deadline → terms.deadline ≤ net'.now → Lockstep terms d net d' net'

namespace Lockstep

variable {terms : Terms} {d d' : Delivery} {net net' : Simulation}
  (h : Lockstep terms d net d' net')

include h

theorem now_le : net.now ≤ terms.deadline := by
  cases h with
  | together intime => exact intime
  | apart _ now => exact Nat.le_of_eq now

theorem ends : (d' = d ∧ net' = net) ∨
    d.stage = .overdue terms terms.deadline ∧ net.now = terms.deadline ∧
      terms.deadline ≤ net'.now := by
  cases h with
  | together => exact .inl ⟨rfl, rfl⟩
  | apart finished now late => exact .inr ⟨finished, now, late⟩

end Lockstep

/-- What one step leads to under either deadlines. -/
def StepsAlike (terms terms' : Terms) (d : Delivery) (net : Simulation) : Prop :=
  Lockstep terms (Delivery.step Simulation.wire terms d net).1
    (Delivery.step Simulation.wire terms d net).2
    (Delivery.step Simulation.wire terms' d net).1
    (Delivery.step Simulation.wire terms' d net).2

section

variable {terms terms' : Terms} {net : Simulation} (intime : net.now ≤ terms.deadline)

include intime

theorem stepsAlike_of_eq {d : Delivery} (same : Delivery.step Simulation.wire terms' d net =
    Delivery.step Simulation.wire terms d net) : StepsAlike terms terms' d net := by
  unfold StepsAlike
  rw [same]
  exact .together ((becomes terms net d).now_le intime)

variable (peer : terms'.peer = terms.peer) (longer : terms.deadline ≤ terms'.deadline)
  (link : Link)

include peer longer

theorem stepsAlike_sending (t : Transfer) (spare : Nat) :
    StepsAlike terms terms' ⟨link, .sending t spare⟩ net := by
  by_cases early : net.now < terms.deadline
  · apply stepsAlike_of_eq intime
    exact sendStep_congr peer t spare link early (Nat.lt_of_lt_of_le early longer)
  · have now : net.now = terms.deadline := Nat.le_antisymm intime (Nat.le_of_not_lt early)
    have overdue : Delivery.step Simulation.wire terms ⟨link, .sending t spare⟩ net =
        (⟨link, .overdue terms net.now⟩, net) :=
      sendStep_overdue terms net t spare link (Nat.le_of_eq now.symm)
    unfold StepsAlike
    rw [overdue, now]
    exact .apart rfl now (now ▸ (becomes terms' net ⟨link, .sending t spare⟩).advances.now_le)

theorem stepsAlike_waiting (t : Transfer) (spare limit : Nat) :
    StepsAlike terms terms' ⟨link, .waiting t spare limit⟩ net := by
  have horizon' : terms'.horizon limit = min limit terms'.deadline := horizon_eq terms' limit
  by_cases short : limit ≤ terms.deadline
  · have horizons : terms.horizon limit = limit ∧ terms'.horizon limit = limit := by
      rw [horizon_eq, horizon']
      omega
    apply stepsAlike_of_eq intime
    apply receiveStep_congr peer
    · rw [horizons.1, horizons.2]
    · intro _
      unfold Stage.expire
      rw [horizons.1, horizons.2]
      dsimp only
      rw [if_pos (Nat.le_refl limit), if_pos (Nat.le_refl limit)]
  · have within : terms.deadline ≤ terms'.horizon limit := by omega
    rcases net.receive_cases terms.deadline with ⟨a, inbox, next, arrived, _⟩ | ⟨quiet, _⟩
    · have received : net.receive (terms.horizon limit) =
          (some a.datagram, net.gave a inbox) := by
        apply receive_given next
        rw [horizon_eq]
        omega
      apply stepsAlike_of_eq intime
      apply receiveStep_congr peer
      · rw [received, receive_given next (Nat.le_trans arrived within)]
      · intro none
        rw [received] at none
        cases none
    · have overdue : Delivery.step Simulation.wire terms ⟨link, .waiting t spare limit⟩ net =
          (⟨link, .overdue terms terms.deadline⟩, net.passed terms.deadline) :=
        receiveStep_overdue terms net t spare link (Nat.lt_of_not_le short) quiet
      unfold StepsAlike
      rw [overdue]
      exact .apart rfl (Nat.max_eq_right intime) ((becomes terms' net _).waits quiet within)

omit peer in
theorem stepsAlike_blocked : StepsAlike terms terms' ⟨link, .blocked⟩ net := by
  rcases net.receive_cases terms.deadline with ⟨a, inbox, next, arrived, _⟩ | ⟨quiet, _⟩
  · have discards {terms : Terms} (arrived : a.time ≤ terms.deadline) :
        Delivery.step Simulation.wire terms ⟨link, .blocked⟩ net =
          (⟨link, .blocked⟩, net.gave a inbox) := by
      change blockedStep Simulation.wire terms link net = _
      unfold blockedStep
      rw [bind_state, Simulation.wire_receive, ← Terms.deadline, receive_given next arrived]
      rfl
    apply stepsAlike_of_eq intime
    rw [discards arrived, discards (Nat.le_trans arrived longer)]
  · have overdue : Delivery.step Simulation.wire terms ⟨link, .blocked⟩ net =
        (⟨link, .overdue terms terms.deadline⟩, net.passed terms.deadline) :=
      blockedStep_overdue terms net link quiet
    unfold StepsAlike
    rw [overdue]
    exact .apart rfl (Nat.max_eq_right intime) ((becomes terms' net _).blocks quiet longer)

theorem stepsAlike (stage : Stage) : StepsAlike terms terms' ⟨link, stage⟩ net := by
  cases stage with
  | sending t spare => exact stepsAlike_sending intime peer longer link t spare
  | waiting t spare limit => exact stepsAlike_waiting intime peer longer link t spare limit
  | clearing next =>
    apply stepsAlike_of_eq intime
    exact congrFun (clearStep_congr peer link next) net
  | blocked => exact stepsAlike_blocked intime longer link
  | done r => exact stepsAlike_of_eq intime rfl
  | failed cause => exact stepsAlike_of_eq intime rfl
  | abandoned => exact stepsAlike_of_eq intime rfl

end

section

variable {terms terms' : Terms} (peer : terms'.peer = terms.peer)
  (longer : terms.deadline ≤ terms'.deadline) {d : Delivery} {net : Simulation}

include peer longer

theorem Lockstep.step {d' : Delivery} {net' : Simulation} (h : Lockstep terms d net d' net') :
    Lockstep terms (Delivery.step Simulation.wire terms d net).1
      (Delivery.step Simulation.wire terms d net).2
      (Delivery.step Simulation.wire terms' d' net').1
      (Delivery.step Simulation.wire terms' d' net').2 := by
  cases h with
  | apart finished now late =>
    rw [step_of_isOver terms d net (finished ▸ overdue_isOver ..)]
    exact .apart finished now (Nat.le_trans late (becomes terms' net' d').advances.now_le)
  | together intime => exact stepsAlike intime peer longer d.link d.stage

/-- From one beginning, a request under its own deadlines and under longer ones. -/
theorem deliver_lockstep (intime : net.now ≤ terms.deadline) :
    Lockstep terms (deliver terms d net).1 (deliver terms d net).2 (deliver terms' d net).1
      (deliver terms' d net).2 := by
  apply repeatWith_related (·.stage.isOver) (Delivery.step Simulation.wire terms)
    (step_of_isOver terms) (Delivery.step Simulation.wire terms') (step_of_isOver terms')
    (Lockstep terms)
  · intro d net d' net' h
    exact h.step peer longer
  · exact .together intime

end

section

variable {terms : Terms} {d d' : Delivery} {net net' : Simulation}

theorem ofStep_ne_abandoned (next : Step) : Stage.ofStep next ≠ .abandoned := by
  cases next with
  | send t =>
    unfold Stage.ofStep Stage.begin
    dsimp only
    split_ifs <;> nofun
  | finish r => nofun
  | fail cause => nofun

theorem retry_ne_abandoned (t : Transfer) (cause : IoFault) (spare : Nat) :
    Stage.retry t cause spare ≠ .abandoned := by
  cases spare <;> nofun

theorem hear_ne_abandoned (t : Transfer) (spare limit : Nat) (reply : Coap.Packet) :
    Stage.hear t spare limit reply ≠ .abandoned := by
  unfold Stage.hear
  split_ifs <;> nofun

theorem overdue_ne_abandoned {moment : Nat} (late : terms.bound ≤ moment) :
    Stage.overdue terms moment ≠ .abandoned := by
  unfold Stage.overdue
  rw [if_pos late]
  nofun

theorem Becomes.ne_abandoned (step : Becomes terms net d d' net') (patient : terms.patience = none)
    (stays : d.stage ≠ .abandoned) : d'.stage ≠ .abandoned := by
  have bound : terms.deadline = terms.bound := by
    unfold Terms.deadline Terms.horizon
    rw [patient]
    exact Nat.min_self _
  cases step with
  | expired => nofun
  | left _ leaves => simp [Terms.outOfPatience, patient] at leaves
  | stuck => nofun
  | sent => nofun
  | unsent => exact retry_ne_abandoned _ _ _
  | hung => nofun
  | @silence t spare limit =>
    unfold Stage.expire
    dsimp only
    split_ifs with short
    · exact retry_ne_abandoned _ _ _
    · apply overdue_ne_abandoned
      rw [horizon_eq, bound] at short ⊢
      omega
  | noise => nofun
  | heard => exact hear_ne_abandoned _ _ _ _
  | cleared => exact ofStep_ne_abandoned _
  | drained => nofun
  | overdue => exact overdue_ne_abandoned (Nat.le_of_eq bound.symm)
  | discarded => nofun
  | ended => exact stays

variable (net) in
theorem result_ne_none (patient : terms.patience = none) (link : Link) (t : Transfer) :
    (deliver terms ⟨link, .begin t⟩ net).1.stage.result ≠ none := by
  have finished := deliver_isOver terms link t net
  have stays : (deliver terms ⟨link, .begin t⟩ net).1.stage ≠ .abandoned := by
    apply repeatWith_invariant (·.stage.isOver) (Delivery.step Simulation.wire terms)
      (fun d _ => d.stage ≠ .abandoned)
    · intro d net stays
      exact (becomes terms net d).ne_abandoned patient stays
    · exact ofStep_ne_abandoned (.send t)
  generalize (deliver terms ⟨link, .begin t⟩ net).1.stage = stage at finished stays
  cases stage with
  | sending => cases finished
  | waiting => cases finished
  | clearing => cases finished
  | blocked => cases finished
  | done => nofun
  | failed => nofun
  | abandoned => exact absurd rfl stays

/-- Requests that expire alike and wait alike are alike. -/
theorem step_congr {terms' : Terms} (peer : terms'.peer = terms.peer)
    (horizon : ∀ limit, terms'.horizon limit = terms.horizon limit)
    (overdue : ∀ moment, Stage.overdue terms' moment = .overdue terms moment) (d : Delivery)
    (net : Simulation) :
    Delivery.step Simulation.wire terms' d net = Delivery.step Simulation.wire terms d net := by
  have deadline : terms'.deadline = terms.deadline := by
    have alike := horizon (max terms.deadline terms'.deadline)
    rw [horizon_eq, horizon_eq] at alike
    omega
  obtain ⟨link, stage⟩ := d
  cases stage with
  | sending t spare =>
    change sendStep Simulation.wire terms' link t spare net =
      sendStep Simulation.wire terms link t spare net
    by_cases early : net.now < terms.deadline
    · exact sendStep_congr peer t spare link early (deadline ▸ early)
    · have late := Nat.le_of_not_lt early
      rw [sendStep_overdue terms net t spare link late,
        sendStep_overdue terms' net t spare link (deadline ▸ late), overdue]
  | waiting t spare limit =>
    apply receiveStep_congr peer
    · rw [horizon]
    · intro _
      unfold Stage.expire
      rw [horizon]
      dsimp only
      rw [overdue]
  | clearing next => exact congrFun (clearStep_congr peer link next) net
  | blocked =>
    change blockedStep Simulation.wire terms' link net = blockedStep Simulation.wire terms link net
    have moment : terms'.horizon terms'.bound = terms.horizon terms.bound := deadline
    unfold blockedStep
    rw [moment]
    simp only [overdue]
  | done r => rfl
  | failed cause => rfl
  | abandoned => rfl

theorem deliver_of_patient {p : Nat} (patience : terms.patience = some p)
    (lasts : terms.bound ≤ p) : deliver { terms with patience := none } = deliver terms := by
  have steps : Delivery.step Simulation.wire { terms with patience := none } =
      Delivery.step Simulation.wire terms := by
    funext d net
    apply step_congr
    · rfl
    · intro limit
      unfold Terms.horizon
      rw [patience]
      dsimp only
      omega
    · intro moment
      rfl
  unfold deliver
  rw [steps]

end

end Udp

end CheckIn
