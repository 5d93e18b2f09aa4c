import CheckIn.Exchange
import CheckIn.World
import CheckIn.Proofs.Exchange.History
import CheckIn.Proofs.Heartbeat.RoundTrip
import CheckIn.Proofs.Udp.Dialling
import Mathlib.Tactic.SplitIfs

/-! An exchange over UDP in a world that is fixed in advance. Only its network decides, and only
through one delivery: what is logged on the way changes neither the outcome nor the network. -/
namespace CheckIn.World

open Net Udp

theorem onNetwork_bind (x : StateM Simulation α) (f : α → StateM Simulation β) :
    onNetwork (x >>= f) = onNetwork x >>= fun a => onNetwork (f a) := rfl

section

variable (terms : Terms) (link : Link)

theorem hearken_onNetwork (peer : SocketAddress) (datagram : List UInt8) :
    hearken wire peer datagram link =
      onNetwork (hearken Simulation.wire peer datagram link) := by
  unfold hearken
  split
  · split
    · rw [onNetwork_bind]
      refine congrArg _ (funext fun verdict => ?_)
      cases verdict <;> rfl
    · rfl
  · rfl

theorem sendStep_onNetwork (t : Transfer) (spare : Nat) :
    sendStep wire terms link t spare =
      onNetwork (sendStep Simulation.wire terms link t spare) := by
  unfold sendStep
  rw [onNetwork_bind]
  refine congrArg _ (funext fun now => ?_)
  split_ifs
  · rfl
  · rfl
  · rfl
  · rw [onNetwork_bind]
    refine congrArg _ (funext fun verdict => ?_)
    cases verdict with
    | ok => rfl
    | error cause =>
      dsimp only
      generalize link.after cause = link
      cases link <;> rfl

theorem receiveStep_onNetwork (t : Transfer) (spare limit : Nat) :
    receiveStep wire terms link t spare limit =
      onNetwork (receiveStep Simulation.wire terms link t spare limit) := by
  unfold receiveStep
  rw [onNetwork_bind]
  refine congrArg _ (funext fun received => ?_)
  cases received with
  | none => rfl
  | some datagram =>
    simp only [hearken_onNetwork]
    rw [onNetwork_bind]
    refine congrArg _ (funext fun (link, reply) => ?_)
    cases reply <;> rfl

theorem clearStep_onNetwork (next : Step) :
    clearStep wire terms link next = onNetwork (clearStep Simulation.wire terms link next) := by
  unfold clearStep
  rw [onNetwork_bind]
  refine congrArg _ (funext fun now => ?_)
  rw [onNetwork_bind]
  refine congrArg _ (funext fun received => ?_)
  cases received with
  | none => rfl
  | some datagram =>
    simp only [hearken_onNetwork]
    rfl

theorem blockedStep_onNetwork :
    blockedStep wire terms link = onNetwork (blockedStep Simulation.wire terms link) := by
  unfold blockedStep
  dsimp only
  rw [onNetwork_bind]
  refine congrArg _ (funext fun received => ?_)
  cases received <;> rfl

theorem step_onNetwork (d : Delivery) :
    Delivery.step wire terms d = onNetwork (Delivery.step Simulation.wire terms d) := by
  unfold Delivery.step
  split
  · exact sendStep_onNetwork ..
  · exact receiveStep_onNetwork ..
  · exact clearStep_onNetwork ..
  · exact blockedStep_onNetwork ..
  · rfl

theorem repeatWith_onNetwork (isOver : σ → Bool) (step : σ → StateM Simulation σ) (fuel : Nat)
    (x : σ) : repeatWith isOver (fun x => onNetwork (step x)) fuel x =
      onNetwork (repeatWith isOver step fuel x) := by
  induction fuel generalizing x with
  | zero => rfl
  | succ fuel ih =>
    rw [repeatWith, repeatWith]
    split
    · rfl
    · rw [onNetwork_bind]
      exact congrArg _ (funext fun x => ih x)

end

end CheckIn.World

namespace CheckIn.Udp

open Net World

/-- A request on a network, in as many steps as the network can call for. -/
def deliver (terms : Terms) (d : Delivery) : StateM Simulation Delivery := fun net =>
  repeatWith (·.stage.isOver) (Delivery.step Simulation.wire terms) net.budget d net

theorem untilOver_eq (terms : Terms) (d : Delivery) :
    World.untilOver (Delivery.step World.wire terms) d = onNetwork (deliver terms d) := by
  have same : Delivery.step World.wire terms =
      fun d => onNetwork (Delivery.step Simulation.wire terms d) :=
    funext fun d => step_onNetwork terms d
  funext w
  simp only [World.untilOver, same]
  rw [repeatWith_onNetwork]
  simp only [onNetwork, deliver]

/-- A computation that comes to a result and a network from any world with a network, whatever has
been logged and printed in it. -/
def Acts (x : StateM World α) (net : Simulation) (a : α) (net' : Simulation) : Prop :=
  ∀ w : World, w.network = net → ∃ w', x w = (a, w') ∧ w'.network = net'

namespace Acts

variable {x : StateM World α} {f : α → StateM World β} {net net' net'' : Simulation} {a : α} {b : β}

theorem pure (a : α) : Acts (Pure.pure a) net a net := fun w same => ⟨w, rfl, same⟩

theorem bind (first : Acts x net a net') (second : Acts (f a) net' b net'') :
    Acts (x >>= f) net b net'' := by
  intro w same
  obtain ⟨w', ran, same'⟩ := first w same
  obtain ⟨w'', ran', same''⟩ := second w' same'
  refine ⟨w'', ?_, same''⟩
  calc (x >>= f) w
      _ = f a w' := by simp only [Bind.bind, StateT.bind, ran]
      _ = _ := ran'

theorem log (e : Log.Event) : Acts (World.log e) net () net :=
  fun w same => ⟨{ w with events := w.events ++ [e] }, rfl, same⟩

theorem onNetwork (x : StateM Simulation α) : Acts (World.onNetwork x) net (x net).1 (x net).2 := by
  rintro w rfl
  exact ⟨{ w with network := (x w.network).2 }, rfl, rfl⟩

end Acts

/-- A computation with a session that comes to a result, a session and a network. -/
def Runs (x : SessionM (StateM World) α) (session : Option Session) (net : Simulation) (a : α)
    (session' : Option Session) (net' : Simulation) : Prop :=
  Acts (x session) net (a, session') net'

namespace Runs

variable {x : SessionM (StateM World) α} {f : α → SessionM (StateM World) β}
  {session session' session'' : Option Session} {net net' net'' : Simulation} {a : α} {b : β}

theorem pure (a : α) : Runs (Pure.pure a) session net a session net := Acts.pure (a, session)

theorem bind (first : Runs x session net a session' net')
    (second : Runs (f a) session' net' b session'' net'') :
    Runs (x >>= f) session net b session'' net'' :=
  Acts.bind (f := fun r : α × Option Session => f r.1 r.2) first second

theorem map (g : α → β) (h : Runs x session net a session' net') :
    Runs (g <$> x) session net (g a) session' net' := by
  rw [map_eq_pure_bind]
  exact h.bind (.pure _)

theorem lift {x : StateM World α} (h : Acts x net a net') :
    Runs (StateT.lift x) session net a session net' :=
  Acts.bind h (.pure (a, session))

theorem get : Runs MonadState.get session net session session net := Acts.pure (session, session)

theorem set (session' : Option Session) :
    Runs (MonadStateOf.set session') session net () session' net :=
  Acts.pure ((), session')

end Runs

section

variable (timeoutMs : Nat) (patience : Option Nat) (firstId : UInt16)

/-- A transport over UDP in a world, with any number for its first message. -/
def worldSetup : Setup (StateM World) := { World.udp timeoutMs patience with firstId }

variable {timeoutMs patience firstId} {session : Option Session} {net : Simulation}

theorem runs_log (e : Log.Event) :
    Runs ((site (worldSetup timeoutMs patience firstId)).log e) session net () session net :=
  .lift (.log e)

theorem runs_logs (events : List Log.Event) :
    Runs (events.forM (site (worldSetup timeoutMs patience firstId)).log) session net () session
      net := by
  induction events with
  | nil => exact .pure ()
  | cons e events ih => exact (runs_log e).bind ih

theorem addressOf_onNetwork (host : List Char) :
    addressOf (worldSetup timeoutMs patience firstId) host =
      onNetwork (addressOf (networkSetup patience) host) := by
  unfold addressOf
  cases settled? host <;> rfl

theorem resolve_onNetwork (e : Endpoint) :
    resolve (worldSetup timeoutMs patience firstId) e =
      onNetwork (resolve (networkSetup patience) e) := by
  unfold resolve
  cases e.literal? with
  | some address => rfl
  | none =>
    dsimp only
    rw [addressOf_onNetwork, onNetwork_bind]
    refine congrArg _ (funext fun verdict => ?_)
    rcases verdict with _ | reason | address <;> rfl

theorem attach_onNetwork (found : Option (Except Transport.Fault SocketAddress)) :
    attach (worldSetup timeoutMs patience firstId) found =
      onNetwork (attach (networkSetup patience) found) := by
  rcases found with _ | cause | peer
  · rfl
  · rfl
  · unfold attach
    dsimp only
    rw [onNetwork_bind]
    refine congrArg _ (funext fun attached => ?_)
    cases attached <;> rfl

theorem connect_onNetwork (e : Endpoint) :
    connect (worldSetup timeoutMs patience firstId) e = onNetwork (dial patience e) := by
  unfold dial connect
  rw [resolve_onNetwork, onNetwork_bind]
  exact congrArg _ (funext attach_onNetwork)

def sessionOf (firstId : UInt16) :
    Option (Except Transport.Fault SocketAddress) → Option Session
  | some (.ok peer) => some ⟨peer, true, .sound, firstId⟩
  | _ => none

variable (timeoutMs patience firstId net) in
theorem runs_open (e : Endpoint) :
    Runs ((site (worldSetup timeoutMs patience firstId)).transport.openContext e) none net
      ((dial patience e net).1.map fun r => r.map fun _ => ())
      (sessionOf firstId (dial patience e net).1) (dial patience e net).2 := by
  have connected : Acts (connect (worldSetup timeoutMs patience firstId) e) net
      (dial patience e net).1 (dial patience e net).2 := by
    rw [connect_onNetwork]
    exact .onNetwork _
  refine .bind (.lift connected) ?_
  match (dial patience e net).1 with
  | none => exact .pure _
  | some (.error cause) => exact .pure _
  | some (.ok peer) => exact .bind (runs_log (.opened peer)) (.bind (.set _) (.pure _))

theorem acts_converse (s : Session) (r : Transport.Request) :
    let ended := deliver ⟨s.peer, timeoutMs, net.now + timeoutMs, patience⟩
      ⟨s.link, .begin (.start (packet s.nextId r))⟩ net
    Acts (converse (worldSetup timeoutMs patience firstId) s r) net
      (ended.1.link, ended.1.stage.result) ended.2 := by
  intro ended
  have clock : Acts World.wire.now net net.now net := .onNetwork Simulation.wire.now
  have delivered : Acts _ net ended.1 ended.2 := .onNetwork (deliver _ _)
  rw [← untilOver_eq] at delivered
  refine .bind (.log _) ?_
  refine .bind clock ?_
  refine .bind delivered ?_
  generalize ended.1.stage.result = result
  cases result with
  | none => exact .pure _
  | some reply =>
    cases reply with
    | error cause => exact .pure _
    | ok response => exact .bind (.log _) (.pure _)

theorem runs_request (s : Session) (isOpen : s.isOpen = true) (r : Transport.Request) :
    let ended := deliver ⟨s.peer, timeoutMs, net.now + timeoutMs, patience⟩
      ⟨s.link, .begin (.start (packet s.nextId r))⟩ net
    Runs ((site (worldSetup timeoutMs patience firstId)).transport.request r) (some s) net
      ended.1.stage.result (some { s with link := ended.1.link, nextId := s.nextId + 1 })
      ended.2 := by
  intro ended
  refine .bind .get ?_
  simp only [isOpen, if_true]
  exact .bind (.lift (acts_converse s r)) (.bind (.set _) (.pure _))

theorem runs_release (s : Session) (isOpen : s.isOpen = true) :
    Runs (site (worldSetup timeoutMs patience firstId)).transport.release (some s) net
      (.ok ()) (some { s with isOpen := false }) net.detach := by
  have detached : Acts World.wire.detach net () net.detach := .onNetwork Simulation.wire.detach
  refine .bind .get ?_
  simp only [isOpen, if_true]
  refine .bind (.set _) ?_
  refine .bind (.lift detached) ?_
  exact .bind (runs_log (.closed s.peer)) (.pure _)

theorem runs_close (s : Session) (isOpen : s.isOpen = true) :
    Runs (Transport.Guard.holding.close (site (worldSetup timeoutMs patience firstId))) (some s) net
      (.ok ()) (some { s with isOpen := false }) net.detach :=
  .bind (.bind (runs_log .releasing) (runs_release s isOpen)) (.bind (.pure ()) (.pure _))

theorem runs_judge (reply : Except Transport.Fault Transport.Response) :
    Runs (Exchange.judge (site (worldSetup timeoutMs patience firstId)) reply) session net
      (Exchange.verdict reply) session net := by
  cases reply with
  | ok response => exact .bind (runs_logs _) (.pure _)
  | error cause => exact .bind (runs_log _) (.pure _)

theorem runs_settle (o : Outcome) :
    Runs (Exchange.settle (site (worldSetup timeoutMs patience firstId)) o (.ok ())) session net o
      session net :=
  .bind (runs_log _) (.pure _)

/-- An exchange through an open session ends as its delivery does: without an outcome if that was
abandoned, and with the outcome of its reply otherwise. -/
theorem runs_converse (s : Session) (isOpen : s.isOpen = true) (r : Transport.Request) :
    let ended := deliver ⟨s.peer, timeoutMs, net.now + timeoutMs, patience⟩
      ⟨s.link, .begin (.start (packet s.nextId r))⟩ net
    Runs (Exchange.converse (site (worldSetup timeoutMs patience firstId)) r) (some s) net
      (ended.1.stage.result.map Exchange.verdict)
      (some ⟨s.peer, false, ended.1.link, s.nextId + 1⟩) ended.2.detach := by
  intro ended
  refine .bind (runs_request s isOpen r) ?_
  match ended.1.stage.result with
  | none => exact .bind (.bind (runs_log _) (.bind (runs_release _ isOpen) (.pure _))) (.pure _)
  | some reply =>
    exact .bind (runs_judge reply) (.bind (runs_close _ isOpen) (.map some (runs_settle _)))

end

section

variable (timeoutMs : Nat) (patience : Option Nat) (firstId : UInt16) (host : String)
  (port : UInt16) (heartbeat : Heartbeat.Request)

/-- One heartbeat over UDP in a world, from a first message with any number. -/
def exchangeIn : StateM World (Option Outcome) := do
  let (o, _) ← (Exchange.run (site (worldSetup timeoutMs patience firstId)) host port
    heartbeat).run none
  pure o

/-- The delivery that the heartbeat comes down to, once its host has an address. -/
def heartbeatTerms (peer : SocketAddress) (net : Simulation) : Terms :=
  ⟨peer, timeoutMs, net.now + timeoutMs, patience⟩

def heartbeatPacket : Coap.Packet :=
  packet firstId (.post (Exchange.endpoint host port) heartbeat.encode)

theorem length_payload_heartbeatPacket :
    (heartbeatPacket firstId host port heartbeat).payload.length ≤ uploadSize :=
  Nat.le_trans heartbeat.length_encode_le (by decide)

variable {timeoutMs patience firstId host port heartbeat} {net net' net'' : Simulation}

theorem acts_exchangeIn {o : Option Outcome} {session : Option Session}
    (ran : Runs (Exchange.run (site (worldSetup timeoutMs patience firstId)) host port heartbeat)
      none net o session net') :
    Acts (exchangeIn timeoutMs patience firstId host port heartbeat) net o net' :=
  Acts.bind (f := fun r : Option Outcome × Option Session => pure r.1) ran (.pure o)

variable (timeoutMs firstId heartbeat) in
theorem acts_exchange {peer : SocketAddress}
    (reached : dial patience (Exchange.endpoint host port) net = (some (.ok peer), net')) :
    let ended := deliver (heartbeatTerms timeoutMs patience peer net')
      ⟨.sound, .begin (.start (heartbeatPacket firstId host port heartbeat))⟩ net'
    Acts (exchangeIn timeoutMs patience firstId host port heartbeat) net
      (ended.1.stage.result.map Exchange.verdict) ended.2.detach := by
  intro ended
  have opened := runs_open timeoutMs patience firstId net (Exchange.endpoint host port)
  rw [reached] at opened
  exact acts_exchangeIn
    (.bind (runs_log _) (.bind (runs_log _) (.bind opened (runs_converse _ rfl _))))

variable (timeoutMs firstId heartbeat) in
theorem acts_exchange_left
    (left : dial patience (Exchange.endpoint host port) net = (none, net')) :
    Acts (exchangeIn timeoutMs patience firstId host port heartbeat) net none net' := by
  have opened := runs_open timeoutMs patience firstId net (Exchange.endpoint host port)
  rw [left] at opened
  exact acts_exchangeIn (.bind (runs_log _) (.bind (runs_log _) (.bind opened (.pure _))))

variable (timeoutMs firstId heartbeat) in
theorem acts_exchange_failed {cause : Transport.Fault}
    (failed : dial patience (Exchange.endpoint host port) net = (some (.error cause), net')) :
    Acts (exchangeIn timeoutMs patience firstId host port heartbeat) net
      (some (.transportError ("failed to create transport context: " ++ cause.message))) net' := by
  have opened := runs_open timeoutMs patience firstId net (Exchange.endpoint host port)
  rw [failed] at opened
  exact acts_exchangeIn (.bind (runs_log _) (.bind (runs_log _)
    (.bind opened (.bind (runs_log _) (.pure _)))))

variable (timeoutMs firstId heartbeat) in
theorem acts_exchange_unreached
    (unreached : ∀ peer, (dial patience (Exchange.endpoint host port) net).1 ≠ some (.ok peer)) :
    ∃ o, Acts (exchangeIn timeoutMs patience firstId host port heartbeat) net o
        (dial patience (Exchange.endpoint host port) net).2 ∧
      ∀ o', o = some o' → o'.isTransportError = true := by
  rcases found : dial patience (Exchange.endpoint host port) net with ⟨_ | cause | peer, net'⟩
  · exact ⟨none, acts_exchange_left timeoutMs firstId heartbeat found, nofun⟩
  · refine ⟨_, acts_exchange_failed timeoutMs firstId heartbeat found, ?_⟩
    rintro o' same
    cases same
    rfl
  · exact absurd (congrArg Prod.fst found) (unreached peer)

end

end CheckIn.Udp
