import CheckIn.Log.Event
import CheckIn.Transport.Guard
import CheckIn.Udp.Client

/-! A transport over UDP. A session can be used until it is released; afterwards every request and
every further release finds it closed and sends nothing. -/
namespace CheckIn.Udp

open Net

structure Session where
  peer : SocketAddress
  isOpen : Bool
  link : Link
  nextId : UInt16
  deriving DecidableEq, Repr

/-- Repeats a step on a delivery until its stage is over. -/
abbrev Repeater (m : Type → Type) := (Delivery → m Delivery) → Delivery → m Delivery

/-- What a transport is set up with. -/
structure Setup (m : Type → Type) where
  wire : Wire m
  untilOver : Repeater m
  log : Log.Event → m Unit
  timeoutMs : Nat
  patience : Option Nat
  firstId : UInt16

/-- The verdict on a host that the system is not asked about. -/
def settled? (host : List Char) : Option (Except String Address) :=
  if host.contains '\x00' then some (.error IoFault.nulInName.message)
  else (numeric? host).map .ok

variable {m : Type → Type} [Monad m] (setup : Setup m)

/-- The verdict on a host that is no literal. Even one for which nobody has to be asked comes too
late for a caller without patience. -/
def addressOf (host : List Char) : m (Option (Except String Address)) := do
  match settled? host with
  | some verdict =>
    let now ← setup.wire.now
    pure (if setup.patience.any (· ≤ now) then none else some verdict)
  | none => setup.wire.lookup (String.ofList host) setup.patience

/-- The address of an endpoint. A literal is taken as it is; any other host takes its time. -/
def resolve (e : Endpoint) : m (Option (Except Transport.Fault SocketAddress)) := do
  match e.literal? with
  | some address => pure (some (.ok ⟨address, e.port⟩))
  | none => match ← addressOf setup e.bareHost with
    | none => pure none
    | some (.error reason) => pure (some (.error (.resolve e.host reason)))
    | some (.ok address) => pure (some (.ok ⟨address, e.port⟩))

def attach : Option (Except Transport.Fault SocketAddress) →
    m (Option (Except Transport.Fault SocketAddress))
  | some (.ok peer) => do
    match ← setup.wire.attach peer with
    | .ok () => pure (some (.ok peer))
    | .error cause => pure (some (.error (.socket cause)))
  | other => pure other

def connect (e : Endpoint) : m (Option (Except Transport.Fault SocketAddress)) := do
  attach setup (← resolve setup e)

abbrev SessionM (m : Type → Type) := StateT (Option Session) m

def openSession (e : Endpoint) : SessionM m (Option (Except Transport.Fault Unit)) := do
  match ← StateT.lift (connect setup e) with
  | none => pure none
  | some (.error cause) => pure (some (.error cause))
  | some (.ok peer) => do
    setup.log (.opened peer)
    set (some (Session.mk peer true .sound setup.firstId))
    pure (some (.ok ()))

/-- A request through an open session, and what its socket is good for afterwards. -/
def converse (s : Session) (r : Transport.Request) :
    m (Link × Option (Except Transport.Fault Transport.Response)) := do
  setup.log (.requesting r.method r.endpoint.uri s.peer r.payload.length)
  let now ← setup.wire.now
  let terms : Terms := ⟨s.peer, setup.timeoutMs, now + setup.timeoutMs, setup.patience⟩
  let d ← setup.untilOver (Delivery.step setup.wire terms)
    ⟨s.link, .begin (.start (packet s.nextId r))⟩
  match d.stage.result with
  | some (.ok response) => do
    setup.log (.received response.code response.payload.length)
    pure (d.link, some (.ok response))
  | result => pure (d.link, result)

def request (r : Transport.Request) :
    SessionM m (Option (Except Transport.Fault Transport.Response)) := do
  match ← get with
  | some s =>
    if s.isOpen then
      let (link, result) ← StateT.lift (converse setup s r)
      set (some { s with link, nextId := s.nextId + 1 })
      pure result
    else pure (some (.error .closed))
  | none => pure (some (.error .closed))

def release : SessionM m (Except Transport.Fault Unit) := do
  match ← get with
  | some s =>
    if s.isOpen then
      set (some { s with isOpen := false })
      setup.wire.detach
      setup.log (.closed s.peer)
      pure (.ok ())
    else pure (.error .closed)
  | none => pure (.error .closed)

def transport : Transport (SessionM m) := ⟨openSession setup, request setup, release setup⟩

def site : Transport.Site (SessionM m) where
  transport := transport setup
  log e := setup.log e

end CheckIn.Udp
