import CheckIn.Net.Wire

/-! A network that is fixed in advance: what each datagram of the client draws and when it arrives,
which hosts have names and how long it takes to learn what they stand for, and which sockets and
sends fail. The clock stands still while anything can happen and jumps to the next arrival or to
the end of a wait. -/
namespace CheckIn.Net

structure Arrival where
  time : Nat
  datagram : List UInt8
  deriving DecidableEq, Repr

/-- What the system says of a name, and after how long. -/
structure Naming where
  delay : Nat
  verdict : Except String Address
  deriving Repr

structure Simulation where
  now : Nat
  /-- Datagrams on their way to the client, in the order of their arrival. -/
  inbox : List Arrival
  serverPort : UInt16
  /-- For each datagram still to reach the server, acknowledgements apart: delays and datagrams. -/
  replies : List (List Arrival)
  /-- For each datagram still to be sent to the server. -/
  sendFaults : List (Option IoFault)
  /-- The names that the system knows something of. -/
  names : List (String × Naming)
  /-- For each socket still to be attached. -/
  attachFaults : List (Option IoFault)
  /-- What has been sent without fault, in order. -/
  sent : List (SocketAddress × Coap.Packet)
  /-- What the client has been given, in order. -/
  heard : List Arrival
  deriving Repr

namespace Simulation

def ofReplies (serverPort : UInt16) (replies : List (List Arrival))
    (sendFaults : List (Option IoFault)) : Simulation :=
  ⟨0, [], serverPort, replies, sendFaults, [], [], [], []⟩

/-- Puts a datagram behind all that arrive no later. -/
def insert (a : Arrival) : List Arrival → List Arrival
  | [] => [a]
  | b :: bs => if b.time ≤ a.time then b :: insert a bs else a :: b :: bs

/-- The answers of the server to a datagram that has reached it. -/
def draw (s : Simulation) : Simulation :=
  match s.replies with
  | [] => s
  | reply :: replies =>
    { s with
      inbox := reply.foldl (fun inbox a => insert ⟨s.now + a.time, a.datagram⟩ inbox) s.inbox
      replies }

def record (peer : SocketAddress) (p : Coap.Packet) (s : Simulation) : Simulation :=
  { s with sent := s.sent ++ [(peer, p)] }

/-- What is sent to the server meets with the next fault if there is one. Port zero takes nothing,
and what is sent to any other port vanishes. -/
def send (peer : SocketAddress) (p : Coap.Packet) (s : Simulation) :
    Except IoFault Unit × Simulation :=
  if peer.port = 0 then (.error .invalidArgument, s)
  else if peer.port = s.serverPort then
    let rest := { s with sendFaults := s.sendFaults.drop 1 }
    match s.sendFaults.head?.join with
    | some cause => (.error cause, rest)
    | none =>
      (.ok (), if p.kind = .acknowledgement then rest.record peer p else (rest.record peer p).draw)
  else (.ok (), s.record peer p)

def receive (limit : Nat) (s : Simulation) : Option (List UInt8) × Simulation :=
  match s.inbox with
  | a :: inbox =>
    if a.time ≤ limit then
      (some a.datagram, { s with now := max s.now a.time, inbox, heard := s.heard ++ [a] })
    else (none, { s with now := max s.now limit })
  | [] => (none, { s with now := max s.now limit })

def unknownName : String := "failed to lookup address information: Name or service not known"

/-- What becomes of a question for a name: of one that is unknown the system says so at once. -/
def naming (s : Simulation) (host : String) : Naming :=
  (s.names.lookup host).getD ⟨0, .error unknownName⟩

/-- The verdict on a name, unless the asker leaves no later than it comes. -/
def lookup (host : String) (leave : Option Nat) (s : Simulation) :
    Option (Except String Address) × Simulation :=
  let answered := s.now + (s.naming host).delay
  match leave.filter (· ≤ answered) with
  | some moment => (none, { s with now := max s.now moment })
  | none => (some (s.naming host).verdict, { s with now := answered })

/-- A socket to talk through, unless there is a fault for it. -/
def attach (s : Simulation) : Except IoFault Unit × Simulation :=
  let rest := { s with attachFaults := s.attachFaults.drop 1 }
  match s.attachFaults.head?.join with
  | some cause => (.error cause, rest)
  | none => (.ok (), rest)

/-- Datagrams for a client that has gone are lost. -/
def detach (s : Simulation) : Simulation := { s with inbox := [] }

def wire : Wire (StateM Simulation) where
  now := fun s => (s.now, s)
  lookup := lookup
  attach _ := attach
  detach := fun s => ((), s.detach)
  send := send
  receive := receive

def pending (s : Simulation) : Nat := s.inbox.length + s.replies.flatten.length

/-- Steps of a request that suffice: each datagram is one, and each leads to at most one message,
which is sent and waited for at most five times and followed by one look for more. -/
def budget (s : Simulation) : Nat := 12 * (s.pending + 1)

end Simulation

/-- Repeats a step as long as there is fuel and something to do. -/
def repeatWith [Monad m] (isOver : σ → Bool) (step : σ → m σ) : Nat → σ → m σ
  | 0, x => pure x
  | fuel + 1, x => if isOver x then pure x else do repeatWith isOver step fuel (← step x)

end CheckIn.Net
