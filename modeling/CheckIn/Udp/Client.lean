import CheckIn.Decimal.Layout
import CheckIn.Net.Wire
import CheckIn.Udp.Transfer

/-! Delivery of the messages of a transfer. A message is sent up to five times, each time with two
seconds to be answered; one that cannot be sent is tried again at once. The whole request has a
bound of its own, and its caller may lose patience before. What has arrived when an answer comes is
read before anything else is sent, and answers nothing that is sent later. -/
namespace CheckIn.Udp

open Coap Net

/-- Times a message is sent again after the first. -/
def repeats : Nat := 4

/-- Milliseconds to wait for an answer. -/
def answerTime : Nat := 2000

/-- Whom a request goes to, how long it may take, and the moments when its time and its caller's
patience are over. -/
structure Terms where
  peer : SocketAddress
  timeoutMs : Nat
  bound : Nat
  patience : Option Nat
  deriving DecidableEq, Repr

def Terms.outOfPatience (terms : Terms) (now : Nat) : Bool := terms.patience.any (· ≤ now)

/-- The first moment at which something ends, if nothing comes in before `until`. -/
def Terms.horizon (terms : Terms) (limit : Nat) : Nat :=
  match terms.patience with
  | some p => min (min limit terms.bound) p
  | none => min limit terms.bound

/-- What a socket is still good for. It is deaf once an acknowledgement could not be sent, and stuck
once a send blocks: it does not get ready again, and nothing is received behind that send. -/
inductive Link where
  | sound | deaf | stuck
  deriving DecidableEq, Repr

/-- Where a request stands. `spare` counts the times that its message may be sent again. -/
inductive Stage where
  | sending (t : Transfer) (spare : Nat)
  | waiting (t : Transfer) (spare limit : Nat)
  /-- The answer has come, and what else has arrived is read first. -/
  | clearing (next : Step)
  /-- The message is never sent, and only time can end the request. -/
  | blocked
  | done (r : Transport.Response)
  | failed (cause : Transport.Fault)
  | abandoned
  deriving Repr

def Stage.isOver : Stage → Bool
  | done _ | failed _ | abandoned => true
  | _ => false

structure Delivery where
  link : Link
  stage : Stage
  deriving Repr

/-- Faults of a socket that mean silence count as timeouts. -/
def ofIoFault (f : IoFault) : Transport.Fault :=
  match f.kind with
  | .timedOut | .wouldBlock => .timeout f.message
  | _ => .socket f

def silence : IoFault := .custom .timedOut "send timeout"

def transferFault (f : TransferFault) : Transport.Fault := .socket (.custom .other f.message)

/-- Seconds in single precision: whole seconds and the fraction are rounded before they are
added. -/
def secondsText (ms : Nat) : String :=
  let f := Decimal.binary32
  f.layout .plain (f.sum (f.nearest (ms / 1000) 1)
    (f.quotient (f.nearest (ms % 1000 * 1000000) 1) (f.nearest 1000000000 1)))

def Terms.expired (terms : Terms) : Transport.Fault :=
  .timeout ("no response within " ++ secondsText terms.timeoutMs ++ "s")

/-- The stage in which a message is first sent. -/
def Stage.begin (t : Transfer) : Stage :=
  if Packet.sizeLimit < t.message.encode.length then failed (transferFault .tooLong)
  else sending t repeats

/-- After a message has been sent in vain. -/
def Stage.retry (t : Transfer) (cause : IoFault) : Nat → Stage
  | 0 => failed (ofIoFault cause)
  | spare + 1 => sending t spare

/-- Whether a datagram answers a message: its code is a registered response and its token the
message's. Neither its kind nor its id counts. -/
def answers (message reply : Packet) : Bool :=
  reply.code.isRegistered && reply.token == message.token

/-- A confirmable response is acknowledged, whosever it is. -/
def wantsAcknowledgement (reply : Packet) : Bool :=
  reply.kind == .confirmable && reply.code.isRegistered

def Stage.ofStep : Step → Stage
  | .send t => begin t
  | .finish r => done r
  | .fail cause => failed (transferFault cause)

/-- After a packet has come in. -/
def Stage.hear (t : Transfer) (spare limit : Nat) (reply : Packet) : Stage :=
  if answers t.message reply then clearing (t.take reply) else waiting t spare limit

/-- At a moment when the time or the caller's patience is over. -/
def Stage.overdue (terms : Terms) (moment : Nat) : Stage :=
  if terms.bound ≤ moment then failed terms.expired else abandoned

/-- After nothing has come in by the horizon. -/
def Stage.expire (terms : Terms) (t : Transfer) (spare limit : Nat) : Stage :=
  let moment := terms.horizon limit
  if limit ≤ moment then retry t silence spare else overdue terms moment

/-- After a send has failed: the socket that is otherwise `link` is stuck if the send blocks. -/
def Link.after (cause : IoFault) (link : Link) : Link :=
  if cause.kind = .wouldBlock then .stuck else link

variable {m : Type → Type} [Monad m] (wire : Wire m)

/-- Sends a message, unless the time for it is over. -/
def sendStep (terms : Terms) (link : Link) (t : Transfer) (spare : Nat) : m Delivery := do
  let now ← wire.now
  if terms.bound ≤ now then pure ⟨link, .failed terms.expired⟩
  else if terms.outOfPatience now then pure ⟨link, .abandoned⟩
  else if link = .stuck then pure ⟨link, .blocked⟩
  else match ← wire.send terms.peer t.message with
    | .ok () => pure ⟨link, .waiting t spare (now + answerTime)⟩
    | .error cause => match link.after cause with
      | .stuck => pure ⟨.stuck, .blocked⟩
      | link => pure ⟨link, .retry t cause spare⟩

/-- The packet that a datagram is, if the socket hears it. One that wants an acknowledgement is lost
if that cannot be sent. -/
def hearken (peer : SocketAddress) (datagram : List UInt8) (link : Link) :
    m (Link × Option Packet) :=
  match link, Packet.parse? (datagram.take datagramLimit) with
  | .sound, some reply => do
    if wantsAcknowledgement reply then
      match ← wire.send peer (.acknowledge reply.messageId) with
      | .ok () => pure (.sound, some reply)
      | .error cause => pure (.after cause .deaf, none)
    else pure (.sound, some reply)
  | link, _ => pure (link, none)

/-- Waits for a datagram. -/
def receiveStep (terms : Terms) (link : Link) (t : Transfer) (spare limit : Nat) :
    m Delivery := do
  match ← wire.receive (terms.horizon limit) with
  | none => pure ⟨link, .expire terms t spare limit⟩
  | some datagram => match ← hearken wire terms.peer datagram link with
    | (link, none) => pure ⟨link, .waiting t spare limit⟩
    | (link, some reply) => pure ⟨link, .hear t spare limit reply⟩

/-- Reads a datagram that has already arrived. -/
def clearStep (terms : Terms) (link : Link) (next : Step) : m Delivery := do
  match ← wire.receive (← wire.now) with
  | none => pure ⟨link, .ofStep next⟩
  | some datagram => do
    let (link, _) ← hearken wire terms.peer datagram link
    pure ⟨link, .clearing next⟩

/-- Lets the time pass. -/
def blockedStep (terms : Terms) (link : Link) : m Delivery := do
  let moment := terms.horizon terms.bound
  match ← wire.receive moment with
  | none => pure ⟨link, .overdue terms moment⟩
  | some _ => pure ⟨link, .blocked⟩

def Delivery.step (terms : Terms) (d : Delivery) : m Delivery :=
  match d.stage with
  | .sending t spare => sendStep wire terms d.link t spare
  | .waiting t spare limit => receiveStep wire terms d.link t spare limit
  | .clearing next => clearStep wire terms d.link next
  | .blocked => blockedStep wire terms d.link
  | _ => pure d

def Stage.result : Stage → Option (Except Transport.Fault Transport.Response)
  | done r => some (.ok r)
  | failed cause => some (.error cause)
  | _ => none

end CheckIn.Udp
