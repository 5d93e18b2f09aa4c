import CheckIn.Host
import Std.Async.DNS
import Std.Async.Timer
import Std.Async.UDP
import Std.Time

/-! The host that a real machine is. Nothing is decided here: every function does one thing to the
outside and hands its result or its fault on. -/
namespace CheckIn.Machine

open Std.Async

/-- The fault behind an error that the system reports. -/
def ioFault : IO.Error → Net.IoFault
  | .alreadyExists _ n _ | .otherError n _ | .resourceBusy n _ | .resourceVanished n _
  | .unsupportedOperation n _ | .hardwareFault n _ | .unsatisfiedConstraints n _
  | .illegalOperation n _ | .protocolError n _ | .timeExpired n _ | .interrupted _ n _
  | .noFileOrDirectory _ n _ | .invalidArgument _ n _ | .permissionDenied _ n _
  | .resourceExhausted _ n _ | .inappropriateType _ n _ | .noSuchThing _ n _ =>
    -- Some parts of the system report the number negated.
    .os (if n.toNat < 0x80000000 then n.toNat else 0x100000000 - n.toNat)
  | e => .custom .other (toString e)

def attempt (act : IO α) : IO (Except Net.IoFault α) := do
  try
    return .ok (← act)
  catch e =>
    return .error (ioFault e)

def read (path : String) : IO (Except Net.IoFault (List UInt8)) :=
  attempt do return (← IO.FS.readBinFile path).toList

/-- A file by a path that is no text cannot be opened here. -/
def readRaw : Text.Raw → IO (Except Net.IoFault (List UInt8))
  | .text path => read path
  | .bytes .. => return .error .noSuchFile

def files : Files IO := ⟨fun path => isReached <$> readRaw path, readRaw⟩

def systemAddress : Net.Address → Std.Net.IPAddr
  | .v4 a => .v4 (.ofParts a.a a.b a.c a.d)
  | .v6 a =>
    let g (i : Nat) := a.groups.getD i 0
    .v6 (.ofParts (g 0) (g 1) (g 2) (g 3) (g 4) (g 5) (g 6) (g 7))

def socketAddress (address : Std.Net.IPAddr) (port : UInt16) : Std.Net.SocketAddress :=
  match address with
  | .v4 addr => .v4 ⟨addr, port⟩
  | .v6 addr => .v6 ⟨addr, port⟩

def systemPeer (s : Net.SocketAddress) : Std.Net.SocketAddress :=
  socketAddress (systemAddress s.address) s.port

def address? (a : Std.Net.IPAddr) : Option Net.Address := Net.Address.parse? a.toString.toList

/-- Any local address of a peer's family, with any free port. -/
def anyAddress : Net.Address → Std.Net.SocketAddress
  | .v4 _ => socketAddress (.v4 (.ofParts 0 0 0 0)) 0
  | .v6 _ => socketAddress (.v6 (.ofParts 0 0 0 0 0 0 0 0)) 0

def lookup (host : String) (leave : Option Nat) : IO (Option (Except String Net.Address)) := do
  let failed (reason : String) : Option (Except String Net.Address) :=
    some (.error ("failed to lookup address information: " ++ reason))
  let question : Async (Option (Except String Net.Address)) := do
    try
      let found ← DNS.getAddrInfo host ""
      match found.toList.filterMap address? with
      | a :: _ => return some (.ok a)
      | [] => return failed "Name or service not known"
    catch e =>
      return failed (toString e)
  match leave with
  | none => question.block
  | some moment =>
    let wait := moment - (← IO.monoMsNow)
    let timer : Async (Option (Except String Net.Address)) := do
      sleep (Std.Time.Millisecond.Offset.ofNat wait)
      return none
    (Async.race question timer).block

abbrev SocketCell := IO.Ref (Option UDP.Socket)

def attach (cell : SocketCell) (peer : Net.SocketAddress) : IO (Except Net.IoFault Unit) :=
  attempt do
    let socket ← UDP.Socket.mk
    socket.bind (anyAddress peer.address)
    cell.set (some socket)

def withSocket (cell : SocketCell) (absent : α) (act : UDP.Socket → IO α) : IO α := do
  match ← cell.get with
  | some socket => act socket
  | none => return absent

def send (cell : SocketCell) (peer : Net.SocketAddress) (p : Coap.Packet) :
    IO (Except Net.IoFault Unit) :=
  withSocket cell (.error (.os 9)) fun socket => attempt do
    (socket.send ⟨p.encode.toArray⟩ (some (systemPeer peer))).block

def receive (cell : SocketCell) (limit : Nat) : IO (Option (List UInt8)) :=
  withSocket cell none fun socket => do
    let wait := limit - (← IO.monoMsNow)
    let datagram : Async (Option (List UInt8)) := do
      let timer ← Selector.sleep (Std.Time.Millisecond.Offset.ofNat wait)
      Selectable.one #[
        .case (socket.recvSelector Net.datagramLimit.toUInt64) fun r => return some r.1.toList,
        .case timer fun _ => return none]
    datagram.block

def wire (cell : SocketCell) : Net.Wire IO where
  now := IO.monoMsNow
  lookup := lookup
  attach := attach cell
  detach := cell.set none
  send := send cell
  receive := receive cell

partial def untilOver : Udp.Repeater IO := fun step d => do
  if d.stage.isOver then return d else untilOver step (← step d)

/-- The variables of this process, which the system shows as a file. -/
def environment : IO Environment := do
  let bytes ← match ← read "/proc/self/environ" with
    | .ok bs => pure bs
    | .error _ => pure []
  let entries := bytes.splitOn 0
  return ⟨entries.filterMap fun entry =>
    let name := entry.takeWhile (· != 0x3d)
    if name.length = entry.length then none
    else some (String.ofList (Text.Utf8.lossy name), entry.drop (name.length + 1))⟩

/-- The arguments of this process after its name, which the system shows as a file; if it does not,
then as they are given. -/
def arguments (given : List String) : IO (List Text.Raw) := do
  match ← read "/proc/self/cmdline" with
  | .ok bs =>
    let entries := bs.splitOn 0
    return (entries.dropLast.drop 1).map .ofBytes
  | .error _ => return given.map .text

def clock : IO String := do
  return (← Std.Time.PlainTime.now).format "HH:mm:ss"

def log (e : Log.Event) : IO Unit := do
  let time := (← Std.Time.PlainDateTime.now).format "uuuu-MM-dd HH:mm:ss"
  IO.eprintln (time ++ " " ++ e.line)

def print (text : String) : IO Unit := do
  let out ← IO.getStdout
  out.putStr text
  out.flush

def host : IO (Host IO) := do
  let cell ← IO.mkRef none
  return {
    files := files
    wire := wire cell
    untilOver := untilOver
    log := log
    print := print
    clock := clock
    workingDirectory := toString (← IO.currentDir)
    environment := ← environment
    accountHome := none
    firstMessageId := UInt16.ofNat (← IO.rand 0 65535) }

end CheckIn.Machine
