import CheckIn.Host
import CheckIn.Net.Simulation

/-! A world that is fixed in advance: files, variables, the time of day and a network. What the
program does shows in what the world is afterwards. -/
namespace CheckIn

/-- What a run changes: the network, the events logged and the text printed. -/
structure World where
  network : Net.Simulation
  events : List Log.Event
  output : String

/-- What a run finds and leaves as it is. -/
structure Surroundings where
  files : FileTree
  environment : Environment
  accountHome : Option String
  clock : String
  /-- What reading gives by a path that is no text. -/
  unnamedFile : List UInt8 → Except Net.IoFault (List UInt8) := fun _ => .error .noSuchFile

def Surroundings.fixedFiles (s : Surroundings) : FixedFiles := s.files.besides s.unnamedFile

namespace World

def ofNetwork (network : Net.Simulation) : World := ⟨network, [], ""⟩

def onNetwork (f : StateM Net.Simulation α) : StateM World α := fun w =>
  let (a, network) := f w.network
  (a, { w with network })

def log (e : Log.Event) : StateM World Unit := fun w => ((), { w with events := w.events ++ [e] })

def print (text : String) : StateM World Unit := fun w =>
  ((), { w with output := w.output ++ text })

def wire : Net.Wire (StateM World) :=
  let w := Net.Simulation.wire
  { now := onNetwork w.now
    lookup := fun host leave => onNetwork (w.lookup host leave)
    attach := fun peer => onNetwork (w.attach peer)
    detach := onNetwork w.detach
    send := fun peer p => onNetwork (w.send peer p)
    receive := fun limit => onNetwork (w.receive limit) }

/-- As many steps as the network can call for. -/
def untilOver : Udp.Repeater (StateM World) := fun step d w =>
  Net.repeatWith (·.stage.isOver) step w.network.budget d w

def host (s : Surroundings) : Host (StateM World) where
  files := s.fixedFiles.asFiles
  wire := wire
  untilOver := untilOver
  log := log
  print := print
  clock := pure s.clock
  workingDirectory := "/" ++ "/".intercalate s.files.workingDirectory
  environment := s.environment
  accountHome := s.accountHome
  firstMessageId := 0

/-- A transport over UDP in this world. -/
def udp (timeoutMs : Nat) (patience : Option Nat) : Udp.Setup (StateM World) :=
  ⟨wire, untilOver, log, timeoutMs, patience, 0⟩

end World

end CheckIn
