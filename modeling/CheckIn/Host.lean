import CheckIn.Environment
import CheckIn.Files
import CheckIn.Udp.Session

/-! What the program needs around it. Everything it does to the outside goes through a host, so
that it runs the same on a machine and in a world that is fixed in advance. -/
namespace CheckIn

structure Host (m : Type → Type) where
  files : Files m
  wire : Net.Wire m
  untilOver : Udp.Repeater m
  log : Log.Event → m Unit
  print : String → m Unit
  /-- The time of day in hours, minutes and seconds. -/
  clock : m String
  workingDirectory : String
  environment : Environment
  /-- The home directory that the user's account has on record. -/
  accountHome : Option String
  firstMessageId : UInt16

/-- A transport over UDP whose caller waits until `patience`. -/
def Host.udp (h : Host m) (timeoutMs : Nat) (patience : Option Nat) : Udp.Setup m :=
  ⟨h.wire, h.untilOver, h.log, timeoutMs, patience, h.firstMessageId⟩

end CheckIn
