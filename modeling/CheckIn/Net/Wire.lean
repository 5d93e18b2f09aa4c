import CheckIn.Coap.Packet
import CheckIn.Net.IoFault
import CheckIn.Net.Lookup

/-! The network and the clock as a client sees them. Time is in milliseconds from any beginning. -/
namespace CheckIn.Net

structure Wire (m : Type → Type) where
  now : m Nat
  /-- Asks the system for the address of a host that is not numeric, and waits for its verdict until
  this time at the latest if there is one. -/
  lookup : String → Option Nat → m (Option (Except String Address))
  /-- A socket of its own to talk to a peer through. -/
  attach : SocketAddress → m (Except IoFault Unit)
  detach : m Unit
  /-- A send that fails with `wouldBlock` is still under way. -/
  send : SocketAddress → Coap.Packet → m (Except IoFault Unit)
  /-- The next datagram, if one arrives by this time; else the time has come. -/
  receive : Nat → m (Option (List UInt8))

/-- Most bytes of a datagram that are looked at. -/
def datagramLimit : Nat := 1500

end CheckIn.Net
