import CheckIn.Net.Address

/-! Targets of requests: a host as the user wrote it, a port and a path without leading slash. -/
namespace CheckIn

structure Endpoint where
  host : String
  port : UInt16
  path : String
  deriving DecidableEq, Repr

namespace Endpoint

/-- Slashes before the path are dropped. -/
def make (host : String) (port : UInt16) (path : String) : Endpoint :=
  ⟨host, port, String.ofList (Text.dropLeading '/' path.toList)⟩

/-- The host as it stands in the URI: one that holds a colon goes into brackets, unless it begins
with one. -/
def uriHost (e : Endpoint) : String :=
  let cs := e.host.toList
  if cs.contains ':' ∧ cs.head? ≠ some '[' then "[" ++ e.host ++ "]" else e.host

def uri (e : Endpoint) : String :=
  "coap://" ++ e.uriHost ++ ":" ++ toString e.port.toNat ++ "/" ++ e.path

/-- The host without the brackets around it. -/
def bareHost (e : Endpoint) : List Char :=
  Text.dropTrailing ']' (Text.dropLeading '[' e.host.toList)

/-- The address that the host spells, if it spells one. -/
def literal? (e : Endpoint) : Option Net.Address := Net.Address.parse? e.bareHost

def isLiteral (e : Endpoint) : Bool := e.literal?.isSome

end Endpoint

end CheckIn
