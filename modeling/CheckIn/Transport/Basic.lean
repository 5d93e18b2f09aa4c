import CheckIn.Coap.Code
import CheckIn.Endpoint
import CheckIn.Net.IoFault

/-! What a transport carries: a request to an endpoint, a response of any code, or a fault. A
transport is given by three operations in a monad. An operation that gives nothing has not come
to an end before the caller lost patience; releasing never waits. -/
namespace CheckIn.Transport

structure Request where
  method : Coap.Method
  endpoint : Endpoint
  payload : List UInt8
  deriving DecidableEq, Repr

def Request.post (endpoint : Endpoint) (payload : List UInt8) : Request :=
  ⟨.post, endpoint, payload⟩

structure Response where
  code : Coap.Code
  payload : List UInt8
  deriving DecidableEq, Repr

inductive Fault where
  | resolve (host reason : String)
  | socket (cause : Net.IoFault)
  | timeout (text : String)
  | malformed (text : String)
  | closed
  deriving DecidableEq, Repr

def Fault.message : Fault → String
  | .resolve host reason => "failed to resolve " ++ host ++ ": " ++ reason
  | .socket cause => "socket error: " ++ cause.message
  | .timeout text => "timed out: " ++ text
  | .malformed text => "malformed message: " ++ text
  | .closed => "transport context already released"

end CheckIn.Transport

namespace CheckIn

/-- One context at a time: opened, used and released. -/
structure Transport (m : Type → Type) where
  openContext : Endpoint → m (Option (Except Transport.Fault Unit))
  request : Transport.Request → m (Option (Except Transport.Fault Transport.Response))
  release : m (Except Transport.Fault Unit)

end CheckIn
