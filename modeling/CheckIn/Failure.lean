import CheckIn.Json.Cursor
import CheckIn.Transport.Basic

/-! Everything that can go wrong, layer by layer. A failure has one text, and a chain of causes
below it that ends where a layer has nothing more to say. -/
namespace CheckIn

namespace Heartbeat

inductive CodecFault where
  | encoding (reason : String)
  | decoding (reason : String)
  deriving DecidableEq, Repr

def CodecFault.message : CodecFault → String
  | encoding reason => "encoding failed: " ++ reason
  | decoding reason => "decoding failed: " ++ reason

end Heartbeat

inductive Failure where
  | configuration (reason : String)
  | io (cause : Net.IoFault)
  | json (cause : Json.Fault)
  | codec (cause : Heartbeat.CodecFault)
  | transport (cause : Transport.Fault)
  deriving Repr

namespace Failure

def message : Failure → String
  | configuration reason => "Configuration error: " ++ reason
  | io cause => "IO error: " ++ cause.message
  | json cause => "JSON error: " ++ cause.message
  | codec cause => "Heartbeat codec error: " ++ cause.message
  | transport cause => "Transport error: " ++ cause.message

/-- The texts of the causes, outermost first. -/
def causes : Failure → List String
  | configuration _ => []
  | io cause => [cause.message]
  | json cause => [cause.message]
  | codec cause => [cause.message]
  | transport (.socket cause) => [(Transport.Fault.socket cause).message, cause.message]
  | transport cause => [cause.message]

end Failure

end CheckIn
