import CheckIn.Text.ControlSequence
import CheckIn.Text.Numeral
import CheckIn.Text.Raw

/-! What a command line asks for, and why one asks for nothing: it may want to be told about the
program, or it may be wrong. -/
namespace CheckIn

structure Invocation where
  host : String
  port : UInt16
  deviceId : Option Int64
  currentFirmware : Option Int64
  timeoutSeconds : Option UInt64
  configPath : Option Text.Raw
  verbosity : Nat
  deriving DecidableEq, Repr

namespace CommandLine

/-- Arguments known by their place. -/
inductive Place where
  | host | port | deviceId | currentFirmware
  deriving DecidableEq, Repr

/-- Arguments known by a name before them. -/
inductive Named where
  | timeout | config
  deriving DecidableEq, Repr

inductive Flag where
  | verbose | help | version
  deriving DecidableEq, Repr

def Place.label : Place → String
  | .host => "<HOST>"
  | .port => "<PORT>"
  | .deviceId => "[DEVICE_ID]"
  | .currentFirmware => "[CURRENT_FIRMWARE]"

def Named.label : Named → String
  | .timeout => "--timeout <SECS>"
  | .config => "--config <PATH>"

def Flag.label : Flag → String
  | .verbose => "--verbose..."
  | .help => "--help"
  | .version => "--version"

inductive Fault where
  | missing (places : List Place)
  | invalidValue (value : Text.Raw) (label reason : String)
  | unexpectedArgument (argument : String)
  | valueRequired (argument : Named)
  | repeated (argument : Named)
  | surplusValue (value : String) (flag : Flag)
  deriving DecidableEq, Repr

/-- What the arguments themselves say is shown without its control sequences. Of a value that is no
text nothing is shown. -/
def Fault.message : Fault → String
  | .missing places =>
    "error: the following required arguments were not provided:" ++
      String.join (places.map fun p => "\n  " ++ p.label)
  | .invalidValue (.text value) label reason =>
    "error: invalid value '" ++ Text.withoutControls value ++ "' for '" ++ label ++ "': " ++ reason
  | .invalidValue (.bytes ..) .. =>
    "error: invalid UTF-8 was detected in one or more arguments"
  | .unexpectedArgument argument =>
    "error: unexpected argument '" ++ Text.withoutControls argument ++ "' found"
  | .valueRequired argument =>
    "error: a value is required for '" ++ argument.label ++ "' but none was supplied"
  | .repeated argument =>
    "error: the argument '" ++ argument.label ++ "' cannot be used multiple times"
  | .surplusValue value flag =>
    "error: unexpected value '" ++ Text.withoutControls value ++ "' for '" ++ flag.label ++
      "' found; no more were expected"

/-- Why a command line asks for no heartbeat. -/
inductive Stop where
  | help
  | version
  | fault (cause : Fault)
  deriving DecidableEq, Repr

def usageText : String :=
  "Usage: coap-heartbeat [OPTIONS] <HOST> <PORT> [DEVICE_ID] [CURRENT_FIRMWARE]\n"

def helpText : String :=
  "Send one CoAP heartbeat to an IoT management server\n\n" ++ usageText ++ "
Arguments:
  <HOST>              Server host name or IP address
  <PORT>              Server UDP port (5683 is the CoAP default)
  [DEVICE_ID]         Device identifier [default: 1001]
  [CURRENT_FIRMWARE]  Firmware version the device currently runs [default: 100]

Options:
      --timeout <SECS>  Give up if no reply arrives within this many seconds
      --config <PATH>   Config file (defaults to ~/.config/coap-heartbeat/config.json)
  -v, --verbose...      Increase log verbosity (-v info, -vv debug)
  -h, --help            Print help
  -V, --version         Print version
"

def versionText : String := "coap-heartbeat 0.1.0\n"

end CommandLine

end CheckIn
