import CheckIn.Net.SystemText

/-! Faults of the operating system and of the sockets above it. -/
namespace CheckIn.Net

inductive IoKind where
  | notFound | permissionDenied | connectionRefused | connectionReset | addrInUse | brokenPipe
  | wouldBlock | invalidInput | invalidData | timedOut | interrupted | unexpectedEof | other
  deriving DecidableEq, Repr

def IoKind.text : IoKind → String
  | .notFound => "entity not found"
  | .permissionDenied => "permission denied"
  | .connectionRefused => "connection refused"
  | .connectionReset => "connection reset"
  | .addrInUse => "address in use"
  | .brokenPipe => "broken pipe"
  | .wouldBlock => "operation would block"
  | .invalidInput => "invalid input parameter"
  | .invalidData => "invalid data"
  | .timedOut => "timed out"
  | .interrupted => "operation interrupted"
  | .unexpectedEof => "unexpected end of file"
  | .other => "other error"

/-- A fault is an error number of the system, a bare kind, or a kind with a text of its own. -/
inductive IoFault where
  | os (number : Int)
  | bare (kind : IoKind)
  | custom (kind : IoKind) (text : String)
  deriving DecidableEq, Repr

def systemKind : Nat → IoKind
  | 1 | 13 => .permissionDenied
  | 2 => .notFound
  | 4 => .interrupted
  | 11 => .wouldBlock
  | 22 => .invalidInput
  | 32 => .brokenPipe
  | 98 => .addrInUse
  | 104 => .connectionReset
  | 110 => .timedOut
  | 111 => .connectionRefused
  | _ => .other

namespace IoFault

def noSuchFile : IoFault := .os 2
def notDirectory : IoFault := .os 20
def isDirectory : IoFault := .os 21
def invalidArgument : IoFault := .os 22
def nameTooLong : IoFault := .os 36
def nulInName : IoFault := .custom .invalidInput "file name contained an unexpected NUL byte"
def notUtf8 : IoFault := .custom .invalidData "stream did not contain valid UTF-8"

def kind : IoFault → IoKind
  | .os n => systemKind n.toNat
  | .bare k => k
  | .custom k _ => k

def message : IoFault → String
  | .os n => systemText n ++ " (os error " ++ toString n ++ ")"
  | .bare k => k.text
  | .custom _ text => text

end IoFault

end CheckIn.Net
