import CheckIn.Text.Numeral

/-! CoAP codes: three bits of class and five of detail in one byte. Classes 2 to 5 are responses,
and some of them are registered under a name. -/
namespace CheckIn.Coap

structure Code where
  raw : UInt8
  deriving DecidableEq, Repr

namespace Code

/-- Surplus bits of the class and of the detail are dropped. -/
def ofParts (cls detail : UInt8) : Code := ⟨(cls &&& 0x07) <<< 5 ||| (detail &&& 0x1f)⟩

def cls (c : Code) : UInt8 := c.raw >>> 5
def detail (c : Code) : UInt8 := c.raw &&& 0x1f

/-- 2.05, the one code whose body is an answer to a heartbeat. -/
def content : Code := ofParts 2 5

def isContent (c : Code) : Bool := c == content
def isResponse (c : Code) : Bool := 2 ≤ c.cls && c.cls ≤ 5

/-- Registered response codes by raw byte. -/
def registry : List (UInt8 × String) := [
  (0x41, "Created"), (0x42, "Deleted"), (0x43, "Valid"), (0x44, "Changed"), (0x45, "Content"),
  (0x5f, "Continue"), (0x80, "Bad Request"), (0x81, "Unauthorized"), (0x82, "Bad Option"),
  (0x83, "Forbidden"), (0x84, "Not Found"), (0x85, "Method Not Allowed"),
  (0x86, "Not Acceptable"), (0x88, "Request Entity Incomplete"), (0x89, "Conflict"),
  (0x8c, "Precondition Failed"), (0x8d, "Request Entity Too Large"),
  (0x8f, "Unsupported Content Format"), (0x96, "Unprocessable Entity"),
  (0x9d, "Too Many Requests"), (0xa0, "Internal Server Error"), (0xa1, "Not Implemented"),
  (0xa2, "Bad Gateway"), (0xa3, "Service Unavailable"), (0xa4, "Gateway Timeout"),
  (0xa5, "Proxying Not Supported"), (0xa8, "Hop Limit Reached")]

def name? (c : Code) : Option String := registry.lookup c.raw
def isRegistered (c : Code) : Bool := c.name?.isSome

/-- `c.dd`, with the name where there is one. -/
def display (c : Code) : String :=
  let number := toString c.cls.toNat ++ "." ++ Text.Numeral.twoDigits c.detail.toNat
  match c.name? with
  | some name => number ++ " " ++ name
  | none => number

end Code

/-- Request methods; `unknown` is the code that no method has. -/
inductive Method where
  | get | post | put | delete | fetch | patch | ipatch | unknown
  deriving DecidableEq, Repr

def Method.code : Method → UInt8
  | .get => 1
  | .post => 2
  | .put => 3
  | .delete => 4
  | .fetch => 5
  | .patch => 6
  | .ipatch => 7
  | .unknown => 0xff

def Method.name : Method → String
  | .get => "Get"
  | .post => "Post"
  | .put => "Put"
  | .delete => "Delete"
  | .fetch => "Fetch"
  | .patch => "Patch"
  | .ipatch => "IPatch"
  | .unknown => "UnKnown"

end CheckIn.Coap
