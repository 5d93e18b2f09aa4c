import CheckIn.Text.Utf8

/-! Variables of a process. A value is any bytes; where text is wanted, a value that is no text
counts as absent. -/
namespace CheckIn

structure Environment where
  entries : List (String × List UInt8)
  deriving DecidableEq, Repr

namespace Environment

def value? (env : Environment) (name : String) : Option (List UInt8) := env.entries.lookup name

def text? (env : Environment) (name : String) : Option String :=
  (env.value? name).bind fun bs => (Text.Utf8.decode? bs).map String.ofList

def set (env : Environment) (name : String) (value : List UInt8) : Environment :=
  ⟨(name, value) :: env.entries.filter (·.1 != name)⟩

/-- Sets a variable, unless it is set to a text. -/
def adopt (env : Environment) (name : String) (value : List Char) : Environment :=
  if (env.text? name).isSome then env else env.set name (Text.Utf8.encode value)

def setText (env : Environment) (name value : String) : Environment :=
  env.set name (Text.Utf8.ofString value)

end Environment

end CheckIn
