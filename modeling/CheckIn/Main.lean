import CheckIn.Machine
import CheckIn.Program

/-! The command line program. -/

def main (arguments : List String) : IO UInt32 := do
  let given ← CheckIn.Machine.arguments arguments
  let ending ← CheckIn.Program.process (← CheckIn.Machine.host) given
  IO.eprint ending.complaint
  return UInt32.ofNat ending.status
