import CheckIn.Json.Number
import CheckIn.Json.Text

/-! Passing over a value whose content does not matter. Nesting is unlimited. Each function spends
one unit of fuel for at least one byte, so twice the bytes ahead suffice. -/
namespace CheckIn.Json

def colon : Reader Unit := fun c =>
  let c := c.skipBlanks
  match c.peek? with
  | none => c.fail .eofInObject
  | some b => if b = 0x3a then .ok ((), c.next) else c.failAhead .expectedColon

mutual

def skipValueWith : Nat → Reader Unit
  | 0, c => c.fail .eofInValue
  | fuel + 1, c =>
    let c := c.skipBlanks
    match c.peek? with
    | none => c.fail .eofInValue
    | some b =>
      if b = 0x6e then wordNull c.next
      else if b = 0x74 then wordTrue c.next
      else if b = 0x66 then wordFalse c.next
      else if b = 0x2d then skipNumber c.next
      else if isDigit b then skipNumber c
      else if b = 0x22 then skipString c.next
      else if b = 0x5b then
        let c := c.next.skipBlanks
        if c.seesByte 0x5d then .ok ((), c.next)
        else if c.rest.isEmpty then c.fail .eofInList
        else skipElements fuel c
      else if b = 0x7b then
        let c := c.next.skipBlanks
        if c.seesByte 0x7d then .ok ((), c.next)
        else if c.rest.isEmpty then c.fail .eofInObject
        else skipMembers fuel c
      else c.failAhead .expectedValue

def skipElements : Nat → Reader Unit
  | 0, c => c.fail .eofInList
  | fuel + 1, c => do
    let ((), c) ← skipValueWith fuel c
    let c := c.skipBlanks
    match c.peek? with
    | none => c.fail .eofInList
    | some b =>
      if b = 0x5d then .ok ((), c.next)
      else if b = 0x2c then skipElements fuel c.next
      else c.failAhead .expectedListCommaOrEnd

def skipMembers : Nat → Reader Unit
  | 0, c => c.fail .eofInObject
  | fuel + 1, c => do
    let c := c.skipBlanks
    let ((), c) ← match c.peek? with
      | none => c.fail .eofInObject
      | some b => if b = 0x22 then skipString c.next else c.failAhead .keyMustBeString
    let ((), c) ← colon c
    let ((), c) ← skipValueWith fuel c
    let c := c.skipBlanks
    match c.peek? with
    | none => c.fail .eofInObject
    | some b =>
      if b = 0x7d then .ok ((), c.next)
      else if b = 0x2c then skipMembers fuel c.next
      else c.failAhead .expectedObjectCommaOrEnd

end

def skipValue : Reader Unit := fun c => skipValueWith (2 * c.rest.length + 1) c

end CheckIn.Json
