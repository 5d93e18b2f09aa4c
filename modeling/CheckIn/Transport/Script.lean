import CheckIn.Transport.Guard

/-! A transport whose behaviour is laid down in advance and which records what is done with it. As
any behaviour can be laid down, what holds over all scripts holds over all transports. -/
namespace CheckIn.Transport

/-- An answer that is absent never comes. -/
structure Script where
  opening : Option (Except Fault Unit)
  /-- Taken in order; a request beyond them finds the context closed. -/
  replies : List (Option (Except Fault Response))
  release : Except Fault Unit

/-- What is done with a transport. -/
inductive Act where
  | opened (endpoint : Endpoint)
  | requested (request : Request)
  | released
  deriving DecidableEq, Repr

def Act.isRelease (a : Act) : Bool := a == .released

/-- Acts and events in order, and the part of the script that is still ahead. -/
structure Stage where
  ahead : Script
  acts : List Act
  events : List Log.Event

namespace Stage

def ofScript (s : Script) : Stage := ⟨s, [], []⟩

def act (a : Act) (s : Stage) : Stage := { s with acts := s.acts ++ [a] }

def releases (s : Stage) : Nat := s.acts.countP Act.isRelease

def transport : Transport (StateM Stage) where
  openContext e := fun s => (s.ahead.opening, s.act (.opened e))
  request r := fun s =>
    match s.ahead.replies with
    | [] => (some (.error .closed), s.act (.requested r))
    | reply :: replies =>
      (reply, { s.act (.requested r) with ahead := { s.ahead with replies } })
  release := fun s => (s.ahead.release, s.act .released)

def site : Site (StateM Stage) where
  transport := transport
  log e := fun s => ((), { s with events := s.events ++ [e] })

end Stage

end CheckIn.Transport
