import CheckIn.Log.Event

/-! The holder of an opened context. Closing empties it and reports a failed release; leaving it
while it still holds the context releases as well, but only logs a failure. A closed guard is left
empty, and an empty guard releases nothing. -/
namespace CheckIn.Transport

inductive Guard where
  | holding | empty
  deriving DecidableEq, Repr

/-- A transport and the place where its users log. -/
structure Site (m : Type → Type) where
  transport : Transport m
  log : Log.Event → m Unit

namespace Guard

variable {m : Type → Type} [Monad m] (site : Site m)

def request (r : Request) : Guard → m (Option (Except Fault Response))
  | holding => site.transport.request r
  | empty => pure (some (.error .closed))

/-- Leaving the guard. What it still holds is released, and a failure is only logged. -/
def drop : Guard → m Unit
  | holding => do
    site.log .releasingEarly
    match ← site.transport.release with
    | .ok () => pure ()
    | .error cause => site.log (.earlyReleaseFailed cause)
  | empty => pure ()

def releaseHeld : Guard → m (Except Fault Unit)
  | holding => do
    site.log .releasing
    site.transport.release
  | empty => pure (.ok ())

/-- The release, if there is something to release. The context is moved out of the guard first,
so that leaving finds it empty whatever became of the release. -/
def close (g : Guard) : m (Except Fault Unit) := do
  let result ← g.releaseHeld site
  empty.drop site
  pure result

end Guard

end CheckIn.Transport
