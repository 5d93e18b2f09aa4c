import CheckIn.Exchange

/-! Exchanges through two sites that answer alike come to the same. What it is to be alike is any
relation between computations that results and sequences respect: it may forget what a site notes
on the way, or where its state is kept. -/
namespace CheckIn

/-- A relation between the computations of two monads that results and sequences respect. -/
structure MonadRelation (m n : Type → Type) [Monad m] [Monad n] where
  Holds : {α : Type} → m α → n α → Prop
  pure : {α : Type} → (a : α) → Holds (Pure.pure a) (Pure.pure a)
  bind : {α β : Type} → {x : m α} → {y : n α} → {f : α → m β} → {g : α → n β} →
    Holds x y → (∀ a, Holds (f a) (g a)) → Holds (x >>= f) (y >>= g)

open Transport

namespace MonadRelation

variable {m n : Type → Type} [Monad m] [Monad n]

/-- The same relation between computations that have a state of one kind beside them. -/
def withState (R : MonadRelation m n) (σ : Type) : MonadRelation (StateT σ m) (StateT σ n) where
  Holds x y := ∀ s, R.Holds (x s) (y s)
  pure a s := R.pure (a, s)
  bind first second s := R.bind (first s) fun r => second r.1 r.2

section

variable (R : MonadRelation m n) {σ : Type}

theorem lift {x : m α} {y : n α} (h : R.Holds x y) :
    (R.withState σ).Holds (StateT.lift x) (StateT.lift y) := by
  intro s
  apply R.bind h
  intro a
  exact R.pure (a, s)

theorem get : (R.withState σ).Holds MonadState.get MonadState.get := fun s => R.pure (s, s)

theorem set (s : σ) : (R.withState σ).Holds (MonadStateOf.set s) (MonadStateOf.set s) :=
  fun _ => R.pure ((), s)

end

theorem map [LawfulMonad m] [LawfulMonad n] (R : MonadRelation m n) {x : m α} {y : n α}
    (f : α → β) (h : R.Holds x y) : R.Holds (f <$> x) (f <$> y) := by
  rw [map_eq_pure_bind, map_eq_pure_bind]
  apply R.bind h
  intro a
  exact R.pure (f a)

/-- Two sites that answer alike and log alike. -/
structure Sites (R : MonadRelation m n) (site : Site m) (site' : Site n) : Prop where
  openContext (e : Endpoint) :
    R.Holds (site.transport.openContext e) (site'.transport.openContext e)
  request (r : Request) : R.Holds (site.transport.request r) (site'.transport.request r)
  release : R.Holds site.transport.release site'.transport.release
  log (e : Log.Event) : R.Holds (site.log e) (site'.log e)

namespace Sites

variable {R : MonadRelation m n} {site : Site m} {site' : Site n} (alike : R.Sites site site')

include alike

theorem logs (events : List Log.Event) :
    R.Holds (events.forM site.log) (events.forM site'.log) := by
  induction events with
  | nil => exact R.pure ()
  | cons e events ih =>
    apply R.bind (alike.log e)
    intro _
    exact ih

theorem drop (g : Guard) : R.Holds (g.drop site) (g.drop site') := by
  cases g with
  | empty => exact R.pure ()
  | holding =>
    apply R.bind (alike.log .releasingEarly)
    intro _
    apply R.bind alike.release
    intro result
    cases result with
    | ok => exact R.pure ()
    | error cause => exact alike.log (.earlyReleaseFailed cause)

theorem releaseHeld (g : Guard) : R.Holds (g.releaseHeld site) (g.releaseHeld site') := by
  cases g with
  | empty => exact R.pure _
  | holding =>
    apply R.bind (alike.log .releasing)
    intro _
    exact alike.release

theorem close (g : Guard) : R.Holds (g.close site) (g.close site') := by
  apply R.bind (alike.releaseHeld g)
  intro result
  apply R.bind (alike.drop .empty)
  intro _
  exact R.pure result

theorem judge (reply : Except Fault Response) :
    R.Holds (Exchange.judge site reply) (Exchange.judge site' reply) := by
  cases reply with
  | ok response =>
    apply R.bind (alike.logs _)
    intro _
    exact R.pure _
  | error cause =>
    apply R.bind (alike.log _)
    intro _
    exact R.pure _

theorem settle (o : Outcome) (release : Except Fault Unit) :
    R.Holds (Exchange.settle site o release) (Exchange.settle site' o release) := by
  cases release with
  | ok =>
    apply R.bind (alike.log _)
    intro _
    exact R.pure _
  | error cause =>
    apply R.bind (alike.log _)
    intro _
    apply R.bind (alike.log _)
    intro _
    exact R.pure _

theorem converse [LawfulMonad m] [LawfulMonad n] (r : Request) :
    R.Holds (Exchange.converse site r) (Exchange.converse site' r) := by
  apply R.bind (alike.request r)
  intro ended
  cases ended with
  | none =>
    apply R.bind (alike.drop .holding)
    intro _
    exact R.pure none
  | some reply =>
    apply R.bind (alike.judge reply)
    intro outcome
    apply R.bind (alike.close .holding)
    intro release
    exact R.map some (alike.settle outcome release)

/-- Exchanges through sites that answer alike are alike. -/
theorem run [LawfulMonad m] [LawfulMonad n] (host : String) (port : UInt16)
    (heartbeat : Heartbeat.Request) :
    R.Holds (Exchange.run site host port heartbeat) (Exchange.run site' host port heartbeat) := by
  apply R.bind (alike.log _)
  intro _
  apply R.bind (alike.log _)
  intro _
  apply R.bind (alike.openContext _)
  intro ended
  rcases ended with _ | cause | _
  · exact R.pure none
  · apply R.bind (alike.log _)
    intro _
    exact R.pure _
  · exact alike.converse _

end Sites

end MonadRelation

end CheckIn
