import CheckIn.Command
import CheckIn.Proofs.Exchange.Relation
import CheckIn.Proofs.Net.Simulation
import CheckIn.Proofs.Udp.Exchange

/-! What a host logs about an exchange over UDP shows neither in the outcome nor on the network,
and an exchange prints nothing. Any log will do that only takes notes. -/
namespace CheckIn

namespace World

open Net (bind_state)

/-- Computations that depend on the network alone: from one network they come to one result and
one network, and print nothing. -/
def throughNetwork : MonadRelation (StateM World) (StateM World) where
  Holds x y := ∀ w w', w.network = w'.network →
    (x w).1 = (y w').1 ∧ (x w).2.network = (y w').2.network ∧
      (x w).2.output = w.output ∧ (y w').2.output = w'.output
  pure _ _ _ same := ⟨rfl, same, rfl, rfl⟩
  bind := by
    intro α β x y f g first second w w' same
    obtain ⟨result, network, output, output'⟩ := first w w' same
    obtain ⟨result', network', quiet, quiet'⟩ := second (x w).1 (x w).2 (y w').2 network
    rw [bind_state, bind_state, ← result]
    exact ⟨result', network', quiet.trans output, quiet'.trans output'⟩

/-- A computation that changes nothing but what has been logged. -/
def OnlyLogs (x : StateM World α) : Prop := ∀ w, ∃ events, (x w).2 = { w with events }

namespace OnlyLogs

theorem pure (a : α) : OnlyLogs (Pure.pure a : StateM World α) := fun w => ⟨w.events, rfl⟩

theorem bind {x : StateM World α} {f : α → StateM World β} (first : OnlyLogs x)
    (second : ∀ a, OnlyLogs (f a)) : OnlyLogs (x >>= f) := by
  intro w
  obtain ⟨events, changed⟩ := first w
  obtain ⟨events', changed'⟩ := second (x w).1 (x w).2
  refine ⟨events', ?_⟩
  rw [bind_state, changed', changed]

theorem log (e : Log.Event) : OnlyLogs (World.log e) := fun w => ⟨w.events ++ [e], rfl⟩

/-- Notes of any two kinds pass unseen. -/
theorem alike {x y : StateM World Unit} (notes : OnlyLogs x) (notes' : OnlyLogs y) :
    throughNetwork.Holds x y := by
  intro w w' same
  obtain ⟨events, changed⟩ := notes w
  obtain ⟨events', changed'⟩ := notes' w'
  rw [changed, changed']
  exact ⟨rfl, same, rfl, rfl⟩

end OnlyLogs

/-- The same as a relation, which looks at its first side alone. -/
def onlyLogs : MonadRelation (StateM World) (StateM World) where
  Holds x _ := OnlyLogs x
  pure := OnlyLogs.pure
  bind := OnlyLogs.bind

theorem throughNetwork_onNetwork (x : StateM Net.Simulation α) :
    throughNetwork.Holds (onNetwork x) (onNetwork x) := by
  intro w w' same
  unfold onNetwork
  rw [same]
  exact ⟨rfl, rfl, rfl, rfl⟩

end World

namespace Udp

open World

section

variable (timeoutMs : Nat) (patience : Option Nat) (firstId : UInt16)

def setupLogging (log : Log.Event → StateM World Unit) : Setup (StateM World) :=
  { worldSetup timeoutMs patience firstId with log }

/-- A relation that computations on the network stand in to themselves, and so do the notes of two
logs on what a socket does. -/
structure RespectsSocket (R : MonadRelation (StateM World) (StateM World))
    (log log' : Log.Event → StateM World Unit) : Prop where
  network {α : Type} (x : StateM Net.Simulation α) : R.Holds (onNetwork x) (onNetwork x)
  notes (e : Log.Event) : e.source = .socket → R.Holds (log e) (log' e)

namespace RespectsSocket

variable {R : MonadRelation (StateM World) (StateM World)}
  {log log' : Log.Event → StateM World Unit} (respects : RespectsSocket R log log')

include respects

theorem connect (e : Endpoint) :
    R.Holds (Udp.connect (setupLogging timeoutMs patience firstId log) e)
      (Udp.connect (setupLogging timeoutMs patience firstId log') e) := by
  have plain (log : Log.Event → StateM World Unit) :
      Udp.connect (setupLogging timeoutMs patience firstId log) e = onNetwork (dial patience e) :=
    @connect_onNetwork timeoutMs patience firstId e
  rw [plain, plain]
  exact respects.network _

theorem converse (s : Session) (r : Transport.Request) :
    R.Holds (Udp.converse (setupLogging timeoutMs patience firstId log) s r)
      (Udp.converse (setupLogging timeoutMs patience firstId log') s r) := by
  apply R.bind (respects.notes _ rfl)
  intro _
  apply R.bind (respects.network Net.Simulation.wire.now)
  intro now
  have delivers := respects.network
    (deliver ⟨s.peer, timeoutMs, now + timeoutMs, patience⟩
      ⟨s.link, .begin (.start (packet s.nextId r))⟩)
  rw [← untilOver_eq] at delivers
  apply R.bind delivers
  intro d
  rcases d.stage.result with _ | cause | response
  · exact R.pure _
  · exact R.pure _
  · apply R.bind (respects.notes _ rfl)
    intro _
    exact R.pure _

theorem openSession (e : Endpoint) : (R.withState (Option Session)).Holds
    (Udp.openSession (setupLogging timeoutMs patience firstId log) e)
    (Udp.openSession (setupLogging timeoutMs patience firstId log') e) := by
  apply (R.withState _).bind (R.lift (respects.connect timeoutMs patience firstId e))
  rintro (_ | cause | peer)
  · exact (R.withState _).pure none
  · exact (R.withState _).pure _
  · apply (R.withState _).bind (R.lift (respects.notes (.opened peer) rfl))
    intro _
    apply (R.withState _).bind (R.set _)
    intro _
    exact (R.withState _).pure _

theorem request (r : Transport.Request) : (R.withState (Option Session)).Holds
    (Udp.request (setupLogging timeoutMs patience firstId log) r)
    (Udp.request (setupLogging timeoutMs patience firstId log') r) := by
  apply (R.withState _).bind R.get
  rintro (_ | s)
  · exact (R.withState _).pure _
  · by_cases isOpen : s.isOpen = true
    · simp only [isOpen, if_true]
      apply (R.withState _).bind (R.lift (respects.converse timeoutMs patience firstId s r))
      intro ended
      apply (R.withState _).bind (R.set _)
      intro _
      exact (R.withState _).pure _
    · simp only [isOpen]
      exact (R.withState _).pure _

theorem release : (R.withState (Option Session)).Holds
    (Udp.release (setupLogging timeoutMs patience firstId log))
    (Udp.release (setupLogging timeoutMs patience firstId log')) := by
  apply (R.withState _).bind R.get
  rintro (_ | s)
  · exact (R.withState _).pure _
  · by_cases isOpen : s.isOpen = true
    · simp only [isOpen, if_true]
      apply (R.withState _).bind (R.set _)
      intro _
      apply (R.withState _).bind (R.lift (respects.network Net.Simulation.wire.detach))
      intro _
      apply (R.withState _).bind (R.lift (respects.notes (.closed s.peer) rfl))
      intro _
      exact (R.withState _).pure _
    · simp only [isOpen]
      exact (R.withState _).pure _

end RespectsSocket

variable {log log' : Log.Event → StateM World Unit} (notes : ∀ e, OnlyLogs (log e))
  (notes' : ∀ e, OnlyLogs (log' e))

include notes notes'

/-- Whatever is logged, exchanges over UDP go the same way. -/
theorem sites_alike : (throughNetwork.withState (Option Session)).Sites
    (site (setupLogging timeoutMs patience firstId log))
    (site (setupLogging timeoutMs patience firstId log')) := by
  have respects : RespectsSocket throughNetwork log log' :=
    ⟨throughNetwork_onNetwork, fun e _ => (notes e).alike (notes' e)⟩
  refine ⟨?_, ?_, ?_, ?_⟩
  · exact respects.openSession timeoutMs patience firstId
  · exact respects.request timeoutMs patience firstId
  · exact respects.release timeoutMs patience firstId
  · intro e
    exact throughNetwork.lift ((notes e).alike (notes' e))

end

end Udp

namespace Command

open World

def hostLogging (s : Surroundings) (log : Log.Event → StateM World Unit) : Host (StateM World) :=
  { World.host s with log }

variable (log log' : Log.Event → StateM World Unit) (notes : ∀ e, OnlyLogs (log e))
  (notes' : ∀ e, OnlyLogs (log' e)) (s : Surroundings) (i : Invocation) (settings : Settings)

include notes notes'

theorem exchange_alike : throughNetwork.Holds (exchange (hostLogging s log) i settings)
    (exchange (hostLogging s log') i settings) := by
  apply throughNetwork.bind (throughNetwork_onNetwork Net.Simulation.wire.now)
  intro now
  have sites := Udp.sites_alike settings.responseTimeoutMs.toNat (patience i now) 0 notes notes'
  apply throughNetwork.bind (sites.run i.host i.port (heartbeat i settings) none)
  rintro ⟨_ | outcome, session⟩
  · apply throughNetwork.bind ((notes _).alike (notes' _))
    intro _
    exact throughNetwork.pure _
  · exact throughNetwork.pure _

end Command

end CheckIn
