import CheckIn.Net.Simulation
import Mathlib.Tactic.SplitIfs

/-! What the operations of a simulated network do to its clock and to its two records, of what has
been sent and of what the client has been given. -/
namespace CheckIn.Net

theorem bind_state (x : StateM σ α) (f : α → StateM σ β) (s : σ) :
    (x >>= f) s = f (x s).1 (x s).2 := rfl

@[simp] theorem pure_state (a : α) (s : σ) : (pure a : StateM σ α) s = (a, s) := rfl

namespace Simulation

@[simp] theorem wire_now (s : Simulation) : wire.now s = (s.now, s) := rfl

@[simp] theorem wire_send (s : Simulation) (peer : SocketAddress) (p : Coap.Packet) :
    wire.send peer p s = s.send peer p := rfl

@[simp] theorem wire_receive (s : Simulation) (limit : Nat) :
    wire.receive limit s = s.receive limit := rfl

section

variable (s : Simulation)

@[simp] theorem detach_now : s.detach.now = s.now := rfl

@[simp] theorem detach_heard : s.detach.heard = s.heard := rfl

@[simp] theorem detach_sent : s.detach.sent = s.sent := rfl

@[simp] theorem draw_now : s.draw.now = s.now := by
  unfold draw
  split <;> rfl

@[simp] theorem draw_heard : s.draw.heard = s.heard := by
  unfold draw
  split <;> rfl

@[simp] theorem draw_sent : s.draw.sent = s.sent := by
  unfold draw
  split <;> rfl

@[simp] theorem attach_now : s.attach.2.now = s.now := by
  unfold attach
  dsimp only
  split <;> rfl

variable (peer : SocketAddress) (p : Coap.Packet)

def sendRecord : Except IoFault Unit → List (SocketAddress × Coap.Packet)
  | .ok () => [(peer, p)]
  | .error _ => []

theorem send_records : (s.send peer p).2.now = s.now ∧ (s.send peer p).2.heard = s.heard ∧
    (s.send peer p).2.sent = s.sent ++ sendRecord peer p (s.send peer p).1 := by
  unfold send
  by_cases portZero : peer.port = 0
  · rw [if_pos portZero]
    simp [sendRecord]
  · by_cases served : peer.port = s.serverPort
    · rw [if_neg portZero, if_pos served]
      dsimp only
      cases s.sendFaults.head?.join with
      | some cause => simp [sendRecord]
      | none => by_cases acknowledges : p.kind = .acknowledgement <;>
          simp [acknowledges, record, sendRecord]
    · rw [if_neg portZero, if_neg served]
      simp [record, sendRecord]

def gave (a : Arrival) (inbox : List Arrival) : Simulation :=
  { s with now := max s.now a.time, inbox, heard := s.heard ++ [a] }

def passed (limit : Nat) : Simulation := { s with now := max s.now limit }

theorem receive_cases (limit : Nat) :
    (∃ a inbox, s.inbox = a :: inbox ∧ a.time ≤ limit ∧
      s.receive limit = (some a.datagram, s.gave a inbox)) ∨
    ((∀ a, s.inbox.head? = some a → limit < a.time) ∧
      s.receive limit = (none, s.passed limit)) := by
  obtain ⟨now, inbox, serverPort, replies, sendFaults, sent, heard⟩ := s
  unfold receive
  cases inbox with
  | nil => exact .inr ⟨nofun, rfl⟩
  | cons a inbox =>
    dsimp only
    by_cases intime : a.time ≤ limit
    · rw [if_pos intime]
      exact .inl ⟨a, inbox, rfl, intime, rfl⟩
    · rw [if_neg intime]
      refine .inr ⟨?_, rfl⟩
      intro b head
      cases head
      exact Nat.lt_of_not_le intime

end

end Simulation

/-- What every step keeps is kept by every number of steps. -/
theorem repeatWith_invariant (isOver : σ → Bool) (step : σ → StateM τ σ) (inv : σ → τ → Prop)
    (kept : ∀ x s, inv x s → inv (step x s).1 (step x s).2) (fuel : Nat) (x : σ) (s : τ)
    (start : inv x s) :
    inv (repeatWith isOver step fuel x s).1 (repeatWith isOver step fuel x s).2 := by
  induction fuel generalizing x s with
  | zero => exact start
  | succ fuel ih =>
    rw [repeatWith]
    split
    · exact start
    · exact ih (step x s).1 (step x s).2 (kept x s start)

end CheckIn.Net
