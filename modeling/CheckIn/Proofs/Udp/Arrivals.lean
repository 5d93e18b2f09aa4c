import CheckIn.Proofs.Udp.Progress

/-! Datagrams on their way to a client: whatever is put among them they stay in the order of their
arrival, and only what the client is given is no longer to come. -/
namespace CheckIn.Udp

open Coap Net

/-- An arrival as far behind a moment as it is behind its cause. -/
def Arrival.after (now : Nat) (a : Arrival) : Arrival := ⟨now + a.time, a.datagram⟩

section

variable {a b : Arrival} {inbox reaction : List Arrival} {now : Nat}

theorem perm_insert : (Simulation.insert a inbox).Perm (a :: inbox) := by
  induction inbox with
  | nil => exact .refl _
  | cons c inbox ih =>
    rw [Simulation.insert]
    split_ifs
    · exact (ih.cons c).trans (.swap a c inbox)
    · exact .refl _

theorem ordered_insert (ordered : inbox.Pairwise (·.time ≤ ·.time)) :
    (Simulation.insert a inbox).Pairwise (·.time ≤ ·.time) := by
  induction inbox with
  | nil => simp [Simulation.insert]
  | cons c inbox ih =>
    rw [List.pairwise_cons] at ordered
    rw [Simulation.insert]
    split_ifs with before
    · refine List.pairwise_cons.mpr ⟨?_, ih ordered.2⟩
      intro b inside
      rcases List.mem_cons.mp (perm_insert.mem_iff.mp inside) with rfl | inside
      · exact before
      · exact ordered.1 b inside
    · refine List.pairwise_cons.mpr ⟨?_, List.pairwise_cons.mpr ordered⟩
      intro b inside
      have first : a.time ≤ c.time := Nat.le_of_not_le before
      rcases List.mem_cons.mp inside with rfl | inside
      · exact first
      · exact Nat.le_trans first (ordered.1 b inside)

theorem perm_arriving :
    (arriving now reaction inbox).Perm (inbox ++ reaction.map (Arrival.after now)) := by
  induction reaction generalizing inbox with
  | nil => simp [arriving]
  | cons a reaction ih =>
    have put : (Simulation.insert (Arrival.after now a) inbox).Perm
        (inbox ++ [Arrival.after now a]) := perm_insert.trans (List.perm_append_singleton ..).symm
    have rest := put.append_right (reaction.map (Arrival.after now))
    rw [List.append_assoc, List.singleton_append] at rest
    exact ih.trans rest

theorem mem_arriving : b ∈ arriving now reaction inbox ↔
    b ∈ inbox ∨ ∃ a ∈ reaction, b = Arrival.after now a := by
  rw [perm_arriving.mem_iff, List.mem_append, List.mem_map]
  simp only [eq_comm]

theorem ordered_arriving (ordered : inbox.Pairwise (·.time ≤ ·.time)) :
    (arriving now reaction inbox).Pairwise (·.time ≤ ·.time) := by
  induction reaction generalizing inbox with
  | nil => exact ordered
  | cons a reaction ih => exact ih (ordered_insert ordered)

theorem length_arriving :
    (arriving now reaction inbox).length = inbox.length + reaction.length := by
  rw [perm_arriving.length_eq, List.length_append, List.length_map]

end

section

variable {net net' : Simulation}

theorem pending_draw (net : Simulation) : net.draw.pending = net.pending := by
  unfold Simulation.draw Simulation.pending
  cases replies : net.replies with
  | nil => rw [replies]
  | cons reaction rest =>
    have length : (arriving net.now reaction net.inbox).length =
        net.inbox.length + reaction.length := length_arriving
    unfold arriving at length
    dsimp only
    rw [length, List.flatten_cons, List.length_append, Nat.add_assoc]

theorem pending_send (net : Simulation) (peer : SocketAddress) (p : Packet) :
    (net.send peer p).2.pending = net.pending := by
  unfold Simulation.send
  by_cases portZero : peer.port = 0
  · rw [if_pos portZero]
  · by_cases served : peer.port = net.serverPort
    · rw [if_neg portZero, if_pos served]
      dsimp only
      cases net.sendFaults.head?.join with
      | some cause => rfl
      | none =>
        by_cases acknowledges : p.kind = .acknowledgement
        · simp only [acknowledges, if_true]
          rfl
        · simp only [acknowledges, if_false, pending_draw]
          rfl
    · rw [if_neg portZero, if_neg served]
      rfl

theorem pending_gave {a : Arrival} {inbox : List Arrival} (next : net.inbox = a :: inbox) :
    (net.gave a inbox).pending + 1 = net.pending := by
  unfold Simulation.pending Simulation.gave
  rw [next, List.length_cons]
  dsimp only
  omega

theorem Hears.pending {peer : SocketAddress} {datagram : List UInt8} {link link' : Link}
    {reply : Option Packet} (h : Hears peer datagram net link link' reply net') :
    net'.pending = net.pending := by
  cases h with
  | deaf => rfl
  | malformed => rfl
  | plain => rfl
  | @acknowledged reply _ _ _ sending =>
    have kept := pending_send net peer (.acknowledge reply.messageId)
    rwa [sending] at kept
  | @lost reply _ _ _ _ sending =>
    have kept := pending_send net peer (.acknowledge reply.messageId)
    rwa [sending] at kept

end

end CheckIn.Udp
