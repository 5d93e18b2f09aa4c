import CheckIn.Proofs.Net.Simulation
import CheckIn.Udp.Session

/-! A session begins with a question for an address and a socket. On a simulated network that takes
nothing but time and one of its sockets, and a caller's patience either makes no difference to it
or ends it. -/
namespace CheckIn.Udp

open Net

/-- A transport on a network alone, which logs nothing. -/
def networkSetup (patience : Option Nat) : Setup (StateM Simulation) where
  wire := Simulation.wire
  untilOver step d := fun net => repeatWith (·.stage.isOver) step net.budget d net
  log _ := pure ()
  timeoutMs := 0
  patience := patience
  firstId := 0

/-- The peer of a session, and the network behind the question for it. -/
def dial (patience : Option Nat) (e : Endpoint) :
    StateM Simulation (Option (Except Transport.Fault SocketAddress)) :=
  connect (networkSetup patience) e

variable {net net' net'' : Simulation}

/-- A network some time later, with fewer sockets to come. -/
def Later (net net' : Simulation) : Prop :=
  ∃ now attachFaults, net.now ≤ now ∧ net' = { net with now, attachFaults }

namespace Later

theorem refl (net : Simulation) : Later net net := ⟨net.now, net.attachFaults, Nat.le_refl _, rfl⟩

theorem trans (first : Later net net') (second : Later net' net'') : Later net net'' := by
  obtain ⟨now, attachFaults, later, rfl⟩ := first
  obtain ⟨now', attachFaults', later', rfl⟩ := second
  exact ⟨now', attachFaults', Nat.le_trans later later', rfl⟩

theorem now_le (later : Later net net') : net.now ≤ net'.now := by
  obtain ⟨now, attachFaults, later, rfl⟩ := later
  exact later

theorem heard_eq (later : Later net net') : net'.heard = net.heard := by
  obtain ⟨now, attachFaults, _, rfl⟩ := later
  rfl

theorem sent_eq (later : Later net net') : net'.sent = net.sent := by
  obtain ⟨now, attachFaults, _, rfl⟩ := later
  rfl

variable (net)

theorem attach : Later net net.attach.2 := by
  unfold Simulation.attach
  dsimp only
  split <;> exact ⟨net.now, net.attachFaults.drop 1, Nat.le_refl _, rfl⟩

theorem lookup (host : String) (leave : Option Nat) : Later net (net.lookup host leave).2 := by
  unfold Simulation.lookup
  dsimp only
  split
  · exact ⟨_, net.attachFaults, Nat.le_max_left .., rfl⟩
  · exact ⟨_, net.attachFaults, Nat.le_add_right .., rfl⟩

end Later

section

variable (patience : Option Nat) (net : Simulation) (e : Endpoint)

theorem addressOf_later (host : List Char) :
    Later net (addressOf (networkSetup patience) host net).2 := by
  unfold addressOf
  cases settled? host with
  | none => exact .lookup net _ patience
  | some verdict => exact .refl net

theorem resolve_later : Later net (resolve (networkSetup patience) e net).2 := by
  unfold resolve
  cases e.literal? with
  | some address => exact .refl net
  | none =>
    have asked := addressOf_later patience net e.bareHost
    dsimp only
    rw [bind_state]
    rcases (addressOf (networkSetup patience) e.bareHost net).1 with _ | reason | address <;>
      exact asked

theorem attach_peer (peer : SocketAddress) :
    attach (networkSetup patience) (some (.ok peer)) net =
      (some (net.attach.1.mapError .socket |>.map fun _ => peer), net.attach.2) := by
  have plain : (networkSetup patience).wire.attach peer net = net.attach := rfl
  unfold attach
  dsimp only
  rw [bind_state, plain]
  cases net.attach.1 <;> rfl

theorem attach_later (found : Option (Except Transport.Fault SocketAddress)) :
    Later net (attach (networkSetup patience) found net).2 := by
  rcases found with _ | cause | peer
  · exact .refl net
  · exact .refl net
  · rw [attach_peer]
    exact .attach net

theorem dial_later : Later net (dial patience e net).2 :=
  (resolve_later patience net e).trans (attach_later patience _ _)

end

section

variable {p : Nat} (future : net.now ≤ p)

include future

theorem addressOf_patience (host : List Char) :
    let patient := addressOf (networkSetup none) host net
    patient.2.now < p ∧ addressOf (networkSetup (some p)) host net = patient ∨
      p ≤ patient.2.now ∧
        addressOf (networkSetup (some p)) host net = (none, { net with now := p }) := by
  intro patient
  unfold patient addressOf
  cases settled? host with
  | some verdict =>
    change net.now < p ∧ (if (some p).any (· ≤ net.now) then none else some verdict, net) =
      (some verdict, net) ∨ p ≤ net.now ∧
        (if (some p).any (· ≤ net.now) then none else some verdict, net) = (none, { net with now := p })
    by_cases out : p ≤ net.now
    · have now : p = net.now := Nat.le_antisymm out future
      exact .inr ⟨out, by simp [now]⟩
    · exact .inl ⟨Nat.lt_of_not_le out, by simp [out]⟩
  | none =>
    change (net.lookup (String.ofList host) none).2.now < p ∧
        net.lookup (String.ofList host) (some p) = net.lookup (String.ofList host) none ∨
      p ≤ (net.lookup (String.ofList host) none).2.now ∧
        net.lookup (String.ofList host) (some p) = (none, { net with now := p })
    unfold Simulation.lookup
    by_cases out : p ≤ net.now + (net.naming (String.ofList host)).delay
    · exact .inr ⟨out, by simp [Option.filter, out, Nat.max_eq_right future]⟩
    · exact .inl ⟨Nat.lt_of_not_le out, by simp [Option.filter, out]⟩

theorem resolve_patience (e : Endpoint) :
    let patient := resolve (networkSetup none) e net
    patient.2.now ≤ p ∧ resolve (networkSetup (some p)) e net = patient ∨
      p ≤ patient.2.now ∧ e.literal? = none ∧
        resolve (networkSetup (some p)) e net = (none, { net with now := p }) := by
  intro patient
  unfold patient resolve
  cases e.literal? with
  | some address => exact .inl ⟨future, rfl⟩
  | none =>
    dsimp only
    rw [bind_state, bind_state]
    rcases addressOf_patience future e.bareHost with ⟨soon, same⟩ | ⟨out, left⟩
    · rw [same]
      refine .inl ⟨?_, rfl⟩
      rcases (addressOf (networkSetup none) e.bareHost net).1 with _ | reason | address <;>
        exact Nat.le_of_lt soon
    · rw [left]
      refine .inr ⟨?_, rfl, rfl⟩
      rcases (addressOf (networkSetup none) e.bareHost net).1 with _ | reason | address <;> exact out

/-- Either a caller's patience makes no difference to a dialling, which is over by then, or he
leaves while the host is looked up. -/
theorem dial_patience (e : Endpoint) :
    (dial none e net).2.now ≤ p ∧ dial (some p) e net = dial none e net ∨
      p ≤ (dial none e net).2.now ∧ e.literal? = none ∧
        dial (some p) e net = (none, { net with now := p }) := by
  have attached (patience : Option Nat) : dial patience e net =
      attach (networkSetup none) (resolve (networkSetup patience) e net).1
        (resolve (networkSetup patience) e net).2 := rfl
  have now : (dial none e net).2.now = (resolve (networkSetup none) e net).2.now := by
    rw [attached]
    rcases (resolve (networkSetup none) e net).1 with _ | cause | peer
    · rfl
    · rfl
    · rw [attach_peer]
      exact Simulation.attach_now _
  rcases resolve_patience future e with ⟨soon, same⟩ | ⟨out, named, left⟩
  · refine .inl ⟨Nat.le_trans (Nat.le_of_eq now) soon, ?_⟩
    rw [attached, attached, same]
  · refine .inr ⟨now ▸ out, named, ?_⟩
    rw [attached, left]
    rfl

end

theorem addressOf_patient (host : List Char) (net : Simulation) :
    (addressOf (networkSetup none) host net).1 ≠ none := by
  unfold addressOf
  cases settled? host with
  | some verdict => exact Option.some_ne_none verdict
  | none => exact Option.some_ne_none _

theorem resolve_patient (e : Endpoint) (net : Simulation) :
    (resolve (networkSetup none) e net).1 ≠ none := by
  unfold resolve
  cases e.literal? with
  | some address => nofun
  | none =>
    have answered := addressOf_patient e.bareHost net
    dsimp only
    rw [bind_state]
    revert answered
    rcases (addressOf (networkSetup none) e.bareHost net).1 with _ | reason | address
    · exact fun answered => absurd rfl answered
    · nofun
    · nofun

theorem dial_patient (e : Endpoint) (net : Simulation) : (dial none e net).1 ≠ none := by
  have found := resolve_patient e net
  unfold dial connect
  rw [bind_state]
  revert found
  rcases (resolve (networkSetup none) e net).1 with _ | cause | peer
  · exact fun found => absurd rfl found
  · nofun
  · intro _
    rw [attach_peer]
    nofun

theorem dial_literal {e : Endpoint} {address : Address} (literal : e.literal? = some address)
    (patience : Option Nat) (net : Simulation) :
    dial patience e net =
      attach (networkSetup patience) (some (.ok ⟨address, e.port⟩)) net := by
  unfold dial connect resolve
  rw [literal]
  rfl

end CheckIn.Udp
