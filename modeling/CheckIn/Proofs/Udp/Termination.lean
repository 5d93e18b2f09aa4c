import CheckIn.Proofs.Udp.Arrivals

/-! Every request comes to an end, in as many steps as the network allows for. A datagram that comes
in pays for a message, all its copies and the waits for an answer; time pays for nothing. -/
namespace CheckIn

namespace Net

/-- A step that lowers a rank as long as there is something to do is over once it has been repeated
as often as the rank says. -/
theorem repeatWith_isOver (isOver : σ → Bool) (step : σ → StateM τ σ) (rank : σ → τ → Nat)
    (lowers : ∀ x s, isOver x = false → rank (step x s).1 (step x s).2 < rank x s)
    (fuel : Nat) (x : σ) (s : τ) (enough : rank x s ≤ fuel) :
    isOver (repeatWith isOver step fuel x s).1 = true := by
  induction fuel generalizing x s with
  | zero =>
    by_cases finished : isOver x = true
    · exact finished
    · have lower := lowers x s (Bool.eq_false_iff.mpr finished)
      omega
  | succ fuel ih =>
    rw [repeatWith]
    by_cases finished : isOver x = true
    · rw [if_pos finished]
      exact finished
    · rw [if_neg finished]
      have lower := lowers x s (Bool.eq_false_iff.mpr finished)
      exact ih (step x s).1 (step x s).2 (by omega)

end Net

namespace Udp

open Net

/-- Most steps that a stage can lead to, by how many datagrams can still come in. -/
def Stage.rank (pending : Nat) : Stage → Nat
  | sending _ spare => 12 * pending + 2 * spare + 3
  | waiting _ spare _ => 12 * pending + 2 * spare + 2
  | clearing _ => 12 * pending + 12
  | blocked => 12 * pending + 1
  | done _ | failed _ | abandoned => 0

section

variable (pending spare : Nat)

theorem rank_begin (t : Transfer) : (Stage.begin t).rank pending ≤ 12 * pending + 11 := by
  unfold Stage.begin
  split_ifs
  · exact Nat.zero_le _
  · exact Nat.le_refl _

theorem rank_ofStep (next : Step) : (Stage.ofStep next).rank pending ≤ 12 * pending + 11 := by
  cases next with
  | send t => exact rank_begin pending t
  | finish r => exact Nat.zero_le _
  | fail cause => exact Nat.zero_le _

theorem rank_retry (t : Transfer) (cause : IoFault) :
    (Stage.retry t cause spare).rank pending ≤ 12 * pending + 2 * spare + 1 := by
  cases spare with
  | zero => exact Nat.zero_le _
  | succ spare => exact Nat.le_refl _

theorem rank_overdue (terms : Terms) (moment : Nat) :
    (Stage.overdue terms moment).rank pending = 0 := by
  unfold Stage.overdue
  split_ifs <;> rfl

theorem rank_expire (terms : Terms) (t : Transfer) (limit : Nat) :
    (Stage.expire terms t spare limit).rank pending ≤ 12 * pending + 2 * spare + 1 := by
  unfold Stage.expire
  dsimp only
  split_ifs
  · exact rank_retry ..
  · rw [rank_overdue]
    exact Nat.zero_le _

theorem rank_hear (t : Transfer) (limit : Nat) (reply : Coap.Packet) :
    (Stage.hear t spare limit reply).rank pending ≤ 12 * pending + 2 * spare + 12 := by
  unfold Stage.hear
  split_ifs
  · dsimp only [Stage.rank]
    omega
  · dsimp only [Stage.rank]
    omega

end

variable {terms : Terms} {net net' : Simulation} {d d' : Delivery}

/-- Every step lowers the rank. -/
theorem Becomes.rank_lt (step : Becomes terms net d d' net') (going : d.stage.isOver = false) :
    d'.stage.rank net'.pending < d.stage.rank net.pending := by
  cases step with
  | expired => exact Nat.succ_pos _
  | left => exact Nat.succ_pos _
  | stuck =>
    dsimp only [Stage.rank]
    omega
  | @sent t spare _ _ _ _ _ sending =>
    have pending := pending_send net terms.peer t.message
    rw [sending] at pending
    dsimp only [Stage.rank] at pending ⊢
    omega
  | @unsent t spare _ cause _ _ _ _ sending =>
    have pending := pending_send net terms.peer t.message
    rw [sending] at pending
    apply Nat.lt_of_le_of_lt (rank_retry net'.pending spare t cause)
    dsimp only [Stage.rank] at pending ⊢
    omega
  | @hung t spare _ _ _ _ _ _ sending =>
    have pending := pending_send net terms.peer t.message
    rw [sending] at pending
    dsimp only [Stage.rank] at pending ⊢
    omega
  | @silence t spare limit =>
    apply Nat.lt_of_le_of_lt (rank_expire net.pending spare terms t limit)
    exact Nat.lt_succ_self _
  | noise next _ hears =>
    have given := pending_gave next
    have kept := hears.pending
    dsimp only [Stage.rank]
    omega
  | @heard t spare limit _ _ _ _ reply _ next _ hears =>
    have given := pending_gave next
    have kept := hears.pending
    apply Nat.lt_of_le_of_lt (rank_hear net'.pending spare t limit reply)
    dsimp only [Stage.rank]
    omega
  | @cleared next =>
    apply Nat.lt_of_le_of_lt (rank_ofStep net.pending next)
    exact Nat.lt_succ_self _
  | drained next _ hears =>
    have given := pending_gave next
    have kept := hears.pending
    dsimp only [Stage.rank]
    omega
  | overdue =>
    rw [rank_overdue]
    exact Nat.succ_pos _
  | discarded next =>
    have given := pending_gave next
    dsimp only [Stage.rank]
    omega
  | ended isOver => exact absurd isOver (by simp [going])

theorem deliver_isOver (terms : Terms) (link : Link) (t : Transfer) (net : Simulation) :
    (deliver terms ⟨link, .begin t⟩ net).1.stage.isOver = true := by
  apply repeatWith_isOver (·.stage.isOver) (Delivery.step Simulation.wire terms)
    (fun d net => d.stage.rank net.pending)
  · intro d net going
    exact (becomes terms net d).rank_lt going
  · have begins := rank_begin net.pending t
    dsimp only
    rw [Simulation.budget]
    omega

end Udp

end CheckIn
