import CheckIn.Proofs.Exchange.History
import CheckIn.Proofs.Exchange.Relation

/-! What an exchange does with a context that it has opened, on a site whose session and whose
world are two states: they are as good as one. -/
namespace CheckIn

section

variable {σ τ : Type}

/-- A computation with a state beside another, with both in one. -/
def joined (x : StateT σ (StateM τ) α) : StateM (σ × τ) α := fun s =>
  ((x s.1 s.2).1.1, (x s.1 s.2).1.2, (x s.1 s.2).2)

theorem joined_bind (x : StateT σ (StateM τ) α) (f : α → StateT σ (StateM τ) β) :
    joined (x >>= f) = joined x >>= fun a => joined (f a) := rfl

def MonadRelation.joins : MonadRelation (StateT σ (StateM τ)) (StateM (σ × τ)) where
  Holds x y := y = joined x
  pure _ := rfl
  bind := by
    intro α β x y f g first second
    rw [first, funext second]
    rfl

/-- The same site with both states in one. -/
def Transport.Site.joined (site : Transport.Site (StateT σ (StateM τ))) :
    Transport.Site (StateM (σ × τ)) where
  transport := {
    openContext := fun e => CheckIn.joined (site.transport.openContext e)
    request := fun r => CheckIn.joined (site.transport.request r)
    release := CheckIn.joined site.transport.release }
  log := fun e => CheckIn.joined (site.log e)

theorem Exchange.run_joined (site : Transport.Site (StateT σ (StateM τ))) (host : String)
    (port : UInt16) (heartbeat : Heartbeat.Request) :
    run site.joined host port heartbeat = joined (run site host port heartbeat) := by
  have sites : MonadRelation.joins.Sites site site.joined :=
    ⟨fun _ => rfl, fun _ => rfl, rfl, fun _ => rfl⟩
  exact sites.run host port heartbeat

end

namespace Exchange

open Transport

variable (site : Site (StateM σ)) (s : σ) (host : String) (port : UInt16)
  (heartbeat : Heartbeat.Request)

def opening : σ :=
  let target := endpoint host port
  (site.log (.encoded heartbeat.encode.length)
    (site.log (.sending heartbeat.deviceId heartbeat.currentFirmware target.uri) s).2).2

theorem bind_recorded (x : StateT (List Use) (StateM σ) α)
    (f : α → StateT (List Use) (StateM σ) β) (uses : List Use) :
    (x >>= f) uses s = f (x uses s).1.1 (x uses s).1.2 (x uses s).2 := rfl

theorem log_recorded (e : Log.Event) (uses : List Use) :
    site.recorded.log e uses s = (((), uses ++ [.logging e]), (site.log e s).2) := rfl

theorem openContext_recorded (e : Endpoint) (uses : List Use) :
    site.recorded.transport.openContext e uses s =
      (((site.transport.openContext e s).1,
        uses ++ [.opening e (site.transport.openContext e s).1]),
        (site.transport.openContext e s).2) := rfl

theorem operations_of_opened
    (opened : (site.transport.openContext (endpoint host port)
      (opening site s host port heartbeat)).1 = some (.ok ())) :
    ∃ ended release, operations site s host port heartbeat =
      [.opening (endpoint host port) (some (.ok ())),
        .requesting (.post (endpoint host port) heartbeat.encode) ended, .releasing release] := by
  have begins : run site.recorded host port heartbeat [] s =
      converse site.recorded (.post (endpoint host port) heartbeat.encode)
        [.logging (.sending heartbeat.deviceId heartbeat.currentFirmware (endpoint host port).uri),
          .logging (.encoded heartbeat.encode.length),
          .opening (endpoint host port) (some (.ok ()))]
        (site.transport.openContext (endpoint host port)
          (opening site s host port heartbeat)).2 := by
    unfold opening at opened ⊢
    unfold run
    simp only [bind_recorded, log_recorded, openContext_recorded, opened]
    rfl
  obtain ⟨uses, ran, c, held, _, rfl⟩ := notes_converse site (.post (endpoint host port) heartbeat.encode)
    [.logging (.sending heartbeat.deviceId heartbeat.currentFirmware (endpoint host port).uri),
      .logging (.encoded heartbeat.encode.length), .opening (endpoint host port) (some (.ok ()))]
    (site.transport.openContext (endpoint host port) (opening site s host port heartbeat)).2
  rw [operations, history, begins, ran]
  cases c with
  | unopened ended => exact absurd rfl (held ended)
  | abandoned release => exact ⟨none, release, by simp [Course.conversation, List.filter_cons]⟩
  | answered reply release =>
    exact ⟨some reply, release, by simp [Course.conversation, List.filter_cons]⟩

theorem operations_of_left
    (left : (site.transport.openContext (endpoint host port)
      (opening site s host port heartbeat)).1 = none) :
    operations site s host port heartbeat = [.opening (endpoint host port) none] := by
  unfold operations history
  unfold opening at left
  unfold run
  simp only [bind_recorded, log_recorded, openContext_recorded, left]
  rfl

end Exchange

end CheckIn
