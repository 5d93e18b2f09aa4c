import CheckIn.Log.Filter
import CheckIn.Proofs.Exchange.Joined
import CheckIn.Proofs.Udp.Logging

/-! What a world is told of an exchange. The events of a world only grow; what an exchange adds are
the notes of its course that the filter allows, and between them events of its socket. -/
namespace CheckIn

open Transport
open Net (bind_state)

namespace World

def logThrough (f : Log.Filter) (e : Log.Event) : StateM World Unit :=
  if f.allows e then World.log e else pure ()

/-- Computations that tell a world nothing but events of some kind, as a relation that looks at its
first side alone. -/
def tells (kind : Log.Event → Prop) : MonadRelation (StateM World) (StateM World) where
  Holds x _ := ∀ w, ∃ told, (x w).2.events = w.events ++ told ∧ ∀ e ∈ told, kind e
  pure _ _ := ⟨[], by simp, nofun⟩
  bind := by
    intro α β x y f g first second w
    obtain ⟨told, grown, kinds⟩ := first w
    obtain ⟨told', grown', kinds'⟩ := second (x w).1 (x w).2
    refine ⟨told ++ told', ?_, ?_⟩
    · rw [bind_state, grown', grown, List.append_assoc]
    · intro e member
      rcases List.mem_append.mp member with early | late
      · exact kinds e early
      · exact kinds' e late

theorem logThrough_events (f : Log.Filter) (e : Log.Event) (w : World) :
    (logThrough f e w).2.events = w.events ++ [e].filter f.allows := by
  unfold logThrough
  by_cases allowed : f.allows e = true
  · rw [if_pos allowed, List.filter_cons, if_pos allowed]
    rfl
  · rw [if_neg allowed, List.filter_cons, if_neg allowed, List.filter_nil, List.append_nil]
    rfl

theorem tells_logThrough (f : Log.Filter) {kind : Log.Event → Prop} {e : Log.Event} (is : kind e) :
    (tells kind).Holds (logThrough f e) (logThrough f e) := by
  intro w
  refine ⟨_, logThrough_events f e w, ?_⟩
  intro d member
  rw [List.mem_singleton.mp (List.mem_filter.mp member).1]
  exact is

theorem tells_onNetwork {kind : Log.Event → Prop} (x : StateM Net.Simulation α) :
    (tells kind).Holds (onNetwork x) (onNetwork x) :=
  fun _ => ⟨[], (List.append_nil _).symm, nofun⟩

end World

namespace Udp

open World

/-- Events that no socket raises. -/
def isCoordinators (e : Log.Event) : Bool := e.source != .socket

/-- The notes among uses that a filter allows, but those of a socket. -/
def coordinatorsNotes (f : Log.Filter) (uses : List Use) : List Log.Event :=
  ((uses.filterMap Use.event?).filter f.allows).filter isCoordinators

section

variable (f : Log.Filter)

theorem coordinatorsNotes_append (uses uses' : List Use) :
    coordinatorsNotes f (uses ++ uses') = coordinatorsNotes f uses ++ coordinatorsNotes f uses' := by
  simp [coordinatorsNotes]

/-- Recorded computations that tell a world what they note and besides only what a socket raises. -/
def tellsNotes : MonadRelation (StateT (List Use) (StateM (Option Session × World)))
    (StateT (List Use) (StateM (Option Session × World))) where
  Holds x _ := ∀ uses c, ∃ noted told, (x uses c).1.2 = uses ++ noted ∧
    (x uses c).2.2.events = c.2.events ++ told ∧
    told.filter isCoordinators = coordinatorsNotes f noted
  pure _ _ _ := ⟨[], [], (List.append_nil _).symm, (List.append_nil _).symm, rfl⟩
  bind := by
    intro α β x y next _ first second uses c
    obtain ⟨noted, told, used, grown, same⟩ := first uses c
    obtain ⟨noted', told', used', grown', same'⟩ :=
      second (x uses c).1.1 (x uses c).1.2 (x uses c).2
    refine ⟨noted ++ noted', told ++ told', ?_, ?_, ?_⟩
    · rw [← List.append_assoc, ← used]
      exact used'
    · rw [← List.append_assoc, ← grown]
      exact grown'
    · rw [List.filter_append, same, same', coordinatorsNotes_append]

theorem tellsNotes_operation {x : SessionM (StateM World) α} (use : α → Use)
    (operation : ∀ a, (use a).event? = none)
    (quiet : ((tells (·.source = .socket)).withState (Option Session)).Holds x x) :
    let recorded : StateT (List Use) (StateM (Option Session × World)) α := do
      let a ← (joined x : StateM (Option Session × World) α)
      modify (· ++ [use a])
      pure a
    (tellsNotes f).Holds recorded recorded := by
  intro recorded uses c
  obtain ⟨told, grown, kinds⟩ := quiet c.1 c.2
  refine ⟨[use (x c.1 c.2).1.1], told, rfl, grown, ?_⟩
  have unnoted : coordinatorsNotes f [use (x c.1 c.2).1.1] = [] := by
    simp [coordinatorsNotes, operation]
  rw [unnoted, List.filter_eq_nil_iff]
  intro e member
  simp [isCoordinators, kinds e member]

variable (timeoutMs : Nat) (patience : Option Nat) (firstId : UInt16)

/-- A site over UDP whose log passes a filter, with its session and its world in one state. -/
def filteredSite : Site (StateM (Option Session × World)) :=
  (site (setupLogging timeoutMs patience firstId (logThrough f))).joined

theorem sites_tell : (tellsNotes f).Sites (filteredSite f timeoutMs patience firstId).recorded
    (filteredSite f timeoutMs patience firstId).recorded := by
  have respects : RespectsSocket (tells (·.source = .socket)) (logThrough f) (logThrough f) :=
    ⟨tells_onNetwork, fun _ raised => tells_logThrough f raised⟩
  refine ⟨?_, ?_, ?_, ?_⟩
  · intro e
    exact tellsNotes_operation f (.opening e) (fun _ => rfl)
      (respects.openSession timeoutMs patience firstId e)
  · intro r
    exact tellsNotes_operation f (.requesting r) (fun _ => rfl)
      (respects.request timeoutMs patience firstId r)
  · exact tellsNotes_operation f .releasing (fun _ => rfl)
      (respects.release timeoutMs patience firstId)
  · intro e uses c
    exact ⟨[.logging e], [e].filter f.allows, rfl, logThrough_events f e c.2, rfl⟩

/-- The events that an exchange adds to a world are the notes of its course that pass the filter,
and events of the socket. -/
theorem told_of_exchange (host : String) (port : UInt16) (heartbeat : Heartbeat.Request)
    (w : World) :
    ∃ c : Exchange.Course, ∃ told,
      (Exchange.run (site (setupLogging timeoutMs patience firstId (logThrough f))) host port
        heartbeat none w).2.events = w.events ++ told ∧
      told.filter isCoordinators =
        coordinatorsNotes f (c.history (Exchange.endpoint host port) heartbeat) := by
  let joinedSite := filteredSite f timeoutMs patience firstId
  obtain ⟨c, -, uses⟩ := Exchange.exists_course joinedSite (none, w) host port heartbeat
  have ran := Exchange.run_recorded joinedSite (none, w) host port heartbeat
  have plain := Exchange.run_joined
    (site (setupLogging timeoutMs patience firstId (logThrough f))) host port heartbeat
  obtain ⟨noted, told, used, grown, same⟩ :=
    (sites_tell f timeoutMs patience firstId).run host port heartbeat [] (none, w)
  rw [ran] at used grown
  rw [uses, List.nil_append] at used
  refine ⟨c, told, ?_, ?_⟩
  · rw [show Exchange.run joinedSite host port heartbeat = _ from plain] at grown
    exact grown
  · rw [same, ← used]

def isAnnouncement : Log.Event → Bool
  | .sending .. => true
  | _ => false

theorem source_of_announcement {e : Log.Event} (announces : isAnnouncement e = true) :
    e.source = .exchange := by
  cases e with
  | sending => rfl
  | _ => cases announces

theorem filter_announcement_of_source {source : Log.Source} (other : source ≠ .exchange)
    {told : List Log.Event} (kinds : ∀ e ∈ told, e.source = source) :
    told.filter isAnnouncement = [] := by
  rw [List.filter_eq_nil_iff]
  intro e member announces
  exact other ((kinds e member).symm.trans (source_of_announcement announces))

theorem unannounced_verdict (reply : Except Fault Response) :
    (Exchange.verdictEvents reply).filter isAnnouncement = [] := by
  cases reply with
  | error cause => rfl
  | ok response =>
    unfold Exchange.verdictEvents Outcome.eventsOfResponse
    dsimp only
    split_ifs
    · split
      · split_ifs <;> rfl
      · rfl
    · rfl

theorem announced_history (c : Exchange.Course) (target : Endpoint)
    (heartbeat : Heartbeat.Request) :
    ((c.history target heartbeat).filterMap Use.event?).filter isAnnouncement =
      [.sending heartbeat.deviceId heartbeat.currentFirmware target.uri] := by
  match c with
  | .unopened none => rfl
  | .unopened (some cause) => rfl
  | .abandoned release => cases release <;> rfl
  | .answered reply release =>
    have verdict := unannounced_verdict reply
    have released : (Exchange.releaseEvents release).filter isAnnouncement = [] := by
      cases release <;> rfl
    simp only [Exchange.Course.history, Exchange.Course.opening, Exchange.Course.conversation,
      List.filterMap_append, List.filterMap_cons, List.filterMap_nil, Use.event?,
      Use.filterMap_event?_logging,
      List.filter_append, List.filter_cons, List.filter_nil, verdict, released]
    rfl

theorem announced_exchange (host : String) (port : UInt16) (heartbeat : Heartbeat.Request)
    (w : World) :
    ∃ told,
      (Exchange.run (site (setupLogging timeoutMs patience firstId (logThrough f))) host port
        heartbeat none w).2.events = w.events ++ told ∧
      told.filter isAnnouncement =
        [Log.Event.sending heartbeat.deviceId heartbeat.currentFirmware
          (Exchange.endpoint host port).uri].filter f.allows := by
  obtain ⟨c, told, grown, noted⟩ :=
    told_of_exchange f timeoutMs patience firstId host port heartbeat w
  have coordinators (events : List Log.Event) :
      (events.filter isCoordinators).filter isAnnouncement = events.filter isAnnouncement := by
    rw [List.filter_filter]
    refine List.filter_congr fun e _ => ?_
    cases announces : isAnnouncement e with
    | true => rw [isCoordinators, source_of_announcement announces]; rfl
    | false => rfl
  refine ⟨told, grown, ?_⟩
  rw [← coordinators, noted, coordinatorsNotes, coordinators, List.filter_filter,
    ← announced_history c, List.filter_filter]
  exact List.filter_congr fun e _ => Bool.and_comm _ _

end

end Udp

end CheckIn
