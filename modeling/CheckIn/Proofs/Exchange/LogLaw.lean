import CheckIn.Proofs.Exchange.OutcomeLaw

/-! What the log of an exchange says, against its outcome and its operations. The events are those
of the exchange and of its guard; what a transport logs on its own is not among them. -/
namespace CheckIn.Exchange

open Transport

def events (site : Site (StateM σ)) (s : σ) (host : String) (port : UInt16)
    (heartbeat : Heartbeat.Request) : List Log.Event :=
  (history site s host port heartbeat).filterMap Use.event?

def reportsIgnored : Log.Event → Bool
  | .ignoredKeys _ => true
  | _ => false

/-- What the log of a run says about its outcome and its operations. The end is told of an opened
context only: once, behind all else, and with the kind of the outcome that is returned. -/
structure Reported (o : Option Outcome) (ops : List Use) (logged : List Log.Event) : Prop where
  error : (∃ e ∈ logged, e.level = .error) ↔ ∃ description, o = some (.transportError description)
  warning : (∃ e ∈ logged, e.level = .warn) ↔
    ∃ response, Replied ops response ∧ response.code.raw ≠ 0x45
  finished : (∃ kind, .finished kind ∈ logged) ↔ Opened ops
  finishedLast : Opened ops → ∃ outcome earlier, o = some outcome ∧
    logged = earlier ++ [.finished outcome.kind] ∧ ∀ kind, .finished kind ∉ earlier
  ignored (n : Nat) : .ignoredKeys n ∈ logged ↔ 0 < n ∧ ∃ payload response,
    Replied ops ⟨⟨0x45⟩, payload⟩ ∧ Heartbeat.Response.decode payload = .ok response ∧
      response.extra.length = n
  ignoredOnce : logged.countP reportsIgnored ≤ 1

/-- The outcome of a reply before the release, and what is logged with it. -/
inductive Judged : Except Fault Response → Outcome → List Log.Event → Prop where
  | failed (cause) : Judged (.error cause) (.transportError cause.message) [.requestFailed cause]
  | refused (response : Response) : response.code.raw ≠ 0x45 →
      Judged (.ok response) (.protocolError response.code (Outcome.bodyText response.payload))
        [.rejected response.code response.payload.length]
  | undecodable {payload cause} : Heartbeat.Response.decode payload = .error cause →
      Judged (.ok ⟨⟨0x45⟩, payload⟩) (.transportError cause.message) [.undecodable cause]
  | understood {payload response} : Heartbeat.Response.decode payload = .ok response →
      Judged (.ok ⟨⟨0x45⟩, payload⟩) (.success response)
        (if 0 < response.extra.length then [.ignoredKeys response.extra.length] else [])

theorem judged (reply : Except Fault Response) :
    Judged reply (verdict reply) (verdictEvents reply) := by
  cases reply with
  | error cause => exact .failed cause
  | ok response =>
    unfold verdict verdictEvents Outcome.ofResponse Outcome.eventsOfResponse
    by_cases content : response.code.isContent = true
    · obtain ⟨⟨raw⟩, payload⟩ := response
      obtain rfl : raw = 0x45 := (Outcome.isContent_iff _).mp content
      simp only [content, if_true]
      cases decoded : Heartbeat.Response.decode payload with
      | ok response => exact .understood decoded
      | error cause => exact .undecodable decoded
    · have other : response.code.raw ≠ 0x45 := mt (Outcome.isContent_iff _).mpr content
      simp only [content]
      exact .refused response other

namespace Judged

variable {reply : Except Fault Response} {o : Outcome} {logged : List Log.Event}
  (judged : Judged reply o logged)

include judged

theorem error_iff : (∃ e ∈ logged, e.level = .error) ↔ o.isTransportError = true := by
  cases judged with
  | failed => simp [Log.Event.level, Outcome.isTransportError]
  | refused => simp [Log.Event.level, Outcome.isTransportError]
  | undecodable => simp [Log.Event.level, Outcome.isTransportError]
  | understood =>
    split <;> simp [Log.Event.level, Outcome.isTransportError]

theorem warning_iff : (∃ e ∈ logged, e.level = .warn) ↔
    ∃ response, reply = .ok response ∧ response.code.raw ≠ 0x45 := by
  cases judged with
  | failed => simp [Log.Event.level]
  | refused response other => simp [Log.Event.level, other]
  | undecodable => simp [Log.Event.level]
  | understood => split <;> simp [Log.Event.level]

theorem ignored_iff (n : Nat) : .ignoredKeys n ∈ logged ↔ 0 < n ∧ ∃ payload response,
    reply = .ok ⟨⟨0x45⟩, payload⟩ ∧ Heartbeat.Response.decode payload = .ok response ∧
      response.extra.length = n := by
  cases judged with
  | failed => simp
  | refused response other =>
    simp only [List.mem_singleton, reduceCtorEq, false_iff]
    rintro ⟨-, payload, _, same, -⟩
    cases same
    exact other rfl
  | undecodable garbled =>
    simp only [List.mem_singleton, reduceCtorEq, false_iff]
    rintro ⟨-, payload, response, same, decoded, -⟩
    cases same
    rw [garbled] at decoded
    cases decoded
  | @understood payload response decoded =>
    constructor
    · intro member
      split at member
      · next extra =>
        cases List.mem_singleton.mp member
        exact ⟨extra, payload, response, rfl, decoded, rfl⟩
      · cases member
    · rintro ⟨positive, _, _, same, decoded', rfl⟩
      cases same
      cases decoded.symm.trans decoded'
      simp [positive]

theorem countP_le : logged.countP reportsIgnored ≤ 1 := by
  apply Nat.le_trans List.countP_le_length
  cases judged with
  | failed => exact Nat.le_refl 1
  | refused => exact Nat.le_refl 1
  | undecodable => exact Nat.le_refl 1
  | understood => split <;> simp

theorem unfinished (kind : String) : .finished kind ∉ logged := by
  cases judged with
  | failed => simp
  | refused => simp
  | undecodable => simp
  | understood => split <;> simp

end Judged

section

variable (target : Endpoint) (heartbeat : Heartbeat.Request)

def Course.events (c : Course) : List Log.Event :=
  (c.history target heartbeat).filterMap Use.event?

theorem events_unopened (cause : Fault) :
    (Course.unopened (some cause)).events target heartbeat =
      [.sending heartbeat.deviceId heartbeat.currentFirmware target.uri,
        .encoded heartbeat.encode.length, .openFailed target.uri cause] := rfl

def eventsBefore (reply : Except Fault Response) (release : Except Fault Unit) : List Log.Event :=
  [.sending heartbeat.deviceId heartbeat.currentFirmware target.uri,
    .encoded heartbeat.encode.length] ++ verdictEvents reply ++ [.releasing] ++
      releaseEvents release

theorem events_answered (reply : Except Fault Response) (release : Except Fault Unit) :
    (Course.answered reply release).events target heartbeat =
      eventsBefore target heartbeat reply release ++
        [.finished ((verdict reply).afterRelease release).kind] := by
  simp only [Course.events, Course.history, Course.opening, Course.conversation, eventsBefore,
    List.filterMap_append, List.filterMap_cons, List.filterMap_nil, Use.event?,
    Use.filterMap_event?_logging]
  simp

theorem reported_unopened (cause : Fault) :
    Reported (Course.unopened (some cause)).outcome
      ((Course.unopened (some cause)).operations target (.post target heartbeat.encode))
      ((Course.unopened (some cause)).events target heartbeat) := by
  rw [events_unopened]
  refine ⟨?_, ?_, ?_, ?_, ?_, ?_⟩
  · simp [Log.Event.level, Course.outcome]
  · simp [Log.Event.level, Course.operations, Replied]
  · simp [Course.operations, Opened]
  · simp [Course.operations, Opened]
  · simp [Course.operations, Replied]
  · simp [reportsIgnored]

theorem releaseEvents_error_iff (release : Except Fault Unit) :
    (∃ e ∈ releaseEvents release, e.level = .error) ↔ ∃ cause, release = .error cause := by
  cases release <;> simp [releaseEvents, Log.Event.level]

theorem isTransportError_iff (o : Outcome) :
    o.isTransportError = true ↔ ∃ description, o = .transportError description := by
  cases o <;> simp [Outcome.isTransportError]

theorem isTransportError_afterRelease (o : Outcome) (release : Except Fault Unit) :
    (o.afterRelease release).isTransportError = true ↔
      o.isTransportError = true ∨ ∃ cause, release = .error cause := by
  cases release with
  | ok => simp [Outcome.afterRelease]
  | error cause => cases o <;> simp [Outcome.afterRelease, Outcome.isTransportError]

theorem reported_answered (reply : Except Fault Response) (release : Except Fault Unit) :
    Reported (Course.answered reply release).outcome
      ((Course.answered reply release).operations target (.post target heartbeat.encode))
      ((Course.answered reply release).events target heartbeat) := by
  have verdicts := judged reply
  have loud (level : Log.Level) (rare : level = .error ∨ level = .warn) :
      (∃ e ∈ (Course.answered reply release).events target heartbeat, e.level = level) ↔
        (∃ e ∈ verdictEvents reply, e.level = level) ∨
          ∃ e ∈ releaseEvents release, e.level = level := by
    rw [events_answered]
    rcases rare with rfl | rfl <;>
      simp [eventsBefore, or_and_right, exists_or, Log.Event.level]
  have unfinished (kind : String) :
      .finished kind ∉ eventsBefore target heartbeat reply release := by
    have judging := verdicts.unfinished kind
    cases release <;> simp [eventsBefore, releaseEvents, judging]
  refine ⟨?_, ?_, ?_, ?_, ?_, ?_⟩
  · rw [loud .error (.inl rfl), verdicts.error_iff, releaseEvents_error_iff,
      ← isTransportError_afterRelease, isTransportError_iff]
    simp [Course.outcome]
  · rw [loud .warn (.inr rfl), verdicts.warning_iff]
    cases release <;> simp [releaseEvents, Log.Event.level, replied_answered_iff]
  · rw [events_answered]
    simp [opened_answered]
  · intro _
    exact ⟨_, _, rfl, events_answered target heartbeat reply release, unfinished⟩
  · intro n
    simp only [replied_answered_iff]
    rw [events_answered, ← verdicts.ignored_iff]
    cases release <;> simp [eventsBefore, releaseEvents]
  · rw [events_answered]
    have judging := verdicts.countP_le
    cases release <;>
      simpa [eventsBefore, releaseEvents, List.countP_cons, reportsIgnored] using judging

end

/-- The events of an exchange that nobody abandoned tell its outcome and its operations. -/
theorem log_tells_outcome (site : Site (StateM σ)) (s : σ) (host : String) (port : UInt16)
    (heartbeat : Heartbeat.Request)
    (uncancelled : (operations site s host port heartbeat).any Use.isAbandoned = false) :
    Reported (outcome site s host port heartbeat) (operations site s host port heartbeat)
      (events site s host port heartbeat) := by
  obtain ⟨c, settled, uses⟩ := exists_course site s host port heartbeat
  have ops : operations site s host port heartbeat =
      c.operations (endpoint host port) (.post (endpoint host port) heartbeat.encode) := by
    rw [operations, uses, c.filter_history]
  have logged : events site s host port heartbeat =
      c.events (endpoint host port) heartbeat := by
    rw [events, uses]
    rfl
  rw [ops] at uncancelled
  rw [settled, ops, logged]
  cases c with
  | unopened ended =>
    cases ended with
    | none => simp [Course.operations, Use.isAbandoned] at uncancelled
    | some cause => exact reported_unopened _ heartbeat cause
  | abandoned release => simp [Course.operations, Use.isAbandoned] at uncancelled
  | answered reply release => exact reported_answered _ heartbeat reply release

/-- A response with an entry that is not modeled, on a context that cannot be released. -/
def unknownThenStuck : Script where
  opening := some (.ok ())
  replies := [some (.ok ⟨⟨0x45⟩, [0xa1, 0x61, 0x78, 0xf6]⟩)]
  release := .error (.malformed "teardown")

theorem unknown_key_told_before_stuck_release :
    let ops := operations Stage.site (.ofScript unknownThenStuck) "::1" 5683 ⟨-1, 2⟩
    let logged := events Stage.site (.ofScript unknownThenStuck) "::1" 5683 ⟨-1, 2⟩
    ops.any Use.isAbandoned = false ∧ .ignoredKeys 1 ∈ logged ∧ (∃ e ∈ logged, e.level = .error) ∧
      (¬∃ e ∈ logged, e.level = .warn) ∧
      ∃ earlier, logged = earlier ++ [.finished "transport_error"] := by
  intro ops logged
  have ran : ops = (Course.answered (.ok ⟨⟨0x45⟩, [0xa1, 0x61, 0x78, 0xf6]⟩)
      (.error (.malformed "teardown"))).operations (endpoint "::1" 5683)
        (.post (endpoint "::1" 5683) (Heartbeat.Request.encode ⟨-1, 2⟩)) := rfl
  have uncancelled : ops.any Use.isAbandoned = false := by decide
  have told := log_tells_outcome Stage.site (.ofScript unknownThenStuck) "::1" 5683 ⟨-1, 2⟩
    uncancelled
  have failed : outcome Stage.site (.ofScript unknownThenStuck) "::1" 5683 ⟨-1, 2⟩ =
      some (.transportError
        "failed to release transport context: malformed message: teardown") := rfl
  have replied (response : Response) : Replied ops response ↔
      (⟨⟨0x45⟩, [0xa1, 0x61, 0x78, 0xf6]⟩ : Response) = response := by
    rw [ran, replied_answered_iff, Except.ok.injEq]
  have decoded : Heartbeat.Response.decode [0xa1, 0x61, 0x78, 0xf6] =
      .ok ⟨none, none, [(.text "x", .null)]⟩ := rfl
  refine ⟨uncancelled, (told.ignored 1).mpr ⟨Nat.one_pos, _, _, (replied _).mpr rfl, decoded, rfl⟩,
    told.error.mpr ⟨_, failed⟩, ?_, ?_⟩
  · rw [told.warning]
    rintro ⟨response, came, other⟩
    rw [← (replied response).mp came] at other
    exact other rfl
  · have opened : Opened ops := by
      rw [ran]
      exact opened_answered ..
    obtain ⟨result, earlier, same, ended, -⟩ := told.finishedLast opened
    cases failed.symm.trans same
    exact ⟨earlier, ended⟩

end CheckIn.Exchange
