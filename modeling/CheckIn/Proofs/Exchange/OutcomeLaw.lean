import CheckIn.Proofs.Exchange.History
import CheckIn.Transport.Script

/-! The outcome of an exchange as a law over its operations. The phases of an exchange are opening,
request, decoding and release, and each tells from the operations alone whether it failed and with
which description. -/
namespace CheckIn

namespace Outcome

theorem isContent_iff (code : Coap.Code) : code.isContent = true ↔ code.raw = 0x45 := by
  have content : Coap.Code.content = ⟨0x45⟩ := rfl
  cases code
  simp [Coap.Code.isContent, content]

variable (response : Transport.Response)

theorem ofResponse_success_iff (r : Heartbeat.Response) :
    ofResponse response = .success r ↔
      response.code.raw = 0x45 ∧ Heartbeat.Response.decode response.payload = .ok r := by
  rw [← isContent_iff, ofResponse]
  split
  · next content => cases Heartbeat.Response.decode response.payload <;> simp [content]
  · next refused => simp [refused]

theorem ofResponse_protocolError_iff (code : Coap.Code) (body : Option String) :
    ofResponse response = .protocolError code body ↔
      response.code = code ∧ code.raw ≠ 0x45 ∧ body = bodyText response.payload := by
  rw [ne_eq, ← isContent_iff, ofResponse]
  split
  · next content =>
    cases Heartbeat.Response.decode response.payload <;>
      simp only [reduceCtorEq, false_iff] <;> rintro ⟨rfl, refused, -⟩ <;> exact refused content
  · next refused =>
    constructor
    · intro h
      cases h
      exact ⟨rfl, refused, rfl⟩
    · rintro ⟨rfl, -, rfl⟩
      rfl

theorem ofResponse_transportError_iff (description : String) :
    ofResponse response = .transportError description ↔ response.code.raw = 0x45 ∧
      ∃ cause, Heartbeat.Response.decode response.payload = .error cause ∧
        cause.message = description := by
  rw [← isContent_iff, ofResponse]
  split
  · next content => cases Heartbeat.Response.decode response.payload <;> simp [content]
  · next refused => simp [refused]

theorem afterRelease_eq_iff {o o' : Outcome} (release : Except Transport.Fault Unit)
    (delivered : o'.isTransportError = false) :
    o.afterRelease release = o' ↔ o = o' ∧ release = .ok () := by
  cases release with
  | ok => simp [afterRelease]
  | error cause =>
    simp only [afterRelease, reduceCtorEq, and_false, iff_false]
    split
    · next failed =>
      rintro rfl
      exact absurd delivered (by simp [failed])
    · rintro rfl
      simp [isTransportError] at delivered

theorem afterRelease_transportError_iff (o : Outcome) (release : Except Transport.Fault Unit)
    (description : String) :
    o.afterRelease release = .transportError description ↔ o = .transportError description ∨
      o.isTransportError = false ∧ ∃ cause, release = .error cause ∧
        "failed to release transport context: " ++ cause.message = description := by
  cases release with
  | ok => simp [afterRelease]
  | error cause => cases o <;> simp [afterRelease, isTransportError]

end Outcome

end CheckIn

namespace CheckIn.Exchange

open Transport

def Opened (ops : List Use) : Prop := ∃ target, .opening target (some (.ok ())) ∈ ops

def Replied (ops : List Use) (response : Response) : Prop :=
  ∃ r, .requesting r (some (.ok response)) ∈ ops

def Released (ops : List Use) : Prop := .releasing (.ok ()) ∈ ops

def openFailure? : Use → Option String
  | .opening _ (some (.error cause)) =>
    some ("failed to create transport context: " ++ cause.message)
  | _ => none

def requestFailure? : Use → Option String
  | .requesting _ (some (.error cause)) => some cause.message
  | _ => none

/-- Only the body of a 2.05 is decoded. -/
def decodeFailure? : Use → Option String
  | .requesting _ (some (.ok response)) =>
    if response.code.raw = 0x45 then
      match Heartbeat.Response.decode response.payload with
      | .ok _ => none
      | .error cause => some cause.message
    else none
  | _ => none

def releaseFailure? : Use → Option String
  | .releasing (.error cause) => some ("failed to release transport context: " ++ cause.message)
  | _ => none

/-- The descriptions of the phases that failed, in the order of the phases. -/
def failures (ops : List Use) : List String :=
  ops.filterMap openFailure? ++ ops.filterMap requestFailure? ++
    ops.filterMap decodeFailure? ++ ops.filterMap releaseFailure?

/-- What the outcome of a run says about its operations, for each kind of outcome. -/
structure Explained (o : Option Outcome) (ops : List Use) : Prop where
  success (r : Heartbeat.Response) : o = some (.success r) ↔ Opened ops ∧
    (∃ payload, Replied ops ⟨⟨0x45⟩, payload⟩ ∧ Heartbeat.Response.decode payload = .ok r) ∧
    Released ops
  protocolError (code : Coap.Code) (body : Option String) :
    o = some (.protocolError code body) ↔ Opened ops ∧
      (∃ payload, Replied ops ⟨code, payload⟩ ∧ code.raw ≠ 0x45 ∧
        body = if payload = [] then none else some (String.ofList (Text.Utf8.lossy payload))) ∧
      Released ops
  transportError (description : String) :
    o = some (.transportError description) ↔ (failures ops).head? = some description
  settled : o ≠ none

section

variable (target : Endpoint) (r : Request)

theorem opened_answered (reply : Except Fault Response) (release : Except Fault Unit) :
    Opened ((Course.answered reply release).operations target r) := by
  simp [Opened, Course.operations]

theorem replied_answered_iff (reply : Except Fault Response) (release : Except Fault Unit)
    (response : Response) :
    Replied ((Course.answered reply release).operations target r) response ↔
      reply = .ok response := by
  simp [Replied, Course.operations, eq_comm]

theorem released_answered_iff (reply : Except Fault Response) (release : Except Fault Unit) :
    Released ((Course.answered reply release).operations target r) ↔ release = .ok () := by
  simp [Released, Course.operations, eq_comm]

theorem explained_unopened (cause : Fault) :
    Explained (Course.unopened (some cause)).outcome
      ((Course.unopened (some cause)).operations target r) where
  success := by simp [Course.outcome, Course.operations, Opened]
  protocolError := by simp [Course.outcome, Course.operations, Opened]
  transportError := by
    simp [Course.outcome, Course.operations, failures, openFailure?]
  settled := by simp [Course.outcome]

theorem verdict_success_iff (reply : Except Fault Response) (resp : Heartbeat.Response) :
    verdict reply = .success resp ↔ ∃ payload, reply = .ok ⟨⟨0x45⟩, payload⟩ ∧
      Heartbeat.Response.decode payload = .ok resp := by
  cases reply with
  | error cause => simp [verdict]
  | ok response =>
    obtain ⟨⟨raw⟩, payload⟩ := response
    simp only [verdict, Outcome.ofResponse_success_iff, Except.ok.injEq, Response.mk.injEq,
      Coap.Code.mk.injEq]
    constructor
    · rintro ⟨rfl, decoded⟩
      exact ⟨payload, ⟨rfl, rfl⟩, decoded⟩
    · rintro ⟨_, ⟨rfl, rfl⟩, decoded⟩
      exact ⟨rfl, decoded⟩

theorem verdict_protocolError_iff (reply : Except Fault Response) (code : Coap.Code)
    (body : Option String) :
    verdict reply = .protocolError code body ↔ ∃ payload, reply = .ok ⟨code, payload⟩ ∧
      code.raw ≠ 0x45 ∧ body = Outcome.bodyText payload := by
  cases reply with
  | error cause => simp [verdict]
  | ok response =>
    obtain ⟨code', payload⟩ := response
    simp only [verdict, Outcome.ofResponse_protocolError_iff, Except.ok.injEq, Response.mk.injEq]
    constructor
    · rintro ⟨rfl, refused, rfl⟩
      exact ⟨payload, ⟨rfl, rfl⟩, refused, rfl⟩
    · rintro ⟨_, ⟨rfl, rfl⟩, refused, rfl⟩
      exact ⟨rfl, refused, rfl⟩

theorem verdict_transportError_iff (reply : Except Fault Response) (description : String) :
    verdict reply = .transportError description ↔
      ((requestFailure? (.requesting r (some reply))).or
        (decodeFailure? (.requesting r (some reply)))) = some description := by
  cases reply with
  | error cause => simp [verdict, requestFailure?]
  | ok response =>
    simp only [verdict, Outcome.ofResponse_transportError_iff, requestFailure?, decodeFailure?,
      Option.none_or]
    cases Heartbeat.Response.decode response.payload <;> simp

theorem isTransportError_eq_false_iff (o : Outcome) :
    o.isTransportError = false ↔ ∀ description, o ≠ .transportError description := by
  cases o <;> simp [Outcome.isTransportError]

theorem releaseFailure_eq_some_iff (release : Except Fault Unit) (description : String) :
    releaseFailure? (.releasing release) = some description ↔ ∃ cause, release = .error cause ∧
      "failed to release transport context: " ++ cause.message = description := by
  cases release <;> simp [releaseFailure?]

theorem filterMap_middle (f : Use → Option String) {a b c : Use} (first : f a = none)
    (last : f c = none) : [a, b, c].filterMap f = (f b).toList := by
  cases h : f b <;> simp [first, last, h]

theorem failures_answered (reply : Except Fault Response) (release : Except Fault Unit) :
    failures ((Course.answered reply release).operations target r) =
      (requestFailure? (.requesting r (some reply))).toList ++
        (decodeFailure? (.requesting r (some reply))).toList ++
          (releaseFailure? (.releasing release)).toList := by
  have request := filterMap_middle requestFailure? (a := .opening target (some (.ok ())))
    (b := .requesting r (some reply)) (c := .releasing release) rfl rfl
  have decode := filterMap_middle decodeFailure? (a := .opening target (some (.ok ())))
    (b := .requesting r (some reply)) (c := .releasing release) rfl rfl
  have last : [.opening target (some (.ok ())), .requesting r (some reply),
      .releasing release].filterMap releaseFailure? =
        (releaseFailure? (.releasing release)).toList := by
    cases release <;> rfl
  simp only [failures, Course.operations, request, decode, last]
  rfl

theorem explained_answered (reply : Except Fault Response) (release : Except Fault Unit) :
    Explained (Course.answered reply release).outcome
      ((Course.answered reply release).operations target r) where
  success resp := by
    simp only [Course.outcome, Option.some.injEq, replied_answered_iff, released_answered_iff]
    rw [Outcome.afterRelease_eq_iff release rfl, verdict_success_iff]
    simp [opened_answered]
  protocolError code body := by
    simp only [Course.outcome, Option.some.injEq, replied_answered_iff, released_answered_iff]
    rw [Outcome.afterRelease_eq_iff release rfl, verdict_protocolError_iff]
    simp [opened_answered, Outcome.bodyText]
  transportError description := by
    simp only [Course.outcome, Option.some.injEq]
    rw [Outcome.afterRelease_transportError_iff, failures_answered,
      isTransportError_eq_false_iff, ← releaseFailure_eq_some_iff]
    simp only [ne_eq, verdict_transportError_iff r, List.head?_append, Option.head?_toList]
    cases (requestFailure? (.requesting r (some reply))).or
      (decodeFailure? (.requesting r (some reply))) <;> simp
  settled := by simp [Course.outcome]

end

/-- The outcome of an exchange that nobody abandoned is a success, a refusal by the server or the
first failure of a phase, each under exactly the conditions that its phases met. -/
theorem outcome_explained (site : Site (StateM σ)) (s : σ) (host : String) (port : UInt16)
    (heartbeat : Heartbeat.Request)
    (uncancelled : (operations site s host port heartbeat).any Use.isAbandoned = false) :
    Explained (outcome site s host port heartbeat) (operations site s host port heartbeat) := by
  obtain ⟨c, settled, ops⟩ := exists_course_operations site s host port heartbeat
  rw [ops] at uncancelled
  rw [settled, ops]
  match c with
  | .unopened none => simp [Course.operations, Use.isAbandoned] at uncancelled
  | .unopened (some cause) => exact explained_unopened _ _ cause
  | .abandoned release => simp [Course.operations, Use.isAbandoned] at uncancelled
  | .answered reply release => exact explained_answered _ _ reply release

/-- A refusal with a body, on a context that cannot be released. -/
def refusedThenStuck : Script where
  opening := some (.ok ())
  replies := [some (.ok ⟨⟨0x84⟩, [0x6e, 0x6f]⟩)]
  release := .error (.malformed "teardown")

theorem refusal_spoiled_by_release :
    (operations Stage.site (.ofScript refusedThenStuck) "::1" 5683 ⟨-1, 2⟩).any Use.isAbandoned =
        false ∧
      outcome Stage.site (.ofScript refusedThenStuck) "::1" 5683 ⟨-1, 2⟩ =
        some (.transportError
          "failed to release transport context: malformed message: teardown") := by
  have uncancelled : (operations Stage.site (.ofScript refusedThenStuck) "::1" 5683
      ⟨-1, 2⟩).any Use.isAbandoned = false := by decide
  refine ⟨uncancelled, ?_⟩
  rw [(outcome_explained Stage.site (.ofScript refusedThenStuck) "::1" 5683 ⟨-1, 2⟩
    uncancelled).transportError]
  decide

end CheckIn.Exchange
