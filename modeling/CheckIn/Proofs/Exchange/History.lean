import CheckIn.Exchange

/-! What one exchange does with its transport. A recorded site notes every operation with how it
ended and every logged event; it changes neither results nor states. Sites range over all state
transitions, so a transport may answer as it likes and may remember what it was asked before. -/
namespace CheckIn.Transport

/-- One use of a site. An operation that ended in nothing was abandoned by the caller. -/
inductive Use where
  | opening (endpoint : Endpoint) (ended : Option (Except Fault Unit))
  | requesting (request : Request) (ended : Option (Except Fault Response))
  | releasing (ended : Except Fault Unit)
  | logging (event : Log.Event)

namespace Use

@[simp] def isOperation : Use → Bool
  | opening .. | requesting .. | releasing _ => true
  | logging _ => false

def isAbandoned : Use → Bool
  | opening _ none | requesting _ none => true
  | _ => false

def event? : Use → Option Log.Event
  | logging e => some e
  | _ => none

theorem filterMap_event?_logging (events : List Log.Event) :
    (events.map logging).filterMap event? = events := by
  rw [List.filterMap_map]
  exact List.filterMap_some

end Use

/-- The same site with a record of its uses, in the order in which they ended. -/
def Site.recorded (site : Site (StateM σ)) : Site (StateT (List Use) (StateM σ)) where
  transport := {
    openContext := fun e => do
      let ended ← site.transport.openContext e
      modify (· ++ [.opening e ended])
      pure ended
    request := fun r => do
      let ended ← site.transport.request r
      modify (· ++ [.requesting r ended])
      pure ended
    release := do
      let ended ← site.transport.release
      modify (· ++ [.releasing ended])
      pure ended }
  log := fun e => do
    site.log e
    modify (· ++ [.logging e])

/-- A recorded computation beside the plain one: the same result and state, and new uses that
stand in a relation to the result. -/
def Notes (noted : StateT (List Use) (StateM σ) α) (plain : StateM σ α)
    (law : α → List Use → Prop) : Prop :=
  ∀ before s, ∃ uses, noted before s = (((plain s).1, before ++ uses), (plain s).2) ∧
    law (plain s).1 uses

variable {noted : StateT (List Use) (StateM σ) α} {plain : StateM σ α}
  {law : α → List Use → Prop}

namespace Notes

theorem weaken {law' : α → List Use → Prop} (h : Notes noted plain law)
    (imp : ∀ a uses, law a uses → law' a uses) : Notes noted plain law' := by
  intro before s
  obtain ⟨uses, run, held⟩ := h before s
  exact ⟨uses, run, imp _ _ held⟩

theorem pure (a : α) (held : law a []) :
    Notes (Pure.pure a : StateT (List Use) (StateM σ) α) (Pure.pure a) law := by
  intro before s
  refine ⟨[], ?_, held⟩
  rw [List.append_nil]
  rfl

theorem andThen {next : α → StateT (List Use) (StateM σ) β} {after : α → StateM σ β}
    {whole : β → List Use → Prop} (first : Notes noted plain law)
    (second : ∀ a u, law a u → Notes (next a) (after a) fun b v => whole b (u ++ v)) :
    Notes (noted >>= next) (plain >>= after) whole := by
  intro before s
  obtain ⟨u, run, held⟩ := first before s
  obtain ⟨v, run', held'⟩ := second _ u held (before ++ u) (plain s).2
  refine ⟨u ++ v, ?_, held'⟩
  rw [List.append_assoc] at run'
  calc (noted >>= next) before s
      _ = next (plain s).1 (before ++ u) (plain s).2 := by simp only [Bind.bind, StateT.bind, run]
      _ = _ := run'

theorem map (f : α → β) {whole : β → List Use → Prop}
    (h : Notes noted plain fun a u => whole (f a) u) : Notes (f <$> noted) (f <$> plain) whole := by
  simpa only [map_eq_pure_bind] using h.andThen fun a u held => .pure _ (by simpa using held)

end Notes

variable (site : Site (StateM σ))

theorem notes_log (e : Log.Event) :
    Notes (site.recorded.log e) (site.log e) (fun _ uses => uses = [.logging e]) :=
  fun _ _ => ⟨_, rfl, rfl⟩

theorem notes_open (e : Endpoint) :
    Notes (site.recorded.transport.openContext e) (site.transport.openContext e)
      (fun ended uses => uses = [.opening e ended]) :=
  fun _ _ => ⟨_, rfl, rfl⟩

theorem notes_request (r : Request) :
    Notes (site.recorded.transport.request r) (site.transport.request r)
      (fun ended uses => uses = [.requesting r ended]) :=
  fun _ _ => ⟨_, rfl, rfl⟩

theorem notes_release :
    Notes site.recorded.transport.release site.transport.release
      (fun ended uses => uses = [.releasing ended]) :=
  fun _ _ => ⟨_, rfl, rfl⟩

theorem notes_logs (events : List Log.Event) :
    Notes (events.forM site.recorded.log) (events.forM site.log)
      (fun _ uses => uses = events.map .logging) := by
  induction events with
  | nil => exact .pure _ rfl
  | cons e events ih =>
    refine (notes_log site e).andThen ?_
    rintro _ _ rfl
    simpa using ih

namespace Guard

theorem notes_close :
    Notes (holding.close site.recorded) (holding.close site)
      (fun ended uses => uses = [.logging .releasing, .releasing ended]) := by
  have held : Notes (holding.releaseHeld site.recorded) (holding.releaseHeld site)
      (fun ended uses => uses = [.logging .releasing, .releasing ended]) := by
    refine (notes_log site _).andThen ?_
    rintro _ _ rfl
    simpa using notes_release site
  refine held.andThen ?_
  rintro ended _ rfl
  exact .pure ended rfl

/-- What is logged about a release that nobody waits for. -/
def earlyEvents : Except Fault Unit → List Log.Event
  | .ok () => []
  | .error cause => [.earlyReleaseFailed cause]

theorem notes_drop :
    Notes (holding.drop site.recorded) (holding.drop site)
      (fun _ uses => ∃ ended, uses = [.logging .releasingEarly, .releasing ended] ++
        (earlyEvents ended).map .logging) := by
  refine (notes_log site _).andThen ?_
  rintro _ _ rfl
  refine (notes_release site).andThen ?_
  rintro ended _ rfl
  cases ended with
  | ok => exact .pure _ ⟨.ok (), rfl⟩
  | error cause =>
    intro before s
    exact ⟨_, rfl, .error cause, rfl⟩

end Guard

end CheckIn.Transport

namespace CheckIn.Exchange

open Transport

/-- How the operations of an exchange ended: without a context, with one whose request was
abandoned, or with one whose request was answered. A context comes with its release. -/
inductive Course where
  | unopened (ended : Option Fault)
  | abandoned (release : Except Fault Unit)
  | answered (reply : Except Fault Response) (release : Except Fault Unit)

def verdict : Except Fault Response → Outcome
  | .ok response => .ofResponse response
  | .error cause => .transportError cause.message

def verdictEvents : Except Fault Response → List Log.Event
  | .ok response => Outcome.eventsOfResponse response
  | .error cause => [.requestFailed cause]

def releaseEvents : Except Fault Unit → List Log.Event
  | .ok () => []
  | .error cause => [.releaseFailed cause]

namespace Course

def outcome : Course → Option Outcome
  | unopened none => none
  | unopened (some cause) =>
    some (.transportError ("failed to create transport context: " ++ cause.message))
  | abandoned _ => none
  | answered reply release => some ((verdict reply).afterRelease release)

def conversation (r : Request) : Course → List Use
  | unopened _ => []
  | abandoned release =>
    [.requesting r none, .logging .releasingEarly, .releasing release] ++
      (Guard.earlyEvents release).map .logging
  | answered reply release =>
    .requesting r (some reply) :: ((verdictEvents reply).map .logging ++
      [.logging .releasing, .releasing release] ++ (releaseEvents release).map .logging ++
      [.logging (.finished ((verdict reply).afterRelease release).kind)])

def opening (target : Endpoint) : Course → List Use
  | unopened none => [.opening target none]
  | unopened (some cause) =>
    [.opening target (some (.error cause)), .logging (.openFailed target.uri cause)]
  | abandoned _ | answered .. => [.opening target (some (.ok ()))]

def history (target : Endpoint) (heartbeat : Heartbeat.Request) (c : Course) : List Use :=
  [.logging (.sending heartbeat.deviceId heartbeat.currentFirmware target.uri),
    .logging (.encoded heartbeat.encode.length)] ++ c.opening target ++
    c.conversation (.post target heartbeat.encode)

end Course

variable (site : Site (StateM σ))

theorem notes_judge (reply : Except Fault Response) :
    Notes (judge site.recorded reply) (judge site reply)
      (fun o uses => o = verdict reply ∧ uses = (verdictEvents reply).map .logging) := by
  cases reply with
  | ok response =>
    refine (notes_logs site _).andThen ?_
    rintro _ _ rfl
    exact .pure _ ⟨rfl, List.append_nil _⟩
  | error cause =>
    refine (notes_log site _).andThen ?_
    rintro _ _ rfl
    exact .pure _ ⟨rfl, rfl⟩

theorem notes_settle (o : Outcome) (release : Except Fault Unit) :
    Notes (settle site.recorded o release) (settle site o release)
      (fun o' uses => o' = o.afterRelease release ∧
        uses = (releaseEvents release).map .logging ++
          [.logging (.finished (o.afterRelease release).kind)]) := by
  cases release with
  | ok =>
    refine (notes_log site _).andThen ?_
    rintro _ _ rfl
    exact .pure _ ⟨rfl, rfl⟩
  | error cause =>
    refine (notes_log site _).andThen ?_
    rintro _ _ rfl
    refine (notes_log site _).andThen ?_
    rintro _ _ rfl
    exact .pure _ ⟨rfl, rfl⟩

/-- A context that was opened takes the request once and is released once, whoever ends it. -/
theorem notes_converse (r : Request) :
    Notes (converse site.recorded r) (converse site r)
      (fun o uses => ∃ c : Course, (∀ ended, c ≠ .unopened ended) ∧
        o = c.outcome ∧ uses = c.conversation r) := by
  refine (notes_request site r).andThen ?_
  rintro ended _ rfl
  cases ended with
  | none =>
    refine (Guard.notes_drop site).andThen ?_
    rintro _ _ ⟨release, rfl⟩
    exact .pure _ ⟨.abandoned release, nofun, rfl, by simp [Course.conversation]⟩
  | some reply =>
    refine (notes_judge site reply).andThen ?_
    rintro _ _ ⟨rfl, rfl⟩
    refine (Guard.notes_close site).andThen ?_
    rintro release _ rfl
    refine .map some ((notes_settle site _ release).weaken ?_)
    rintro _ _ ⟨rfl, rfl⟩
    exact ⟨.answered reply release, nofun, rfl, by simp [Course.conversation]⟩

/-- Every exchange takes a course, which settles its outcome and its uses together. -/
theorem notes_run (host : String) (port : UInt16) (heartbeat : Heartbeat.Request) :
    Notes (run site.recorded host port heartbeat) (run site host port heartbeat)
      (fun o uses => ∃ c : Course, o = c.outcome ∧
        uses = c.history (endpoint host port) heartbeat) := by
  refine (notes_log site _).andThen ?_
  rintro _ _ rfl
  refine (notes_log site _).andThen ?_
  rintro _ _ rfl
  refine (notes_open site _).andThen ?_
  rintro ended _ rfl
  match ended with
  | none => exact .pure _ ⟨.unopened none, rfl, rfl⟩
  | some (.error cause) =>
    refine (notes_log site _).andThen ?_
    rintro _ _ rfl
    exact .pure _ ⟨.unopened (some cause), rfl, rfl⟩
  | some (.ok ()) =>
    refine (notes_converse site _).weaken ?_
    rintro _ _ ⟨c, opened, rfl, rfl⟩
    refine ⟨c, rfl, ?_⟩
    cases c with
    | unopened ended => exact absurd rfl (opened ended)
    | abandoned => rfl
    | answered => rfl

variable (s : σ) (host : String) (port : UInt16) (heartbeat : Heartbeat.Request)

def outcome : Option Outcome := (run site host port heartbeat s).1

def history : List Use := (run site.recorded host port heartbeat [] s).1.2

theorem run_recorded : run site.recorded host port heartbeat [] s =
    ((outcome site s host port heartbeat, history site s host port heartbeat),
      (run site host port heartbeat s).2) := by
  obtain ⟨uses, run, -⟩ := notes_run site host port heartbeat [] s
  simp only [outcome, history, run]

theorem exists_course : ∃ c : Course, outcome site s host port heartbeat = c.outcome ∧
    history site s host port heartbeat = c.history (endpoint host port) heartbeat := by
  obtain ⟨uses, run, c, same, rfl⟩ := notes_run site host port heartbeat [] s
  exact ⟨c, same, by rw [history, run, List.nil_append]⟩

def operations : List Use :=
  (history site s host port heartbeat).filter Use.isOperation

@[simp] theorem filter_logging (events : List Log.Event) :
    (events.map Use.logging).filter Use.isOperation = [] := by
  simp

/-- The operations of a course: an opening, and after one that succeeded the request and one
release, whether the request was answered or abandoned and whatever became of the release. -/
def Course.operations (target : Endpoint) (r : Request) : Course → List Use
  | unopened ended => [.opening target (ended.map .error)]
  | abandoned release =>
    [.opening target (some (.ok ())), .requesting r none, .releasing release]
  | answered reply release =>
    [.opening target (some (.ok ())), .requesting r (some reply), .releasing release]

theorem Course.filter_history (c : Course) (target : Endpoint) :
    (c.history target heartbeat).filter Use.isOperation =
      c.operations target (.post target heartbeat.encode) := by
  cases c with
  | unopened ended =>
    cases ended <;> simp [history, opening, conversation, operations, List.filter_cons]
  | abandoned release => simp [history, opening, conversation, operations, List.filter_cons]
  | answered reply release => simp [history, opening, conversation, operations, List.filter_cons]

theorem exists_course_operations : ∃ c : Course, outcome site s host port heartbeat = c.outcome ∧
    operations site s host port heartbeat =
      c.operations (endpoint host port) (.post (endpoint host port) heartbeat.encode) := by
  obtain ⟨c, settled, uses⟩ := exists_course site s host port heartbeat
  exact ⟨c, settled, by rw [operations, uses, c.filter_history]⟩

/-- A context is released exactly once if it was opened and not at all otherwise: after its one
request has ended, and as the last operation. Only a caller who leaves gets no outcome. -/
theorem released_once_iff_opened (deviceId currentFirmware : Int64) :
    let heartbeat : Heartbeat.Request := ⟨deviceId, currentFirmware⟩
    let target := Endpoint.make host port "hb"
    let post : Request := ⟨.post, target, heartbeat.encode⟩
    let result := outcome site s host port heartbeat
    (∃ ended, ended ≠ some (.ok ()) ∧ (result = none ↔ ended = none) ∧
      operations site s host port heartbeat = [.opening target ended]) ∨
    (∃ ended release, (result = none ↔ ended = none) ∧
      operations site s host port heartbeat =
        [.opening target (some (.ok ())), .requesting post ended, .releasing release]) := by
  intro heartbeat target post result
  obtain ⟨c, settled, trace⟩ := exists_course_operations site s host port heartbeat
  rw [show result = c.outcome from settled]
  cases c with
  | unopened ended =>
    exact .inl ⟨ended.map .error, by cases ended <;> simp, by cases ended <;> simp [Course.outcome],
      trace⟩
  | abandoned release => exact .inr ⟨none, release, by simp [Course.outcome], trace⟩
  | answered reply release => exact .inr ⟨some reply, release, by simp [Course.outcome], trace⟩

end CheckIn.Exchange
