import CheckIn.Proofs.Exchange.OutcomeLaw
import CheckIn.Proofs.Text.Quoted

/-! Exchanges on a site whose contexts serve until they are released: while one is open, no
operation finds it closed, and its release succeeds. The outcome of such an exchange is the verdict
on its reply, or says why no context could be opened. -/
namespace CheckIn

/-- From every state that meets `pre`, the computation comes to a result and a state that meet
`post`. -/
def Yields (pre : σ → Prop) (x : StateM σ α) (post : α → σ → Prop) : Prop :=
  ∀ s, pre s → post (x s).1 (x s).2

namespace Yields

variable {pre : σ → Prop} {x : StateM σ α} {post : α → σ → Prop}

protected theorem pure {a : α} {p : α → Prop} (held : p a) :
    Yields pre (pure a) fun a _ => p a :=
  fun _ _ => held

theorem bind {f : α → StateM σ β} {whole : β → σ → Prop} (first : Yields pre x post)
    (second : ∀ a, Yields (post a) (f a) whole) : Yields pre (x >>= f) whole :=
  fun s held => second _ _ (first s held)

theorem after {f : α → StateM σ β} {whole : β → σ → Prop}
    (second : ∀ a, Yields (fun _ => True) (f a) whole) : Yields pre (x >>= f) whole :=
  fun s _ => second (x s).1 (x s).2 trivial

theorem assuming {p : Prop} (h : p → Yields pre x post) : Yields (fun s => p ∧ pre s) x post :=
  fun s held => h held.1 s held.2

end Yields

namespace Transport

/-- Contexts of the site serve until they are released; `ready` is what an open one keeps. -/
structure Site.Serves (site : Site (StateM σ)) (ready : σ → Prop) : Prop where
  log (e : Log.Event) : Yields ready (site.log e) fun _ => ready
  openContext (e : Endpoint) : Yields (fun _ => True) (site.transport.openContext e)
    fun ended s => ended ≠ some (.error .closed) ∧ (ended = some (.ok ()) → ready s)
  request (r : Request) : Yields ready (site.transport.request r)
    fun ended s => ended ≠ some (.error .closed) ∧ ready s
  release : Yields ready site.transport.release fun ended _ => ended = .ok ()

end Transport

namespace Exchange

open Transport

/-- The outcomes that no closed context and no failed release has a part in. -/
inductive Served : Outcome → Prop where
  | unopened {cause : Fault} : cause ≠ .closed →
      Served (.transportError ("failed to create transport context: " ++ cause.message))
  | answered {reply : Except Fault Response} : reply ≠ .error .closed → Served (verdict reply)

section

variable {site : Site (StateM σ)} {ready : σ → Prop} (serves : site.Serves ready)

include serves

theorem logs_ready (events : List Log.Event) :
    Yields ready (events.forM site.log) fun _ => ready := by
  induction events with
  | nil => exact fun _ held => held
  | cons e events ih => exact (serves.log e).bind fun _ => ih

theorem judge_ready (reply : Except Fault Response) :
    Yields ready (judge site reply) fun o s => o = verdict reply ∧ ready s := by
  cases reply with
  | ok response => exact (logs_ready serves _).bind fun _ _ held => ⟨rfl, held⟩
  | error cause => exact (serves.log _).bind fun _ _ held => ⟨rfl, held⟩

theorem close_ready : Yields ready (Guard.holding.close site) fun ended _ => ended = .ok () := by
  have released : Yields ready (Guard.holding.releaseHeld site) fun ended _ => ended = .ok () :=
    (serves.log .releasing).bind fun _ => serves.release
  exact released.bind fun ended _ succeeded => succeeded

theorem converse_served (r : Request) :
    Yields ready (converse site r) fun o _ => ∀ o', o = some o' → Served o' := by
  refine (serves.request r).bind fun ended => .assuming fun unclosed => ?_
  cases ended with
  | none => exact fun _ _ => nofun
  | some reply =>
    refine (judge_ready serves reply).bind fun o => .assuming fun judged => ?_
    refine (close_ready serves).bind fun released => ?_
    rintro s rfl o' settled
    obtain rfl : verdict reply = o' := by
      rw [← judged]
      exact Option.some.inj settled
    exact .answered fun closed => unclosed (congrArg some closed)

/-- Every exchange on a site that serves has an outcome of its own, or none. -/
theorem run_served (host : String) (port : UInt16) (heartbeat : Heartbeat.Request) :
    Yields (fun _ => True) (run site host port heartbeat)
      fun o _ => ∀ o', o = some o' → Served o' := by
  refine .after fun _ => .after fun _ => ?_
  refine (serves.openContext _).bind fun ended => .assuming fun unclosed => ?_
  match ended with
  | none => exact fun _ _ => nofun
  | some (.error cause) =>
    rintro s - o' settled
    cases Option.some.inj settled
    exact .unopened fun closed => unclosed (congrArg (some ∘ Except.error) closed)
  | some (.ok ()) => exact fun s opened => converse_served serves _ s (opened rfl)

end

/-- The beginnings of what is said of a request or of its reply. -/
def replyFronts : List String :=
  ["failed to resolve ", "socket error: ", "timed out: ", "malformed message: ",
    "decoding failed: "]

def fronts : List String :=
  "failed to create transport context: " :: "failed to release transport context: " ::
    Fault.closed.message :: replyFronts

theorem front_eq {front front' rest rest' : String} (among : front ∈ fronts)
    (among' : front' ∈ fronts) (same : front ++ rest = front' ++ rest') : front = front' := by
  have letters := congrArg String.toList same
  rw [String.toList_append, String.toList_append] at letters
  have apart : ∀ s ∈ fronts, ∀ t ∈ fronts, s.toList <+: t.toList → s = t := by decide
  exact Text.beginning_unique apart among among' ⟨rest.toList, letters⟩ (List.prefix_append _ _)

theorem mem_fronts {front : String} (among : front ∈ replyFronts) : front ∈ fronts :=
  .tail _ (.tail _ (.tail _ among))

theorem exists_front_of_unclosed {cause : Fault} (unclosed : cause ≠ .closed) :
    ∃ front ∈ replyFronts, ∃ rest, cause.message = front ++ rest := by
  cases cause with
  | resolve host reason =>
    refine ⟨"failed to resolve ", by decide, host ++ (": " ++ reason), ?_⟩
    change "failed to resolve " ++ host ++ ": " ++ reason = _
    rw [String.append_assoc, String.append_assoc]
  | socket cause => exact ⟨"socket error: ", by decide, _, rfl⟩
  | timeout text => exact ⟨"timed out: ", by decide, _, rfl⟩
  | malformed text => exact ⟨"malformed message: ", by decide, _, rfl⟩
  | closed => exact absurd rfl unclosed

theorem exists_front_of_verdict {reply : Except Fault Response} {description : String}
    (unclosed : reply ≠ .error .closed) (failed : verdict reply = .transportError description) :
    ∃ front ∈ replyFronts, ∃ rest, description = front ++ rest := by
  cases reply with
  | ok response =>
    obtain ⟨-, cause, -, rfl⟩ := (Outcome.ofResponse_transportError_iff _ _).mp failed
    exact ⟨"decoding failed: ", by decide, cause.reason, rfl⟩
  | error cause =>
    cases failed
    exact exists_front_of_unclosed fun closed => unclosed (congrArg _ closed)

theorem verdict_ne {reply : Except Fault Response} (unclosed : reply ≠ .error .closed)
    {front : String} (among : front ∈ fronts) (other : front ∉ replyFronts) (rest : String) :
    verdict reply ≠ .transportError (front ++ rest) := by
  intro failed
  obtain ⟨front', among', rest', begins⟩ := exists_front_of_verdict unclosed failed
  exact other (front_eq among (mem_fronts among') begins ▸ among')

namespace Served

variable {o : Outcome} (served : Served o)

include served

theorem ne_release_failure (text : String) :
    o ≠ .transportError ("failed to release transport context: " ++ text) := by
  cases served with
  | unopened =>
    intro same
    have alike := front_eq (by decide) (by decide) (Outcome.transportError.inj same)
    exact absurd alike (by decide)
  | answered unclosed => exact verdict_ne unclosed (by decide) (by decide) text

theorem ne_closed : o ≠ .transportError Fault.closed.message ∧
    o ≠ .transportError ("failed to create transport context: " ++ Fault.closed.message) := by
  have whole : Fault.closed.message = Fault.closed.message ++ "" := String.append_empty.symm
  cases served with
  | @unopened cause unclosed =>
    constructor
    · intro same
      have alike := front_eq (by decide) (by decide)
        ((Outcome.transportError.inj same).trans whole)
      exact absurd alike (by decide)
    · intro same
      have closed : cause.message = Fault.closed.message :=
        String.append_right_inj _ |>.mp (Outcome.transportError.inj same)
      obtain ⟨front, among, rest, begins⟩ := exists_front_of_unclosed unclosed
      have alike := front_eq (by decide) (mem_fronts among)
        (whole.symm.trans (closed.symm.trans begins))
      exact absurd (alike ▸ among) (by decide)
  | answered unclosed =>
    constructor
    · rw [whole]
      exact verdict_ne unclosed (by decide) (by decide) ""
    · exact verdict_ne unclosed (by decide) (by decide) _

end Served

end Exchange

end CheckIn
