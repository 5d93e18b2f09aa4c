import CheckIn.Proofs.Exchange.Joined
import CheckIn.Proofs.Exchange.Serving
import CheckIn.Proofs.Net.Simulation
import CheckIn.Udp.Session
import CheckIn.World

/-! The life of a session over UDP, on any network and with any peer: it serves until its first
release, which succeeds whatever became of the requests before it, and afterwards every call finds
it closed and does nothing at all. -/
namespace CheckIn.Udp

open Net

/-- Whether a request goes on step by step until it is over or the number of steps is used up that
the state gives it. -/
def Setup.Repeats (setup : Setup (StateM σ)) : Prop :=
  ∃ steps : σ → Nat, ∀ step d s, setup.untilOver step d s =
    repeatWith (·.stage.isOver) step (steps s) d s

/-- A stage that does not blame a closed session. -/
def Stage.Unclosed (stage : Stage) : Prop := stage ≠ .failed .closed

theorem unclosed_begin (t : Transfer) : (Stage.begin t).Unclosed := by
  unfold Stage.begin
  split <;> exact nofun

theorem unclosed_ofIoFault (cause : IoFault) : (Stage.failed (ofIoFault cause)).Unclosed := by
  unfold ofIoFault
  split <;> exact nofun

theorem unclosed_retry (t : Transfer) (cause : IoFault) (spare : Nat) :
    (Stage.retry t cause spare).Unclosed := by
  cases spare with
  | zero => exact unclosed_ofIoFault cause
  | succ spare => exact nofun

theorem unclosed_ofStep (next : Step) : (Stage.ofStep next).Unclosed := by
  cases next with
  | send t => exact unclosed_begin t
  | finish r => exact nofun
  | fail cause => exact nofun

theorem unclosed_hear (t : Transfer) (spare limit : Nat) (reply : Coap.Packet) :
    (Stage.hear t spare limit reply).Unclosed := by
  unfold Stage.hear
  split <;> exact nofun

theorem unclosed_overdue (terms : Terms) (moment : Nat) :
    (Stage.overdue terms moment).Unclosed := by
  unfold Stage.overdue
  split <;> exact nofun

theorem unclosed_expire (terms : Terms) (t : Transfer) (spare limit : Nat) :
    (Stage.expire terms t spare limit).Unclosed := by
  unfold Stage.expire
  dsimp only
  split
  · exact unclosed_retry t silence spare
  · exact unclosed_overdue terms _

/-- Computations whose results meet `p`, wherever they start. -/
abbrev Always (p : α → Prop) (x : StateM σ α) : Prop := Yields (fun _ => True) x fun a _ => p a

section

variable (wire : Wire (StateM σ)) (terms : Terms) (link : Link) (t : Transfer) (spare limit : Nat)

/-- A delivery that does not blame a closed session. -/
def Delivery.Unclosed (d : Delivery) : Prop := d.stage.Unclosed

theorem sendStep_unclosed : Always Delivery.Unclosed (sendStep wire terms link t spare) := by
  refine .after fun now => ?_
  split_ifs
  · exact .pure nofun
  · exact .pure nofun
  · exact .pure nofun
  · refine .after fun sent => ?_
    cases sent with
    | ok => exact .pure nofun
    | error cause =>
      dsimp only
      split
      · exact .pure nofun
      · exact .pure (unclosed_retry t cause spare)

theorem receiveStep_unclosed :
    Always Delivery.Unclosed (receiveStep wire terms link t spare limit) := by
  refine .after fun received => ?_
  cases received with
  | none => exact .pure (unclosed_expire terms t spare limit)
  | some datagram =>
    refine .after fun heard => ?_
    match heard with
    | (link, none) => exact .pure nofun
    | (link, some reply) => exact .pure (unclosed_hear t spare limit reply)

theorem clearStep_unclosed (next : Step) :
    Always Delivery.Unclosed (clearStep wire terms link next) := by
  refine .after fun now => .after fun received => ?_
  cases received with
  | none => exact .pure (unclosed_ofStep next)
  | some datagram => exact .after fun heard => .pure nofun

theorem blockedStep_unclosed : Always Delivery.Unclosed (blockedStep wire terms link) := by
  refine .after fun received => ?_
  cases received with
  | none => exact .pure (unclosed_overdue terms _)
  | some datagram => exact .pure nofun

theorem step_unclosed (d : Delivery) (unclosed : d.Unclosed) :
    Always Delivery.Unclosed (d.step wire terms) := by
  obtain ⟨link, stage⟩ := d
  cases stage with
  | sending t spare => exact sendStep_unclosed wire terms link t spare
  | waiting t spare limit => exact receiveStep_unclosed wire terms link t spare limit
  | clearing next => exact clearStep_unclosed wire terms link next
  | blocked => exact blockedStep_unclosed wire terms link
  | done r => exact .pure unclosed
  | failed cause => exact .pure unclosed
  | abandoned => exact .pure unclosed

theorem result_of_unclosed {stage : Stage} (unclosed : stage.Unclosed) :
    stage.result ≠ some (.error .closed) := by
  cases stage with
  | failed cause =>
    intro same
    cases same
    exact unclosed rfl
  | _ => exact nofun

end

/-- What can be asked of a context once it is open. -/
inductive Call where
  | request (r : Transport.Request)
  | release

inductive Reply where
  | requested (ended : Option (Except Transport.Fault Transport.Response))
  | released (ended : Except Transport.Fault Unit)

def Reply.IsClosed : Reply → Prop
  | requested ended => ended = some (.error .closed)
  | released ended => ended = .error .closed

def Call.refused : Call → Reply
  | request _ => .requested (some (.error .closed))
  | release => .released (.error .closed)

section

variable {m : Type → Type} [Monad m] (setup : Setup m)

def Call.perform : Call → SessionM m Reply
  | request r => do
    let ended ← Udp.request setup r
    pure (.requested ended)
  | release => do
    let ended ← Udp.release setup
    pure (.released ended)

def callAll : List Call → SessionM m (List Reply)
  | [] => pure []
  | call :: calls => do
    let reply ← call.perform setup
    let replies ← callAll calls
    pure (reply :: replies)

end

/-- A state with a session that has not been released. -/
def IsOpen (c : Option Session × σ) : Prop := ∃ s : Session, c.1 = some s ∧ s.isOpen = true

section

variable (setup : Setup (StateM σ))

theorem resolve_unclosed (e : Endpoint) :
    Always (· ≠ some (.error .closed)) (resolve setup e) := by
  unfold resolve
  split
  · exact .pure nofun
  · refine .after fun verdict => ?_
    rcases verdict with _ | reason | address <;> exact .pure nofun

theorem connect_unclosed (e : Endpoint) :
    Always (· ≠ some (.error .closed)) (connect setup e) := by
  refine (resolve_unclosed setup e).bind fun found => ?_
  rcases found with _ | cause | peer
  · exact fun _ unclosed => unclosed
  · exact fun _ unclosed => unclosed
  · refine .after fun attached => ?_
    cases attached <;> exact .pure nofun

theorem openSession_opens (e : Endpoint) :
    Yields (fun _ => True) (joined (openSession setup e))
      fun ended c => ended ≠ some (.error .closed) ∧ (ended = some (.ok ()) → IsOpen c) := by
  have connected : Always (· ≠ some (.error .closed))
      (joined (StateT.lift (connect setup e) : SessionM (StateM σ) _)) :=
    fun c _ => connect_unclosed setup e c.2 trivial
  unfold openSession
  rw [joined_bind]
  refine connected.bind fun ended => ?_
  match ended with
  | none => exact fun _ _ => ⟨nofun, nofun⟩
  | some (.error cause) =>
    -- the same fault, but of a result of another type
    intro c unclosed
    refine ⟨?_, nofun⟩
    intro same
    cases same
    exact unclosed rfl
  | some (.ok peer) => exact fun _ _ => ⟨nofun, fun _ => ⟨_, rfl, rfl⟩⟩

end

section

variable {setup : Setup (StateM σ)}

section

variable (repeats : setup.Repeats)

include repeats

theorem untilOver_unclosed (terms : Terms) (d : Delivery) (unclosed : d.Unclosed) :
    Always Delivery.Unclosed (setup.untilOver (Delivery.step setup.wire terms) d) := by
  obtain ⟨steps, repeated⟩ := repeats
  intro s _
  rw [repeated]
  exact repeatWith_invariant _ _ (fun d _ => d.Unclosed)
    (fun d s unclosed => step_unclosed setup.wire terms d unclosed s trivial) _ d s unclosed

theorem converse_unclosed (s : Session) (r : Transport.Request) :
    Always (fun ended => ended.2 ≠ some (.error .closed)) (converse setup s r) := by
  refine .after fun _ => .after fun now => ?_
  have begun : Delivery.Unclosed ⟨s.link, .begin (.start (packet s.nextId r))⟩ := unclosed_begin _
  refine (untilOver_unclosed repeats _ _ begun).bind fun d w unclosed => ?_
  have judged := result_of_unclosed unclosed
  generalize d.stage.result = ended at judged
  match ended with
  | some (.ok response) => exact nofun
  | some (.error cause) => exact judged
  | none => exact nofun

theorem request_of_open (r : Transport.Request) : Yields IsOpen (joined (request setup r))
    fun ended c => ended ≠ some (.error .closed) ∧ IsOpen c := by
  rintro ⟨_, w⟩ ⟨⟨peer, _, link, nextId⟩, rfl, rfl⟩
  have conversed := converse_unclosed repeats ⟨peer, true, link, nextId⟩ r w trivial
  exact ⟨conversed, _, rfl, rfl⟩

end

theorem release_of_open : Yields IsOpen (joined (release setup))
    fun ended c => ended = .ok () ∧ ¬IsOpen c := by
  rintro ⟨_, w⟩ ⟨⟨peer, _, link, nextId⟩, rfl, rfl⟩
  refine ⟨rfl, ?_⟩
  rintro ⟨session, held, isOpen⟩
  cases held
  exact Bool.noConfusion isOpen

/-- A call on a context that is not open does nothing. -/
theorem perform_of_closed (call : Call) (c : Option Session × σ) (closed : ¬IsOpen c) :
    joined (call.perform setup) c = (call.refused, c) := by
  -- without a session, and with one that has been released, both calls are refused alike
  obtain ⟨session, w⟩ := c
  match session with
  | none => cases call <;> rfl
  | some ⟨peer, true, link, nextId⟩ => exact absurd ⟨_, rfl, rfl⟩ closed
  | some ⟨peer, false, link, nextId⟩ => cases call <;> rfl

theorem callAll_of_open (repeats : setup.Repeats) (calls : List Call)
    (unreleased : Call.release ∉ calls) : Yields IsOpen (joined (callAll setup calls))
      fun replies c => (∀ reply ∈ replies, ¬reply.IsClosed) ∧ IsOpen c := by
  induction calls with
  | nil => exact fun _ isOpen => ⟨nofun, isOpen⟩
  | cons call calls ih =>
    obtain ⟨first, rest⟩ := not_or.mp (mt List.mem_cons.mpr unreleased)
    cases call with
    | release => exact absurd rfl first
    | request r =>
      rintro c isOpen
      obtain ⟨answered, stillOpen⟩ := request_of_open repeats r c isOpen
      obtain ⟨later, finallyOpen⟩ := ih rest _ stillOpen
      exact ⟨List.forall_mem_cons.mpr ⟨answered, later⟩, finallyOpen⟩

theorem callAll_of_closed (calls : List Call) (c : Option Session × σ) (closed : ¬IsOpen c) :
    joined (callAll setup calls) c = (calls.map Call.refused, c) := by
  induction calls with
  | nil => rfl
  | cons call calls ih =>
    have called : joined (callAll setup (call :: calls)) c =
        ((joined (call.perform setup) c).1 ::
          (joined (callAll setup calls) (joined (call.perform setup) c).2).1,
          (joined (callAll setup calls) (joined (call.perform setup) c).2).2) := rfl
    rw [called, perform_of_closed call c closed, ih]
    rfl

theorem site_serves (repeats : setup.Repeats) : (site setup).joined.Serves IsOpen where
  log _ := fun _ isOpen => isOpen
  openContext := openSession_opens setup
  request := request_of_open repeats
  release := fun c isOpen => (release_of_open c isOpen).1

end

/-- A context that has been opened can be used until its first release, which succeeds; afterwards
every call finds it closed and changes nothing, so that nothing more is sent. No exchange fails to
release its context or finds it released. -/
theorem usable_until_released (setup : Setup (StateM σ)) (repeats : setup.Repeats) :
    (∀ e c opened, joined (openSession setup e) c = (some (.ok ()), opened) →
      ∀ before : List Call, Call.release ∉ before →
        let (replies, used) := joined (callAll setup before) opened
        (∀ reply ∈ replies, ¬reply.IsClosed) ∧
        ∃ closed, joined (release setup) used = (.ok (), closed) ∧
          ∀ after, joined (callAll setup after) closed = (after.map Call.refused, closed)) ∧
    ∀ host port heartbeat c o,
      (joined (Exchange.run (site setup) host port heartbeat) c).1 = some o →
        (∀ text, o ≠ .transportError ("failed to release transport context: " ++ text)) ∧
        o ≠ .transportError Transport.Fault.closed.message ∧
        o ≠ .transportError
          ("failed to create transport context: " ++ Transport.Fault.closed.message) := by
  constructor
  · intro e c opened opens before unreleased
    have isOpen : IsOpen opened := by
      have reached := (openSession_opens setup e c trivial).2
      rw [opens] at reached
      exact reached rfl
    obtain ⟨answered, stillOpen⟩ := callAll_of_open repeats before unreleased opened isOpen
    obtain ⟨succeeded, closed⟩ := release_of_open _ stillOpen
    exact ⟨answered, _, Prod.ext succeeded rfl, fun after => callAll_of_closed after _ closed⟩
  · intro host port heartbeat c o ran
    rw [← Exchange.run_joined] at ran
    have served := Exchange.run_served (site_serves repeats) host port heartbeat c trivial o ran
    exact ⟨served.ne_release_failure, served.ne_closed⟩

def hasty : Setup (StateM World) := World.udp 100 none

def silentWorld : Option Session × World := (none, .ofNetwork (.ofReplies 5683 [] []))

def lonelyRequest : Transport.Request := .post (.make "127.0.0.1" 5683 "hb") [0xa0]

theorem silence_until_released :
    (∃ opened closed,
      joined (openSession hasty lonelyRequest.endpoint) silentWorld = (some (.ok ()), opened) ∧
      joined (release hasty) (joined (callAll hasty [.request lonelyRequest]) opened).2 =
        (.ok (), closed) ∧
      joined (callAll hasty [.request lonelyRequest, .release]) closed =
        ([.requested (some (.error .closed)), .released (.error .closed)], closed)) ∧
    ∃ o, (joined (Exchange.run (site hasty) "127.0.0.1" 5683 ⟨1, 2⟩) silentWorld).1 = some o ∧
      o ≠ .transportError Transport.Fault.closed.message := by
  have repeats : hasty.Repeats := ⟨fun w => w.network.budget, fun _ _ _ => rfl⟩
  obtain ⟨usable, exchanged⟩ := usable_until_released hasty repeats
  obtain ⟨opened, opens⟩ : ∃ opened,
      joined (openSession hasty lonelyRequest.endpoint) silentWorld = (some (.ok ()), opened) :=
    ⟨_, rfl⟩
  obtain ⟨-, closed, released, refused⟩ :=
    usable lonelyRequest.endpoint silentWorld opened opens [.request lonelyRequest] (by simp)
  have comes : (joined (Exchange.run (site hasty) "127.0.0.1" 5683 ⟨1, 2⟩)
      silentWorld).1.isSome = true := by
    decide +kernel
  obtain ⟨o, ran⟩ := Option.isSome_iff_exists.mp comes
  exact ⟨⟨opened, closed, opens, released, refused _⟩, o, ran, (exchanged _ _ _ _ o ran).2.1⟩

end CheckIn.Udp
