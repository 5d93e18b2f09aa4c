import CheckIn.Command
import CheckIn.World
import CheckIn.Proofs.Udp.Overdue

/-! The deadlines of a heartbeat: the timeout of the command line, which counts from the beginning of
the exchange, and the response timeout of the settings, which counts from the beginning of its
request. Nothing that arrives behind the first of them makes a difference. -/
namespace CheckIn.Command

open Net Udp

variable (s : Surroundings) (i : Invocation) (settings : Settings) (w : World)

/-- What an exchange does with its transport, in order. -/
def operations : List Transport.Use :=
  operationsIn settings.responseTimeoutMs.toNat (patience i w.network.now) 0 i.host i.port
    (heartbeat i settings) w

/-- A context is opened, takes the one request and is released once. -/
def UsesContextOnce : Prop :=
  ∃ ended release, operations i settings w =
    [.opening (Exchange.endpoint i.host i.port) (some (.ok ())),
      .requesting (.post (Exchange.endpoint i.host i.port) (heartbeat i settings).encode) ended,
      .releasing release]

def concluded : Option Outcome → Outcome
  | some outcome => outcome
  | none => .transportError
      ("no reply within " ++ toString (i.timeoutSeconds.getD 0).toNat ++ "s")

theorem exchange_eq : exchange (World.host s) i settings w =
    let ran := exchangeIn settings.responseTimeoutMs.toNat (patience i w.network.now) 0 i.host i.port
      (heartbeat i settings) w
    conclude (World.host s) i ran.1 ran.2 := by
  have plain : exchange (World.host s) i settings = World.wire.now >>= fun now =>
      Exchange.run (site (worldSetup settings.responseTimeoutMs.toNat (patience i now) 0)) i.host
        i.port (heartbeat i settings) none >>= fun ran => conclude (World.host s) i ran.1 := rfl
  have clock : World.wire.now w = (w.network.now, w) := rfl
  rw [plain, bind_state, clock]
  unfold exchangeIn
  rw [bind_state, bind_state]
  dsimp only
  generalize Exchange.run (site (worldSetup settings.responseTimeoutMs.toNat
    (patience i w.network.now) 0)) i.host i.port (heartbeat i settings) = run
  rfl

variable {s i settings w} in
theorem exchange_acts {reported : Outcome} {final : World}
    (ends : exchange (World.host s) i settings w = (reported, final))
    {outcome : Option Outcome} {net' : Simulation}
    (acts : Acts (exchangeIn settings.responseTimeoutMs.toNat (patience i w.network.now) 0 i.host
      i.port (heartbeat i settings)) w.network outcome net') :
    reported = concluded i outcome ∧ final.network = net' := by
  obtain ⟨w', ran, rfl⟩ := acts w rfl
  rw [exchange_eq, ran] at ends
  cases outcome with
  | none =>
    cases ends
    exact ⟨rfl, rfl⟩
  | some outcome =>
    cases ends
    exact ⟨rfl, rfl⟩

/-- When the request begins, which is when its host has an address, if nobody leaves before. -/
def beginning : Nat := requestStart w.network (Exchange.endpoint i.host i.port)

/-- The moment when the response timeout is over. -/
def responseDeadline : Nat := beginning i w + settings.responseTimeoutMs.toNat

/-- The moment when a caller has waited for so many seconds. -/
def callerDeadline (secs : UInt64) : Nat := w.network.now + secs.toNat * 1000

section

variable {i w}

theorem patience_of_seconds {secs : UInt64} (timed : i.timeoutSeconds = some secs) :
    patience i w.network.now = some (callerDeadline w secs) := by
  rw [patience, timed]
  rfl

theorem seconds_of_patience {p : Nat} (patient : patience i w.network.now = some p) :
    ∃ secs, i.timeoutSeconds = some secs ∧ p = callerDeadline w secs := by
  obtain ⟨secs, timed, same⟩ := Option.map_eq_some_iff.mp patient
  exact ⟨secs, timed, same.symm⟩

variable (i w) in
theorem patience_future (p : Nat) (patient : patience i w.network.now = some p) :
    w.network.now ≤ p := by
  obtain ⟨secs, _, rfl⟩ := seconds_of_patience patient
  exact Nat.le_add_right _ _

end

section

variable {s i settings w}

theorem usesContextOnce {peer : SocketAddress}
    (resolved : (dial (patience i w.network.now) (Exchange.endpoint i.host i.port)
      w.network).1 = some (.ok peer)) : UsesContextOnce i settings w :=
  operationsIn_of_resolved resolved

theorem concluded_overdue (timeoutMs : Nat) (patience : Option Nat) (now : Nat) :
    (concluded i (overdueOutcome timeoutMs patience now)).isTransportError = true := by
  unfold overdueOutcome
  split_ifs <;> rfl

theorem concluded_none {secs : UInt64} (timed : i.timeoutSeconds = some secs) :
    concluded i none =
      .transportError ("no reply within " ++ toString secs.toNat ++ "s") := by
  rw [concluded, timed]
  rfl

variable {reported : Outcome} {final : World}
  (ends : exchange (World.host s) i settings w = (reported, final))

include ends

theorem heard_intime : ∃ heard, final.network.heard = w.network.heard ++ heard ∧
    ∀ a ∈ heard, a.time ≤ responseDeadline i settings w ∧
      ∀ secs, i.timeoutSeconds = some secs → a.time ≤ callerDeadline w secs := by
  obtain ⟨outcome, net', acts, _, heard, given, arrived⟩ :=
    acts_intime settings.responseTimeoutMs.toNat 0 i.host i.port (heartbeat i settings)
      (patience_future i w)
  refine ⟨heard, ?_, ?_⟩
  · rw [← given, ← (exchange_acts ends acts).2]
  · intro a inside
    refine ⟨Nat.le_trans (arrived a inside) deadline_le, ?_⟩
    intro secs timed
    exact Nat.le_trans (arrived a inside) (deadline_le_patience (patience_of_seconds timed))

theorem same_of_patient (positive : 0 < settings.responseTimeoutMs.toNat) {secs : UInt64}
    (timed : i.timeoutSeconds = some secs)
    (lasts : responseDeadline i settings w ≤ callerDeadline w secs) :
    ∃ w', exchange (World.host s) { i with timeoutSeconds := none } settings w =
      (reported, w') ∧ final.network = w'.network := by
  obtain ⟨outcome, net', endless, own⟩ := acts_of_patient settings.responseTimeoutMs.toNat 0
    i.host i.port (heartbeat i settings) positive lasts
  rw [← patience_of_seconds timed] at own
  have patient : Acts (exchangeIn settings.responseTimeoutMs.toNat
      (patience { i with timeoutSeconds := none } w.network.now) 0 i.host i.port
      (heartbeat { i with timeoutSeconds := none } settings)) w.network (some outcome) net' :=
    endless
  rcases ends' : exchange (World.host s) { i with timeoutSeconds := none } settings w with
    ⟨reported', w'⟩
  obtain ⟨rfl, network⟩ := exchange_acts ends own
  obtain ⟨rfl, network'⟩ := exchange_acts ends' patient
  exact ⟨w', rfl, network.trans network'.symm⟩

variable {outcome : Outcome} {net' : Simulation}
  (beside : Beside settings.responseTimeoutMs.toNat w.network 0 i.host i.port
    (heartbeat i settings) (patience i w.network.now) outcome net')

include beside

theorem late_for_caller {secs : UInt64} (timed : i.timeoutSeconds = some secs)
    (sooner : callerDeadline w secs < responseDeadline i settings w)
    (late : callerDeadline w secs < net'.now) :
    reported = .transportError ("no reply within " ++ toString secs.toNat ++ "s") ∧
      final.network.now = callerDeadline w secs ∧
      (UsesContextOnce i settings w ∨
        callerDeadline w secs ≤ beginning i w ∧
          (Exchange.endpoint i.host i.port).literal? = none ∧
          operations i settings w = [.opening (Exchange.endpoint i.host i.port) none]) := by
  have moment := deadline_of_sooner sooner
  unfold beginning at moment
  rw [← patience_of_seconds timed] at moment
  rw [← concluded_none timed]
  cases beside with
  | intime before =>
    rw [lastMoment, moment.1] at before
    exact absurd late (Nat.not_lt_of_le before)
  | overdue reached _ now acts =>
    rw [moment.2] at acts
    obtain ⟨same, network⟩ := exchange_acts ends acts
    rw [same, network, now, lastMoment, moment.1]
    exact ⟨rfl, rfl, .inl (usesContextOnce (congrArg Prod.fst reached))⟩
  | left unreached named patient out now _ acts =>
    obtain ⟨same, network⟩ := exchange_acts ends acts
    cases (patience_of_seconds timed).symm.trans patient
    rw [same, network, now]
    exact ⟨rfl, rfl, .inr ⟨out, named, operationsIn_of_left unreached⟩⟩

theorem late_for_settings (positive : 0 < settings.responseTimeoutMs.toNat)
    (lasts : ∀ p, patience i w.network.now = some p → responseDeadline i settings w ≤ p)
    (late : responseDeadline i settings w < net'.now) :
    reported = .transportError ("timed out: no response within " ++
        secondsText settings.responseTimeoutMs.toNat ++ "s") ∧
      final.network.now = responseDeadline i settings w ∧ UsesContextOnce i settings w := by
  have moment := deadline_of_lasting lasts
  unfold beginning at moment
  cases beside with
  | intime before =>
    rw [lastMoment, moment.1] at before
    exact absurd late (Nat.not_lt_of_le before)
  | overdue reached _ now acts =>
    rw [moment.2] at acts
    obtain ⟨same, network⟩ := exchange_acts ends acts
    rw [same, network, now, lastMoment, moment.1]
    exact ⟨rfl, rfl, usesContextOnce (congrArg Prod.fst reached)⟩
  | left _ _ patient out =>
    have lasts : beginning i w + settings.responseTimeoutMs.toNat ≤ _ := lasts _ patient
    have out : _ ≤ beginning i w := out
    omega

theorem same_of_early (early : net'.now < lastMoment settings.responseTimeoutMs.toNat i.host i.port
      (patience i w.network.now) w.network) :
    reported = outcome ∧ final.network = net' := by
  cases beside with
  | intime _ acts => exact exchange_acts ends acts
  | overdue _ late => exact absurd early (Nat.not_lt_of_le late)
  | left _ _ patient out _ later =>
    have first : lastMoment settings.responseTimeoutMs.toNat i.host i.port
        (patience i w.network.now) w.network ≤ beginning i w :=
      Nat.le_trans (deadline_le_patience patient) out
    exact absurd early (Nat.not_lt_of_le (Nat.le_trans first later))

theorem same_of_reply (replied : reported.isTransportError = false) :
    reported = outcome ∧ final.network = net' ∧
      net'.now ≤ lastMoment settings.responseTimeoutMs.toNat i.host i.port
        (patience i w.network.now) w.network := by
  cases beside with
  | intime before acts =>
    obtain ⟨same, network⟩ := exchange_acts ends acts
    exact ⟨same, network, before⟩
  | overdue _ _ _ acts =>
    rw [(exchange_acts ends acts).1, concluded_overdue] at replied
    cases replied
  | left _ _ _ _ _ _ acts =>
    rw [(exchange_acts ends acts).1] at replied
    cases replied

end

/-- The deadlines bound the whole exchange. Take the same exchange with any longer response timeout
and no timeout on the command line, which is over at some moment with some outcome. If that moment
is behind the caller's deadline, and this comes first, then the caller is told so at the deadline;
if it is behind the response timeout, and this comes first, then that is the outcome; and the
context has been released once. A caller whose deadline comes while the host is looked up leaves
before there is a context.
If the moment is before both then the deadlines make no difference, and an outcome other than a
transport error is had in no other way. Nothing that arrives behind a deadline is looked at, and a
deadline that is not before the response timeout is as good as none. -/
theorem exchange_within_deadlines (positive : 0 < settings.responseTimeoutMs) :
    ∃ reported final, exchange (World.host s) i settings w = (reported, final) ∧
      (∀ longer, settings.responseTimeoutMs.toNat ≤ longer → ∃ outcome w',
        exchangeIn longer none 0 i.host i.port (heartbeat i settings) w = (some outcome, w') ∧
        (∀ secs, i.timeoutSeconds = some secs →
          callerDeadline w secs < responseDeadline i settings w →
          callerDeadline w secs < w'.network.now →
          reported = .transportError ("no reply within " ++ toString secs.toNat ++ "s") ∧
          final.network.now = callerDeadline w secs ∧
          (UsesContextOnce i settings w ∨
            callerDeadline w secs ≤ beginning i w ∧
              (Exchange.endpoint i.host i.port).literal? = none ∧
              operations i settings w = [.opening (Exchange.endpoint i.host i.port) none])) ∧
        ((∀ secs, i.timeoutSeconds = some secs →
            responseDeadline i settings w ≤ callerDeadline w secs) →
          responseDeadline i settings w < w'.network.now →
          reported = .transportError ("timed out: no response within " ++
            secondsText settings.responseTimeoutMs.toNat ++ "s") ∧
          final.network.now = responseDeadline i settings w ∧ UsesContextOnce i settings w) ∧
        (w'.network.now < responseDeadline i settings w →
          (∀ secs, i.timeoutSeconds = some secs → w'.network.now < callerDeadline w secs) →
          reported = outcome ∧ final.network = w'.network) ∧
        (reported.isTransportError = false →
          reported = outcome ∧ final.network = w'.network ∧
          w'.network.now ≤ responseDeadline i settings w ∧
          ∀ secs, i.timeoutSeconds = some secs → w'.network.now ≤ callerDeadline w secs)) ∧
      (∃ heard, final.network.heard = w.network.heard ++ heard ∧
        ∀ a ∈ heard, a.time ≤ responseDeadline i settings w ∧
          ∀ secs, i.timeoutSeconds = some secs → a.time ≤ callerDeadline w secs) ∧
      (∀ secs, i.timeoutSeconds = some secs →
        responseDeadline i settings w ≤ callerDeadline w secs →
        ∃ w', exchange (World.host s) { i with timeoutSeconds := none } settings w =
          (reported, w') ∧ final.network = w'.network) := by
  have some_time : 0 < settings.responseTimeoutMs.toNat := UInt64.lt_iff_toNat_lt.mp positive
  rcases ends : exchange (World.host s) i settings w with ⟨reported, final⟩
  refine ⟨reported, final, rfl, ?_, ?_, ?_⟩
  · intro longer more
    obtain ⟨outcome, net', endless, beside⟩ :=
      acts_beside settings.responseTimeoutMs.toNat 0 i.host i.port (heartbeat i settings)
        (patience_future i w) more
    obtain ⟨w', ran, rfl⟩ := endless w rfl
    refine ⟨outcome, w', ran, ?_, ?_, ?_, ?_⟩
    · intro secs timed sooner late
      exact late_for_caller ends beside timed sooner late
    · intro lasts late
      apply late_for_settings ends beside some_time _ late
      intro p patient
      obtain ⟨secs, timed, rfl⟩ := seconds_of_patience patient
      exact lasts secs timed
    · intro before sooner
      apply same_of_early ends beside
      apply lt_deadline before
      intro p patient
      obtain ⟨secs, timed, rfl⟩ := seconds_of_patience patient
      exact sooner secs timed
    · intro replied
      obtain ⟨same, network, moment⟩ := same_of_reply ends beside replied
      refine ⟨same, network, Nat.le_trans moment deadline_le, ?_⟩
      intro secs timed
      exact Nat.le_trans moment (deadline_le_patience (patience_of_seconds timed))
  · exact heard_intime ends
  · intro secs timed lasts
    exact same_of_patient ends some_time timed lasts

/-- A server called hub, whose name takes most of a second to look up, and which answers only the
second copy of a heartbeat, three and a half seconds after the first. -/
def slowServer : World :=
  .ofNetwork { Simulation.ofReplies 5683 [[], [⟨1500, [0x50, 0x44, 0, 9, 0xff, 0xa0]⟩]] [] with
    names := [("hub", ⟨700, .ok (.v4 ⟨127, 0, 0, 1⟩)⟩)] }

def impatient : Invocation := ⟨"hub", 5683, none, none, some 2, none, 0⟩

def emptyPlace : Surroundings where
  files := ⟨[], [], []⟩
  environment := ⟨[]⟩
  accountHome := none
  clock := "00:00:00"

theorem slow_reply_missed :
    (exchange (World.host emptyPlace) impatient ⟨5000, 1001, 100⟩ slowServer).1 =
        .transportError "no reply within 2s" ∧
      UsesContextOnce impatient ⟨5000, 1001, 100⟩ slowServer := by
  obtain ⟨reported, final, ends, beside, _⟩ :=
    exchange_within_deadlines emptyPlace impatient ⟨5000, 1001, 100⟩ slowServer (by decide)
  obtain ⟨outcome, w', ran, caller, _⟩ := beside 5000 (by decide)
  have moments : (exchangeIn 5000 none 0 impatient.host impatient.port
      (heartbeat impatient ⟨5000, 1001, 100⟩) slowServer).2.network.now = 4200 ∧
      beginning impatient slowServer = 700 := by decide +kernel
  obtain ⟨comes, begins⟩ := moments
  rw [ran] at comes
  dsimp only at comes
  have sooner : callerDeadline slowServer 2 <
      responseDeadline impatient ⟨5000, 1001, 100⟩ slowServer := by
    rw [responseDeadline, begins]
    decide
  obtain ⟨same, _, used | ⟨out, _⟩⟩ := caller 2 rfl sooner (by rw [comes]; decide)
  · have text : "no reply within " ++ toString (2 : UInt64).toNat ++ "s" = "no reply within 2s" := by
      decide +kernel
    rw [ends, same, text]
    exact ⟨rfl, used⟩
  · rw [begins] at out
    exact absurd out (by decide)

/-- A server of that name which answers at once, but whose name takes three seconds to look up. -/
def slowlyNamed : World :=
  .ofNetwork { Simulation.ofReplies 5683 [[⟨0, [0x50, 0x45, 0, 9, 0xff, 0xa0]⟩]] [] with
    names := [("hub", ⟨3000, .ok (.v4 ⟨127, 0, 0, 1⟩)⟩)] }

/-- The caller is told of the deadline, and no context has been opened that could be released. -/
theorem left_without_context :
    let ran := exchangeIn 5000 none 0 impatient.host impatient.port
      (heartbeat impatient ⟨5000, 1001, 100⟩) slowlyNamed
    ran.1.map Outcome.isSuccess = some true ∧
      callerDeadline slowlyNamed 2 < ran.2.network.now ∧
      callerDeadline slowlyNamed 2 < responseDeadline impatient ⟨5000, 1001, 100⟩ slowlyNamed ∧
      (exchange (World.host emptyPlace) impatient ⟨5000, 1001, 100⟩ slowlyNamed).1.display =
        "transport error: no reply within 2s" ∧
      operations impatient ⟨5000, 1001, 100⟩ slowlyNamed =
        [.opening (Exchange.endpoint "hub" 5683) none] := by
  refine ⟨by decide +kernel, by decide +kernel, by decide +kernel, by decide +kernel, ?_⟩
  exact operationsIn_of_left (by decide +kernel)

end CheckIn.Command
