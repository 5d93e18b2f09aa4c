import CheckIn.Proofs.Program.Sources
import CheckIn.Proofs.Udp.Logging

/-! The contract of the program as a process: which status a run ends with, what it prints and when
it may send. Arguments come first, the settings next, and the network only after both; from there
on the status no longer depends on anything. -/
namespace CheckIn

open World
open Net (bind_state)

namespace Settings

variable {R : MonadRelation (StateM World) (StateM World)} {log : Log.Event → StateM World Unit}
  (notes : ∀ e, e.source = .settings → R.Holds (log e) (log e)) (files : FixedFiles)

include notes

theorem ofFile_holds (path : Text.Raw) :
    R.Holds (ofFile files.asFiles log path) (ofFile files.asFiles log path) := by
  apply R.bind (R.pure (files.read path))
  rintro (cause | bs)
  · exact R.pure _
  · dsimp only
    split_ifs with isText
    · exact R.pure _
    · cases ofJson bs with
      | error cause => exact R.pure _
      | ok s =>
        apply R.bind (notes _ rfl)
        intro _
        exact R.pure _

theorem load_holds (env : Environment) (account : Option String) (named : Option Text.Raw) :
    R.Holds (load files.asFiles log env account named)
      (load files.asFiles log env account named) := by
  have base : R.Holds (fromFile files.asFiles log env account named)
      (fromFile files.asFiles log env account named) := by
    cases named with
    | some path => exact ofFile_holds notes files path
    | none =>
      apply R.bind (R.pure (files.isPresent (path env account)))
      intro present
      by_cases there : present = true
      · rw [if_pos there]
        exact ofFile_holds notes files _
      · rw [if_neg there]
        apply R.bind (notes _ rfl)
        intro _
        exact R.pure _
  apply R.bind base
  intro file
  exact R.pure _

end Settings

namespace Program

variable (s : Surroundings) (i : Invocation)

theorem filtered_onlyLogs (f : Log.Filter) (e : Log.Event) :
    OnlyLogs ((filtered f (World.host s)).log e) := by
  unfold filtered
  dsimp only
  split_ifs
  · exact .log e
  · exact .pure ()

theorem loading_holds {R : MonadRelation (StateM World) (StateM World)}
    (notes : ∀ e, e.source = .settings → R.Holds ((filteredHost s i).log e) ((filteredHost s i).log e)) :
    R.Holds (loading s i) (loading s i) := by
  unfold loading
  split
  · exact R.pure _
  · apply R.bind (Settings.load_holds notes s.fixedFiles _ s.accountHome i.configPath)
    intro loaded
    exact R.pure _

theorem loading_onlyLogs : OnlyLogs (loading s i) :=
  loading_holds s i (R := onlyLogs) fun e _ => filtered_onlyLogs s _ e

theorem exchange_filtered (f : Log.Filter) (settings : Settings) :
    throughNetwork.Holds (Command.exchange (filtered f (World.host s)) i settings)
      (Command.exchange (World.host s) i settings) := by
  have quiet : filtered f (World.host s) =
      Command.hostLogging s (filtered f (World.host s)).log := rfl
  have plain : World.host s = Command.hostLogging s World.log := rfl
  have alike := Command.exchange_alike (filtered f (World.host s)).log World.log
    (filtered_onlyLogs s f) OnlyLogs.log s i settings
  rwa [← quiet, ← plain] at alike

/-- What a run prints that comes to an exchange. -/
def transcript (settings : Settings) (o : Outcome) : String :=
  Report.banner (Exchange.endpoint i.host i.port) (Command.heartbeat i settings) ++
    Report.sending s.clock (Command.heartbeat i settings) ++ Report.outcome o

/-- Whatever has been logged before and is logged now, one exchange is performed and reported. -/
theorem perform_eq (f : Log.Filter) (settings : Settings) {w w' : World}
    (same : w'.network = w.network) :
    let exchanged := Command.exchange (World.host s) i settings w
    ∃ events, (Command.perform (filtered f (World.host s)) i settings w').2 =
      ⟨exchanged.2.network, events, w'.output ++ transcript s i settings exchanged.1⟩ := by
  intro exchanged
  have prints (text : String) (w : World) : (filtered f (World.host s)).print text w =
      ((), { w with output := w.output ++ text }) := rfl
  have clock (w : World) : (filtered f (World.host s)).clock w = (s.clock, w) := rfl
  unfold Command.perform transcript
  simp only [bind_state, prints, clock]
  generalize Report.banner _ _ = banner
  generalize Report.sending _ _ = sending
  obtain ⟨outcome, network, quiet, _⟩ := exchange_filtered s i f settings
    { w' with output := w'.output ++ banner ++ sending } w same
  rw [outcome, network, quiet]
  refine ⟨_, congrArg (World.mk _ _) ?_⟩
  simp only [exchanged, String.append_assoc]

section

variable {arguments : List Text.Raw}

theorem runRaw_stopped {cause : CommandLine.Stop}
    (parsed : CommandLine.parseRaw arguments = .error cause) {m : Type → Type} [Monad m]
    (host : Host m) : runRaw host arguments = stop host cause := by
  rw [runRaw, parsed]

variable {s i} {w : World}

theorem runRaw_unloadable {obstacle : Obstacle} (parsed : CommandLine.parseRaw arguments = .ok i)
    (failed : (loading s i w).1 = .error obstacle) :
    ∃ events, runRaw (World.host s) arguments w = (obstacle.ending i, { w with events }) := by
  obtain ⟨events, logged⟩ := loading_onlyLogs s i w
  refine ⟨events, ?_⟩
  rw [runRaw, parsed]
  dsimp only
  rw [invoke_of_not_loaded failed, logged]

theorem runRaw_unfit {u : DotEnv.Unfit} (parsed : CommandLine.parseRaw arguments = .ok i)
    (failed : (loading s i w).1 = .error (.unfit u)) :
    runRaw (World.host s) arguments w = (cutOff u.message, w) := by
  rw [runRaw, parsed]
  dsimp only
  rw [invoke_of_not_loaded failed,
    loading_of_unfit s i w ((loading_eq_unfit_iff s i w u).mp failed)]
  rfl

theorem runRaw_performed {settings : Settings} (parsed : CommandLine.parseRaw arguments = .ok i)
    (loaded : (loading s i w).1 = .ok settings) :
    let exchanged := Command.exchange (World.host s) i settings w
    ∃ events, runRaw (World.host s) arguments w = (done, ⟨exchanged.2.network, events,
      w.output ++ transcript s i settings exchanged.1⟩) := by
  intro exchanged
  obtain ⟨events, logged⟩ := loading_onlyLogs s i w
  have same : (loading s i w).2.network = w.network := by rw [logged]
  obtain ⟨events', performed⟩ := perform_eq s i
    (Log.filterOf ((environment s).text? filterVariable) i.verbosity) settings same
  refine ⟨events', ?_⟩
  rw [runRaw, parsed]
  dsimp only
  rw [invoke_of_loaded loaded, filteredHost, performed, logged]

variable (s w) in
theorem network_of_refused (refused : ∀ i settings, CommandLine.parseRaw arguments = .ok i →
    (loading s i w).1 ≠ .ok settings) :
    (runRaw (World.host s) arguments w).2.network = w.network := by
  rcases parsed : CommandLine.parseRaw arguments with cause | i
  · rw [runRaw_stopped parsed]
    cases cause <;> rfl
  · rcases loaded : (loading s i w).1 with obstacle | settings
    · obtain ⟨events, ran⟩ := runRaw_unloadable parsed loaded
      rw [ran]
    · exact absurd loaded (refused i settings parsed)

end

/-- Nothing is said of the threads, or a number of them that is not zero. -/
def ThreadsSet (env : Environment) : Prop :=
  ∀ bs, env.value? threadsVariable = some bs → ∃ cs n, Text.Utf8.decode? bs = some cs ∧
    Text.Numeral.readUInt64 (String.ofList cs) = .ok n ∧ n ≠ 0

theorem threadsFault?_eq_none_iff (env : Environment) :
    threadsFault? env = none ↔ ThreadsSet env := by
  unfold threadsFault? ThreadsSet
  cases env.value? threadsVariable with
  | none => simp
  | some bs =>
    simp only [Option.map_some, Option.some.injEq, forall_eq']
    cases decoded : Text.Utf8.decode? bs with
    | none =>
      rw [Text.Raw.ofBytes_of_noText decoded]
      simp
    | some cs =>
      rw [Text.Raw.ofBytes_of_text decoded]
      dsimp only
      cases read : Text.Numeral.readUInt64 (String.ofList cs) <;> simp [read]

theorem process_of_threadsSet {m : Type → Type} [Monad m] (host : Host m)
    (threads : ThreadsSet host.environment) (arguments : List Text.Raw) :
    process host arguments = runRaw host arguments := by
  rw [process, (threadsFault?_eq_none_iff _).mpr threads]

theorem process_of_not_threadsSet {m : Type → Type} [Monad m] (host : Host m)
    (threads : ¬ThreadsSet host.environment) (arguments : List Text.Raw) :
    ∃ fault : ThreadsFault, process host arguments = pure (cutOff fault.message) := by
  obtain ⟨fault, found⟩ := Option.ne_none_iff_exists'.mp
    (mt (threadsFault?_eq_none_iff host.environment).mp threads)
  exact ⟨fault, by rw [process, found]⟩

/-- A place where a run is to have no threads. -/
def threadlessSurroundings : Surroundings :=
  rootWith "" ⟨[("TOKIO_WORKER_THREADS", [0x30])]⟩

end Program

end CheckIn
