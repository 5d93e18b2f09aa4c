import CheckIn.Program
import CheckIn.World
import CheckIn.Proofs.DotEnv.Nearest
import CheckIn.Proofs.DotEnv.Spelling
import CheckIn.Proofs.Except
import CheckIn.Proofs.Net.Simulation
import CheckIn.Proofs.Settings.Precedence

/-! Where each setting of a run is taken from: the command line, variables, the file of settings and
what is built in, in this order. A source that is there has to be right even where another one
counts, and only what all of them come to has to be usable. -/
namespace CheckIn

open Net (bind_state pure_state)

namespace Program

/-- What keeps a run from its settings. -/
inductive Obstacle where
  | unfit (u : DotEnv.Unfit)
  | settings (cause : Settings.Fault)

/-- How a run ends that cannot have its settings. -/
def Obstacle.ending (i : Invocation) : Obstacle → Ending
  | .unfit u => cutOff u.message
  | .settings cause => ⟨1, problemText ⟨i.configPath, cause.failure⟩⟩

section

variable (s : Surroundings)

def variablesFile : Option (List UInt8) :=
  Id.run (DotEnv.nearest s.fixedFiles.asFiles
    (DotEnv.upwards (Path.names (World.host s).workingDirectory)))

/-- What the nearest file of variables assigns. -/
def assigned : List (String × List Char) :=
  (variablesFile s).elim [] (DotEnv.assignments s.environment)

/-- The variables of a run, with those that the nearest file assigns. -/
def environment : Environment := s.environment.adoptAll (assigned s)

/-- The variables as a run finds them, unless one cannot be set. -/
def environment? : Except DotEnv.Unfit Environment :=
  (variablesFile s).elim (.ok s.environment) (DotEnv.extend s.environment)

def filteredHost (i : Invocation) : Host (StateM World) :=
  filtered (Log.filterOf ((environment s).text? filterVariable) i.verbosity) (World.host s)

def loading (i : Invocation) : StateM World (Except Obstacle Settings) :=
  match environment? s with
  | .error u => pure (.error (.unfit u))
  | .ok env => do
    let loaded ← Settings.load s.fixedFiles.asFiles (filteredHost s i).log env s.accountHome
      i.configPath
    pure (loaded.mapError .settings)

theorem environment?_cases :
    (environment? s = .ok (environment s) ∧ ∀ u, ¬DotEnv.Breaks s.environment (assigned s) u) ∨
      ∃ u, environment? s = .error u ∧ DotEnv.Breaks s.environment (assigned s) u := by
  have set : environment? s =
      (assigned s).foldlM (fun env a => DotEnv.assign env a.1 a.2) s.environment := by
    rw [environment?, assigned]
    cases variablesFile s with
    | none => rfl
    | some file => exact DotEnv.runLines_eq_foldlM s.environment [] (DotEnv.lines file)
  rw [set]
  exact DotEnv.foldlM_assign s.environment (assigned s)

theorem environment?_eq_error_iff : (∃ u, environment? s = .error u) ↔
    ∃ u, DotEnv.Breaks s.environment (assigned s) u := by
  rcases environment?_cases s with ⟨complete, fit⟩ | ⟨u, unfit, breaks⟩
  · rw [complete]
    exact ⟨nofun, fun ⟨u, breaks⟩ => absurd breaks (fit u)⟩
  · exact ⟨fun _ => ⟨u, breaks⟩, fun _ => ⟨u, unfit⟩⟩

end

section

variable (s : Surroundings) (i : Invocation) (w : World)

theorem load_environment : DotEnv.load (World.host s).files (World.host s).workingDirectory
    (World.host s).environment w = (environment? s, w) := by
  have file : DotEnv.nearest (World.host s).files
      (DotEnv.upwards (Path.names (World.host s).workingDirectory)) w = (variablesFile s, w) :=
    DotEnv.nearest_state s.fixedFiles _ w
  rw [DotEnv.load, bind_state, file, environment?]
  cases variablesFile s <;> rfl

theorem loading_of_unfit {u : DotEnv.Unfit} (unfit : environment? s = .error u) :
    loading s i w = (.error (.unfit u), w) := by
  rw [loading, unfit]
  rfl

theorem loading_of_complete (complete : environment? s = .ok (environment s)) :
    loading s i w = ((Settings.load s.fixedFiles.asFiles (filteredHost s i).log (environment s)
        s.accountHome i.configPath w).1.mapError .settings,
      (Settings.load s.fixedFiles.asFiles (filteredHost s i).log (environment s)
        s.accountHome i.configPath w).2) := by
  rw [loading, complete]
  dsimp only
  rw [bind_state, pure_state]

theorem loading_eq_unfit_iff (u : DotEnv.Unfit) :
    (loading s i w).1 = .error (.unfit u) ↔ environment? s = .error u := by
  rcases environment?_cases s with ⟨complete, -⟩ | ⟨u', unfit, -⟩
  · rw [loading_of_complete s i w complete, complete]
    refine ⟨fun failed => ?_, nofun⟩
    generalize (Settings.load s.fixedFiles.asFiles (filteredHost s i).log (environment s)
      s.accountHome i.configPath w).1 = loaded at failed
    cases loaded <;> cases failed
  · rw [loading_of_unfit s i w unfit, unfit]
    constructor <;> intro same <;> cases same <;> rfl

/-- A run that has its settings goes on with them and ends well; any other run ends with what keeps
it from them. -/
theorem invoke_eq : invoke (World.host s) i w = match (loading s i w).1 with
    | .ok settings =>
      (done, (Command.perform (filteredHost s i) i settings (loading s i w).2).2)
    | .error obstacle => (obstacle.ending i, (loading s i w).2) := by
  rw [invoke, bind_state, load_environment]
  dsimp only
  rcases environment?_cases s with ⟨complete, -⟩ | ⟨u, unfit, -⟩
  · have begins : Settings.load (filteredHost s i).files (filteredHost s i).log (environment s)
      (filteredHost s i).accountHome i.configPath w = Settings.load s.fixedFiles.asFiles
        (filteredHost s i).log (environment s) s.accountHome i.configPath w := rfl
    rw [complete, loading_of_complete s i w complete]
    dsimp only
    rw [← filteredHost, bind_state, Command.run, bind_state, begins]
    generalize Settings.load s.fixedFiles.asFiles (filteredHost s i).log (environment s)
      s.accountHome i.configPath w = loaded
    obtain ⟨cause | settings, w'⟩ := loaded
    · simp only [pure_state]
      rfl
    · simp only [bind_state, pure_state]
      rfl
  · rw [unfit, loading_of_unfit s i w unfit]
    rfl

variable {s i w}

theorem invoke_of_loaded {settings : Settings} (loaded : (loading s i w).1 = .ok settings) :
    invoke (World.host s) i w =
      (done, (Command.perform (filteredHost s i) i settings (loading s i w).2).2) := by
  rw [invoke_eq, loaded]

theorem invoke_of_not_loaded {obstacle : Obstacle} (failed : (loading s i w).1 = .error obstacle) :
    invoke (World.host s) i w = (obstacle.ending i, (loading s i w).2) := by
  rw [invoke_eq, failed]

theorem Obstacle.status_ne_zero (obstacle : Obstacle) : (obstacle.ending i).status ≠ 0 := by
  cases obstacle <;> nofun

variable (s i w)

theorem invoke_eq_done_iff : (invoke (World.host s) i w).1 = done ↔
    ∃ settings, (loading s i w).1 = .ok settings := by
  constructor
  · intro ended
    cases result : (loading s i w).1 with
    | ok settings => exact ⟨settings, rfl⟩
    | error obstacle =>
      rw [invoke_of_not_loaded result] at ended
      exact absurd (congrArg Ending.status ended) obstacle.status_ne_zero
  · rintro ⟨settings, loaded⟩
    rw [invoke_of_loaded loaded]

theorem text?_environment (name : String) : (environment s).text? name =
    (s.environment.text? name).or (((assigned s).lookup name).map String.ofList) :=
  Environment.text?_adoptAll s.environment name (assigned s)

theorem value?_environment_of_text (name : String) (set : (s.environment.text? name).isSome) :
    (environment s).value? name = s.environment.value? name :=
  Environment.value?_adoptAll_of_text s.environment name (assigned s)
    (Option.isSome_iff_ne_none.mp set)

/-- The settings of a run by the sources that say something of them. -/
theorem loading_eq_ok_iff (settings : Settings) : (loading s i w).1 = .ok settings ↔
    (∀ u, ¬DotEnv.Breaks s.environment (assigned s) u) ∧ ∃ file vars : Settings.Overlay,
      Settings.FileSays s.fixedFiles (Settings.path (environment s) s.accountHome) i.configPath
        file ∧
      Settings.VariablesSay (environment s).text? vars ∧
      settings = {
        responseTimeoutMs := (vars.responseTimeoutMs.or file.responseTimeoutMs).getD 93000
        deviceId := (vars.deviceId.or file.deviceId).getD 1001
        currentFirmware := (vars.currentFirmware.or file.currentFirmware).getD 100 } ∧
      0 < settings.responseTimeoutMs := by
  rcases environment?_cases s with ⟨complete, fit⟩ | ⟨u, unfit, breaks⟩
  · rw [loading_of_complete s i w complete]
    rw [mapError_eq_ok_iff, Settings.load_eq_ok_iff]
    refine Iff.trans ?_ (and_iff_right fit).symm
    refine exists_congr fun file => exists_congr fun vars => ?_
    have positive : settings.responseTimeoutMs ≠ 0 ↔ 0 < settings.responseTimeoutMs :=
      UInt64.pos_iff_ne_zero.symm
    have explicit : vars • file • Settings.default = {
        responseTimeoutMs := (vars.responseTimeoutMs.or file.responseTimeoutMs).getD 93000
        deviceId := (vars.deviceId.or file.deviceId).getD 1001
        currentFirmware := (vars.currentFirmware.or file.currentFirmware).getD 100 } := by
      rw [← mul_smul]
      rfl
    rw [explicit, positive]
  · rw [loading_of_unfit s i w unfit]
    constructor
    · nofun
    · rintro ⟨fit, -⟩
      exact absurd breaks (fit u)

end

/-- Where a file of variables may lie, with so many of the names on the way to the working
directory. -/
def variablesPath (s : Surroundings) (n : Nat) : String :=
  Path.join ("/" ++ "/".intercalate (s.files.workingDirectory.take n)) ".env"

/-- There is no file of variables there, or it is a directory. -/
def PassedOver (s : Surroundings) (n : Nat) : Prop :=
  s.files.read (variablesPath s n) = .error .noSuchFile ∨
    s.files.read (variablesPath s n) = .error .isDirectory

section

variable {s : Surroundings} (proper : Path.Proper s.files.workingDirectory) {n : Nat}
  (inside : n ≤ s.files.workingDirectory.length)
  (above : ∀ m, n < m → m ≤ s.files.workingDirectory.length → PassedOver s m)
include proper inside above

theorem variablesFile_eq : variablesFile s = Id.run (DotEnv.nearest s.fixedFiles.asFiles
    ((List.range (n + 1)).reverse.map fun m =>
      "/" ++ "/".intercalate (s.files.workingDirectory.take m))) := by
  have names : Path.names (World.host s).workingDirectory = s.files.workingDirectory :=
    Path.names_absolute proper
  rw [variablesFile, names]
  exact DotEnv.nearest_above inside above

/-- The file in the working directory counts or, where there is none, the one in the nearest
directory above it. -/
theorem assigned_of_nearest {bs : List UInt8} (content : s.files.read (variablesPath s n) = .ok bs) :
    assigned s = DotEnv.assignments s.environment bs := by
  have read : s.fixedFiles.asFiles.read (variablesPath s n) =
    (pure (.ok bs) : Id (Except Net.IoFault (List UInt8))) := content
  have found : variablesFile s = some bs := by
    rw [variablesFile_eq proper inside above, List.range_succ, List.reverse_append,
      List.reverse_singleton, List.singleton_append, List.map_cons, DotEnv.nearest]
    change Id.run (s.fixedFiles.asFiles.read (variablesPath s n) >>= _) = _
    rw [read]
    rfl
  rw [assigned, found]
  rfl

omit inside above in
theorem assigned_of_passed
    (passed : ∀ m ≤ s.files.workingDirectory.length, PassedOver s m) : assigned s = [] := by
  have root : DotEnv.Passed s.fixedFiles
    ("/" ++ "/".intercalate (s.files.workingDirectory.take 0)) := passed 0 (Nat.zero_le _)
  have none : variablesFile s = none := by
    rw [variablesFile_eq proper (Nat.zero_le _) fun m _ below => passed m below]
    exact DotEnv.nearest_of_passed root []
  rw [assigned, none]
  rfl

end

section

variable (s : Surroundings) (i : Invocation) (w : World)

end

/-- A place with a file of variables at its root, where a run starts. -/
def rootWith (text : String) (environment : Environment) : Surroundings where
  files := ⟨[([".env"], Text.Utf8.ofString text)], [], []⟩
  environment := environment
  accountHome := none
  clock := "12:00:00"

theorem assigned_rootWith {text : String} {as : List (String × List Char)}
    (spells : DotEnv.Spells as text.toList) (environment : Environment) :
    assigned (rootWith text environment) = as := by
  have place : variablesPath (rootWith text environment) 0 = "/.env" := by
    show Path.join ("/" ++ "/".intercalate (List.take 0 [])) ".env" = "/.env"
    decide +kernel
  have content : (rootWith text environment).files.read "/.env" =
      .ok (Text.Utf8.encode text.toList) := by
    have way : (rootWith text environment).files.locate "/.env" = .ok [".env"] := by
      have plain : "/.env".contains '\x00' = false := by simp
      have names : Path.names "/.env" ++ (if "/.env".endsWith "/" then ["."] else []) =
        [".env"] := by decide +kernel
      have absolute : Path.isAbsolute "/.env" = true := by decide +kernel
      have short : ¬FileTree.pathLimit < "/.env".utf8ByteSize := by decide +kernel
      have full : "/.env".isEmpty = false := by decide +kernel
      unfold FileTree.locate
      rw [plain, names, absolute, if_neg short, full]
      rfl
    rw [FileTree.read, way]
    rfl
  have nearest : ∀ m, 0 < m → m ≤ (rootWith text environment).files.workingDirectory.length →
      PassedOver (rootWith text environment) m :=
    fun m above below => absurd above (Nat.not_lt.mpr below)
  have proper : Path.Proper (rootWith text environment).files.workingDirectory :=
    List.forall_mem_nil _
  rw [assigned_of_nearest proper (Nat.zero_le _) nearest (place.symm ▸ content)]
  exact DotEnv.assignments_of_spells spells environment

/-- A place where the device is set twice: to a byte that is no text, and by a file. -/
def twiceSetSurroundings : Surroundings :=
  rootWith "COAP_HEARTBEAT_DEVICE_ID=31\n" ⟨[("COAP_HEARTBEAT_DEVICE_ID", [0xff])]⟩

def plainInvocation : Invocation := ⟨"::1", 5683, none, none, none, none, 0⟩

/-- A place where a file assigns a value that no variable can have. -/
def zeroSurroundings : Surroundings := rootWith "A=\x00" ⟨[]⟩

theorem assigned_zero : assigned zeroSurroundings = [("A", ['\x00'])] :=
  have name : DotEnv.IsName ['A'] := ⟨⟨_, _, rfl, .inl (by decide)⟩, by simp⟩
  assigned_rootWith (.last name (.bare (by simp [Text.isBlank]))) _

theorem environment?_zero : environment? zeroSurroundings = .error ⟨"A", ['\x00']⟩ := by
  have breaks : DotEnv.Breaks zeroSurroundings.environment (assigned zeroSurroundings)
      ⟨"A", ['\x00']⟩ := by
    rw [assigned_zero]
    exact ⟨rfl, rfl, by decide⟩
  rcases environment?_cases zeroSurroundings with ⟨-, fit⟩ | ⟨⟨name, value⟩, unfit, -, first, -⟩
  · exact absurd breaks (fit _)
  · rw [assigned_zero, List.lookup_cons] at first
    split at first
    · next same =>
      obtain rfl : name = "A" := eq_of_beq same
      obtain rfl : ['\x00'] = value := Option.some.inj first
      exact unfit
    · cases first

end Program

end CheckIn
