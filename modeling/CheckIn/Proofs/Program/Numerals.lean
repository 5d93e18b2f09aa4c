import CheckIn.Proofs.CommandLine.Numerals
import CheckIn.Proofs.Program.Shown
import CheckIn.Proofs.Settings.Numerals

/-! An integer that a run is told by a numeral: in the file of settings, in a variable or among the
arguments. All three are read by readers of their own, and come to the same. -/
namespace CheckIn.Program

open CommandLine (Expects Place parse)
open Json (SpellsDocument)
open Settings (Setting found)

/-- The integers that a run can be told. -/
inductive Quantity where
  | responseTimeout | deviceId | currentFirmware | port
  deriving DecidableEq, Repr

namespace Quantity

def setting? : Quantity → Option Setting
  | responseTimeout => some .responseTimeout
  | deviceId => some .deviceId
  | currentFirmware => some .currentFirmware
  | port => none

def place? : Quantity → Option Place
  | responseTimeout => none
  | deviceId => some .deviceId
  | currentFirmware => some .currentFirmware
  | port => some .port

/-- The integers that a run can go on with. -/
def Holds : Quantity → Int → Prop
  | responseTimeout, n => 0 < n ∧ n < 2 ^ 64
  | deviceId, n | currentFirmware, n => -2 ^ 63 ≤ n ∧ n < 2 ^ 63
  | port, n => 0 ≤ n ∧ n < 2 ^ 16

/-- What an argument says that goes before the settings. -/
def argument? (i : Invocation) : Quantity → Option Int64
  | deviceId => i.deviceId
  | currentFirmware => i.currentFirmware
  | responseTimeout | port => none

def used (i : Invocation) (settings : Settings) : Quantity → Int
  | responseTimeout => settings.responseTimeoutMs.toNat
  | deviceId => (Command.heartbeat i settings).deviceId.toInt
  | currentFirmware => (Command.heartbeat i settings).currentFirmware.toInt
  | port => i.port.toNat

end Quantity

def fileSettings (s : Surroundings) (i : Invocation) (w : World) : Except Obstacle Settings := do
  let env ← (environment? s).mapError .unfit
  (Settings.fromFile s.fixedFiles.asFiles (filteredHost s i).log env s.accountHome
    i.configPath w).1.mapError .settings

def settingsPath (s : Surroundings) (i : Invocation) : Text.Raw :=
  i.configPath.getD (Settings.path (environment s) s.accountHome)

/-- Arguments and settings of a run are right. -/
def Accepted (s : Surroundings) (w : World) (arguments : List String) : Prop :=
  ∃ i settings, parse arguments = .ok i ∧ (loading s i w).1 = .ok settings

/-- A run is told an integer by its canonical numeral: among its arguments, in a variable with any
blanks around it, or as a number in its file of settings, where a timeout counts only if no variable
says another. The last index is what else has to be right: that nothing which goes before is said,
and that the run would be accepted with another integer in this place. -/
inductive Tells (n : Int) (s : Surroundings) (w : World) :
    Quantity → List String → Prop → Prop where
  | inArguments {p : Place} {before after : List String} : q.place? = some p → Expects before p →
      Tells n s w q (before ++ toString n :: after) (Accepted s w (before ++ "1" :: after))
  | inVariable {v : Setting} {i : Invocation} {raw : String} :
      q.setting? = some v → parse arguments = .ok i →
      (environment s).text? v.variableName = some raw → Settings.Spells raw n →
      Tells n s w q arguments (q.argument? i = none ∧ ∃ base settings,
        fileSettings s i w = .ok base ∧
        Settings.settle ((environment s).setText v.variableName "1") base = .ok settings)
  | inFile {v : Setting} {i : Invocation} {parts : List Settings.Part} {text : List Char} :
      q.setting? = some v → parse arguments = .ok i →
      (q = .responseTimeout → (environment s).text? v.variableName = none) →
      s.fixedFiles.read (settingsPath s i) = .ok (Text.Utf8.encode text) →
      SpellsDocument (parts.map Settings.Part.member) text → Settings.Shaped parts →
      found parts v.sectionName v.slot.name = [n] →
      Tells n s w q arguments (q.argument? i = none ∧
        (environment s).text? v.variableName = none ∧ environment? s = .ok (environment s) ∧
        Settings.Once parts ∧ ∃ base settings,
          (∀ other, other ≠ v → Settings.Shows (found parts other.sectionName other.slot.name)
            (other.held .default) (other.held base)) ∧
          Settings.settle (environment s) base = .ok settings)

section

variable {n : Int} {s : Surroundings} {w : World} {q : Quantity} {v : Setting} {i : Invocation}
  {arguments : List String}

theorem fileSettings_of_complete (complete : environment? s = .ok (environment s)) :
    fileSettings s i w = (Settings.fromFile s.fixedFiles.asFiles (filteredHost s i).log
      (environment s) s.accountHome i.configPath w).1.mapError .settings := by
  rw [fileSettings, complete]
  rfl

theorem complete_of_fileSettings {base : Settings} (read : fileSettings s i w = .ok base) :
    environment? s = .ok (environment s) := by
  rcases environment?_cases s with ⟨complete, -⟩ | ⟨u, unfit, -⟩
  · exact complete
  · rw [fileSettings, unfit] at read
    cases read

theorem loads_iff {settings : Settings} : (loading s i w).1 = .ok settings ↔ ∃ base,
    fileSettings s i w = .ok base ∧ Settings.settle (environment s) base = .ok settings := by
  rcases environment?_cases s with ⟨complete, -⟩ | ⟨u, unfit, -⟩
  · have loaded : (Settings.load s.fixedFiles.asFiles (filteredHost s i).log (environment s)
        s.accountHome i.configPath w).1 =
      (Settings.fromFile s.fixedFiles.asFiles (filteredHost s i).log (environment s)
        s.accountHome i.configPath w).1 >>= Settings.settle (environment s) := rfl
    rw [loading_of_complete s i w complete, mapError_eq_ok_iff, loaded, bind_eq_ok_iff]
    simp only [fileSettings_of_complete complete, mapError_eq_ok_iff]
  · rw [loading_of_unfit s i w unfit]
    refine ⟨nofun, fun ⟨base, read, _⟩ => ?_⟩
    cases unfit.symm.trans (complete_of_fileSettings read)

theorem fileSettings_eq_ok_iff {text : List Char} {base : Settings}
    (content : s.fixedFiles.read (settingsPath s i) = .ok (Text.Utf8.encode text))
    (complete : environment? s = .ok (environment s)) :
    fileSettings s i w = .ok base ↔ Settings.ofJson (Text.Utf8.encode text) = .ok base := by
  rw [fileSettings_of_complete complete, mapError_eq_ok_iff,
    Settings.fromFile_text s.fixedFiles (filteredHost s i).log w (environment s) s.accountHome
      i.configPath content, mapError_eq_ok_iff]

theorem holds_setting (isSetting : q.setting? = some v) : q.Holds n ↔ v.Holds n := by
  cases q <;> cases isSetting <;> rfl

theorem used_setting (isSetting : q.setting? = some v) (free : q.argument? i = none)
    (settings : Settings) : q.used i settings = v.held settings := by
  cases q <;> cases isSetting
  · rfl
  · show (Option.getD i.deviceId _).toInt = _
    rw [show i.deviceId = none from free]
    rfl
  · show (Option.getD i.currentFirmware _).toInt = _
    rw [show i.currentFirmware = none from free]
    rfl

theorem holds_place {p : Place} (isPlace : q.place? = some p) :
    p ≠ .host ∧ (q.Holds n ↔ p.Holds n) := by
  cases q <;> cases isPlace <;> exact ⟨nofun, Iff.rfl⟩

theorem used_place {p : Place} (isPlace : q.place? = some p) (inside : q.Holds n)
    (settings : Settings) : q.used (CommandLine.withInteger p n i) settings = n := by
  cases q <;> cases isPlace
  · exact Int64.toInt_ofInt_of_le inside.1 inside.2
  · exact Int64.toInt_ofInt_of_le inside.1 inside.2
  · obtain ⟨least, most⟩ := inside
    have small : n.toNat < UInt16.size := by
      rw [UInt16.size]
      omega
    show ((UInt16.ofNat n.toNat).toNat : Int) = n
    rw [UInt16.toNat_ofNat_of_lt' small]
    exact Int.toNat_of_nonneg least

theorem loading_withInteger (p : Place) :
    loading s (CommandLine.withInteger p n i) w = loading s i w := by
  cases p <;> rfl

/-- A run that is told an integer it can go on with is right if all else is, and uses that integer;
a run that is told any other one is wrong. -/
theorem accepted_of_tells {otherwise : Prop} (tells : Tells n s w q arguments otherwise) :
    (q.Holds n → otherwise → ∃ i settings, parse arguments = .ok i ∧
      (loading s i w).1 = .ok settings ∧ q.used i settings = n) ∧
    (¬q.Holds n → (∃ cause, parse arguments = .error (.fault cause)) ∨
      ∃ i, parse arguments = .ok i ∧ ∀ settings, (loading s i w).1 ≠ .ok settings) := by
  cases tells with
  | @inArguments _ p before after isPlace expects =>
    obtain ⟨numeric, fits⟩ := holds_place (n := n) isPlace
    constructor
    · rintro inside ⟨i, settings, parsed, loaded⟩
      have one : p.Holds 1 := by
        cases p
        · exact absurd rfl numeric
        all_goals exact ⟨by decide, by decide⟩
      have read := CommandLine.parse_of_holds expects numeric one (fits.mp inside) after
      have parsed : parse (before ++ toString (1 : Int) :: after) = .ok i := parsed
      rw [parsed] at read
      refine ⟨_, settings, read, ?_, used_place isPlace inside settings⟩
      rw [loading_withInteger, loaded]
    · intro outside
      exact .inl (CommandLine.parse_of_not_holds expects numeric (mt fits.mpr outside) after)
  | @inVariable _ _ v i raw isSetting parsed text spells =>
    have fits : q.Holds n ↔ v.Holds n := holds_setting isSetting
    constructor
    · rintro inside ⟨free, base, settings, read, settled⟩
      obtain ⟨settings', settled', held⟩ :=
        (Settings.settle_of_spells text spells base).2 (fits.mp inside) settings settled
      exact ⟨i, settings', parsed, loads_iff.mpr ⟨base, read, settled'⟩,
        (used_setting isSetting free settings').trans held⟩
    · intro outside
      refine .inr ⟨i, parsed, fun settings loaded => ?_⟩
      obtain ⟨base, -, settled⟩ := loads_iff.mp loaded
      exact (Settings.settle_of_spells text spells base).1 (mt fits.mpr outside) settings settled
  | @inFile _ _ v i parts text isSetting parsed only content spells shaped written =>
    have fits : q.Holds n ↔ v.Holds n := holds_setting isSetting
    obtain ⟨holdsIt, reads⟩ := Settings.ofJson_of_found shaped spells written
    constructor
    · rintro inside ⟨free, unset, complete, once, base, settings, shown, settled⟩
      obtain ⟨base', read, others⟩ :=
        reads ((v.holds_iff n).mp (fits.mp inside)).1 once base shown
      have holds := holdsIt base' read
      have settles := (Settings.settle_of_unset unset base').2
      rw [holds] at settles
      obtain ⟨settings', settled', held⟩ := settles (fits.mp inside) base settings
        (fun other different => (others other different).symm) settled
      have read := (fileSettings_eq_ok_iff (w := w) content complete).mpr read
      exact ⟨i, settings', parsed, loads_iff.mpr ⟨base', read, settled'⟩,
        (used_setting isSetting free settings').trans held⟩
    · intro outside
      refine .inr ⟨i, parsed, fun settings loaded => ?_⟩
      obtain ⟨base, read, settled⟩ := loads_iff.mp loaded
      have held := holdsIt base
        ((fileSettings_eq_ok_iff content (complete_of_fileSettings read)).mp read)
      -- Only a timeout of zero is read and yet cannot be used.
      refine outside (fits.mpr ((v.holds_iff n).mpr ⟨held ▸ v.slot_holds_held base, ?_⟩))
      rintro rfl
      have timeout : q = .responseTimeout := by
        cases q <;> cases isSetting
        rfl
      intro zero
      have unusable := (Settings.settle_of_unset (only timeout) base).1
      rw [held, zero] at unusable
      exact unusable (fun positive => absurd positive.1 (by decide)) settings settled

theorem run_of_wrong (wrong : (∃ cause, parse arguments = .error (.fault cause)) ∨
    ∃ i, parse arguments = .ok i ∧ ∀ settings, (loading s i w).1 ≠ .ok settings) :
    (run (World.host s) arguments w).1.status ≠ 0 ∧
      (run (World.host s) arguments w).2.network = w.network := by
  rcases wrong with ⟨cause, parsed⟩ | ⟨i, parsed, wrong⟩
  · rw [run, runRaw_stopped parsed]
    exact ⟨nofun, rfl⟩
  · cases loaded : (loading s i w).1 with
    | ok settings => exact absurd loaded (wrong settings)
    | error obstacle =>
      obtain ⟨events, ran⟩ := runRaw_unloadable parsed loaded
      rw [run, ran]
      exact ⟨obstacle.status_ne_zero, rfl⟩

/-- What a datagram of a run with these numbers is: an acknowledgement, or their heartbeat. -/
def Carries (device firmware : Int) (p : Coap.Packet) : Prop :=
  (∃ id, p = .acknowledge id) ∨ Cbor.decode p.payload = .ok (.map [
    (.text "device_id", .integer device), (.text "current_firmware", .integer firmware),
    (.text "protocol_version", .integer 1)])

theorem run_of_accepted {settings : Settings} (parsed : parse arguments = .ok i)
    (loaded : (loading s i w).1 = .ok settings) :
    (run (World.host s) arguments w).1 = done ∧
      ∃ sent, (run (World.host s) arguments w).2.network.sent = w.network.sent ++ sent ∧
        ∀ m ∈ sent, Carries (Command.heartbeat i settings).deviceId.toInt
          (Command.heartbeat i settings).currentFirmware.toInt m.2 := by
  obtain ⟨events, ran⟩ := runRaw_performed parsed loaded
  obtain ⟨sent, record, own⟩ := Command.sent_exchange s i settings w
  have network : (run (World.host s) arguments w).2.network =
    (Command.exchange (World.host s) i settings w).2.network := by rw [run, ran]
  refine ⟨by rw [run, ran], sent, (congrArg Net.Simulation.sent network).trans record, ?_⟩
  intro m member
  obtain ⟨-, acknowledges | restates⟩ := own m member
  · exact .inl acknowledges
  · refine .inr ?_
    have decoded := (Command.heartbeat i settings).decode_encode []
    rw [List.append_nil] at decoded
    rw [restates.payload]
    exact decoded

end

/-- A document with the least device identifier. -/
def leastDeviceText : List Char :=
  "\x7b\"defaults\":\x7b\"device_id\":-9223372036854775808\x7d\x7d".toList

def leastDeviceParts : List Settings.Part := [
  ⟨"defaults", "\x7b\"device_id\":-9223372036854775808\x7d".toList,
    [⟨"device_id", .integer (-9223372036854775808)⟩]⟩]

theorem spells_leastDeviceSection : Json.SpellsObject [("device_id", "-9223372036854775808".toList)]
    "\x7b\"device_id\":-9223372036854775808\x7d".toList := by
  have name : Json.SpellsText "device_id".toList "device_id".toList := .self (by decide +kernel)
  have whole : Json.WholePart "9223372036854775808".toList :=
    ⟨Json.allDigits_of_all (by decide +kernel) (by decide +kernel),
      fun zero => absurd zero (by decide +kernel)⟩
  have value : Json.IsForm .value "-9223372036854775808".toList :=
    .negative ⟨_, [], [], whole, .absent, .absent, rfl⟩
  exact .members (.last name (Json.padded_self _) value (Json.padded_self _))

theorem shaped_leastDevice : Settings.Shaped leastDeviceParts := by
  intro p inside known
  obtain rfl := List.mem_singleton.mp inside
  refine ⟨spells_leastDeviceSection, fun l member set => ?_⟩
  obtain rfl := List.mem_singleton.mp member
  exact ⟨_, rfl⟩

theorem spells_leastDevice :
    SpellsDocument (leastDeviceParts.map Settings.Part.member) leastDeviceText := by
  have name : Json.SpellsText "defaults".toList "defaults".toList := .self (by decide +kernel)
  exact ⟨_, .members (.last name (Json.padded_self _) spells_leastDeviceSection.isForm
    (Json.padded_self _)), Json.padded_self _⟩

/-- A place with the least device identifier in a file and the greatest firmware in a variable. -/
def extremeSurroundings : Surroundings where
  files := ⟨[(["c"], Text.Utf8.encode leastDeviceText)], [], []⟩
  environment :=
    ⟨[("COAP_HEARTBEAT_CURRENT_FIRMWARE", Text.Utf8.ofString "\t9223372036854775807 ")]⟩
  accountHome := none
  clock := "12:00:00"

theorem environment_extreme : assigned extremeSurroundings = [] ∧
    environment extremeSurroundings = extremeSurroundings.environment := by
  apply environment_of_missing rfl
  have missing : extremeSurroundings.files.locate "/.env" = .error .noSuchFile := by
    have plain : "/.env".contains '\x00' = false := by simp
    unfold FileTree.locate
    rw [plain]
    decide +kernel
  rw [FileTree.read, missing]
  rfl

theorem complete_extreme :
    environment? extremeSurroundings = .ok (environment extremeSurroundings) := by
  rcases environment?_cases extremeSurroundings with ⟨complete, -⟩ | ⟨u, -, breaks⟩
  · exact complete
  · rw [environment_extreme.1] at breaks
    exact absurd breaks (DotEnv.not_breaks_nil _ u)

theorem content_extreme : extremeSurroundings.files.read "/c" =
    .ok (Text.Utf8.encode leastDeviceText) := by
  have place : extremeSurroundings.files.locate "/c" = .ok ["c"] := by
    have plain : "/c".contains '\x00' = false := by simp
    unfold FileTree.locate
    rw [plain]
    decide +kernel
  rw [FileTree.read, place]
  rfl

theorem ofJson_leastDevice : Settings.ofJson (Text.Utf8.encode leastDeviceText) =
    .ok ⟨93000, -9223372036854775808, 100⟩ := by
  decide +kernel

theorem read_extreme {i : Invocation} (named : i.configPath = some "/c") :
    fileSettings extremeSurroundings i losingServer = .ok ⟨93000, -9223372036854775808, 100⟩ := by
  refine (fileSettings_eq_ok_iff ?_ complete_extreme).mpr ofJson_leastDevice
  rw [settingsPath, named]
  exact content_extreme

end CheckIn.Program
