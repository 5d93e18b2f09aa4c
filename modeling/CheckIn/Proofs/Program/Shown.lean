import CheckIn.Proofs.Command.Deadlines
import CheckIn.Proofs.Program.Contract
import CheckIn.Proofs.Udp.Told
import CheckIn.Proofs.Udp.Transmissions

/-! What a run shows of its heartbeat is what it sends: two numbers and the URI of a target stand in
the banner, in the announcement, in the log and, with the numbers in the payload, on the network. -/
namespace CheckIn

open World
open Net (bind_state)

namespace Report

/-- A banner that shows a target, a device and its firmware. -/
def bannerShowing (uri : String) (device firmware : Int) : String :=
  "CoAP Device Simulator\nTarget: " ++ uri ++ "\nDevice ID: " ++ toString device ++
    "\nCurrent Firmware: " ++ toString firmware ++ "\n" ++ bannerRule ++ "\n"

/-- The announcement of a device and its firmware, and of a payload with the same two numbers. -/
def sendingShowing (clock : String) (device firmware : Int) : String :=
  "[" ++ clock ++ "] Sending heartbeat for device " ++ toString device ++ " with firmware " ++
    toString firmware ++ "\nPayload: \x7bdevice_id: " ++ toString device ++
    ", current_firmware: " ++ toString firmware ++ ", protocol_version: " ++
    toString Heartbeat.protocolVersion ++ "\x7d\n"

end Report

namespace Command

variable (s : Surroundings) (i : Invocation) (settings : Settings)

theorem sent_exchange (w : World) :
    ∃ sent, (exchange (World.host s) i settings w).2.network.sent = w.network.sent ++ sent ∧
      ∀ m ∈ sent,
        (Udp.dial (patience i w.network.now) (Exchange.endpoint i.host i.port) w.network).1 =
          some (.ok m.1) ∧
        ((∃ id, m.2 = .acknowledge id) ∨
          Udp.Restates (Udp.heartbeatPacket 0 i.host i.port (heartbeat i settings)) m.2) := by
  obtain ⟨sent, record, own⟩ := @Udp.sent_exchangeIn settings.responseTimeoutMs.toNat
    (patience i w.network.now) 0 i.host i.port (heartbeat i settings) w
  refine ⟨sent, ?_, own⟩
  rw [exchange_eq, ← record]
  dsimp only
  generalize Udp.exchangeIn _ _ _ _ _ _ w = ran
  obtain ⟨_ | outcome, w'⟩ := ran <;> rfl

variable (f : Log.Filter)

theorem conclude_tells (o : Option Outcome) :
    (tells (·.source = .command)).Holds (conclude (Program.filtered f (World.host s)) i o)
      (conclude (Program.filtered f (World.host s)) i o) := by
  cases o with
  | some outcome => exact (tells _).pure outcome
  | none =>
    apply (tells (·.source = .command)).bind (tells_logThrough f rfl)
    intro _
    exact (tells _).pure _

theorem announced_command (w : World) :
    ∃ told, (exchange (Program.filtered f (World.host s)) i settings w).2.events =
        w.events ++ told ∧
      told.filter Udp.isAnnouncement =
        [Log.Event.sending (heartbeat i settings).deviceId (heartbeat i settings).currentFirmware
          (Exchange.endpoint i.host i.port).uri].filter f.allows := by
  let site (now : Nat) := Udp.site
    (Udp.setupLogging settings.responseTimeoutMs.toNat (patience i now) 0 (logThrough f))
  have plain : exchange (Program.filtered f (World.host s)) i settings =
      World.wire.now >>= fun now =>
        Exchange.run (site now) i.host i.port (heartbeat i settings) none >>= fun ran =>
          conclude (Program.filtered f (World.host s)) i ran.1 := rfl
  have clock : World.wire.now w = (w.network.now, w) := rfl
  obtain ⟨told, grown, announced⟩ := Udp.announced_exchange f settings.responseTimeoutMs.toNat
    (patience i w.network.now) 0 i.host i.port (heartbeat i settings) w
  rw [plain, bind_state, clock, bind_state]
  dsimp only
  change (Exchange.run (site w.network.now) i.host i.port (heartbeat i settings) none
    w).2.events = w.events ++ told at grown
  generalize Exchange.run (site w.network.now) i.host i.port (heartbeat i settings) none w =
    ran at grown ⊢
  obtain ⟨told', grown', kinds⟩ := conclude_tells s i f ran.1.1 ran.2
  refine ⟨told ++ told', ?_, ?_⟩
  · rw [grown', grown, List.append_assoc]
  · rw [List.filter_append, announced,
      Udp.filter_announcement_of_source (by decide) kinds, List.append_nil]

end Command

namespace Program

variable (s : Surroundings) (i : Invocation) (settings : Settings) (w : World)

/-- The filter of a run. -/
def runFilter : Log.Filter := Log.filterOf ((environment s).text? filterVariable) i.verbosity

theorem filteredHost_eq : filteredHost s i = filtered (runFilter s i) (World.host s) := rfl

theorem filtered_log (f : Log.Filter) : (filtered f (World.host s)).log = logThrough f := rfl

theorem loading_tells : ∃ told, (loading s i w).2.events = w.events ++ told ∧
    ∀ e ∈ told, e.source = .settings := by
  have notes (e : Log.Event) (settings : e.source = .settings) :
      (tells (·.source = .settings)).Holds ((filteredHost s i).log e)
        ((filteredHost s i).log e) := by
    rw [filteredHost_eq, filtered_log]
    exact tells_logThrough (runFilter s i) settings
  exact loading_holds s i notes w

theorem perform_events (f : Log.Filter) : ∃ w', w'.events = w.events ∧
    (Command.perform (filtered f (World.host s)) i settings w).2.events =
      (Command.exchange (filtered f (World.host s)) i settings w').2.events := by
  have prints (text : String) (w : World) : (filtered f (World.host s)).print text w =
      ((), { w with output := w.output ++ text }) := rfl
  have clock (w : World) : (filtered f (World.host s)).clock w = (s.clock, w) := rfl
  unfold Command.perform
  simp only [bind_state, prints, clock]
  generalize Report.banner _ _ = banner
  generalize Report.sending _ _ = sending
  generalize Command.exchange (filtered f (World.host s)) i settings = exchange
  exact ⟨{ w with output := w.output ++ banner ++ sending }, rfl, rfl⟩

variable {s i settings w} {arguments : List Text.Raw}

/-- A run announces its heartbeat once, if its filter allows that. -/
theorem announced_run (parsed : CommandLine.parseRaw arguments = .ok i)
    (loaded : (loading s i w).1 = .ok settings) :
    ∃ told, (runRaw (World.host s) arguments w).2.events = w.events ++ told ∧
      told.filter Udp.isAnnouncement =
        [Log.Event.sending (Command.heartbeat i settings).deviceId
          (Command.heartbeat i settings).currentFirmware
          (Exchange.endpoint i.host i.port).uri].filter (runFilter s i).allows := by
  obtain ⟨told, grown, kinds⟩ := loading_tells s i w
  obtain ⟨w', kept, performed⟩ := perform_events s i settings (loading s i w).2 (runFilter s i)
  obtain ⟨told', grown', announced⟩ :=
    Command.announced_command s i settings (runFilter s i) w'
  refine ⟨told ++ told', ?_, ?_⟩
  · rw [runRaw, parsed]
    dsimp only
    rw [invoke_of_loaded loaded, filteredHost_eq, performed, grown', kept, grown,
      List.append_assoc]
  · rw [List.filter_append, announced,
      Udp.filter_announcement_of_source (by decide) kinds, List.nil_append]

/-- Whatever a run is to send, and whichever source that comes from, it shows what it sends: device,
firmware and target in its banner, device and firmware in the two lines behind that, and all three
in the one announcement that it logs, if its filter allows that. Everything it transmits goes where
the target leads and is an acknowledgement or a copy of the one request, whose payload is read as
the same two numbers. -/
theorem shown_is_sent (parsed : CommandLine.parseRaw arguments = .ok i)
    (loaded : (loading s i w).1 = .ok settings) :
    let d := (Command.heartbeat i settings).deviceId
    let f := (Command.heartbeat i settings).currentFirmware
    let target := Exchange.endpoint i.host i.port
    let final := (runRaw (World.host s) arguments w).2
    (∃ outcome, final.output = w.output ++ (Report.bannerShowing target.uri d.toInt f.toInt ++
      Report.sendingShowing s.clock d.toInt f.toInt ++ Report.outcome outcome)) ∧
    (∃ told, final.events = w.events ++ told ∧ told.filter Udp.isAnnouncement =
      [Log.Event.sending d f target.uri].filter (runFilter s i).allows) ∧
    ∃ sent, final.network.sent = w.network.sent ++ sent ∧ ∀ m ∈ sent,
      (Udp.dial (Command.patience i w.network.now) target w.network).1 = some (.ok m.1) ∧
      ((∃ id, m.2 = .acknowledge id) ∨
        ∃ payload, Udp.Restates (Udp.packet 0 (.post target payload)) m.2 ∧
          Cbor.decode m.2.payload = .ok (.map [(.text "device_id", .integer d.toInt),
            (.text "current_firmware", .integer f.toInt),
            (.text "protocol_version", .integer 1)])) := by
  intro d f target final
  obtain ⟨events, ran⟩ := runRaw_performed parsed loaded
  obtain ⟨sent, record, own⟩ := Command.sent_exchange s i settings w
  refine ⟨⟨(Command.exchange (World.host s) i settings w).1, ?_⟩, announced_run parsed loaded, sent,
    ?_, ?_⟩
  · simp only [final, ran]
    rfl
  · simp only [final, ran]
    exact record
  · intro m member
    obtain ⟨addressed, acknowledges | restates⟩ := own m member
    · exact ⟨addressed, .inl acknowledges⟩
    · refine ⟨addressed, .inr ⟨(Command.heartbeat i settings).encode, restates, ?_⟩⟩
      have decoded := (Command.heartbeat i settings).decode_encode []
      rw [List.append_nil] at decoded
      rw [restates.payload]
      exact decoded

/-- A server called hub that gets the second copy of a heartbeat only. -/
def losingServer : World :=
  .ofNetwork { Net.Simulation.ofReplies 5683 [[], [⟨0, [0x50, 0x44, 0, 0, 0xff, 0xa0]⟩]] [] with
    names := [("hub", ⟨40, .ok (.v4 ⟨127, 0, 0, 1⟩)⟩)] }

def bareSurroundings : Surroundings where
  files := ⟨[], [], []⟩
  environment := ⟨[("COAP_HEARTBEAT_CURRENT_FIRMWARE", [0x2d, 0x33])]⟩
  accountHome := none
  clock := "12:00:00"

def verboseInvocation : Invocation := ⟨"hub", 5683, some 7, none, none, none, 1⟩

theorem environment_of_missing {s : Surroundings} (root : s.files.workingDirectory = [])
    (missing : s.files.read "/.env" = .error .noSuchFile) :
    assigned s = [] ∧ environment s = s.environment := by
  have place : variablesPath s 0 = "/.env" := by
    rw [variablesPath, root]
    decide +kernel
  have none : assigned s = [] := by
    refine assigned_of_passed (by rw [root]; exact nofun) fun m below => ?_
    rw [root, List.length_nil, Nat.le_zero] at below
    rw [below, PassedOver, place]
    exact .inl missing
  exact ⟨none, by rw [environment, none]; rfl⟩

theorem environment_bare : assigned bareSurroundings = [] ∧
    environment bareSurroundings = bareSurroundings.environment := by
  apply environment_of_missing rfl
  have plain : "/.env".contains '\x00' = false := by simp
  unfold FileTree.read FileTree.locate
  rw [plain]
  decide +kernel

theorem loading_bare : (loading bareSurroundings verboseInvocation losingServer).1 =
    .ok ⟨93000, 1001, -3⟩ := by
  rw [loading_eq_ok_iff, environment_bare.1, environment_bare.2]
  have usual : Settings.path bareSurroundings.environment bareSurroundings.accountHome =
      "./coap-heartbeat/config.json" := by decide +kernel
  have missing : bareSurroundings.files.isPresent "./coap-heartbeat/config.json" = false := by
    have plain : "./coap-heartbeat/config.json".contains '\x00' = false := by simp
    unfold FileTree.isPresent FileTree.locate
    rw [plain]
    decide +kernel
  have timeout : bareSurroundings.environment.text? "COAP_HEARTBEAT_RESPONSE_TIMEOUT_MS" = none := by
    decide +kernel
  have device : bareSurroundings.environment.text? "COAP_HEARTBEAT_DEVICE_ID" = none := by
    decide +kernel
  have firmware : bareSurroundings.environment.text? "COAP_HEARTBEAT_CURRENT_FIRMWARE" =
      some "-3" := by decide +kernel
  rw [usual]
  refine ⟨DotEnv.not_breaks_nil _, 1, ⟨none, none, some (-3)⟩, .absent rfl missing, ⟨?_, ?_, ?_⟩,
    by decide, by decide⟩
  · rw [timeout]
    exact .unset
  · rw [device]
    exact .unset
  · rw [firmware]
    exact .set "-3" (-3) (by decide +kernel)

theorem both_copies_show_firmware_of_variable :
    let arguments : List Text.Raw := ["hub", "5683", "7", "-v"]
    let final := (runRaw (World.host bareSurroundings) arguments losingServer).2
    CommandLine.parseRaw arguments = .ok verboseInvocation ∧
      (loading bareSurroundings verboseInvocation losingServer).1 = .ok ⟨93000, 1001, -3⟩ ∧
      final.events.filter Udp.isAnnouncement = [.sending 7 (-3) "coap://hub:5683/hb"] ∧
      final.network.sent.length = 2 ∧
      ∀ m ∈ final.network.sent, Cbor.decode m.2.payload = .ok (.map [
        (.text "device_id", .integer 7), (.text "current_firmware", .integer (-3)),
        (.text "protocol_version", .integer 1)]) := by
  intro arguments final
  have parsed : CommandLine.parseRaw arguments = .ok verboseInvocation := by decide +kernel
  obtain ⟨-, ⟨told, grown, announced⟩, sent, record, own⟩ := shown_is_sent parsed loading_bare
  have uri : (Exchange.endpoint verboseInvocation.host verboseInvocation.port).uri =
      "coap://hub:5683/hb" := by decide +kernel
  have allowed : (runFilter bareSurroundings verboseInvocation).allows
      (.sending 7 (-3) "coap://hub:5683/hb") = true := by
    rw [runFilter, environment_bare.2]
    decide +kernel
  obtain ⟨events, ran⟩ := runRaw_performed parsed loading_bare
  have kinds : final.network.sent.map (·.2.kind) = [.confirmable, .confirmable] := by
    have exchanged : (Command.exchange (World.host bareSurroundings) verboseInvocation
        ⟨93000, 1001, -3⟩ losingServer).2.network.sent.map (·.2.kind) =
          [.confirmable, .confirmable] := by decide +kernel
    simp only [final, ran]
    exact exchanged
  have all : final.network.sent = sent := record
  refine ⟨parsed, loading_bare, ?_, ?_, ?_⟩
  · have events : final.events = told := grown
    rw [events, announced, uri]
    exact List.filter_cons_of_pos allowed
  · have count := congrArg List.length kinds
    rwa [List.length_map] at count
  · intro m member
    rw [all] at member
    obtain ⟨-, ⟨id, acknowledges⟩ | ⟨payload, -, decoded⟩⟩ := own m member
    · have kind : m.2.kind ∈ final.network.sent.map (·.2.kind) := by
        rw [all]
        exact List.mem_map_of_mem member
      rw [kinds, acknowledges] at kind
      simp [Coap.Packet.acknowledge] at kind
    · exact decoded

end Program

end CheckIn
