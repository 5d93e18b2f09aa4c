import CheckIn.Proofs.Settings.Precedence

/-! Variables that are taken over one after the other. The first one that does not read ends this,
and what the ones before it say has been taken over by then. -/
namespace CheckIn.Settings

/-- The first variable that does not read is the one of this fault, and the ones before it say this
together. -/
inductive FirstFault (lookup : String → Option String) : Overlay → Fault → Prop where
  | responseTimeout : Fails Text.Numeral.readUInt64 "COAP_HEARTBEAT_RESPONSE_TIMEOUT_MS"
        (lookup "COAP_HEARTBEAT_RESPONSE_TIMEOUT_MS") fault →
      FirstFault lookup ⟨none, none, none⟩ fault
  | deviceId (timeout : Option UInt64) :
      Reads Text.Numeral.readUInt64 (lookup "COAP_HEARTBEAT_RESPONSE_TIMEOUT_MS") timeout →
      Fails Text.Numeral.readInt64 "COAP_HEARTBEAT_DEVICE_ID"
        (lookup "COAP_HEARTBEAT_DEVICE_ID") fault →
      FirstFault lookup ⟨timeout, none, none⟩ fault
  | currentFirmware (timeout : Option UInt64) (device : Option Int64) :
      Reads Text.Numeral.readUInt64 (lookup "COAP_HEARTBEAT_RESPONSE_TIMEOUT_MS") timeout →
      Reads Text.Numeral.readInt64 (lookup "COAP_HEARTBEAT_DEVICE_ID") device →
      Fails Text.Numeral.readInt64 "COAP_HEARTBEAT_CURRENT_FIRMWARE"
        (lookup "COAP_HEARTBEAT_CURRENT_FIRMWARE") fault →
      FirstFault lookup ⟨timeout, device, none⟩ fault

variable (lookup : String → Option String) (s s' : Settings)

theorem applyOverrides_eq_error_iff (fault : Fault) :
    s.applyOverrides lookup = (s', .error fault) ↔
      ∃ before, FirstFault lookup before fault ∧ s' = before • s := by
  have timeout (s s') := overrideFrom_cons_eq_iff lookup "COAP_HEARTBEAT_RESPONSE_TIMEOUT_MS"
    Text.Numeral.readUInt64 (fun n s => { s with responseTimeoutMs := n })
    (fun a => ⟨a, none, none⟩) rfl (fun _ _ => rfl) (overrides.drop 1) s s' (.error fault)
  have device (s s') := overrideFrom_cons_eq_iff lookup "COAP_HEARTBEAT_DEVICE_ID"
    Text.Numeral.readInt64 (fun n s => { s with deviceId := n })
    (fun a => ⟨none, a, none⟩) rfl (fun _ _ => rfl) (overrides.drop 2) s s' (.error fault)
  have firmware (s s') := overrideFrom_cons_eq_iff lookup "COAP_HEARTBEAT_CURRENT_FIRMWARE"
    Text.Numeral.readInt64 (fun n s => { s with currentFirmware := n })
    (fun a => ⟨none, none, a⟩) rfl (fun _ _ => rfl) [] s s' (.error fault)
  constructor
  · intro failed
    obtain ⟨_, fails, rfl, same⟩ | ⟨t, said, failed⟩ := (timeout s s').mp failed
    · cases same
      exact ⟨_, .responseTimeout fails, rfl⟩
    obtain ⟨_, fails, rfl, same⟩ | ⟨d, said', failed⟩ := (device _ s').mp failed
    · cases same
      exact ⟨_, .deviceId t said fails, rfl⟩
    obtain ⟨_, fails, rfl, same⟩ | ⟨f, -, ended⟩ := (firmware _ s').mp failed
    · cases same
      exact ⟨_, .currentFirmware t d said said' fails, rfl⟩
    · cases ended
  · rintro ⟨before, first, rfl⟩
    cases first with
    | responseTimeout fails => exact (timeout s _).mpr (.inl ⟨_, fails, rfl, rfl⟩)
    | deviceId t said fails =>
      exact (timeout s _).mpr (.inr ⟨t, said, (device _ _).mpr (.inl ⟨_, fails, rfl, rfl⟩)⟩)
    | currentFirmware t d said said' fails =>
      exact (timeout s _).mpr (.inr ⟨t, said, (device _ _).mpr
        (.inr ⟨d, said', (firmware _ _).mpr (.inl ⟨_, fails, rfl, rfl⟩)⟩)⟩)

/-- Taking over variables succeeds exactly if each that is set reads, and then changes their settings
and no others. It fails exactly if one does not read: the settings of the variables before the first
such one have then been changed, and its own and all later ones are as they were. -/
theorem overrides_stop_at_first_fault :
    (s.applyOverrides lookup = (s', .ok ()) ↔ ∃ vars, VariablesSay lookup vars ∧ s' = {
      responseTimeoutMs := vars.responseTimeoutMs.getD s.responseTimeoutMs
      deviceId := vars.deviceId.getD s.deviceId
      currentFirmware := vars.currentFirmware.getD s.currentFirmware }) ∧
    ∀ fault, s.applyOverrides lookup = (s', .error fault) ↔
      ∃ before, FirstFault lookup before fault ∧ s' = {
        responseTimeoutMs := before.responseTimeoutMs.getD s.responseTimeoutMs
        deviceId := before.deviceId.getD s.deviceId
        currentFirmware := s.currentFirmware } := by
  refine ⟨applyOverrides_eq_ok_iff lookup s s', fun fault => ?_⟩
  rw [applyOverrides_eq_error_iff]
  refine exists_congr fun before => and_congr_right fun first => ?_
  -- No variable stands behind that of the firmware.
  have last : before.currentFirmware = none := by cases first <;> rfl
  rw [Overlay.smul_def, last, Option.getD_none]

/-- The variables of a run that takes over a timeout and then meets a device that is no number. -/
def deviceMisspelled (name : String) : Option String :=
  List.lookup name [("COAP_HEARTBEAT_RESPONSE_TIMEOUT_MS", "5"), ("COAP_HEARTBEAT_DEVICE_ID", "x")]

theorem timeout_kept_by_failed_override :
    (default.applyOverrides deviceMisspelled).2 =
        .error (.invalidVariable "COAP_HEARTBEAT_DEVICE_ID" "x" .invalidDigit) ∧
      (default.applyOverrides deviceMisspelled).1 ≠ default := by
  decide +kernel

end CheckIn.Settings
