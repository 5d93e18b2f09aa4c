import CheckIn.Settings.Loading
import CheckIn.Proofs.DotEnv
import CheckIn.Proofs.Settings.Overlay

/-! Settings from a file and from variables. A source that is there has to be right even where
another one counts, and only what all of them come to has to be usable. -/
namespace CheckIn

namespace Settings

/-- What a variable says of its setting: nothing if it is unset, or else what its text reads as
without the blanks around it. -/
inductive Reads {α : Type} (read : String → Except Text.Numeral.Fault α) :
    Option String → Option α → Prop where
  | unset : Reads read none none
  | set (raw : String) (a : α) : read (trimmed raw) = .ok a → Reads read (some raw) (some a)

/-- What the variables of the settings say together. -/
structure VariablesSay (lookup : String → Option String) (o : Overlay) : Prop where
  responseTimeoutMs : Reads Text.Numeral.readUInt64
    (lookup "COAP_HEARTBEAT_RESPONSE_TIMEOUT_MS") o.responseTimeoutMs
  deviceId : Reads Text.Numeral.readInt64 (lookup "COAP_HEARTBEAT_DEVICE_ID") o.deviceId
  currentFirmware : Reads Text.Numeral.readInt64
    (lookup "COAP_HEARTBEAT_CURRENT_FIRMWARE") o.currentFirmware

/-- A variable that is set and whose text does not read, and the fault that this is. -/
inductive Fails {α : Type} (read : String → Except Text.Numeral.Fault α) (name : String) :
    Option String → Fault → Prop where
  | unread (raw : String) (cause : Text.Numeral.Fault) : read (trimmed raw) = .error cause →
      Fails read name (some raw) (.invalidVariable name raw cause)

variable (lookup : String → Option String)

/-- One variable either fails, and nothing is taken over from there on, or says something of its
setting, and the others go on from there. -/
theorem overrideFrom_cons_eq_iff {α : Type} (name : String)
    (read : String → Except Text.Numeral.Fault α) (put : α → Settings → Settings)
    (place : Option α → Overlay) (nowhere : place none = 1)
    (puts : ∀ a s, put a s = place (some a) • s) (os : List Override) (s s' : Settings)
    (verdict : Except Fault Unit) :
    overrideFrom lookup (overriding name read put :: os) s = (s', verdict) ↔
      (∃ fault, Fails read name (lookup name) fault ∧ s' = s ∧ verdict = .error fault) ∨
        ∃ a, Reads read (lookup name) a ∧ overrideFrom lookup os (place a • s) = (s', verdict) := by
  rw [overrideFrom]
  dsimp only [overriding]
  cases lookup name with
  | none =>
    constructor
    · intro goesOn
      refine .inr ⟨none, .unset, ?_⟩
      rw [nowhere, one_smul]
      exact goesOn
    · rintro (⟨fault, fails, -⟩ | ⟨a, said, goesOn⟩)
      · cases fails
      · cases said
        rw [nowhere, one_smul] at goesOn
        exact goesOn
  | some raw =>
    dsimp only
    cases parsed : read (trimmed raw) with
    | error cause =>
      constructor
      · intro failed
        cases failed
        exact .inl ⟨_, .unread raw cause parsed, rfl, rfl⟩
      · rintro (⟨fault, fails, rfl, rfl⟩ | ⟨a, said, -⟩)
        · cases fails with
          | unread _ cause failed =>
            cases parsed.symm.trans failed
            rfl
        · cases said with
          | set _ a reads => cases parsed.symm.trans reads
    | ok a =>
      dsimp only [Except.map]
      rw [puts]
      constructor
      · intro goesOn
        exact .inr ⟨some a, .set raw a parsed, goesOn⟩
      · rintro (⟨fault, fails, -⟩ | ⟨b, said, goesOn⟩)
        · cases fails with
          | unread _ cause failed => cases parsed.symm.trans failed
        · cases said with
          | set _ b reads =>
            cases parsed.symm.trans reads
            exact goesOn

theorem overrideFrom_cons_eq_ok_iff {α : Type} (name : String)
    (read : String → Except Text.Numeral.Fault α) {put : α → Settings → Settings}
    (place : Option α → Overlay) (nowhere : place none = 1)
    (puts : ∀ a s, put a s = place (some a) • s) (os : List Override) (s s' : Settings) :
    overrideFrom lookup (overriding name read put :: os) s = (s', .ok ()) ↔
      ∃ a, Reads read (lookup name) a ∧ overrideFrom lookup os (place a • s) = (s', .ok ()) := by
  rw [overrideFrom_cons_eq_iff lookup name read put place nowhere puts]
  refine or_iff_right ?_
  rintro ⟨fault, -, -, failed⟩
  cases failed

theorem applyOverrides_eq_ok_iff (s s' : Settings) :
    s.applyOverrides lookup = (s', .ok ()) ↔ ∃ vars, VariablesSay lookup vars ∧ s' = vars • s := by
  constructor
  · intro taken
    obtain ⟨timeout, timeoutSays, taken⟩ := (overrideFrom_cons_eq_ok_iff lookup _ _
      (fun a => ⟨a, none, none⟩) rfl (fun _ _ => rfl) _ _ _).mp taken
    obtain ⟨device, deviceSays, taken⟩ := (overrideFrom_cons_eq_ok_iff lookup _ _
      (fun a => ⟨none, a, none⟩) rfl (fun _ _ => rfl) _ _ _).mp taken
    obtain ⟨firmware, firmwareSays, taken⟩ := (overrideFrom_cons_eq_ok_iff lookup _ _
      (fun a => ⟨none, none, a⟩) rfl (fun _ _ => rfl) _ _ _).mp taken
    cases taken
    exact ⟨⟨timeout, device, firmware⟩, ⟨timeoutSays, deviceSays, firmwareSays⟩, rfl⟩
  · rintro ⟨vars, said, rfl⟩
    refine (overrideFrom_cons_eq_ok_iff lookup _ _ (fun a => ⟨a, none, none⟩) rfl
      (fun _ _ => rfl) _ _ _).mpr ⟨_, said.responseTimeoutMs, ?_⟩
    refine (overrideFrom_cons_eq_ok_iff lookup _ _ (fun a => ⟨none, a, none⟩) rfl
      (fun _ _ => rfl) _ _ _).mpr ⟨_, said.deviceId, ?_⟩
    refine (overrideFrom_cons_eq_ok_iff lookup _ _ (fun a => ⟨none, none, a⟩) rfl
      (fun _ _ => rfl) _ _ _).mpr ⟨_, said.currentFirmware, ?_⟩
    rfl

theorem settle_eq_ok_iff (env : Environment) (s s' : Settings) :
    settle env s = .ok s' ↔
      (∃ vars, VariablesSay env.text? vars ∧ s' = vars • s) ∧ s'.responseTimeoutMs ≠ 0 := by
  rw [← applyOverrides_eq_ok_iff, settle]
  obtain ⟨after, verdict⟩ := s.applyOverrides env.text?
  cases verdict with
  | error cause =>
    constructor
    · intro failed
      cases failed
    · rintro ⟨failed, -⟩
      cases failed
  | ok _ =>
    unfold validate
    by_cases zero : after.responseTimeoutMs = 0
    · simp only [zero, if_true]
      constructor
      · intro failed
        cases failed
      · rintro ⟨same, positive⟩
        cases same
        exact absurd zero positive
    · simp only [zero, if_false]
      constructor
      · intro same
        cases same
        exact ⟨rfl, zero⟩
      · rintro ⟨same, -⟩
        cases same
        rfl

/-- What the file of a run says. The one at the usual place may be absent; any other has to be read,
be a text, and be JSON for settings. -/
inductive FileSays (files : FixedFiles) (usual : Text.Raw) (named : Option Text.Raw) :
    Overlay → Prop where
  | absent : named = none → files.isPresent usual = false → FileSays files usual named 1
  | content (bs : List UInt8) (o : Overlay) : files.read (named.getD usual) = .ok bs →
      (Text.Utf8.decode? bs).isSome → Says bs o → FileSays files usual named o

variable {σ : Type} (files : FixedFiles) (log : Log.Event → StateM σ Unit) (w : σ)

theorem ofFile_eq_ok_iff (path : Text.Raw) (s : Settings) :
    (ofFile files.asFiles log path w).1 = .ok s ↔
      ∃ bs, files.read path = .ok bs ∧ (Text.Utf8.decode? bs).isSome ∧ ofJson bs = .ok s := by
  have content : files.asFiles.read path = (pure (files.read path) : StateM σ _) := rfl
  rw [ofFile, content, pure_bind]
  cases files.read path with
  | error cause =>
    constructor
    · intro failed
      cases failed
    · rintro ⟨bs, same, -⟩
      cases same
  | ok bs =>
    dsimp only
    cases text : Text.Utf8.decode? bs with
    | none =>
      constructor
      · intro failed
        cases failed
      · rintro ⟨_, same, isText, -⟩
        cases same
        rw [text] at isText
        cases isText
    | some cs =>
      have isText : (Text.Utf8.decode? bs).isSome := by rw [text, Option.isSome_some]
      simp only [Option.isNone_some, Bool.false_eq_true, if_false]
      cases parsed : ofJson bs with
      | error cause =>
        constructor
        · intro failed
          cases failed
        · rintro ⟨_, same, -, read⟩
          cases same
          cases parsed.symm.trans read
      | ok found =>
        constructor
        · intro same
          cases same
          exact ⟨bs, rfl, isText, parsed⟩
        · rintro ⟨_, same, -, read⟩
          cases same
          cases parsed.symm.trans read
          rfl

theorem fileSays_iff_of_needed {files : FixedFiles} {usual : Text.Raw} {named : Option Text.Raw}
    {file : Overlay} (needed : ¬(named = none ∧ files.isPresent usual = false)) :
    FileSays files usual named file ↔ ∃ bs, files.read (named.getD usual) = .ok bs ∧
      (Text.Utf8.decode? bs).isSome ∧ Says bs file := by
  constructor
  · intro said
    cases said with
    | absent unnamed missing => exact absurd ⟨unnamed, missing⟩ needed
    | content bs _ read text said => exact ⟨bs, read, text, said⟩
  · rintro ⟨bs, read, text, said⟩
    exact .content bs file read text said

theorem fromFile_eq_ok_iff (env : Environment) (account : Option String)
    (named : Option Text.Raw) (s : Settings) :
    (fromFile files.asFiles log env account named w).1 = .ok s ↔
      ∃ file, FileSays files (path env account) named file ∧ s = file • default := by
  have content (needed : ¬(named = none ∧ files.isPresent (path env account) = false)) :
      (ofFile files.asFiles log (named.getD (path env account)) w).1 = .ok s ↔
        ∃ file, FileSays files (path env account) named file ∧ s = file • default := by
    simp only [ofFile_eq_ok_iff, ofJson_eq_ok_iff, fileSays_iff_of_needed needed]
    constructor
    · rintro ⟨bs, read, text, file, said, same⟩
      exact ⟨file, ⟨bs, read, text, said⟩, same⟩
    · rintro ⟨file, ⟨bs, read, text, said⟩, same⟩
      exact ⟨bs, read, text, file, said, same⟩
  cases named with
  | some chosen => exact content (by simp)
  | none =>
    have present : files.asFiles.isPresent (path env account) =
      (pure (files.isPresent (path env account)) : StateM σ _) := rfl
    rw [fromFile, present, pure_bind]
    cases there : files.isPresent (path env account) with
    | true => exact content (by simp [there])
    | false =>
      constructor
      · intro same
        cases same
        exact ⟨1, .absent rfl there, rfl⟩
      · rintro ⟨file, said, rfl⟩
        cases said with
        | absent => rfl
        | content bs _ read => cases there.symm.trans (files.present read)

/-- The settings load exactly when the file and the variables say something and the timeout that
results is not zero; where the variables are silent the file shows through. -/
theorem load_eq_ok_iff (env : Environment) (account : Option String)
    (named : Option Text.Raw) (s : Settings) :
    (load files.asFiles log env account named w).1 = .ok s ↔
      ∃ file vars, FileSays files (path env account) named file ∧ VariablesSay env.text? vars ∧
        s = vars • file • default ∧ s.responseTimeoutMs ≠ 0 := by
  have loaded : (load files.asFiles log env account named w).1 =
    (fromFile files.asFiles log env account named w).1.bind (settle env) := rfl
  rw [loaded]
  have said := fromFile_eq_ok_iff files log w env account named
  have bound (before : Settings) : (Except.ok before).bind (settle env) = settle env before := rfl
  constructor
  · intro settled
    cases base : (fromFile files.asFiles log env account named w).1 with
    | error cause =>
      rw [base] at settled
      cases settled
    | ok before =>
      rw [base, bound] at settled
      obtain ⟨file, fileSays, rfl⟩ := (said before).mp base
      obtain ⟨⟨vars, varsSay, same⟩, positive⟩ := (settle_eq_ok_iff env _ s).mp settled
      exact ⟨file, vars, fileSays, varsSay, same, positive⟩
  · rintro ⟨file, vars, fileSays, varsSay, same, positive⟩
    rw [(said _).mpr ⟨file, fileSays, rfl⟩, bound]
    exact (settle_eq_ok_iff env _ s).mpr ⟨⟨vars, varsSay, same⟩, positive⟩

end Settings

end CheckIn
