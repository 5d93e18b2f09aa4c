import CheckIn.Files
import CheckIn.Settings

/-! Where settings come from. A file named by the caller has to be there; the one at the usual
place is read if it is there. -/
namespace CheckIn.Settings

/-- The user's home: a variable, or else what the account has on record. -/
def home? (env : Environment) (account : Option String) : Option Text.Raw :=
  match env.value? "HOME" with
  | some bs => if bs.isEmpty then account.map .text else some (.ofBytes bs)
  | none => account.map .text

/-- Where settings of all programs lie: an absolute directory named by a variable, or a hidden one
at home. -/
def base (env : Environment) (account : Option String) : Text.Raw :=
  match ((env.value? "XDG_CONFIG_HOME").map Text.Raw.ofBytes).filter Path.isRooted with
  | some directory => directory
  | none => ((home? env account).map (Path.below ".config")).getD (.text ".")

def directory (env : Environment) (account : Option String) : Text.Raw :=
  Path.below "coap-heartbeat" (base env account)

def path (env : Environment) (account : Option String) : Text.Raw :=
  Path.below "config.json" (directory env account)

variable {m : Type → Type} [Monad m] (files : Files m) (log : Log.Event → m Unit)

def ofFile (path : Text.Raw) : m (Except Fault Settings) := do
  match ← files.read path with
  | .error cause => pure (.error (.unreadable path.shown cause))
  | .ok bs =>
    if (Text.Utf8.decode? bs).isNone then pure (.error (.unreadable path.shown .notUtf8))
    else match ofJson bs with
      | .error cause => pure (.error (.json cause))
      | .ok s => do
        log (.settingsLoaded path)
        pure (.ok s)

/-- The settings of a run before variables; `named` is the file that the caller names. -/
def fromFile (env : Environment) (account : Option String) (named : Option Text.Raw) :
    m (Except Fault Settings) :=
  match named with
  | some path => ofFile files log path
  | none => do
    let path := path env account
    if ← files.isPresent path then ofFile files log path
    else
      log (.settingsAbsent path)
      pure (.ok default)

def load (env : Environment) (account : Option String) (named : Option Text.Raw) :
    m (Except Fault Settings) := do
  let file ← fromFile files log env account named
  pure (file.bind (settle env))

end CheckIn.Settings
