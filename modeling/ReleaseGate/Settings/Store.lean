/-
# Settings.Store — settings in a file

Settings are kept in a file of a project's root directory. Without the file the
usual settings hold. Settings that are read are checked; settings that are
written are not, but a number that the file cannot hold is refused before
anything is written.
-/
import ReleaseGate.Files
import ReleaseGate.Form.Settings
import ReleaseGate.Settings.Check
import ReleaseGate.Toml.Reader
import ReleaseGate.Toml.Writer

namespace ReleaseGate.Settings

set_option autoImplicit false

open Record (Mismatch Refusal)

/-- The name of the file. -/
def fileName : String := ".contract-semver.toml"

/-- Why settings could not be loaded or saved. -/
inductive Trouble where
  | unreadable (fault : Files.Fault)
  /-- The file holds no TOML. -/
  | notToml
  /-- The file holds something else than settings. -/
  | misshapen (refusal : Refusal)
  | unusable (flaw : Flaw)
  /-- A number that the file cannot hold. -/
  | unwritable
  | unsaved (fault : Files.Fault)
  deriving DecidableEq, Repr

def Trouble.account : Trouble → Account
  | .unreadable fault => { text := s!"Failed to read {fileName}", causes := [fault.message] }
  | .notToml => { text := s!"Failed to parse {fileName}" }
  | .misshapen .malformed => { text := s!"Failed to parse {fileName}" }
  | .misshapen (.mismatch m) => { text := s!"Failed to parse {fileName}", causes := [m.message] }
  | .unusable flaw => flaw.account.within s!"Invalid {fileName} configuration"
  | .unwritable =>
      { text := "Failed to serialize config", causes := ["out-of-range value for u64 type"] }
  | .unsaved fault => { text := s!"Failed to write {fileName}", causes := [fault.message] }

/-- The settings that a text holds, checked. -/
def ofText (text : String) : Except Trouble Settings :=
  match Toml.ofText? text with
  | none => .error .notToml
  | some document =>
      match Form.readSettings document with
      | .error refusal => .error (.misshapen refusal)
      | .ok settings =>
          match settings.check with
          | .error flaw => .error (.unusable flaw)
          | .ok () => .ok settings

/-- The settings that a file holds; without the file, the usual ones. -/
def load : Files.Contents → Except Trouble Settings
  | .ok text => ofText text
  | .error .missing => .ok .default
  | .error fault => .error (.unreadable fault)

/-- The largest number the file can hold. -/
def largestNumber : Nat := 9223372036854775807

/-- The text of how versions are asked for. -/
def probeText (s : ProbeSettings) : String :=
  "[extractor]\nselector-signature = " ++ Toml.writeText s.signature ++ "\ngas-limit = " ++
    Nat.repr s.gasLimit.toNat ++ "\ndefault-version = " ++ Toml.writeText s.fallback.toText ++
    "\nbuffer-decoding = " ++ Toml.writeText (Form.decodingName s.decoding) ++ "\n"

/-- The text that holds settings. -/
def toText (s : Settings) : Except Trouble String :=
  let exclude := match s.exclude with
    | some pattern => "exclude = " ++ Toml.writeText pattern ++ "\n\n"
    | none => ""
  if largestNumber < s.probe.gasLimit.toNat then .error .unwritable
  else .ok (exclude ++ probeText s.probe)

/-- Write settings; what cannot be written down does not reach the file. -/
def save {m : Type → Type} [Monad m] (write : String → m (Except Files.Fault Unit))
    (s : Settings) : m (Except Trouble Unit) :=
  match toText s with
  | .error trouble => return .error trouble
  | .ok text => return (← write text).mapError .unsaved

end ReleaseGate.Settings
