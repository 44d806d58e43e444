/-
# Form.Settings — settings in documents

Every probe setting may be left out and then has its default; so may the
pattern of contracts to leave out, and the probe settings as a whole.
-/
import ReleaseGate.Form.Version
import ReleaseGate.Settings

namespace ReleaseGate.Form

set_option autoImplicit false

open Record

variable {ν : Type} [Source ν]

/-- Probe settings while they are read. -/
structure ProbeSoFar where
  signature : Option String := none
  gasLimit : Option UInt64 := none
  fallback : Option Version := none
  decoding : Option Version.Decoding := none

def probeLayout : Layout ν ProbeSoFar ProbeSettings where
  name := "ExtractorConfig"
  fields :=
    [fieldOf "selector-signature" (·.signature) (fun s v => { s with signature := some v })
        readText,
      fieldOf "gas-limit" (·.gasLimit) (fun s v => { s with gasLimit := some v }) readUInt64,
      fieldOf "default-version" (·.fallback) (fun s v => { s with fallback := some v }) readVersion,
      fieldOf "buffer-decoding" (·.decoding) (fun s v => { s with decoding := some v })
        readDecoding]
  blank := {}
  finish _ s :=
    let usual := ProbeSettings.default
    .ok
      { signature := s.signature.getD usual.signature
        gasLimit := s.gasLimit.getD usual.gasLimit
        fallback := s.fallback.getD usual.fallback
        decoding := s.decoding.getD usual.decoding }

def readProbeSettings (part : ν) : Except Refusal ProbeSettings := probeLayout.read part

def probeSettingsJson (s : ProbeSettings) : Json :=
  .object
    [("selector-signature", .text s.signature), ("gas-limit", .ofUInt64 s.gasLimit),
      ("default-version", versionJson s.fallback),
      ("buffer-decoding", .text (decodingName s.decoding))]

/-- Settings while they are read. -/
structure SettingsSoFar where
  exclude : Option (Option String) := none
  probe : Option ProbeSettings := none

def settingsLayout : Layout ν SettingsSoFar Settings where
  name := "ConfigFile"
  fields :=
    [fieldOf "exclude" (·.exclude) (fun s v => { s with exclude := some v }) readOptionalText,
      fieldOf "extractor" (·.probe) (fun s v => { s with probe := some v }) readProbeSettings]
  blank := {}
  finish named s := do
    let exclude ← if named then .ok (s.exclude.getD none) else need "exclude" 0 s.exclude
    return ⟨exclude, s.probe.getD .default⟩

def readSettings (part : ν) : Except Refusal Settings := settingsLayout.read part

def settingsJson (s : Settings) : Json :=
  let exclude : List (String × Json) := match s.exclude with
    | some pattern => [("exclude", .text pattern)]
    | none => []
  .object (exclude ++ [("extractor", probeSettingsJson s.probe)])

end ReleaseGate.Form
