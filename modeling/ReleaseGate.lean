import ReleaseGate.Account
import ReleaseGate.Build.Directory
import ReleaseGate.Build.Extraction
import ReleaseGate.Build.Linking
import ReleaseGate.Decimal.Binary64
import ReleaseGate.Decimal.Shortest
import ReleaseGate.Diff
import ReleaseGate.Diff.Buckets
import ReleaseGate.Drift
import ReleaseGate.Evm.Frame
import ReleaseGate.Evm.Instruction
import ReleaseGate.Evm.Machine
import ReleaseGate.Evm.Memory
import ReleaseGate.Evm.Stack
import ReleaseGate.Evm.Step
import ReleaseGate.Evm.Word
import ReleaseGate.Evm.World
import ReleaseGate.Failure
import ReleaseGate.Files
import ReleaseGate.Files.Path
import ReleaseGate.Files.Tree
import ReleaseGate.Form.Build
import ReleaseGate.Form.Diff
import ReleaseGate.Form.Release
import ReleaseGate.Form.Report
import ReleaseGate.Form.Settings
import ReleaseGate.Form.Version
import ReleaseGate.Hash.Keccak
import ReleaseGate.Hash.Sha256
import ReleaseGate.Journal
import ReleaseGate.Json.Complaint
import ReleaseGate.Json.Draft
import ReleaseGate.Json.Place
import ReleaseGate.Json.Value
import ReleaseGate.NameMap
import ReleaseGate.Pattern
import ReleaseGate.Pattern.Brackets
import ReleaseGate.Pattern.ByteTree
import ReleaseGate.Pattern.CharSet
import ReleaseGate.Pattern.Cursor
import ReleaseGate.Pattern.Escape
import ReleaseGate.Pattern.Fault
import ReleaseGate.Pattern.LiteralTree
import ReleaseGate.Pattern.Matching
import ReleaseGate.Pattern.Meaning
import ReleaseGate.Pattern.Outline
import ReleaseGate.Pattern.Property
import ReleaseGate.Pattern.Reader
import ReleaseGate.Pattern.Size
import ReleaseGate.Pattern.Tree
import ReleaseGate.Probe
import ReleaseGate.Proofs.Names
import ReleaseGate.Record
import ReleaseGate.Release
import ReleaseGate.Report
import ReleaseGate.Settings
import ReleaseGate.Settings.Check
import ReleaseGate.Settings.Store
import ReleaseGate.Text.Blank
import ReleaseGate.Text.Hex
import ReleaseGate.Text.Letters
import ReleaseGate.Text.Printable
import ReleaseGate.Text.Quoted
import ReleaseGate.Text.WordChars
import ReleaseGate.Toml.Moment
import ReleaseGate.Toml.Number
import ReleaseGate.Toml.Reader
import ReleaseGate.Toml.Strings
import ReleaseGate.Toml.Value
import ReleaseGate.Toml.Writer
import ReleaseGate.Version
import ReleaseGate.Version.Buffer
import ReleaseGate.Version.Bump
import ReleaseGate.Proofs.Partition
import ReleaseGate.Proofs.Bumps
import ReleaseGate.Proofs.Batch
import ReleaseGate.Proofs.Reports
import ReleaseGate.Proofs.Drifts
import ReleaseGate.Proofs.Verdict
import ReleaseGate.Proofs.Exclusion
import ReleaseGate.Proofs.Probe.Answer
import ReleaseGate.Proofs.Probe.UpFront
import ReleaseGate.Proofs.Evm.Bytes
import ReleaseGate.Proofs.Evm.Turns
import ReleaseGate.Proofs.Evm.Runs
import ReleaseGate.Proofs.Evm.Tolls
import ReleaseGate.Proofs.Evm.Calls
import ReleaseGate.Proofs.Probe.Forwarder
import ReleaseGate.Proofs.Probe.Transparency
import ReleaseGate.Proofs.Locality
import ReleaseGate.Proofs.Severity
import ReleaseGate.Proofs.Text.Runs
import ReleaseGate.Proofs.Toml.Numbers
import ReleaseGate.Proofs.Toml.Strings
import ReleaseGate.Proofs.Version.Text
import ReleaseGate.Proofs.Toml.Documents
import ReleaseGate.Proofs.Form.Records
import ReleaseGate.Proofs.Files.Systems
import ReleaseGate.Proofs.Settings.Saved
import ReleaseGate.Proofs.Json.Strings
import ReleaseGate.Proofs.Json.Scan
import ReleaseGate.Proofs.Json.Places
import ReleaseGate.Proofs.Form.Releases
import ReleaseGate.Proofs.Form.Diffs
import ReleaseGate.Proofs.Stored
import ReleaseGate.Proofs.Evm.Sealing
import ReleaseGate.Proofs.Probe.Unchanged
import ReleaseGate.Proofs.Repair
import ReleaseGate.Proofs.Reordering
import ReleaseGate.Proofs.Pattern.Matching
import ReleaseGate.Proofs.Settings.Signatures
import ReleaseGate.Proofs.Settings.Usable
import ReleaseGate.Proofs.Build.Linking
import ReleaseGate.Proofs.Successor
import ReleaseGate.Proofs.Text.Bytes
import ReleaseGate.Proofs.Build.CodeText
import ReleaseGate.Proofs.Version.Buffer
import ReleaseGate.Proofs.Version.Integers
import ReleaseGate.Proofs.Version.Grammar
import ReleaseGate.Proofs.Regrouping
import ReleaseGate.Proofs.Evm.Readings
import ReleaseGate.Proofs.Evm.Straight
import ReleaseGate.Proofs.Probe.Dispatcher
import ReleaseGate.Proofs.Build.Dispatch
import ReleaseGate.Proofs.Build.Namesakes
import ReleaseGate.Proofs.Sorting
import ReleaseGate.Proofs.Build.Loading
import ReleaseGate.Proofs.StorageBreaks
import ReleaseGate.Proofs.LeavingOut
import ReleaseGate.Proofs.Json.Fields
import ReleaseGate.Proofs.Form.Changes
import ReleaseGate.Proofs.Probe.Bounded
