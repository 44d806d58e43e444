/-
# Report — changes and the bump they need

A `Report` pairs buckets with the bump that its non-empty buckets call for. A
`DetailedReport` has one for the whole diff and one for each contract.
-/
import ReleaseGate.Diff.Buckets
import ReleaseGate.Version.Bump

namespace ReleaseGate

set_option autoImplicit false

/-- Buckets and the bump they need. -/
structure Report where
  changes : Buckets
  bump : Version.Bump
  deriving BEq

namespace Report

/-- The bump that the non-empty buckets call for. -/
def bumpOf (b : Buckets) : Version.Bump :=
  .ofChanges (!b.storage.isEmpty) (!b.major.isEmpty) (!b.minor.isEmpty) (!b.patch.isEmpty)

def ofBuckets (b : Buckets) : Report := ⟨b, bumpOf b⟩

/-- The bump and the sizes of the buckets in one line. -/
def summary (r : Report) : String :=
  let name := r.bump.name
  let deltas := r.bump.toText
  let storage := r.changes.storage.length
  let major := r.changes.major.length
  let minor := r.changes.minor.length
  let patch := r.changes.patch.length
  s!"{name} bump ({deltas}): {storage} storage, {major} major, {minor} minor, {patch} patch"

end Report

/-- A report on the whole and one on each contract. -/
structure DetailedReport where
  whole : Report
  contracts : NameMap Report

namespace DetailedReport

/-- The report on sorted changes. -/
def ofBuckets (b : Buckets) : DetailedReport :=
  ⟨.ofBuckets b, b.byContract.map .ofBuckets⟩

/-- The report on a diff. -/
def ofDiff (d : Diff) (policy : Policy) : DetailedReport := ofBuckets (.ofDiff d policy)

/-- The bump a contract needs; one the report does not mention keeps its version. -/
def bumpFor (r : DetailedReport) (contract : String) : Version.Bump :=
  ((r.contracts.get? contract).map (·.bump)).getD .unchanged

/-- The journal entries for making the report. -/
def entries (r : DetailedReport) : List Entry :=
  let name := r.whole.bump.name
  let size := r.contracts.size
  r.whole.changes.entry :: ⟨.info, s!"Versioned report: {name} across {size} contract(s)"⟩ ::
    r.contracts.toList.map fun entry => ⟨.debug, "  " ++ entry.1 ++ ": " ++ entry.2.summary⟩

/-- Make the report on a diff, with its journal entries. -/
def create (d : Diff) (policy : Policy) : Logged DetailedReport :=
  let report := ofDiff d policy
  ⟨report, report.entries⟩

end DetailedReport

end ReleaseGate
