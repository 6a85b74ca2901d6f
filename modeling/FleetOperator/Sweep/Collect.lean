import FleetOperator.Disk.Interface
import FleetOperator.Disk.Path

/-!
# Sweeping agent binaries

Under the root directory each tenant has a directory, with the installed agent versions under
`bin` and, for each of them, the markers of the pods that use it under `gc`:

    root/tenant/bin/version/...
    root/tenant/gc/version/pod

A version goes when it is not the latest one and has no marker. Its binaries are removed before
its markers. A sweep never fails: what cannot be read counts as in use, and what cannot be removed
is on the report.
-/

namespace FleetOperator

/-- What a sweep did. -/
structure SweepReport where
  /-- The versions of which both directories are gone. -/
  removed : List String
  /-- The paths that could not be removed. -/
  failed : List String
deriving DecidableEq, Repr, Inhabited

namespace SweepReport

/-- The report of a sweep that did nothing. -/
def empty : SweepReport := ⟨[], []⟩

/-- The report of one sweep after another. -/
def append (first second : SweepReport) : SweepReport :=
  ⟨first.removed ++ second.removed, first.failed ++ second.failed⟩

end SweepReport

/-- The directory with the installed versions of a tenant. -/
def binaryDir (tenantDir : String) : String := Path.join tenantDir "bin"

/-- The directory with the markers of a tenant. -/
def referenceDir (tenantDir : String) : String := Path.join tenantDir "gc"

/-- Removes a path, and gives it back if that failed. -/
def tryRemove (path : String) : Dialogue diskInterface (List String) := do
  match ← Disk.removeAll path with
  | .ok () => return []
  | .error _ => return [path]

/-- Removes the two directories of a version. -/
def removeVersion (tenantDir version : String) : Dialogue diskInterface SweepReport := do
  let binary ← tryRemove (Path.join (binaryDir tenantDir) version)
  let references ← tryRemove (Path.join (referenceDir tenantDir) version)
  let failed := binary ++ references
  return ⟨if failed.isEmpty then [version] else [], failed⟩

/-- Looks at a version and removes it if nothing uses it. -/
def sweepVersion (tenantDir latest version : String) : Dialogue diskInterface SweepReport :=
  if version = latest then return .empty
  else do
    match ← Disk.readDir (Path.join (referenceDir tenantDir) version) with
    | .ok [] => removeVersion tenantDir version
    | _ => return .empty

/-- Looks at one version after another. -/
def sweepVersions (tenantDir latest : String) :
    List String → Dialogue diskInterface SweepReport
  | [] => return .empty
  | version :: rest => do
    let report ← sweepVersion tenantDir latest version
    let reports ← sweepVersions tenantDir latest rest
    return report.append reports

/-- Sweeps the versions of a tenant that have a directory for markers. A tenant that is not one
plain name has none: its path could lead anywhere. -/
def collect (root tenant latest : String) : Dialogue diskInterface SweepReport :=
  if Path.isPlainName tenant then do
    let tenantDir := Path.join root tenant
    match ← Disk.readDir (referenceDir tenantDir) with
    | .ok versions => sweepVersions tenantDir latest versions
    | .error _ => return .empty
  else return .empty

end FleetOperator
