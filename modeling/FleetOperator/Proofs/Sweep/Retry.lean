import FleetOperator.Sweep.Collect
import FleetOperator.Proofs.Disk.Memory
import Mathlib.Tactic.ByContra

/-!
# What a later sweep finishes

A sweep looks for versions in the directory of markers, and removes the
binaries of a version before its markers. Either removal may fail. If the
markers stay, the version is found again, and the next sweep removes what is
left of it. If the markers go and the binaries stay, nothing names the
version any more: its binaries are left for good.

Two facts carry this. A sweep acts on what is found of one version by a step
that depends on nothing else (`Traces.swept`), because the paths of two
versions lie apart; and making that step twice is making it once. So a run
over a listing makes it for each version that is listed, however often, and
leaves the others alone.
-/

namespace FleetOperator

open MemoryDisk

variable {Content : Type}

/-! ## The paths of a version -/

/-- Where the binaries of a version are. -/
abbrev binaryPath (tenantDir version : String) : String :=
  Path.join (binaryDir tenantDir) version

/-- Where the markers of a version are. -/
abbrev markerPath (tenantDir version : String) : String :=
  Path.join (referenceDir tenantDir) version

theorem names?_binaryPath (tenantDir : String) {version : String}
    (hv : Path.IsEntryName version) :
    Path.names? (binaryPath tenantDir version) =
      (Path.names? tenantDir).map (· ++ ["bin", version]) := by
  rw [binaryPath, binaryDir, Path.names?_join_entry _ hv,
    Path.names?_join_entry _ (by decide), Option.map_map]
  simp [Function.comp_def]

theorem names?_markerPath (tenantDir : String) {version : String}
    (hv : Path.IsEntryName version) :
    Path.names? (markerPath tenantDir version) =
      (Path.names? tenantDir).map (· ++ ["gc", version]) := by
  rw [markerPath, referenceDir, Path.names?_join_entry _ hv,
    Path.names?_join_entry _ (by decide), Option.map_map]
  simp [Function.comp_def]

theorem apart_of_names? {tenantDir path other kind version kind' version' : String}
    (hpath : Path.names? path = (Path.names? tenantDir).map (· ++ [kind, version]))
    (hother : Path.names? other = (Path.names? tenantDir).map (· ++ [kind', version']))
    (hne : ¬ (kind = kind' ∧ version = version')) : Apart path other := by
  refine apart_of_suffix hpath hother (fun hunder => ?_) (fun hunder => ?_)
  · exact hne (by simpa using hunder)
  · obtain ⟨hkind, hversion⟩ : kind' = kind ∧ version' = version := by simpa using hunder
    exact hne ⟨hkind.symm, hversion.symm⟩

theorem apart_of_version (tenantDir : String) {version : String}
    (hv : Path.IsEntryName version) :
    Apart (binaryPath tenantDir version) (markerPath tenantDir version) :=
  apart_of_names? (names?_binaryPath tenantDir hv) (names?_markerPath tenantDir hv) (by simp)

/-- The paths of two versions lie apart. -/
theorem apart_of_versions (tenantDir : String) {version other path path' : String}
    (hv : Path.IsEntryName version) (ho : Path.IsEntryName other) (hne : version ≠ other)
    (hpath : path = binaryPath tenantDir version ∨ path = markerPath tenantDir version)
    (hpath' : path' = binaryPath tenantDir other ∨ path' = markerPath tenantDir other) :
    Apart path path' := by
  have hbv := names?_binaryPath tenantDir hv
  have hmv := names?_markerPath tenantDir hv
  have hbo := names?_binaryPath tenantDir ho
  have hmo := names?_markerPath tenantDir ho
  rcases hpath with rfl | rfl <;> rcases hpath' with rfl | rfl
  · exact apart_of_names? hbv hbo (by simp [hne])
  · exact apart_of_names? hbv hmo (by simp)
  · exact apart_of_names? hmv hbo (by simp)
  · exact apart_of_names? hmv hmo (by simp [hne])

/-- No path is one of two versions. -/
theorem version_eq_of_path {tenantDir version other path : String} {names : List String}
    (hnames : Path.names? path = some names) (hv : Path.IsEntryName version)
    (ho : Path.IsEntryName other)
    (hversion : path = binaryPath tenantDir version ∨ path = markerPath tenantDir version)
    (hother : path = binaryPath tenantDir other ∨ path = markerPath tenantDir other) :
    version = other := by
  by_contra hne
  exact (apart_of_versions tenantDir hv ho hne hversion hother names names hnames hnames).1
    (List.prefix_refl names)

/-! ## What is found of a version -/

/-- What is found of a version: its binaries and its markers. -/
@[ext]
structure Traces (Content : Type) where
  binaries : Except DiskError (Tree String Content)
  markers : Except DiskError (Tree String Content)

def traces (disk : MemoryDisk Content) (tenantDir version : String) : Traces Content where
  binaries := disk.entryAt (binaryPath tenantDir version)
  markers := disk.entryAt (markerPath tenantDir version)

theorem holds_binaryPath (disk : MemoryDisk Content) (tenantDir version : String) :
    disk.holds (binaryPath tenantDir version) =
      (traces disk tenantDir version).binaries.toBool := by
  simp only [holds, traces]

theorem holds_markerPath (disk : MemoryDisk Content) (tenantDir version : String) :
    disk.holds (markerPath tenantDir version) =
      (traces disk tenantDir version).markers.toBool := by
  simp only [holds, traces]

theorem traces_repaired (disk : MemoryDisk Content) (tenantDir version : String) :
    traces disk.repaired tenantDir version = traces disk tenantDir version := by
  simp only [traces, entryAt_repaired]

/-- Whether there is a directory for markers with no marker in it. -/
def Traces.unmarked (found : Traces Content) : Bool :=
  match found.markers with
  | .ok (.dir []) => true
  | _ => false

theorem Traces.unmarked_iff {found : Traces Content} :
    found.unmarked = true ↔ found.markers = .ok (.dir []) := by
  unfold unmarked
  split
  · next h => simp [h]
  · next h =>
      simp only [Bool.false_eq_true, false_iff]
      exact h

/-- Whether a sweep removes a version of which this is found. -/
def Due (disk : MemoryDisk Content) (tenantDir latest version : String)
    (found : Traces Content) : Prop :=
  version ≠ latest ∧ disk.fault? (.readDir (markerPath tenantDir version)) = none ∧
    found.unmarked = true

instance (disk : MemoryDisk Content) (tenantDir latest version : String)
    (found : Traces Content) : Decidable (Due disk tenantDir latest version found) := by
  unfold Due
  infer_instance

/-- What is left of a version when its two paths were removed, as far as the disk lets them. -/
def Traces.cleared (disk : MemoryDisk Content) (tenantDir version : String)
    (found : Traces Content) : Traces Content where
  binaries :=
    if disk.refuses (binaryPath tenantDir version) then found.binaries
    else vacated found.binaries
  markers :=
    if disk.refuses (markerPath tenantDir version) then found.markers
    else vacated found.markers

/-- What a look at a version makes of what is found of it. -/
def Traces.swept (disk : MemoryDisk Content) (tenantDir latest version : String)
    (found : Traces Content) : Traces Content :=
  if Due disk tenantDir latest version found then found.cleared disk tenantDir version else found

theorem Traces.cleared_cleared (disk : MemoryDisk Content) (tenantDir version : String)
    (found : Traces Content) :
    (found.cleared disk tenantDir version).cleared disk tenantDir version =
      found.cleared disk tenantDir version := by
  unfold cleared
  ext1
  · cases disk.refuses (binaryPath tenantDir version) <;> simp
  · cases disk.refuses (markerPath tenantDir version) <;> simp

theorem Traces.swept_swept (disk : MemoryDisk Content) (tenantDir latest version : String)
    (found : Traces Content) :
    (found.swept disk tenantDir latest version).swept disk tenantDir latest version =
      found.swept disk tenantDir latest version := by
  by_cases hdue : Due disk tenantDir latest version found
  · have hone : found.swept disk tenantDir latest version =
        found.cleared disk tenantDir version := if_pos hdue
    rw [hone]
    unfold swept
    split
    · exact cleared_cleared disk tenantDir version found
    · rfl
  · have hone : found.swept disk tenantDir latest version = found := if_neg hdue
    rw [hone, hone]

theorem Traces.swept_congr {disk other : MemoryDisk Content} (h : SameSetting disk other)
    (tenantDir latest version : String) (found : Traces Content) :
    found.swept other tenantDir latest version = found.swept disk tenantDir latest version := by
  unfold swept Due cleared
  simp only [h.fault?, h.refuses]

/-- What a sweep is told of a version says whether it is due. -/
theorem due_iff (disk : MemoryDisk Content) (tenantDir latest version : String) :
    Due disk tenantDir latest version (traces disk tenantDir version) ↔
      version ≠ latest ∧ disk.listing (markerPath tenantDir version) = .ok [] := by
  rw [Due, Traces.unmarked_iff, listing_eq]
  cases disk.fault? (.readDir (markerPath tenantDir version)) with
  | some e => simp
  | none => simp only [true_and, list_eq_nil_iff, traces]

/-! ## One version -/

theorem run_tryRemove (disk : MemoryDisk Content) (path : String) :
    (disk.run (tryRemove path)).2 = (disk.answer (.removeAll path)).2 := by
  rw [tryRemove, run_removeAll_bind]
  cases (disk.answer (.removeAll path)).1 <;> rfl

theorem run_removeVersion (disk : MemoryDisk Content) (tenantDir version : String) :
    (disk.run (removeVersion tenantDir version)).2 =
      ((disk.answer (.removeAll (binaryPath tenantDir version))).2.answer
        (.removeAll (markerPath tenantDir version))).2 := by
  rw [removeVersion, run_bind, run_bind, run_tryRemove, run_tryRemove]
  rfl

/-- Removing a version clears it, and leaves every other version as it is. -/
theorem traces_removeVersion (disk : MemoryDisk Content) (tenantDir : String)
    {version other : String} (hv : Path.IsEntryName version) (ho : Path.IsEntryName other) :
    traces (disk.run (removeVersion tenantDir version)).2 tenantDir other =
      if other = version then (traces disk tenantDir version).cleared disk tenantDir version
      else traces disk tenantDir other := by
  have hbv := names?_binaryPath tenantDir hv
  have hmv := names?_markerPath tenantDir hv
  have hbo := names?_binaryPath tenantDir ho
  have hmo := names?_markerPath tenantDir ho
  have hset := sameSetting_answer disk (.removeAll (binaryPath tenantDir version))
  rw [run_removeVersion]
  split
  · next heq =>
      subst heq
      have hbin : Path.names? (binaryPath tenantDir other) ≠ some [] := by simp [hbv]
      have hmark : Path.names? (markerPath tenantDir other) ≠ some [] := by simp [hmv]
      ext1 <;> simp only [traces, Traces.cleared]
      · rw [entryAt_answer_removeAll_of_apart _ (apart_of_names? hmv hbv (by simp)),
          entryAt_answer_removeAll_self disk hbin]
      · rw [entryAt_answer_removeAll_self _ hmark, hset.refuses,
          entryAt_answer_removeAll_of_apart disk (apart_of_names? hbv hmv (by simp))]
  · next hne =>
      have hne' : ¬ version = other := fun h => hne h.symm
      ext1 <;> simp only [traces]
      · rw [entryAt_answer_removeAll_of_apart _ (apart_of_names? hmv hbo (by simp)),
          entryAt_answer_removeAll_of_apart _ (apart_of_names? hbv hbo (by simp [hne']))]
      · rw [entryAt_answer_removeAll_of_apart _ (apart_of_names? hmv hmo (by simp [hne'])),
          entryAt_answer_removeAll_of_apart _ (apart_of_names? hbv hmo (by simp))]

theorem traces_answer_readDir (disk : MemoryDisk Content) (path tenantDir version : String) :
    traces (disk.answer (.readDir path)).2 tenantDir version =
      traces disk tenantDir version := by
  unfold traces entryAt
  rw [tree_answer_readDir]

/-- Looking at a version makes one step for it, and none for any other version. -/
theorem traces_sweepVersion (disk : MemoryDisk Content) (tenantDir latest : String)
    {version other : String} (hv : Path.IsEntryName version) (ho : Path.IsEntryName other) :
    traces (disk.run (sweepVersion tenantDir latest version)).2 tenantDir other =
      if other = version then
        (traces disk tenantDir version).swept disk tenantDir latest version
      else traces disk tenantDir other := by
  have hdue := due_iff disk tenantDir latest version
  unfold sweepVersion
  by_cases hlatest : version = latest
  · have hstay : ¬ Due disk tenantDir latest version (traces disk tenantDir version) :=
      fun h => h.1 hlatest
    rw [if_pos hlatest, Traces.swept, if_neg hstay]
    split
    · next heq => rw [heq]; rfl
    · rfl
  · rw [if_neg hlatest, run_readDir_bind]
    have hset := sameSetting_answer disk (.readDir (markerPath tenantDir version))
    have htraces := traces_answer_readDir disk (markerPath tenantDir version) tenantDir
    split
    · next hlisting =>
        have hgo : Due disk tenantDir latest version (traces disk tenantDir version) :=
          hdue.2 ⟨hlatest, hlisting⟩
        rw [traces_removeVersion _ _ hv ho, htraces, htraces, Traces.swept, if_pos hgo]
        unfold Traces.cleared
        rw [hset.refuses, hset.refuses]
    · next hlisting =>
        have hstay : ¬ Due disk tenantDir latest version (traces disk tenantDir version) :=
          fun h => hlisting (hdue.1 h).2
        rw [Traces.swept, if_neg hstay]
        split
        · next heq => rw [heq]; exact htraces version
        · exact htraces other

/-! ## A whole sweep -/

/-- A run over a listing makes the step of a version if it is listed. -/
theorem traces_sweepVersions (disk : MemoryDisk Content) (tenantDir latest : String)
    {versions : List String} (hversions : ∀ version ∈ versions, Path.IsEntryName version)
    {other : String} (ho : Path.IsEntryName other) :
    traces (disk.run (sweepVersions tenantDir latest versions)).2 tenantDir other =
      if other ∈ versions then
        (traces disk tenantDir other).swept disk tenantDir latest other
      else traces disk tenantDir other := by
  induction versions generalizing disk with
  | nil => rfl
  | cons version rest ih =>
      have hv : Path.IsEntryName version := hversions version (by simp)
      have hrest : ∀ version ∈ rest, Path.IsEntryName version :=
        fun v hmem => hversions v (by simp [hmem])
      have hstep := traces_sweepVersion disk tenantDir latest hv ho
      have hset := sameSetting_run (sweepVersion tenantDir latest version) disk
      rw [sweepVersions, run_bind, run_bind]
      refine (ih _ hrest).trans ?_
      rw [Traces.swept_congr hset, hstep]
      by_cases heq : other = version
      · -- The version may be listed again: its step is made once more, to no effect.
        subst heq
        rw [if_pos rfl, Traces.swept_swept, ite_self, if_pos List.mem_cons_self]
      · simp only [if_neg heq, List.mem_cons, or_iff_right heq]

/-- The disk after a sweep. -/
def sweptDisk (root tenant latest : String) (disk : MemoryDisk Content) : MemoryDisk Content :=
  (disk.run (collect root tenant latest)).2

/-- Whether a sweep comes to look at a version. -/
def Listed (disk : MemoryDisk Content) (tenantDir version : String) : Prop :=
  ∃ versions, disk.listing (referenceDir tenantDir) = .ok versions ∧ version ∈ versions

theorem Listed.isEntryName {disk : MemoryDisk Content} {tenantDir version : String}
    (h : Listed disk tenantDir version) (hdir : NamesEntries disk (referenceDir tenantDir)) :
    Path.IsEntryName version := by
  obtain ⟨versions, hlisting, hmem⟩ := h
  rw [listing_eq] at hlisting
  split at hlisting
  · cases hlisting
  · exact hdir.of_mem_list hlisting hmem

section

variable {disk : MemoryDisk Content} {root tenant latest version : String}

theorem run_collect (htenant : Path.isPlainName tenant = true) :
    sweptDisk root tenant latest disk =
      match disk.listing (referenceDir (Path.join root tenant)) with
      | .ok versions =>
          ((disk.answer (.readDir (referenceDir (Path.join root tenant)))).2.run
            (sweepVersions (Path.join root tenant) latest versions)).2
      | .error _ => (disk.answer (.readDir (referenceDir (Path.join root tenant)))).2 := by
  unfold sweptDisk collect
  rw [if_pos htenant, run_readDir_bind]
  cases disk.listing (referenceDir (Path.join root tenant)) <;> rfl

theorem namesEntries_sweptDisk {path : String} (h : NamesEntries disk path) :
    NamesEntries (sweptDisk root tenant latest disk) path := h.run _

/-- A sweep makes one step for each version that it finds, and none for the others. -/
theorem traces_sweptDisk (htenant : Path.isPlainName tenant = true)
    (hdir : NamesEntries disk (referenceDir (Path.join root tenant)))
    (hv : Path.IsEntryName version) :
    (Listed disk (Path.join root tenant) version →
      traces (sweptDisk root tenant latest disk) (Path.join root tenant) version =
        (traces disk (Path.join root tenant) version).swept disk (Path.join root tenant)
          latest version) ∧
    (¬ Listed disk (Path.join root tenant) version →
      traces (sweptDisk root tenant latest disk) (Path.join root tenant) version =
        traces disk (Path.join root tenant) version) := by
  have htraces := traces_answer_readDir disk (referenceDir (Path.join root tenant))
    (Path.join root tenant) version
  rw [run_collect htenant]
  cases hlisting : disk.listing (referenceDir (Path.join root tenant)) with
  | error e =>
      refine ⟨fun ⟨versions, hlisted, _⟩ => ?_, fun _ => htraces⟩
      rw [hlisting] at hlisted
      cases hlisted
  | ok versions =>
      have hset := sameSetting_answer disk (.readDir (referenceDir (Path.join root tenant)))
      have hversions : ∀ version ∈ versions, Path.IsEntryName version :=
        fun v hmem => Listed.isEntryName ⟨versions, hlisting, hmem⟩ hdir
      simp only
      rw [traces_sweepVersions _ _ _ hversions hv, Traces.swept_congr hset, htraces]
      constructor
      · rintro ⟨versions', hlisted, hmem⟩
        rw [hlisting] at hlisted
        obtain rfl := Except.ok.inj hlisted
        rw [if_pos hmem]
      · intro hnot
        exact if_neg fun hmem => hnot ⟨versions, hlisting, hmem⟩

/-! ## One sweep after another -/

/-- A version that a sweep finds, is not the latest one and has no marker. -/
structure Eligible (disk : MemoryDisk Content) (tenantDir latest version : String) : Prop where
  listed : Listed disk tenantDir version
  outdated : version ≠ latest
  unmarked : disk.listing (markerPath tenantDir version) = .ok []

/-- Neither the binaries nor the markers of a version are on a disk. -/
def Gone (disk : MemoryDisk Content) (tenantDir version : String) : Prop :=
  disk.holds (binaryPath tenantDir version) = false ∧
    disk.holds (markerPath tenantDir version) = false

/-- The disk after a number of sweeps. -/
def sweeps (root tenant latest : String) : Nat → MemoryDisk Content → MemoryDisk Content
  | 0, disk => disk
  | n + 1, disk => sweeps root tenant latest n (sweptDisk root tenant latest disk)

theorem gone_iff {tenantDir : String} :
    Gone disk tenantDir version ↔
      (traces disk tenantDir version).binaries.toBool = false ∧
        (traces disk tenantDir version).markers.toBool = false := by
  rw [Gone, holds_binaryPath, holds_markerPath]

/-- What has no empty directory for markers is out of the reach of sweeps. -/
theorem traces_sweeps_of_marked (latest : String) (htenant : Path.isPlainName tenant = true)
    (hdir : NamesEntries disk (referenceDir (Path.join root tenant)))
    (hv : Path.IsEntryName version)
    (hmarked : (traces disk (Path.join root tenant) version).unmarked = false) (n : Nat) :
    traces (sweeps root tenant latest n disk) (Path.join root tenant) version =
      traces disk (Path.join root tenant) version := by
  induction n generalizing disk with
  | zero => rfl
  | succ n ih =>
      have hstay : ¬ Due disk (Path.join root tenant) latest version
          (traces disk (Path.join root tenant) version) := by
        rintro ⟨-, -, h⟩
        rw [hmarked] at h
        cases h
      have hone : traces (sweptDisk root tenant latest disk) (Path.join root tenant) version =
          traces disk (Path.join root tenant) version := by
        by_cases hlisted : Listed disk (Path.join root tenant) version
        · rw [(traces_sweptDisk htenant hdir hv).1 hlisted, Traces.swept, if_neg hstay]
        · exact (traces_sweptDisk htenant hdir hv).2 hlisted
      rw [sweeps, ih (namesEntries_sweptDisk hdir) (by rw [hone, hmarked]), hone]

/-- The first sweep clears a version that is eligible. -/
theorem Eligible.traces_sweptDisk (h : Eligible disk (Path.join root tenant) latest version)
    (htenant : Path.isPlainName tenant = true)
    (hdir : NamesEntries disk (referenceDir (Path.join root tenant))) :
    traces (sweptDisk root tenant latest disk) (Path.join root tenant) version =
      (traces disk (Path.join root tenant) version).cleared disk (Path.join root tenant)
        version := by
  have hdue := (due_iff disk (Path.join root tenant) latest version).2 ⟨h.outdated, h.unmarked⟩
  rw [(FleetOperator.traces_sweptDisk htenant hdir (h.listed.isEntryName hdir)).1 h.listed,
    Traces.swept, if_pos hdue]

theorem Eligible.markers_eq (h : Eligible disk (Path.join root tenant) latest version) :
    (traces disk (Path.join root tenant) version).markers = .ok (.dir []) :=
  Traces.unmarked_iff.1
    ((due_iff disk (Path.join root tenant) latest version).2 ⟨h.outdated, h.unmarked⟩).2.2

/-- On a disk without failures an eligible version is gone after one sweep. -/
theorem gone_after_repaired_sweep (htenant : Path.isPlainName tenant = true)
    (hdir : NamesEntries disk (referenceDir (Path.join root tenant)))
    (hv : Path.IsEntryName version) (hlatest : version ≠ latest)
    (hmarkers : (traces disk (Path.join root tenant) version).markers = .ok (.dir [])) :
    Gone (sweptDisk root tenant latest disk.repaired) (Path.join root tenant) version := by
  have hholds : disk.repaired.holds (markerPath (Path.join root tenant) version) = true := by
    rw [holds_markerPath, traces_repaired, hmarkers]
    rfl
  have helig : Eligible disk.repaired (Path.join root tenant) latest version := by
    constructor
    · obtain ⟨versions, hlist, hmem⟩ := mem_list_of_holds hv hholds
      exact ⟨versions, by rw [listing_repaired, ← hlist, list_repaired], hmem⟩
    · exact hlatest
    · rw [listing_repaired, list_eq_nil_iff]
      simpa only [traces] using hmarkers
  rw [gone_iff, helig.traces_sweptDisk htenant hdir.repaired]
  simp [Traces.cleared, refuses_repaired, toBool_vacated]

theorem Gone.unmarked_eq_false {tenantDir : String} (h : Gone disk tenantDir version) :
    (traces disk tenantDir version).unmarked = false := by
  cases hunmarked : (traces disk tenantDir version).unmarked with
  | false => rfl
  | true =>
      have hgone := (gone_iff.1 h).2
      rw [Traces.unmarked_iff.1 hunmarked] at hgone
      cases hgone

/-- Once its markers went, what is left of a version is never looked at again. -/
theorem Eligible.traces_later (h : Eligible disk (Path.join root tenant) latest version)
    (htenant : Path.isPlainName tenant = true)
    (hdir : NamesEntries disk (referenceDir (Path.join root tenant)))
    (hmarker : disk.refuses (markerPath (Path.join root tenant) version) = false) (n : Nat) :
    traces (sweeps root tenant latest n (sweptDisk root tenant latest disk).repaired)
        (Path.join root tenant) version =
      (traces disk (Path.join root tenant) version).cleared disk (Path.join root tenant)
        version := by
  have hv := h.listed.isEntryName hdir
  have hfirst : traces (sweptDisk root tenant latest disk).repaired (Path.join root tenant)
      version = (traces disk (Path.join root tenant) version).cleared disk
        (Path.join root tenant) version := by
    rw [traces_repaired, h.traces_sweptDisk htenant hdir]
  have hmarked : (traces (sweptDisk root tenant latest disk).repaired
      (Path.join root tenant) version).unmarked = false := by
    rw [hfirst]
    simp [Traces.cleared, Traces.unmarked, hmarker, h.markers_eq, vacated]
  rw [traces_sweeps_of_marked latest htenant (namesEntries_sweptDisk hdir).repaired hv hmarked n,
    hfirst]

/-- The later sweeps, on a disk that does not fail any more, leave nothing of a version that was
eligible in the first one, unless there the markers went and the binaries could not. -/
theorem gone_after_later_sweeps_iff (htenant : Path.isPlainName tenant = true)
    (hdir : NamesEntries disk (referenceDir (Path.join root tenant)))
    (helig : Eligible disk (Path.join root tenant) latest version) (n : Nat) :
    Gone (sweeps root tenant latest (n + 1) (sweptDisk root tenant latest disk).repaired)
        (Path.join root tenant) version ↔
      ¬ (disk.holds (binaryPath (Path.join root tenant) version) = true ∧
        disk.refuses (binaryPath (Path.join root tenant) version) = true ∧
        disk.refuses (markerPath (Path.join root tenant) version) = false) := by
  have hv := helig.listed.isEntryName hdir
  have hdir' : NamesEntries (sweptDisk root tenant latest disk).repaired
      (referenceDir (Path.join root tenant)) := (namesEntries_sweptDisk hdir).repaired
  cases hmarker : disk.refuses (markerPath (Path.join root tenant) version) with
  | true =>
      -- The markers stayed, so the next sweep finds the version and clears it.
      have hmarkers : (traces (sweptDisk root tenant latest disk) (Path.join root tenant)
          version).markers = .ok (.dir []) := by
        rw [helig.traces_sweptDisk htenant hdir, Traces.cleared, hmarker, if_pos rfl,
          helig.markers_eq]
      have hgone := gone_after_repaired_sweep htenant (namesEntries_sweptDisk hdir) hv
        helig.outdated hmarkers
      have hlater := traces_sweeps_of_marked latest htenant
        (namesEntries_sweptDisk hdir') hv hgone.unmarked_eq_false n
      simp only [Bool.true_eq_false, and_false, not_false_eq_true, iff_true]
      rw [sweeps, gone_iff, hlater]
      exact gone_iff.1 hgone
  | false =>
      rw [gone_iff, helig.traces_later htenant hdir hmarker (n + 1)]
      simp only [Traces.cleared, hmarker, Bool.false_eq_true, if_false, toBool_vacated,
        and_true]
      rw [holds_binaryPath]
      cases disk.refuses (binaryPath (Path.join root tenant) version) with
      | true => simp
      | false => simp [toBool_vacated]

end

/-- A tenant with the outdated versions `1` and `2`, and the paths that cannot be removed. -/
def twoOutdated (refused : List String) : MemoryDisk Unit where
  tree := .dir [("srv", .dir [("t", .dir [
    ("bin", .dir [("1", .file ()), ("2", .file ())]),
    ("gc", .dir [("1", .dir []), ("2", .dir [])])])])]
  descending := false
  faults := refused.map (⟨.remove, ·, .permissionDenied⟩)
  calls := []

theorem entryAt_twoOutdated (refused : List String) {path : String} {names : List String}
    (hnames : Path.names? path = some names) :
    (twoOutdated refused).entryAt path = find names (twoOutdated []).tree := by
  rw [entryAt, hnames]
  rfl

theorem entryAt_binaries (refused : List String) :
    (twoOutdated refused).entryAt (binaryPath (Path.join "/srv" "t") "1") = .ok (.file ()) := by
  have hnames : Path.names? (binaryPath (Path.join "/srv" "t") "1") =
      some ["srv", "t", "bin", "1"] := by decide +kernel
  rw [entryAt_twoOutdated refused hnames]
  rfl

theorem entryAt_markers (refused : List String) :
    (twoOutdated refused).entryAt (markerPath (Path.join "/srv" "t") "1") = .ok (.dir []) := by
  have hnames : Path.names? (markerPath (Path.join "/srv" "t") "1") =
      some ["srv", "t", "gc", "1"] := by decide +kernel
  rw [entryAt_twoOutdated refused hnames]
  rfl

theorem namesEntries_twoOutdated (refused : List String) :
    NamesEntries (twoOutdated refused) (referenceDir (Path.join "/srv" "t")) := by
  intro entries hentries name hname
  have hnames : Path.names? (referenceDir (Path.join "/srv" "t")) = some ["srv", "t", "gc"] := by
    decide +kernel
  have hdir : (twoOutdated refused).entryAt (referenceDir (Path.join "/srv" "t")) =
      .ok (.dir [("1", .dir []), ("2", .dir [])]) := entryAt_twoOutdated refused hnames
  rw [hdir] at hentries
  obtain rfl := Tree.dir.inj (Except.ok.inj hentries)
  revert name
  decide

/-- No listing fails, whatever cannot be removed. -/
theorem listing_twoOutdated (refused : List String) (path : String) :
    (twoOutdated refused).listing path = (twoOutdated refused).list path := by
  have hfault : (twoOutdated refused).fault? (.readDir path) = none := by
    rw [fault?, Option.map_eq_none_iff, List.find?_eq_none]
    intro fault hfault
    obtain ⟨refusedPath, -, rfl⟩ := List.mem_map.1 hfault
    simp [DiskCall.operation]
  rw [listing_eq, hfault]

theorem eligible_twoOutdated (refused : List String) :
    Eligible (twoOutdated refused) (Path.join "/srv" "t") "3" "1" := by
  have hmarkers := entryAt_markers refused
  have hholds : (twoOutdated refused).holds (markerPath (Path.join "/srv" "t") "1") = true := by
    rw [holds, hmarkers]
    rfl
  obtain ⟨names, hlist, hmem⟩ := mem_list_of_holds (by decide) hholds
  refine ⟨⟨names, ?_, hmem⟩, by decide, ?_⟩
  · rw [listing_twoOutdated, hlist]
  · rw [listing_twoOutdated, list_eq_nil_iff.2 hmarkers]

/-- With both removals of a version refused, the next sweep finishes it. -/
theorem gone_after_both_refused :
    Path.isPlainName "t" = true ∧
      Eligible (twoOutdated ["/srv/t/bin/1", "/srv/t/gc/1"]) (Path.join "/srv" "t") "3" "1" ∧
      Gone (sweeps "/srv" "t" "3" 1 (sweptDisk "/srv" "t" "3"
        (twoOutdated ["/srv/t/bin/1", "/srv/t/gc/1"])).repaired) (Path.join "/srv" "t") "1" := by
  have hplain : Path.isPlainName "t" = true := by decide +kernel
  have helig := eligible_twoOutdated ["/srv/t/bin/1", "/srv/t/gc/1"]
  have hrefused : (twoOutdated ["/srv/t/bin/1", "/srv/t/gc/1"]).refuses
      (markerPath (Path.join "/srv" "t") "1") = true := by decide +kernel
  refine ⟨hplain, helig,
    (gone_after_later_sweeps_iff hplain (namesEntries_twoOutdated _) helig 0).2 ?_⟩
  rintro ⟨-, -, hmarker⟩
  rw [hrefused] at hmarker
  cases hmarker

/-- With only the removal of the binaries refused, they are there after the next sweep, and no
directory is left that names their version. -/
theorem binaries_stranded :
    Path.isPlainName "t" = true ∧
      Eligible (twoOutdated ["/srv/t/bin/1"]) (Path.join "/srv" "t") "3" "1" ∧
      ¬ Gone (sweptDisk "/srv" "t" "3" (sweptDisk "/srv" "t" "3"
        (twoOutdated ["/srv/t/bin/1"])).repaired) (Path.join "/srv" "t") "1" := by
  have hplain : Path.isPlainName "t" = true := by decide +kernel
  have helig := eligible_twoOutdated ["/srv/t/bin/1"]
  have hrefused : (twoOutdated ["/srv/t/bin/1"]).refuses
      (binaryPath (Path.join "/srv" "t") "1") = true := by decide +kernel
  have hremoved : (twoOutdated ["/srv/t/bin/1"]).refuses
      (markerPath (Path.join "/srv" "t") "1") = false := by decide +kernel
  refine ⟨hplain, helig, fun hgone => ?_⟩
  have hleft := helig.traces_later hplain (namesEntries_twoOutdated _) hremoved 1
  rw [sweeps, sweeps] at hleft
  rw [gone_iff, hleft, Traces.cleared, hrefused] at hgone
  have hbinaries := hgone.1
  rw [if_pos rfl, traces, entryAt_binaries] at hbinaries
  cases hbinaries

end FleetOperator
