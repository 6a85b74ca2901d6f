import FleetOperator.Proofs.Disk.Listing
import FleetOperator.Proofs.Disk.Subtrees
import FleetOperator.Proofs.Sweep.Retry
import Mathlib.Data.List.Basic

/-!
# What comes of looking at versions

A sweep reads and changes one tree, but it could as well have read all of it
first: which versions are unused, which removals fail and what they take out
can be told from the disk that it starts on. The paths of two versions lie
apart, so a step for one version changes no answer about another
(`sameView_sweepVersion`), and a run over a listing is the sum of its steps
(`sweepVersions_swept`).

A look at a version is the same sum over that one version. It tries nothing
if the version is in use; otherwise it tries both paths, and the second
removal is answered as if it were the first.
-/

namespace FleetOperator

open MemoryDisk

variable {Content : Type}

/-! ## What can be told beforehand -/

/-- Whether a version is not the latest one and its directory for markers lists as empty. -/
def unused (disk : MemoryDisk Content) (tenantDir latest version : String) : Bool :=
  version != latest && match disk.listing (markerPath tenantDir version) with
    | .ok [] => true
    | _ => false

/-- The paths that a sweep tries to remove for a version, in turn. -/
def triedPaths (disk : MemoryDisk Content) (tenantDir latest version : String) : List String :=
  if unused disk tenantDir latest version then
    [binaryPath tenantDir version, markerPath tenantDir version]
  else []

/-- Whether a version is unused and both of its paths can be removed. -/
def cleared (disk : MemoryDisk Content) (tenantDir latest version : String) : Bool :=
  unused disk tenantDir latest version &&
    !disk.removalFails (binaryPath tenantDir version) &&
    !disk.removalFails (markerPath tenantDir version)

/-- The names of what goes when paths are removed, as far as that does not fail. -/
def taken (disk : MemoryDisk Content) (paths : List String) (names : List String) : Bool :=
  paths.any fun path =>
    disk.holds path && !disk.removalFails path && Path.names? path == some names

theorem unused_iff {disk : MemoryDisk Content} {tenantDir latest version : String} :
    unused disk tenantDir latest version = true ↔
      version ≠ latest ∧ disk.listing (markerPath tenantDir version) = .ok [] := by
  rw [unused, Bool.and_eq_true, bne_iff_ne]
  refine and_congr_right fun _ => ?_
  split
  · next h => simp [h]
  · next h => simpa using h

theorem mem_triedPaths {disk : MemoryDisk Content} {tenantDir latest version path : String} :
    path ∈ triedPaths disk tenantDir latest version ↔
      unused disk tenantDir latest version = true ∧
        (path = binaryPath tenantDir version ∨ path = markerPath tenantDir version) := by
  unfold triedPaths
  split
  · next h => simp [h]
  · next h => simp [h]

theorem taken_append (disk : MemoryDisk Content) (first second : List String) :
    taken disk (first ++ second) =
      fun names => taken disk first names || taken disk second names := by
  funext names
  rw [taken, taken, taken, List.any_append]

theorem exists_of_taken {disk : MemoryDisk Content} {paths names : List String}
    (h : taken disk paths names = true) :
    ∃ path ∈ paths, Path.names? path = some names := by
  obtain ⟨path, hmem, htest⟩ := List.any_eq_true.1 h
  rw [Bool.and_eq_true, beq_iff_eq] at htest
  exact ⟨path, hmem, htest.2⟩

/-- What lies apart from all paths that are removed is found as before. -/
theorem entryAt_of_taken {disk after : MemoryDisk Content} {paths : List String}
    (htree : after.tree = disk.tree.without (taken disk paths)) {path : String}
    (hapart : ∀ removed ∈ paths, Apart removed path) :
    after.entryAt path = disk.entryAt path := by
  rw [entryAt, entryAt, htree]
  cases hnames : Path.names? path with
  | none => rfl
  | some names =>
      refine find_without_of_apart (fun others hgone => ?_) disk.tree
      obtain ⟨removed, hmem, hremoved⟩ := exists_of_taken hgone
      exact hapart removed hmem others names hremoved hnames

/-! ## The same answers about a path -/

section

variable {disk other : MemoryDisk Content} {tenantDir latest version : String}

/-- The answers about the two paths of a version are the same. -/
structure SameAnswers (disk other : MemoryDisk Content) (tenantDir version : String) : Prop where
  binaries : SameView disk other (binaryPath tenantDir version)
  markers : SameView disk other (markerPath tenantDir version)

theorem SameAnswers.unused (h : SameAnswers disk other tenantDir version) :
    FleetOperator.unused other tenantDir latest version =
      FleetOperator.unused disk tenantDir latest version := by
  rw [FleetOperator.unused, FleetOperator.unused, h.markers.listing]

theorem SameAnswers.triedPaths (h : SameAnswers disk other tenantDir version) :
    FleetOperator.triedPaths other tenantDir latest version =
      FleetOperator.triedPaths disk tenantDir latest version := by
  rw [FleetOperator.triedPaths, FleetOperator.triedPaths, h.unused]

theorem SameAnswers.cleared (h : SameAnswers disk other tenantDir version) :
    FleetOperator.cleared other tenantDir latest version =
      FleetOperator.cleared disk tenantDir latest version := by
  rw [FleetOperator.cleared, FleetOperator.cleared, h.unused, h.binaries.removalFails,
    h.markers.removalFails]

/-- The paths that are tried for a version are seen alike where its answers are the same. -/
theorem SameAnswers.of_mem_triedPaths (h : SameAnswers disk other tenantDir version)
    {path : String} (hpath : path ∈ FleetOperator.triedPaths disk tenantDir latest version) :
    SameView disk other path := by
  rcases (mem_triedPaths.1 hpath).2 with rfl | rfl
  · exact h.binaries
  · exact h.markers

end

theorem taken_congr {disk other : MemoryDisk Content} {paths : List String}
    (h : ∀ path ∈ paths, SameView disk other path) : taken other paths = taken disk paths := by
  funext names
  rw [Bool.eq_iff_iff, taken, taken, List.any_eq_true, List.any_eq_true]
  refine exists_congr fun path => and_congr_right fun hmem => ?_
  rw [(h path hmem).holds, (h path hmem).removalFails]

/-! ## One version -/

theorem taken_singleton (disk : MemoryDisk Content) {path : String} {names : List String}
    (hnames : Path.names? path = some names) :
    taken disk [path] = fun others =>
      (find names disk.tree).toBool && !disk.refuses path && only names others := by
  funext others
  have hsame : (some names == some others) = only names others := by
    rw [only, Bool.eq_iff_iff, beq_iff_eq, beq_iff_eq, Option.some_inj, eq_comm]
  rw [taken, List.any_cons, List.any_nil, Bool.or_false, holds_and_not_removalFails, holds,
    entryAt, hnames, hsame]

theorem tree_removeAll (disk : MemoryDisk Content) {path : String}
    (hpath : Path.names? path ≠ some []) :
    (disk.answer (.removeAll path)).2.tree = disk.tree.without (taken disk [path]) := by
  rw [tree_after_removal]
  cases hnames : Path.names? path with
  | none =>
      have hkept : ∀ name below, taken disk [path] (name :: below) = false := by
        simp [taken, hnames]
      rw [Tree.without_of_none hkept]
      exact ite_self _
  | some names =>
      have hne : names ≠ [] := fun h => hpath (by rw [hnames, h])
      rw [taken_singleton disk hnames]
      dsimp only
      cases disk.refuses path with
      | true => exact (Tree.without_of_none (by simp) disk.tree).symm
      | false =>
          cases (find names disk.tree).toBool with
          | false => exact (Tree.without_of_none (by simp) disk.tree).symm
          | true => exact prune_eq_without hne disk.tree

/-- What comes of looking at some versions. -/
structure Swept (disk : MemoryDisk Content) (tenantDir latest : String) (versions : List String)
    (result : SweepReport × MemoryDisk Content) : Prop where
  removed : result.1.removed = versions.filter (cleared disk tenantDir latest)
  failed : result.1.failed =
    (versions.flatMap (triedPaths disk tenantDir latest)).filter disk.removalFails
  tree : result.2.tree =
    disk.tree.without (taken disk (versions.flatMap (triedPaths disk tenantDir latest)))

section

variable (order : ListingOrder) (disk : MemoryDisk Content) (tenantDir latest : String)
  {version : String}

theorem runIn_tryRemove (path : String) :
    disk.runIn order (tryRemove path) =
      ([path].filter disk.removalFails, (disk.answer (.removeAll path)).2) := by
  rw [tryRemove, runIn_removeAll_bind, List.filter_singleton, removalFails]
  cases (disk.answer (.removeAll path)).1 <;> rfl

/-- Removing the binaries changes no answer about the markers, so both removals can be told from
the disk before them. -/
theorem runIn_removeVersion (hv : Path.IsEntryName version) :
    (disk.runIn order (removeVersion tenantDir version)).1 =
        ⟨if disk.removalFails (binaryPath tenantDir version) ||
            disk.removalFails (markerPath tenantDir version) then [] else [version],
          [binaryPath tenantDir version, markerPath tenantDir version].filter
            disk.removalFails⟩ ∧
      (disk.runIn order (removeVersion tenantDir version)).2.tree =
        disk.tree.without
          (taken disk [binaryPath tenantDir version, markerPath tenantDir version]) := by
  have hbin : Path.names? (binaryPath tenantDir version) ≠ some [] := by
    simp [names?_binaryPath tenantDir hv]
  have hmark : Path.names? (markerPath tenantDir version) ≠ some [] := by
    simp [names?_markerPath tenantDir hv]
  have hview : SameView disk (disk.answer (.removeAll (binaryPath tenantDir version))).2
      (markerPath tenantDir version) :=
    sameView_answer_removeAll disk (apart_of_version tenantDir hv)
  have hsame : taken (disk.answer (.removeAll (binaryPath tenantDir version))).2
      [markerPath tenantDir version] = taken disk [markerPath tenantDir version] :=
    taken_congr (by simpa using hview)
  rw [removeVersion, runIn_bind, runIn_bind, runIn_tryRemove, runIn_tryRemove]
  constructor
  · simp only [List.filter_cons, List.filter_nil, hview.removalFails]
    cases disk.removalFails (binaryPath tenantDir version) <;>
      cases disk.removalFails (markerPath tenantDir version) <;> rfl
  · refine (tree_removeAll _ hmark).trans ?_
    rw [tree_removeAll disk hbin, hsame, Tree.without_without, ← taken_append]
    rfl

/-- What lies apart from the paths of a version is seen alike after a look at it. -/
theorem sameView_sweepVersion {path : String} (hbin : Apart (binaryPath tenantDir version) path)
    (hmark : Apart (markerPath tenantDir version) path) :
    SameView disk (disk.runIn order (sweepVersion tenantDir latest version)).2 path := by
  unfold sweepVersion
  split
  · exact sameView_refl disk path
  · have hread := sameView_answer_readDir disk (markerPath tenantDir version) path
    rw [runIn_readDir_bind]
    split
    · rw [removeVersion, runIn_bind, runIn_bind, runIn_tryRemove, runIn_tryRemove]
      exact (hread.trans (sameView_answer_removeAll _ hbin)).trans
        (sameView_answer_removeAll _ hmark)
    · exact hread

theorem sweepVersion_swept (hv : Path.IsEntryName version) :
    Swept disk tenantDir latest [version]
      (disk.runIn order (sweepVersion tenantDir latest version)) := by
  have hskip : ∀ result : SweepReport × MemoryDisk Content,
      unused disk tenantDir latest version = false →
      result.1 = .empty → result.2.tree = disk.tree →
      Swept disk tenantDir latest [version] result := by
    intro result hunused hreport htree
    have htried : [version].flatMap (triedPaths disk tenantDir latest) = [] := by
      simp [triedPaths, hunused]
    constructor
    · simp [hreport, SweepReport.empty, cleared, hunused]
    · rw [hreport, htried]
      rfl
    · rw [htree, htried]
      exact (Tree.without_of_none (fun _ _ => rfl) disk.tree).symm
  unfold sweepVersion
  split
  · next hlatest => exact hskip _ (by simp [unused, hlatest]) rfl rfl
  · next hlatest =>
      have hread := sameView_answer_readDir disk (markerPath tenantDir version)
      rw [runIn_readDir_bind]
      split
      · next hlisted =>
          have hlisting := (map_arrange_eq_nil order _).1 hlisted
          have hunused : unused disk tenantDir latest version = true :=
            unused_iff.2 ⟨hlatest, hlisting⟩
          have htried : [version].flatMap (triedPaths disk tenantDir latest) =
              [binaryPath tenantDir version, markerPath tenantDir version] := by
            simp [triedPaths, hunused]
          obtain ⟨hreport, htree⟩ := runIn_removeVersion order
            (disk.answer (.readDir (markerPath tenantDir version))).2 tenantDir hv
          have hfails : (disk.answer (.readDir (markerPath tenantDir version))).2.removalFails =
              disk.removalFails := funext fun path => (hread path).removalFails
          rw [hfails] at hreport
          rw [taken_congr fun path _ => hread path, tree_answer_readDir] at htree
          constructor
          · rw [hreport, List.filter_singleton, cleared, hunused]
            cases disk.removalFails (binaryPath tenantDir version) <;>
              cases disk.removalFails (markerPath tenantDir version) <;> rfl
          · rw [hreport, htried]
          · rw [htree, htried]
      · next hlisted =>
          have hunused : unused disk tenantDir latest version = false := by
            rw [Bool.eq_false_iff]
            exact fun h =>
              hlisted ((map_arrange_eq_nil order _).2 (unused_iff.1 h).2)
          exact hskip _ hunused rfl (tree_answer_readDir disk _)

/-! ## A run over a listing -/

/-- A look at a version changes no answer about another. -/
theorem sameAnswers_sweepVersion {other : String} (hv : Path.IsEntryName version)
    (ho : Path.IsEntryName other) (hne : version ≠ other) :
    SameAnswers disk (disk.runIn order (sweepVersion tenantDir latest version)).2 tenantDir
      other := by
  constructor
  · exact sameView_sweepVersion order disk tenantDir latest
      (apart_of_versions tenantDir hv ho hne (.inl rfl) (.inl rfl))
      (apart_of_versions tenantDir hv ho hne (.inr rfl) (.inl rfl))
  · exact sameView_sweepVersion order disk tenantDir latest
      (apart_of_versions tenantDir hv ho hne (.inl rfl) (.inr rfl))
      (apart_of_versions tenantDir hv ho hne (.inr rfl) (.inr rfl))

/-- A listing has no name twice, so what is told of the versions to come can be told before. -/
theorem sweepVersions_swept {versions : List String}
    (hversions : ∀ version ∈ versions, Path.IsEntryName version) (hnodup : versions.Nodup) :
    Swept disk tenantDir latest versions
      (disk.runIn order (sweepVersions tenantDir latest versions)) := by
  induction versions generalizing disk with
  | nil => exact ⟨rfl, rfl, (Tree.without_of_none (fun _ _ => rfl) disk.tree).symm⟩
  | cons version rest ih =>
      obtain ⟨hnot, hrest⟩ := List.nodup_cons.1 hnodup
      have hv : Path.IsEntryName version := hversions version (by simp)
      have hothers : ∀ other ∈ rest, Path.IsEntryName other :=
        fun other hmem => hversions other (by simp [hmem])
      have hhead := sweepVersion_swept order disk tenantDir latest hv
      have hsame : ∀ other ∈ rest, SameAnswers disk
          (disk.runIn order (sweepVersion tenantDir latest version)).2 tenantDir other :=
        fun other hmem => sameAnswers_sweepVersion order disk tenantDir latest hv
          (hothers other hmem) fun heq => hnot (heq ▸ hmem)
      have htail := ih (disk.runIn order (sweepVersion tenantDir latest version)).2 hothers
        hrest
      have htried : rest.flatMap (triedPaths
            (disk.runIn order (sweepVersion tenantDir latest version)).2 tenantDir latest) =
          rest.flatMap (triedPaths disk tenantDir latest) :=
        List.flatMap_congr fun other hmem => (hsame other hmem).triedPaths
      have hview : ∀ path ∈ rest.flatMap (triedPaths disk tenantDir latest), SameView disk
          (disk.runIn order (sweepVersion tenantDir latest version)).2 path := by
        intro path hpath
        obtain ⟨other, hmem, htry⟩ := List.mem_flatMap.1 hpath
        exact (hsame other hmem).of_mem_triedPaths htry
      have hremoved := htail.removed
      have hfailed := htail.failed
      have htree := htail.tree
      rw [List.filter_congr fun other hmem => (hsame other hmem).cleared] at hremoved
      rw [htried, List.filter_congr fun path hpath => (hview path hpath).removalFails] at hfailed
      rw [htried, taken_congr hview, hhead.tree, Tree.without_without, ← taken_append] at htree
      rw [sweepVersions, runIn_bind, runIn_bind]
      constructor
      · exact (congrArg₂ (· ++ ·) hhead.removed hremoved).trans (List.filter_append _ _).symm
      · refine (congrArg₂ (· ++ ·) hhead.failed hfailed).trans ?_
        rw [← List.filter_append, ← List.flatMap_append]
        rfl
      · refine htree.trans ?_
        rw [← List.flatMap_append]
        rfl

end

end FleetOperator
