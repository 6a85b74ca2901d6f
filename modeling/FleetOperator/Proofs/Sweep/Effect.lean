import FleetOperator.Proofs.Sweep.Swept

/-!
# What a sweep does, whatever fails

Report and tree are given by the disk before the sweep, the report by a
filter of the listing and the tree by a test on names (`collect_swept`).
Neither mentions a call that was made on the way, so three things can be
read off: nothing is touched but what is removed, the failures of one
version make no difference to another, and the order of the listing makes
none but to the order of the report. `collect_effect` has it all.
-/

namespace FleetOperator

open MemoryDisk

variable {Content : Type}

/-! ## Report and tree -/

section

variable {order : ListingOrder} {disk : MemoryDisk Content} {root tenant latest : String}

/-- A directory does not hold two entries of one name. -/
def DistinctEntries (disk : MemoryDisk Content) (path : String) : Prop :=
  ∀ entries, disk.entryAt path = .ok (.dir entries) → (entries.map (·.1)).Nodup

theorem DistinctEntries.nodup {path : String} {names : List String}
    (h : DistinctEntries disk path) (hlisting : disk.listing path = .ok names) :
    names.Nodup := by
  obtain ⟨entries, hentry, hperm⟩ := perm_of_listing hlisting
  exact hperm.nodup_iff.2 (h entries hentry)

theorem runIn_collect (order : ListingOrder) (disk : MemoryDisk Content) (latest : String)
    (htenant : Path.isPlainName tenant = true) :
    disk.runIn order (collect root tenant latest) =
      match disk.listing (referenceDir (Path.join root tenant)) with
      | .ok versions =>
          (disk.answer (.readDir (referenceDir (Path.join root tenant)))).2.runIn order
            (sweepVersions (Path.join root tenant) latest
              (order.arrange (referenceDir (Path.join root tenant)) versions))
      | .error _ =>
          (.empty, (disk.answer (.readDir (referenceDir (Path.join root tenant)))).2) := by
  unfold collect
  rw [if_pos htenant, runIn_readDir_bind]
  cases disk.listing (referenceDir (Path.join root tenant)) <;> rfl

theorem runIn_collect_of_error {e : DiskError} (htenant : Path.isPlainName tenant = true)
    (hlisting : disk.listing (referenceDir (Path.join root tenant)) = .error e) :
    (disk.runIn order (collect root tenant latest)).1 = .empty ∧
      (disk.runIn order (collect root tenant latest)).2.tree = disk.tree := by
  rw [runIn_collect order disk latest htenant, hlisting]
  exact ⟨rfl, tree_answer_readDir disk _⟩

/-- A sweep looks at the versions of the listing, and all that comes of it can be told from the
disk before. -/
theorem collect_swept {versions : List String} (htenant : Path.isPlainName tenant = true)
    (hdir : NamesEntries disk (referenceDir (Path.join root tenant)))
    (hdistinct : DistinctEntries disk (referenceDir (Path.join root tenant)))
    (hlisting : disk.listing (referenceDir (Path.join root tenant)) = .ok versions) :
    Swept disk (Path.join root tenant) latest
      (order.arrange (referenceDir (Path.join root tenant)) versions)
      (disk.runIn order (collect root tenant latest)) := by
  have hperm := order.perm (referenceDir (Path.join root tenant)) versions
  have hversions : ∀ version ∈ order.arrange (referenceDir (Path.join root tenant)) versions,
      Path.IsEntryName version := fun version hmem =>
    Listed.isEntryName ⟨versions, hlisting, hperm.mem_iff.1 hmem⟩ hdir
  have hread := sameView_answer_readDir disk (referenceDir (Path.join root tenant))
  have hsame : ∀ version, SameAnswers disk
      (disk.answer (.readDir (referenceDir (Path.join root tenant)))).2 (Path.join root tenant)
        version := fun version => ⟨hread _, hread _⟩
  have hswept := sweepVersions_swept order
    (disk.answer (.readDir (referenceDir (Path.join root tenant)))).2 (Path.join root tenant)
    latest hversions (hperm.nodup_iff.2 (hdistinct.nodup hlisting))
  have htried : triedPaths (disk.answer (.readDir (referenceDir (Path.join root tenant)))).2
      (Path.join root tenant) latest = triedPaths disk (Path.join root tenant) latest :=
    funext fun version => (hsame version).triedPaths
  have hcleared : cleared (disk.answer (.readDir (referenceDir (Path.join root tenant)))).2
      (Path.join root tenant) latest = cleared disk (Path.join root tenant) latest :=
    funext fun version => (hsame version).cleared
  have hfails : (disk.answer (.readDir (referenceDir (Path.join root tenant)))).2.removalFails =
      disk.removalFails := funext fun path => (hread path).removalFails
  obtain ⟨hremoved, hfailed, htree⟩ := hswept
  rw [hcleared] at hremoved
  rw [htried, hfails] at hfailed
  rw [htried, taken_congr fun path _ => hread path, tree_answer_readDir] at htree
  rw [runIn_collect order disk latest htenant, hlisting]
  exact ⟨hremoved, hfailed, htree⟩

theorem listed_iff {tenantDir version : String} :
    Listed disk tenantDir version ↔
      disk.fault? (.readDir (referenceDir tenantDir)) = none ∧
        ∃ entries, disk.entryAt (referenceDir tenantDir) = .ok (.dir entries) ∧
          version ∈ entries.map (·.1) := by
  constructor
  · rintro ⟨versions, hlisting, hmem⟩
    obtain ⟨entries, hentry, hperm⟩ := perm_of_listing hlisting
    refine ⟨?_, entries, hentry, hperm.mem_iff.1 hmem⟩
    rw [listing_eq] at hlisting
    split at hlisting
    · cases hlisting
    · next hfault => exact hfault
  · rintro ⟨hfault, entries, hentry, hmem⟩
    obtain ⟨versions, hlisting⟩ : ∃ versions,
        disk.listing (referenceDir tenantDir) = .ok versions := by
      rw [listing_eq, hfault, list_eq, hentry]
      exact ⟨_, rfl⟩
    obtain ⟨entries', hentry', hperm⟩ := perm_of_listing hlisting
    rw [hentry] at hentry'
    obtain rfl := Tree.dir.inj (Except.ok.inj hentry')
    exact ⟨versions, hlisting, hperm.mem_iff.2 hmem⟩

/-- The paths of a version that is listed lead somewhere. -/
theorem Listed.exists_names {tenantDir version path : String}
    (h : Listed disk tenantDir version) (hv : Path.IsEntryName version)
    (hpath : path = binaryPath tenantDir version ∨ path = markerPath tenantDir version) :
    ∃ names, Path.names? path = some names := by
  obtain ⟨-, entries, hentry, -⟩ := listed_iff.1 h
  obtain ⟨above, habove⟩ : ∃ above, Path.names? tenantDir = some above := by
    rw [entryAt, referenceDir, Path.names?_join_entry _ (by decide)] at hentry
    cases habove : Path.names? tenantDir with
    | none =>
        rw [habove] at hentry
        cases hentry
    | some above => exact ⟨above, rfl⟩
  rcases hpath with rfl | rfl
  · exact ⟨_, by rw [names?_binaryPath tenantDir hv, habove]; rfl⟩
  · exact ⟨_, by rw [names?_markerPath tenantDir hv, habove]; rfl⟩

/-- A listed version that is unused is one that a sweep tries to remove. -/
theorem eligible_iff {tenantDir version : String} :
    Eligible disk tenantDir latest version ↔
      Listed disk tenantDir version ∧ unused disk tenantDir latest version = true := by
  rw [unused_iff]
  exact ⟨fun h => ⟨h.listed, h.outdated, h.unmarked⟩, fun ⟨h, h', h''⟩ => ⟨h, h', h''⟩⟩

/-- Two sweeps with the same tree in the end, and the same report in another order. -/
structure SameUpToOrder (result other : SweepReport × MemoryDisk Content) : Prop where
  removed : other.1.removed.Perm result.1.removed
  failed : other.1.failed.Perm result.1.failed
  tree : other.2.tree = result.2.tree

section

variable (htenant : Path.isPlainName tenant = true)
  (hdir : NamesEntries disk (referenceDir (Path.join root tenant)))
  (hdistinct : DistinctEntries disk (referenceDir (Path.join root tenant)))

include htenant hdir hdistinct

theorem mem_removed_iff (order : ListingOrder) {version : String} :
    version ∈ (disk.runIn order (collect root tenant latest)).1.removed ↔
      Listed disk (Path.join root tenant) version ∧
        cleared disk (Path.join root tenant) latest version = true := by
  cases hlisting : disk.listing (referenceDir (Path.join root tenant)) with
  | error e =>
      rw [(runIn_collect_of_error htenant hlisting).1]
      simp [SweepReport.empty, Listed, hlisting]
  | ok versions =>
      rw [(collect_swept htenant hdir hdistinct hlisting).removed, List.mem_filter,
        (order.perm _ _).mem_iff]
      simp [Listed, hlisting]

theorem mem_failed_iff (order : ListingOrder) {version path : String}
    (hv : Path.IsEntryName version)
    (hpath : path = binaryPath (Path.join root tenant) version ∨
      path = markerPath (Path.join root tenant) version) :
    path ∈ (disk.runIn order (collect root tenant latest)).1.failed ↔
      Eligible disk (Path.join root tenant) latest version ∧ disk.removalFails path = true := by
  cases hlisting : disk.listing (referenceDir (Path.join root tenant)) with
  | error e =>
      rw [(runIn_collect_of_error htenant hlisting).1]
      simp [SweepReport.empty, eligible_iff, Listed, hlisting]
  | ok versions =>
      have hlisted : ∀ other, other ∈ order.arrange (referenceDir (Path.join root tenant))
          versions ↔ Listed disk (Path.join root tenant) other := by
        simp [Listed, hlisting, (order.perm _ _).mem_iff]
      rw [(collect_swept htenant hdir hdistinct hlisting).failed, List.mem_filter,
        List.mem_flatMap, eligible_iff]
      refine and_congr_left fun _ => ?_
      constructor
      · rintro ⟨other, hmem, htried⟩
        obtain ⟨hunused, hpath'⟩ := mem_triedPaths.1 htried
        have hother := (hlisted other).1 hmem
        have ho := hother.isEntryName hdir
        obtain ⟨names, hnames⟩ := hother.exists_names ho hpath'
        rw [← version_eq_of_path hnames ho hv hpath' hpath]
        exact ⟨hother, hunused⟩
      · rintro ⟨hmem, hunused⟩
        exact ⟨version, (hlisted version).2 hmem, mem_triedPaths.2 ⟨hunused, hpath⟩⟩

theorem collect_reordered (order other : ListingOrder) :
    SameUpToOrder (disk.runIn order (collect root tenant latest))
      (disk.runIn other (collect root tenant latest)) := by
  cases hlisting : disk.listing (referenceDir (Path.join root tenant)) with
  | error e =>
      rw [runIn_collect order disk latest htenant, runIn_collect other disk latest htenant,
        hlisting]
      exact ⟨.refl _, .refl _, rfl⟩
  | ok versions =>
      have hperm := (other.perm (referenceDir (Path.join root tenant)) versions).trans
        (order.perm (referenceDir (Path.join root tenant)) versions).symm
      have htaken : taken disk ((other.arrange (referenceDir (Path.join root tenant))
            versions).flatMap (triedPaths disk (Path.join root tenant) latest)) =
          taken disk ((order.arrange (referenceDir (Path.join root tenant))
            versions).flatMap (triedPaths disk (Path.join root tenant) latest)) :=
        funext fun names => (hperm.flatMap_right _).any_eq
      constructor
      · rw [(collect_swept htenant hdir hdistinct hlisting).removed,
          (collect_swept htenant hdir hdistinct hlisting).removed]
        exact hperm.filter _
      · rw [(collect_swept htenant hdir hdistinct hlisting).failed,
          (collect_swept htenant hdir hdistinct hlisting).failed]
        exact (hperm.flatMap_right _).filter _
      · rw [(collect_swept htenant hdir hdistinct hlisting).tree,
          (collect_swept htenant hdir hdistinct hlisting).tree, htaken]

/-- What is left of a version is what is left in a sweep over the disk's own listing. -/
theorem traces_runIn_collect (order : ListingOrder) (version : String) :
    traces (disk.runIn order (collect root tenant latest)).2 (Path.join root tenant) version =
      traces (sweptDisk root tenant latest disk) (Path.join root tenant) version := by
  have htree : (disk.runIn order (collect root tenant latest)).2.tree =
      (disk.runIn .own (collect root tenant latest)).2.tree :=
    (collect_reordered htenant hdir hdistinct .own order).tree
  rw [runIn_own] at htree
  simp only [traces, entryAt, htree, sweptDisk]

end

/-! ## What a version depends on -/

/-- A disk with the same tree, on which the calls about a version fail alike. -/
structure SameFor (disk other : MemoryDisk Content) (tenantDir version : String) : Prop where
  tree : other.tree = disk.tree
  listing : other.fault? (.readDir (referenceDir tenantDir)) =
    disk.fault? (.readDir (referenceDir tenantDir))
  markers : other.fault? (.readDir (markerPath tenantDir version)) =
    disk.fault? (.readDir (markerPath tenantDir version))
  removal : ∀ path, path = binaryPath tenantDir version ∨ path = markerPath tenantDir version →
    other.fault? (.removeAll path) = disk.fault? (.removeAll path)

namespace SameFor

variable {other : MemoryDisk Content} {tenantDir version : String}
  (h : SameFor disk other tenantDir version)

include h

theorem entryAt (path : String) : other.entryAt path = disk.entryAt path := by
  rw [MemoryDisk.entryAt, MemoryDisk.entryAt, h.tree]

theorem traces : FleetOperator.traces other tenantDir version =
    FleetOperator.traces disk tenantDir version := by
  rw [FleetOperator.traces, FleetOperator.traces, h.entryAt, h.entryAt]

theorem refuses {path : String}
    (hpath : path = binaryPath tenantDir version ∨ path = markerPath tenantDir version) :
    other.refuses path = disk.refuses path := by
  rw [MemoryDisk.refuses, MemoryDisk.refuses, h.removal path hpath]

theorem removalFails {path : String}
    (hpath : path = binaryPath tenantDir version ∨ path = markerPath tenantDir version) :
    other.removalFails path = disk.removalFails path := by
  rw [removalFails_eq, removalFails_eq, h.refuses hpath, h.entryAt]

theorem listed : Listed other tenantDir version ↔ Listed disk tenantDir version := by
  rw [listed_iff, listed_iff, h.listing, h.entryAt]

theorem due (found : Traces Content) :
    Due other tenantDir latest version found ↔ Due disk tenantDir latest version found := by
  rw [Due, Due, h.markers]

theorem unused :
    FleetOperator.unused other tenantDir latest version =
      FleetOperator.unused disk tenantDir latest version := by
  rw [Bool.eq_iff_iff, unused_iff, unused_iff, ← due_iff, ← due_iff, h.due, h.traces]

theorem cleared :
    FleetOperator.cleared other tenantDir latest version =
      FleetOperator.cleared disk tenantDir latest version := by
  rw [FleetOperator.cleared, FleetOperator.cleared, h.unused, h.removalFails (.inl rfl),
    h.removalFails (.inr rfl)]

theorem eligible :
    Eligible other tenantDir latest version ↔ Eligible disk tenantDir latest version := by
  rw [eligible_iff, eligible_iff, h.listed, h.unused]

theorem swept (found : Traces Content) :
    found.swept other tenantDir latest version = found.swept disk tenantDir latest version := by
  unfold Traces.swept Traces.cleared
  simp only [h.due, h.refuses (.inl rfl), h.refuses (.inr rfl)]

end SameFor

/-- Two sweeps that did the same to a version. -/
structure SameFate (tenantDir version : String) (result other : SweepReport × MemoryDisk Content) :
    Prop where
  removed : version ∈ other.1.removed ↔ version ∈ result.1.removed
  failed : ∀ path, path = binaryPath tenantDir version ∨ path = markerPath tenantDir version →
    (path ∈ other.1.failed ↔ path ∈ result.1.failed)
  traces : FleetOperator.traces other.2 tenantDir version =
    FleetOperator.traces result.2 tenantDir version

/-- What a sweep does to a disk that lists in some order. -/
structure SweepEffect (order : ListingOrder) (disk : MemoryDisk Content)
    (root tenant latest : String) : Prop where
  /-- If the versions cannot be listed, nothing changes and the report is empty. -/
  unlisted : ∀ e, disk.listing (referenceDir (Path.join root tenant)) = .error e →
    (disk.runIn order (collect root tenant latest)).1 = .empty ∧
      (disk.runIn order (collect root tenant latest)).2.tree = disk.tree
  /-- Otherwise report and tree are those of the listed versions. -/
  swept : ∀ versions, disk.listing (referenceDir (Path.join root tenant)) = .ok versions →
    Swept disk (Path.join root tenant) latest
      (order.arrange (referenceDir (Path.join root tenant)) versions)
      (disk.runIn order (collect root tenant latest))
  /-- A version that is the latest one, has markers, cannot be read or is not listed stays. -/
  spared : ∀ version, Path.IsEntryName version →
    ¬ Eligible disk (Path.join root tenant) latest version →
    traces (disk.runIn order (collect root tenant latest)).2 (Path.join root tenant) version =
      traces disk (Path.join root tenant) version
  /-- So does all that lies apart from the versions that are removed. -/
  foreign : ∀ path,
    (∀ version, Eligible disk (Path.join root tenant) latest version →
      Apart (binaryPath (Path.join root tenant) version) path ∧
        Apart (markerPath (Path.join root tenant) version) path) →
    (disk.runIn order (collect root tenant latest)).2.entryAt path = disk.entryAt path
  /-- What becomes of a version does not depend on how calls about other versions fail. -/
  isolated : ∀ (other : MemoryDisk Content) (version : String), Path.IsEntryName version →
    SameFor disk other (Path.join root tenant) version →
    SameFate (Path.join root tenant) version
      (disk.runIn order (collect root tenant latest))
      (other.runIn order (collect root tenant latest))
  /-- Another order of listings makes no other difference. -/
  reordered : ∀ other : ListingOrder,
    SameUpToOrder (disk.runIn order (collect root tenant latest))
      (disk.runIn other (collect root tenant latest))

section

variable (htenant : Path.isPlainName tenant = true)
  (hdir : NamesEntries disk (referenceDir (Path.join root tenant)))
  (hdistinct : DistinctEntries disk (referenceDir (Path.join root tenant)))

include htenant hdir hdistinct

theorem collect_spares (order : ListingOrder) {version : String}
    (hv : Path.IsEntryName version)
    (hnot : ¬ Eligible disk (Path.join root tenant) latest version) :
    traces (disk.runIn order (collect root tenant latest)).2 (Path.join root tenant) version =
      traces disk (Path.join root tenant) version := by
  rw [traces_runIn_collect htenant hdir hdistinct]
  by_cases hlisted : Listed disk (Path.join root tenant) version
  · have hstay : ¬ Due disk (Path.join root tenant) latest version
        (traces disk (Path.join root tenant) version) := fun hdue =>
      hnot ⟨hlisted, ((due_iff _ _ _ _).1 hdue).1, ((due_iff _ _ _ _).1 hdue).2⟩
    rw [(traces_sweptDisk htenant hdir hv).1 hlisted, Traces.swept, if_neg hstay]
  · exact (traces_sweptDisk htenant hdir hv).2 hlisted

theorem collect_leaves_foreign (order : ListingOrder) {path : String}
    (hapart : ∀ version, Eligible disk (Path.join root tenant) latest version →
      Apart (binaryPath (Path.join root tenant) version) path ∧
        Apart (markerPath (Path.join root tenant) version) path) :
    (disk.runIn order (collect root tenant latest)).2.entryAt path = disk.entryAt path := by
  cases hlisting : disk.listing (referenceDir (Path.join root tenant)) with
  | error e => rw [entryAt, entryAt, (runIn_collect_of_error htenant hlisting).2]
  | ok versions =>
      refine entryAt_of_taken (collect_swept htenant hdir hdistinct hlisting).tree ?_
      intro removed hremoved
      obtain ⟨version, hmem, htried⟩ := List.mem_flatMap.1 hremoved
      obtain ⟨hunused, hpath⟩ := mem_triedPaths.1 htried
      have helig := hapart version
        (eligible_iff.2 ⟨⟨versions, hlisting, (order.perm _ _).mem_iff.1 hmem⟩, hunused⟩)
      rcases hpath with rfl | rfl
      · exact helig.1
      · exact helig.2

theorem collect_isolates (order : ListingOrder) {other : MemoryDisk Content} {version : String}
    (hv : Path.IsEntryName version) (h : SameFor disk other (Path.join root tenant) version) :
    SameFate (Path.join root tenant) version
      (disk.runIn order (collect root tenant latest))
      (other.runIn order (collect root tenant latest)) := by
  have hdir' : NamesEntries other (referenceDir (Path.join root tenant)) :=
    fun entries hentry => hdir entries (by rw [← h.entryAt, hentry])
  have hdistinct' : DistinctEntries other (referenceDir (Path.join root tenant)) :=
    fun entries hentry => hdistinct entries (by rw [← h.entryAt, hentry])
  constructor
  · rw [mem_removed_iff htenant hdir' hdistinct', mem_removed_iff htenant hdir hdistinct,
      h.listed, h.cleared]
  · intro path hpath
    rw [mem_failed_iff htenant hdir' hdistinct' order hv hpath,
      mem_failed_iff htenant hdir hdistinct order hv hpath, h.eligible, h.removalFails hpath]
  · rw [traces_runIn_collect htenant hdir' hdistinct',
      traces_runIn_collect htenant hdir hdistinct]
    by_cases hlisted : Listed disk (Path.join root tenant) version
    · rw [(traces_sweptDisk htenant hdir' hv).1 (h.listed.2 hlisted),
        (traces_sweptDisk htenant hdir hv).1 hlisted, h.swept, h.traces]
    · rw [(traces_sweptDisk htenant hdir' hv).2 fun hl => hlisted (h.listed.1 hl),
        (traces_sweptDisk htenant hdir hv).2 hlisted, h.traces]

/-- Whatever calls fail and however directories are listed, what a sweep does is told by the disk
that it starts on. -/
theorem collect_effect (order : ListingOrder) : SweepEffect order disk root tenant latest where
  unlisted _ hlisting := runIn_collect_of_error htenant hlisting
  swept _ hlisting := collect_swept htenant hdir hdistinct hlisting
  spared _ hv hnot := collect_spares htenant hdir hdistinct order hv hnot
  foreign _ hapart := collect_leaves_foreign htenant hdir hdistinct order hapart
  isolated _ _ hv h := collect_isolates htenant hdir hdistinct order hv h
  reordered other := collect_reordered htenant hdir hdistinct order other

end

end

/-- The versions `1` and `2` are unused and the binaries of `1` cannot be removed. A sweep that
lists backwards does what it does to both. -/
theorem collect_effect_backwards :
    Path.isPlainName "t" = true ∧
      NamesEntries (twoOutdated ["/srv/t/bin/1"]) (referenceDir (Path.join "/srv" "t")) ∧
      DistinctEntries (twoOutdated ["/srv/t/bin/1"]) (referenceDir (Path.join "/srv" "t")) ∧
      SweepEffect ⟨fun _ names => names.reverse, fun _ names => names.reverse_perm⟩
        (twoOutdated ["/srv/t/bin/1"]) "/srv" "t" "3" := by
  have hplain : Path.isPlainName "t" = true := by decide +kernel
  have hdistinct : DistinctEntries (twoOutdated ["/srv/t/bin/1"])
      (referenceDir (Path.join "/srv" "t")) := by
    intro entries hentries
    have hnames : Path.names? (referenceDir (Path.join "/srv" "t")) =
        some ["srv", "t", "gc"] := by decide +kernel
    rw [entryAt_twoOutdated _ hnames] at hentries
    obtain rfl := Tree.dir.inj (Except.ok.inj hentries)
    decide
  exact ⟨hplain, namesEntries_twoOutdated _, hdistinct,
    collect_effect hplain (namesEntries_twoOutdated _) hdistinct _⟩

end FleetOperator
