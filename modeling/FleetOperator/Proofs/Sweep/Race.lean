import FleetOperator.Proofs.Sweep.Interleaving

/-!
# The race between a sweep and a marker

A removal takes all that is under its path. So a marker is safe while the
directory that it is in was not found empty, and is lost if it was added
after the look that found it so. That is the only way to lose one: every
removal follows an empty look at its version (`Announced`), a marker can only
go with the directory that it is in, and what is in there then and was not
there at the look was added in between. `keepsUsed_iff` says so both ways.
-/

namespace FleetOperator

open MemoryDisk

variable {Content α : Type}

/-- No marker that is there at some point is missing in the end, and no version loses its
binaries while it has a marker. -/
structure KeepsUsed (tenantDir : String) (disk : MemoryDisk Content)
    (events : List (SweepEvent Content)) : Prop where
  markers : ∀ (marker : Marker) (before rest : List (SweepEvent Content)),
    events = before ++ rest →
    (disk.after tenantDir before).holds (markerFile tenantDir marker) = true →
    (disk.after tenantDir events).holds (markerFile tenantDir marker) = true
  binaries : ∀ (marker : Marker) (before rest : List (SweepEvent Content)),
    events = before ++ .call (.removeAll (binaryPath tenantDir marker.version)) :: rest →
    (disk.after tenantDir before).holds (markerFile tenantDir marker) = true →
    (disk.after tenantDir before).holds (binaryPath tenantDir marker.version) = true →
    (disk.after tenantDir
        (before ++ [.call (.removeAll (binaryPath tenantDir marker.version))])).holds
      (binaryPath tenantDir marker.version) = true

/-- Something of a version is removed after a marker was written since the look at it. -/
def Raced (tenantDir : String) (disk : MemoryDisk Content)
    (events : List (SweepEvent Content)) : Prop :=
  ∃ (marker : Marker) (content : Content) (path : String)
    (before between rest : List (SweepEvent Content)),
    events = before ++ .call (.readDir (markerPath tenantDir marker.version)) ::
      (between ++ .call (.removeAll path) :: rest) ∧
    .marked marker content ∈ between ∧
    (path = binaryPath tenantDir marker.version ∨ path = markerPath tenantDir marker.version) ∧
    Removable (disk.after tenantDir
      (before ++ .call (.readDir (markerPath tenantDir marker.version)) :: between)) path

/-! ## What a sweep removes -/

/-- Every removal is one for a version that was found without markers before. -/
def Announced (tenantDir : String) (disk : MemoryDisk Content)
    (events : List (SweepEvent Content)) : Prop :=
  ∀ before path rest, events = before ++ .call (.removeAll path) :: rest →
    ∃ version earlier between, Path.IsEntryName version ∧
      (path = binaryPath tenantDir version ∨ path = markerPath tenantDir version) ∧
      before = earlier ++ .call (.readDir (markerPath tenantDir version)) :: between ∧
      (disk.after tenantDir earlier).listing (markerPath tenantDir version) = .ok []

section

variable {order : ListingOrder} {tenantDir : String} {disk : MemoryDisk Content}
  {events : List (SweepEvent Content)}

theorem announced_of_no_removal (h : ∀ path, .call (.removeAll path) ∉ events) :
    Announced tenantDir disk events :=
  fun _ path _ hevents => absurd (by simp [hevents]) (h path)

theorem call_notMem_of_marked
    (h : ∀ event ∈ events, ∃ marker content, event = .marked marker content)
    (call : DiskCall) : .call call ∉ events := fun hmem => by
  obtain ⟨marker, content, heq⟩ := h _ hmem
  cases heq

theorem announced_of_marked
    (h : ∀ event ∈ events, ∃ marker content, event = .marked marker content) :
    Announced tenantDir disk events :=
  announced_of_no_removal fun _ => call_notMem_of_marked h _

theorem Announced.append {second : List (SweepEvent Content)}
    (hfirst : Announced tenantDir disk events)
    (hsecond : Announced tenantDir (disk.after tenantDir events) second) :
    Announced tenantDir disk (events ++ second) := by
  have hlater : ∀ before path rest, second = before ++ .call (.removeAll path) :: rest →
      ∃ version earlier between, Path.IsEntryName version ∧
        (path = binaryPath tenantDir version ∨ path = markerPath tenantDir version) ∧
        events ++ before =
          earlier ++ .call (.readDir (markerPath tenantDir version)) :: between ∧
        (disk.after tenantDir earlier).listing (markerPath tenantDir version) = .ok [] := by
    intro before path rest hevents
    obtain ⟨version, earlier, between, hv, hpath, rfl, hlisting⟩ :=
      hsecond before path rest hevents
    rw [← after_append] at hlisting
    exact ⟨version, events ++ earlier, between, hv, hpath,
      (List.append_assoc events earlier _).symm, hlisting⟩
  intro before path rest hevents
  rcases List.append_eq_append_iff.1 hevents with ⟨more, rfl, hsplit⟩ | ⟨more, hsplit, hmore⟩
  · exact hlater more path rest hsplit
  · cases more with
    | nil =>
        rw [List.append_nil] at hsplit
        have hstart := hlater [] path rest hmore.symm
        rw [List.append_nil, hsplit] at hstart
        exact hstart
    | cons event more =>
        obtain ⟨rfl, -⟩ := List.cons.inj hmore
        exact hfirst before path more hsplit

/-- What is neither an event before a certain one nor that one itself comes later. -/
theorem exists_between {first others before rest : List (SweepEvent Content)}
    {event later : SweepEvent Content}
    (hevents : first ++ event :: others = before ++ later :: rest)
    (hfirst : later ∉ first) (hne : later ≠ event) :
    ∃ between, before = first ++ event :: between ∧ others = between ++ later :: rest := by
  rcases List.append_eq_append_iff.1 hevents with ⟨more, rfl, hsplit⟩ | ⟨more, rfl, hsplit⟩
  · cases more with
    | nil => exact absurd (List.cons.inj hsplit).1.symm hne
    | cons _ between =>
        obtain ⟨rfl, hothers⟩ := List.cons.inj hsplit
        exact ⟨between, rfl, hothers⟩
  · cases more with
    | nil => exact absurd (List.cons.inj hsplit).1 hne
    | cons _ more =>
        obtain ⟨rfl, -⟩ := List.cons.inj hsplit
        exact absurd (by simp) hfirst

/-- The removals of a version make no other calls. -/
theorem call_of_tryRemove {path : String} {value : List String} {call : DiskCall}
    (h : Interleaved order tenantDir (tryRemove path) disk events value)
    (hcall : .call call ∈ events) : call = .removeAll path := by
  obtain ⟨before, rest, rfl, hbefore, hrest⟩ := Interleaved.of_ask h
  have hdone : ∀ event ∈ rest, ∃ marker content, event = .marked marker content := by
    revert hrest
    cases (answerIn order (.removeAll path) (disk.after tenantDir before)).1 with
    | ok _ => exact fun hrest => hrest.of_done.1
    | error _ => exact fun hrest => hrest.of_done.1
  rcases List.mem_append.1 hcall with hmem | hmem
  · exact absurd hmem (call_notMem_of_marked hbefore call)
  · rcases List.mem_cons.1 hmem with heq | hmem
    · cases heq
      rfl
    · exact absurd hmem (call_notMem_of_marked hdone call)

theorem call_of_removeVersion {version : String} {value : SweepReport} {call : DiskCall}
    (h : Interleaved order tenantDir (removeVersion tenantDir version) disk events value)
    (hcall : .call call ∈ events) :
    call = .removeAll (binaryPath tenantDir version) ∨
      call = .removeAll (markerPath tenantDir version) := by
  obtain ⟨first, others, _, rfl, hfirst, hothers⟩ := Interleaved.of_bind h
  obtain ⟨second, last, _, rfl, hsecond, hlast⟩ := Interleaved.of_bind hothers
  rcases List.mem_append.1 hcall with hmem | hmem
  · exact .inl (call_of_tryRemove hfirst hmem)
  · rcases List.mem_append.1 hmem with hmem | hmem
    · exact .inr (call_of_tryRemove hsecond hmem)
    · exact absurd hmem (call_notMem_of_marked hlast.of_done.1 call)

theorem announced_sweepVersion {latest version : String} {value : SweepReport}
    (hv : Path.IsEntryName version)
    (h : Interleaved order tenantDir (sweepVersion tenantDir latest version) disk events value) :
    Announced tenantDir disk events := by
  unfold sweepVersion at h
  split at h
  · exact announced_of_marked h.of_done.1
  · obtain ⟨earlier, others, rfl, hearlier, hothers⟩ := Interleaved.of_readDir h
    intro before path rest hevents
    obtain ⟨between, rfl, rfl⟩ :=
      exists_between hevents (call_notMem_of_marked hearlier _) (by simp)
    split at hothers
    · next hlisted =>
        have hmem : (.call (.removeAll path) : SweepEvent Content) ∈
            between ++ .call (.removeAll path) :: rest := by simp
        have hcall := call_of_removeVersion hothers hmem
        refine ⟨version, earlier, between, hv, ?_, rfl, (map_arrange_eq_nil order _).1 hlisted⟩
        simpa using hcall
    · exact absurd (by simp) (call_notMem_of_marked hothers.of_done.1 (.removeAll path))

theorem announced_sweepVersions {latest : String} {versions : List String}
    {value : SweepReport} (hversions : ∀ version ∈ versions, Path.IsEntryName version)
    (h : Interleaved order tenantDir (sweepVersions tenantDir latest versions) disk events
      value) : Announced tenantDir disk events := by
  induction versions generalizing disk events value with
  | nil => exact announced_of_marked h.of_done.1
  | cons version rest ih =>
      obtain ⟨first, others, _, rfl, hfirst, hothers⟩ := Interleaved.of_bind h
      obtain ⟨second, last, _, rfl, hsecond, hlast⟩ := Interleaved.of_bind hothers
      have hv : Path.IsEntryName version := hversions version (by simp)
      have hrest : ∀ other ∈ rest, Path.IsEntryName other :=
        fun other hmem => hversions other (by simp [hmem])
      exact (announced_sweepVersion hv hfirst).append
        ((ih hrest hsecond).append (announced_of_marked hlast.of_done.1))

/-- A marker brings its own name into a directory. -/
theorem namesEntries_mark {path : String} (h : NamesEntries disk path) (marker : Marker)
    (content : Content) : NamesEntries (disk.mark tenantDir marker content) path := by
  intro entries hentry name hname
  unfold MemoryDisk.mark at hentry
  split at hentry
  · next dir hdir =>
      rw [entryAt] at hentry
      split at hentry
      · cases hentry
      · next names hnames =>
          obtain ⟨before, hbefore, hsub⟩ := find_place_dir hentry
          rcases List.mem_cons.1 (hsub hname) with rfl | hmem
          · exact marker.pod_isName
          · have hbefore' : disk.entryAt path = .ok (.dir before) := by
              rw [entryAt, hnames]
              exact hbefore
            exact h before hbefore' name hmem
  · exact h entries hentry name hname

theorem namesEntries_after {path : String} (h : NamesEntries disk path)
    (events : List (SweepEvent Content)) :
    NamesEntries (disk.after tenantDir events) path := by
  induction events generalizing disk with
  | nil => exact h
  | cons event events ih =>
      refine ih ?_
      cases event with
      | call call => exact h.answer call
      | marked marker content => exact namesEntries_mark h marker content

theorem announced_collect {root tenant latest : String} {report : SweepReport}
    (hdir : NamesEntries disk (referenceDir (Path.join root tenant)))
    (h : Interleaved order (Path.join root tenant) (collect root tenant latest) disk events
      report) : Announced (Path.join root tenant) disk events := by
  unfold collect at h
  split at h
  · obtain ⟨earlier, others, rfl, hearlier, hothers⟩ := Interleaved.of_readDir h
    rw [List.append_cons]
    refine Announced.append (announced_of_no_removal fun path hmem => ?_) ?_
    · rcases List.mem_append.1 hmem with hmem | hmem
      · exact call_notMem_of_marked hearlier _ hmem
      · simp at hmem
    · cases hlisting : (disk.after (Path.join root tenant) earlier).listing
          (referenceDir (Path.join root tenant)) with
      | error e =>
          rw [hlisting] at hothers
          exact announced_of_marked hothers.of_done.1
      | ok versions =>
          rw [hlisting] at hothers
          refine announced_sweepVersions (fun version hmem => ?_) hothers
          have hlisted : version ∈ versions := (order.perm _ _).mem_iff.1 hmem
          exact Listed.isEntryName ⟨versions, hlisting, hlisted⟩
            (namesEntries_after hdir earlier)
  · exact announced_of_marked h.of_done.1

/-- Every event of a sweep is one that fits the disk that it happens on. -/
theorem fits_of_announced {program : Dialogue diskInterface α} {value : α}
    (h : Interleaved order tenantDir program disk events value)
    (hannounced : Announced tenantDir disk events) {before rest : List (SweepEvent Content)}
    {event : SweepEvent Content} (hevents : events = before ++ event :: rest) :
    Fits tenantDir (disk.after tenantDir before) event := by
  cases event with
  | marked marker content => exact h.directory_of_marked hevents
  | call call =>
      cases call with
      | readDir path => trivial
      | removeAll path =>
          obtain ⟨version, _, _, hv, hpath, -, -⟩ := hannounced before path rest hevents
          exact ⟨version, hv, hpath⟩

end

/-! ## The race -/

section

variable {tenantDir : String} {disk : MemoryDisk Content} {events : List (SweepEvent Content)}

/-- All events fit the disks that they happen on. -/
def AllFit (tenantDir : String) (disk : MemoryDisk Content)
    (events : List (SweepEvent Content)) : Prop :=
  ∀ before event rest, events = before ++ event :: rest →
    Fits tenantDir (disk.after tenantDir before) event

theorem AllFit.of_append {first second : List (SweepEvent Content)}
    (h : AllFit tenantDir disk (first ++ second)) :
    AllFit tenantDir (disk.after tenantDir first) second := by
  rintro before event rest rfl
  rw [← after_append]
  exact h (first ++ before) event rest (List.append_assoc first before _).symm

theorem AllFit.of_prefix {first second : List (SweepEvent Content)}
    (h : AllFit tenantDir disk (first ++ second)) : AllFit tenantDir disk first := by
  rintro before event rest rfl
  exact h before event (rest ++ second) (by simp)

/-- A marker that goes goes with the directory that it is in. -/
theorem AllFit.removal_of_lost (hfit : AllFit tenantDir disk events) {marker : Marker}
    (hfirst : disk.holds (markerFile tenantDir marker) = true)
    (hlast : ¬ (disk.after tenantDir events).holds (markerFile tenantDir marker) = true) :
    ∃ before rest,
      events = before ++ .call (.removeAll (markerPath tenantDir marker.version)) :: rest ∧
      (disk.after tenantDir before).holds (markerFile tenantDir marker) = true ∧
      Removable (disk.after tenantDir before) (markerPath tenantDir marker.version) := by
  obtain ⟨before, event, rest, hevents, hbefore, hafter⟩ := exists_event_of_change
    (fun disk => disk.holds (markerFile tenantDir marker) = true) hfirst hlast
  obtain ⟨rfl, hremovable⟩ := FleetOperator.removal_of_lost (hfit _ _ _ hevents) hbefore hafter
  exact ⟨before, rest, hevents, hbefore, hremovable⟩

/-- A marker that is new was written. -/
theorem AllFit.marked_of_gained (hfit : AllFit tenantDir disk events) {marker : Marker}
    (hfirst : disk.holds (markerFile tenantDir marker) = false)
    (hlast : (disk.after tenantDir events).holds (markerFile tenantDir marker) = true) :
    ∃ content, .marked marker content ∈ events := by
  have hchange : ¬ (disk.after tenantDir events).holds (markerFile tenantDir marker) = false := by
    rw [hlast]
    exact Bool.noConfusion
  obtain ⟨before, event, rest, hevents, hbefore, hafter⟩ := exists_event_of_change
    (fun disk => disk.holds (markerFile tenantDir marker) = false) hfirst hchange
  obtain ⟨content, rfl⟩ := FleetOperator.marked_of_gained (hfit _ _ _ hevents) hbefore hafter
  exact ⟨content, by simp [hevents]⟩

/-- Once the directory for the markers of a version is gone, no marker of it comes back. -/
theorem AllFit.holds_markerFile_of_gone (hfit : AllFit tenantDir disk events)
    {marker : Marker} (hgone : disk.holds (markerPath tenantDir marker.version) = false) :
    (disk.after tenantDir events).holds (markerFile tenantDir marker) = false := by
  have hlast : (disk.after tenantDir events).holds (markerPath tenantDir marker.version) =
      false := by
    by_contra hlast
    obtain ⟨before, event, rest, hevents, hbefore, hafter⟩ := exists_event_of_change
      (fun disk => disk.holds (markerPath tenantDir marker.version) = false) hgone hlast
    exact hafter (holds_markerPath_step marker.version_isName (hfit _ _ _ hevents) hbefore)
  rw [Bool.eq_false_iff] at hlast ⊢
  exact fun h => hlast (holds_markerPath_of_markerFile h)

/-- When the directory for the markers of a version is removed, they are lost for good. -/
theorem AllFit.holds_markerFile_of_removal {marker : Marker}
    {before rest : List (SweepEvent Content)}
    (hfit : AllFit tenantDir disk
      (before ++ .call (.removeAll (markerPath tenantDir marker.version)) :: rest))
    (hremovable : Removable (disk.after tenantDir before)
      (markerPath tenantDir marker.version)) :
    (disk.after tenantDir
        (before ++ .call (.removeAll (markerPath tenantDir marker.version)) :: rest)).holds
      (markerFile tenantDir marker) = false := by
  have hpath : Path.names? (markerPath tenantDir marker.version) ≠ some [] := by
    simp [names?_markerPath tenantDir marker.version_isName]
  rw [List.append_cons] at hfit ⊢
  rw [after_append]
  refine hfit.of_append.holds_markerFile_of_gone ?_
  rw [after_append, after_call]
  exact holds_removeAll_self hpath hremovable

/-- A removal of a path of a version that has a marker comes of a race: the marker was not
there at the look that announced the removal. -/
theorem raced_of_removal (hfit : AllFit tenantDir disk events)
    (hannounced : Announced tenantDir disk events) {marker : Marker} {path : String}
    {before rest : List (SweepEvent Content)}
    (hevents : events = before ++ .call (.removeAll path) :: rest)
    (hpath : path = binaryPath tenantDir marker.version ∨
      path = markerPath tenantDir marker.version)
    (hmarker : (disk.after tenantDir before).holds (markerFile tenantDir marker) = true)
    (hremovable : Removable (disk.after tenantDir before) path) :
    Raced tenantDir disk events := by
  obtain ⟨version, earlier, between, hv, hpath', rfl, hlisting⟩ :=
    hannounced before path rest hevents
  obtain ⟨names, hnames⟩ := exists_names_of_holds hremovable.1
  obtain rfl := version_eq_of_path hnames hv marker.version_isName hpath' hpath
  have hsplit : events =
      (earlier ++ [.call (.readDir (markerPath tenantDir marker.version))]) ++
        (between ++ .call (.removeAll path) :: rest) := by
    rw [hevents]
    simp
  have hbetween : AllFit tenantDir (disk.after tenantDir (earlier ++
      [.call (.readDir (markerPath tenantDir marker.version))])) between := by
    rw [hsplit] at hfit
    exact hfit.of_append.of_prefix
  -- The look itself leaves the tree alone, so the marker is not there right after it either.
  have hempty : (disk.after tenantDir (earlier ++
      [.call (.readDir (markerPath tenantDir marker.version))])).holds
        (markerFile tenantDir marker) = false := by
    have hlook := sameView_answer_readDir (disk.after tenantDir earlier)
      (markerPath tenantDir marker.version) (markerFile tenantDir marker)
    rw [after_append, after_call]
    exact hlook.holds.trans (holds_markerFile_of_empty hlisting)
  rw [List.append_cons, after_append] at hmarker
  obtain ⟨content, hmem⟩ := hbetween.marked_of_gained hempty hmarker
  exact ⟨marker, content, path, earlier, between, rest, by simp [hevents], hmem, hpath,
    hremovable⟩

/-- Without a race no marker is lost and no version that is in use. -/
theorem keepsUsed_of_not_raced (hfit : AllFit tenantDir disk events)
    (hannounced : Announced tenantDir disk events) (hraced : ¬ Raced tenantDir disk events) :
    KeepsUsed tenantDir disk events where
  markers marker before rest hevents hbefore := by
    subst hevents
    by_contra hlost
    rw [after_append] at hlost
    obtain ⟨between, later, rfl, hmarker, hremovable⟩ :=
      hfit.of_append.removal_of_lost hbefore hlost
    rw [← after_append] at hmarker hremovable
    exact hraced (raced_of_removal hfit hannounced (List.append_assoc before between _).symm
      (.inr rfl) hmarker hremovable)
  binaries marker before rest hevents hmarker hbinaries := by
    by_contra hlost
    refine hraced (raced_of_removal hfit hannounced hevents (.inl rfl) hmarker ?_)
    by_contra hstay
    rw [after_append, after_call] at hlost
    exact hlost ((holds_of_tree (tree_removeAll_of_not_removable hstay) _).trans hbinaries)

/-- A removal after a marker was written loses it, or the binaries that it is for. -/
theorem not_keepsUsed_of_removal (hfit : AllFit tenantDir disk events) {marker : Marker}
    {content : Content} {path : String} {front late rest : List (SweepEvent Content)}
    (hevents : events =
      front ++ .marked marker content :: (late ++ .call (.removeAll path) :: rest))
    (hpath : path = binaryPath tenantDir marker.version ∨
      path = markerPath tenantDir marker.version)
    (hremovable : Removable
      (disk.after tenantDir (front ++ .marked marker content :: late)) path) :
    ¬ KeepsUsed tenantDir disk events := by
  intro hkeeps
  obtain ⟨entries, hentry⟩ := hfit front (.marked marker content) _ hevents
  have hmarked : (disk.after tenantDir (front ++ [.marked marker content])).holds
      (markerFile tenantDir marker) = true := by
    rw [after_append, after_marked]
    exact holds_mark_self content hentry
  have hend := hkeeps.markers marker _ (late ++ .call (.removeAll path) :: rest)
    (by simp [hevents]) hmarked
  have hlost : ∀ before after,
      events = before ++ .call (.removeAll (markerPath tenantDir marker.version)) :: after →
      ¬ Removable (disk.after tenantDir before) (markerPath tenantDir marker.version) := by
    rintro before after rfl h
    exact Bool.eq_false_iff.1 (hfit.holds_markerFile_of_removal h) hend
  rcases hpath with rfl | rfl
  · by_cases hthere : (disk.after tenantDir (front ++ .marked marker content :: late)).holds
        (markerFile tenantDir marker) = true
    · have hkept := hkeeps.binaries marker _ rest (by simp [hevents]) hthere hremovable.1
      have hgone := holds_removeAll_self
        (by simp [names?_binaryPath tenantDir marker.version_isName]) hremovable
      rw [after_append, after_call] at hkept
      exact Bool.eq_false_iff.1 hgone hkept
    · -- The marker went before the binaries, so the directory that it was in did.
      rw [hevents, List.append_cons] at hfit
      rw [List.append_cons, after_append] at hthere
      obtain ⟨between, later, rfl, -, hgone⟩ :=
        hfit.of_append.of_prefix.removal_of_lost hmarked hthere
      rw [← after_append] at hgone
      exact hlost _ (later ++ .call (.removeAll (binaryPath tenantDir marker.version)) :: rest)
        (by simp [hevents]) hgone
  · exact hlost _ rest (by simp [hevents]) hremovable

/-- While markers are added, a sweep keeps all markers, and the binaries of all versions that
have one, if and only if nothing of a version is removed after a marker was written since the
look at it. -/
theorem keepsUsed_iff {order : ListingOrder} {root tenant latest : String}
    {report : SweepReport} (hdir : NamesEntries disk (referenceDir (Path.join root tenant)))
    (hrun : Interleaved order (Path.join root tenant) (collect root tenant latest) disk events
      report) :
    KeepsUsed (Path.join root tenant) disk events ↔
      ¬ Raced (Path.join root tenant) disk events := by
  have hannounced := announced_collect hdir hrun
  have hfit : AllFit (Path.join root tenant) disk events :=
    fun _ _ _ hevents => fits_of_announced hrun hannounced hevents
  constructor
  · rintro hkeeps ⟨marker, content, path, before, between, rest, hevents, hmem, hpath, hgone⟩
    obtain ⟨early, late, rfl⟩ := List.append_of_mem hmem
    have hsplit : events =
        (before ++ .call (.readDir (markerPath (Path.join root tenant) marker.version)) ::
          early) ++ .marked marker content :: (late ++ .call (.removeAll path) :: rest) := by
      simp [hevents]
    have hgone' : Removable (disk.after (Path.join root tenant)
        ((before ++ .call (.readDir (markerPath (Path.join root tenant) marker.version)) ::
          early) ++ .marked marker content :: late)) path := by
      simpa using hgone
    exact not_keepsUsed_of_removal hfit hsplit hpath hgone' hkeeps
  · exact keepsUsed_of_not_raced hfit hannounced

end

/-! ## A tenant with one version -/

section

variable (order : ListingOrder) (tenantDir : String) (disk : MemoryDisk Content)

theorem interleaved_tryRemove (path : String) :
    ∃ failed, Interleaved order tenantDir (tryRemove path) disk [.call (.removeAll path)]
      failed := by
  unfold tryRemove
  cases hanswer : (disk.answer (.removeAll path)).1 with
  | ok _ => exact ⟨[], .removeAll (by rw [hanswer]; exact .done)⟩
  | error _ => exact ⟨[path], .removeAll (by rw [hanswer]; exact .done)⟩

theorem interleaved_removeVersion (version : String) :
    ∃ report, Interleaved order tenantDir (removeVersion tenantDir version) disk
      [.call (.removeAll (binaryPath tenantDir version)),
        .call (.removeAll (markerPath tenantDir version))] report := by
  obtain ⟨failed, hbinaries⟩ :=
    interleaved_tryRemove order tenantDir disk (binaryPath tenantDir version)
  obtain ⟨failed', hmarkers⟩ := interleaved_tryRemove order tenantDir
    (disk.after tenantDir [.call (.removeAll (binaryPath tenantDir version))])
    (markerPath tenantDir version)
  exact ⟨_, .bind hbinaries (.bind hmarkers .done)⟩

end

section

variable (order : ListingOrder) (content : Content) {tenantDir latest : String}
  {disk : MemoryDisk Content} {marker : Marker}

/-- A version is left alone when a marker is found. -/
theorem interleaved_look_at_marked (hlatest : marker.version ≠ latest)
    (hmarker : disk.holds (markerFile tenantDir marker) = true) :
    Interleaved order tenantDir (sweepVersion tenantDir latest marker.version) disk
      [.call (.readDir (markerPath tenantDir marker.version))] .empty := by
  unfold sweepVersion
  rw [if_neg hlatest]
  refine .readDir ?_
  split
  · next hlisted =>
      have hempty := holds_markerFile_of_empty ((map_arrange_eq_nil order _).1 hlisted)
      rw [hmarker] at hempty
      cases hempty
  · exact .done

/-- A marker may be written when the version was just found without any. -/
theorem interleaved_mark_after_look (hlatest : marker.version ≠ latest)
    (hlisting : disk.listing (markerPath tenantDir marker.version) = .ok []) :
    ∃ report, Interleaved order tenantDir (sweepVersion tenantDir latest marker.version) disk
      [.call (.readDir (markerPath tenantDir marker.version)), .marked marker content,
        .call (.removeAll (binaryPath tenantDir marker.version)),
        .call (.removeAll (markerPath tenantDir marker.version))] report := by
  obtain ⟨report, hremove⟩ := interleaved_removeVersion order tenantDir
    ((disk.answer (.readDir (markerPath tenantDir marker.version))).2.mark tenantDir marker
      content) marker.version
  obtain ⟨entries, hentry, -⟩ := perm_of_listing hlisting
  have hdir := (sameView_answer_readDir disk (markerPath tenantDir marker.version)
    (markerPath tenantDir marker.version)).entry.trans hentry
  refine ⟨report, ?_⟩
  unfold sweepVersion
  rw [if_neg hlatest]
  refine .readDir ?_
  rw [(map_arrange_eq_nil order _).2 hlisting]
  exact .marked hdir hremove

end

/-- A run over a listing of one version is a look at that version. -/
theorem interleaved_collect {disk : MemoryDisk Content} {root tenant latest version : String}
    {events : List (SweepEvent Content)} {report : SweepReport}
    (htenant : Path.isPlainName tenant = true)
    (hlisting : disk.listing (referenceDir (Path.join root tenant)) = .ok [version])
    (h : Interleaved .own (Path.join root tenant)
      (sweepVersion (Path.join root tenant) latest version)
      (disk.answer (.readDir (referenceDir (Path.join root tenant)))).2 events report) :
    Interleaved .own (Path.join root tenant) (collect root tenant latest) disk
      (.call (.readDir (referenceDir (Path.join root tenant))) :: events)
      (report.append .empty) := by
  unfold collect
  rw [if_pos htenant]
  refine .readDir ?_
  rw [hlisting, ← List.append_nil events]
  exact .bind h (.bind .done .done)

/-- A tenant with the outdated version `1`, which no pod uses. -/
def oneOutdated : MemoryDisk Unit where
  tree := .dir [("srv", .dir [("t", .dir [
    ("bin", .dir [("1", .file ())]), ("gc", .dir [("1", .dir [])])])])]
  descending := false
  faults := []
  calls := []

/-- The pod `a` begins to use the version `1`. -/
def firstPod : Marker := ⟨"1", "a", by decide, by decide⟩

theorem listing_references_oneOutdated :
    oneOutdated.listing (referenceDir (Path.join "/srv" "t")) = .ok [firstPod.version] := by
  have hnames : Path.names? (referenceDir (Path.join "/srv" "t")) =
      some ["srv", "t", "gc"] := by decide +kernel
  have hentry : oneOutdated.entryAt (referenceDir (Path.join "/srv" "t")) =
      .ok (.dir [("1", .dir [])]) := by
    rw [entryAt, hnames]
    rfl
  rw [listing_of_no_faults rfl, list_eq, hentry]
  simp [Except.bind, oneOutdated, firstPod]

theorem entryAt_markers_oneOutdated {disk : MemoryDisk Unit}
    (htree : disk.tree = oneOutdated.tree) :
    disk.entryAt (markerPath (Path.join "/srv" "t") firstPod.version) = .ok (.dir []) := by
  have hnames : Path.names? (markerPath (Path.join "/srv" "t") firstPod.version) =
      some ["srv", "t", "gc", "1"] := by decide +kernel
  rw [entryAt, hnames, htree]
  rfl

theorem namesEntries_oneOutdated :
    NamesEntries oneOutdated (referenceDir (Path.join "/srv" "t")) := by
  intro entries hentries name hname
  obtain ⟨entries', hentries', hperm⟩ := perm_of_listing listing_references_oneOutdated
  rw [hentries] at hentries'
  obtain rfl := Tree.dir.inj (Except.ok.inj hentries')
  obtain rfl := List.mem_singleton.1 (hperm.mem_iff.2 hname)
  decide

/-- A marker that is written before the look at its version is safe. -/
def markedBeforeLook : List (SweepEvent Unit) :=
  [.call (.readDir (referenceDir (Path.join "/srv" "t"))), .marked firstPod (),
    .call (.readDir (markerPath (Path.join "/srv" "t") firstPod.version))]

/-- A marker that is written after the look at its version is not. -/
def markedAfterLook : List (SweepEvent Unit) :=
  [.call (.readDir (referenceDir (Path.join "/srv" "t"))),
    .call (.readDir (markerPath (Path.join "/srv" "t") firstPod.version)),
    .marked firstPod (),
    .call (.removeAll (binaryPath (Path.join "/srv" "t") firstPod.version)),
    .call (.removeAll (markerPath (Path.join "/srv" "t") firstPod.version))]

theorem collect_markedBeforeLook :
    ∃ report, Interleaved .own (Path.join "/srv" "t") (collect "/srv" "t" "2") oneOutdated
      markedBeforeLook report := by
  have hdir := entryAt_markers_oneOutdated (tree_answer_readDir oneOutdated
    (referenceDir (Path.join "/srv" "t")))
  have hlook := interleaved_look_at_marked .own (by decide : firstPod.version ≠ "2")
    (holds_mark_self () hdir)
  exact ⟨_, interleaved_collect (by decide +kernel) listing_references_oneOutdated
    (.marked hdir hlook)⟩

theorem collect_markedAfterLook :
    ∃ report, Interleaved .own (Path.join "/srv" "t") (collect "/srv" "t" "2") oneOutdated
      markedAfterLook report := by
  have hdir := entryAt_markers_oneOutdated (tree_answer_readDir oneOutdated
    (referenceDir (Path.join "/srv" "t")))
  have hlisting : (oneOutdated.answer
      (.readDir (referenceDir (Path.join "/srv" "t")))).2.listing
        (markerPath (Path.join "/srv" "t") firstPod.version) = .ok [] := by
    rw [listing_of_no_faults (sameSetting_answer oneOutdated _).faults]
    exact list_eq_nil_iff.2 hdir
  obtain ⟨report, hlook⟩ := interleaved_mark_after_look .own ()
    (by decide : firstPod.version ≠ "2") hlisting
  exact ⟨_, interleaved_collect (by decide +kernel) listing_references_oneOutdated hlook⟩

/-- A marker that is written before the look at its version is kept, and so is the version. -/
theorem keepsUsed_markedBeforeLook :
    NamesEntries oneOutdated (referenceDir (Path.join "/srv" "t")) ∧
      ∃ report, Interleaved .own (Path.join "/srv" "t") (collect "/srv" "t" "2") oneOutdated
          markedBeforeLook report ∧
        KeepsUsed (Path.join "/srv" "t") oneOutdated markedBeforeLook := by
  obtain ⟨report, hrun⟩ := collect_markedBeforeLook
  refine ⟨namesEntries_oneOutdated, report, hrun,
    (keepsUsed_iff namesEntries_oneOutdated hrun).2 ?_⟩
  rintro ⟨marker, content, path, before, between, rest, hevents, -⟩
  have hmem : (.call (.removeAll path) : SweepEvent Unit) ∈ markedBeforeLook := by
    simp [hevents]
  simp [markedBeforeLook] at hmem

/-- A marker that is written after the look at its version is gone when the sweep ends. -/
theorem marker_lost_in_sweep :
    NamesEntries oneOutdated (referenceDir (Path.join "/srv" "t")) ∧
      ∃ report, Interleaved .own (Path.join "/srv" "t") (collect "/srv" "t" "2") oneOutdated
          markedAfterLook report ∧
        ¬ KeepsUsed (Path.join "/srv" "t") oneOutdated markedAfterLook := by
  obtain ⟨report, hrun⟩ := collect_markedAfterLook
  refine ⟨namesEntries_oneOutdated, report, hrun, fun hkeeps => ?_⟩
  have hwritten : (oneOutdated.after (Path.join "/srv" "t") (markedAfterLook.take 3)).holds
      (markerFile (Path.join "/srv" "t") firstPod) = true := by decide +kernel
  have hgone : (oneOutdated.after (Path.join "/srv" "t") markedAfterLook).holds
      (markerFile (Path.join "/srv" "t") firstPod) = false := by decide +kernel
  have hend := hkeeps.markers firstPod (markedAfterLook.take 3) (markedAfterLook.drop 3) rfl
    hwritten
  rw [hgone] at hend
  cases hend

end FleetOperator
