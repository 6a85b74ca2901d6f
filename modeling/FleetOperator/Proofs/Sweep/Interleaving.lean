import FleetOperator.Proofs.Disk.Listing
import FleetOperator.Proofs.Disk.Placing
import FleetOperator.Proofs.Sweep.Retry

/-!
# A sweep while markers are added

The calls of a sweep are made one at a time, and a pod can be given a version
between any two of them: a marker is added to the directory of that version.
`Interleaved` has all runs of a program in which that happens, at any places
and any number of times.

A run is told by its events. Each of them changes little. A marker goes only
with the directory that it is in (`removal_of_lost`), it comes only by being
written (`marked_of_gained`), and no event makes a directory for markers, so
one that went does not come back (`holds_markerPath_step`).
-/

namespace FleetOperator

open MemoryDisk

variable {Content α β : Type}

/-! ## Markers -/

/-- A file that says that a pod uses a version. -/
@[ext]
structure Marker where
  version : String
  pod : String
  version_isName : Path.IsEntryName version
  pod_isName : Path.IsEntryName pod
deriving DecidableEq

/-- Where a marker is. -/
abbrev markerFile (tenantDir : String) (marker : Marker) : String :=
  Path.join (markerPath tenantDir marker.version) marker.pod

/-- What happens in a sweep: it makes a call, or a marker is written. -/
inductive SweepEvent (Content : Type) where
  | call (call : DiskCall)
  | marked (marker : Marker) (content : Content)

namespace MemoryDisk

/-- The disk with a marker written to it. -/
def mark (disk : MemoryDisk Content) (tenantDir : String) (marker : Marker)
    (content : Content) : MemoryDisk Content :=
  match Path.names? (markerPath tenantDir marker.version) with
  | some dir => { disk with tree := disk.tree.place dir marker.pod (.file content) }
  | none => disk

/-- The disk after an event. -/
def step (tenantDir : String) (disk : MemoryDisk Content) :
    SweepEvent Content → MemoryDisk Content
  | .call call => (disk.answer call).2
  | .marked marker content => disk.mark tenantDir marker content

/-- The disk after some events. -/
def after (tenantDir : String) (disk : MemoryDisk Content)
    (events : List (SweepEvent Content)) : MemoryDisk Content :=
  events.foldl (step tenantDir) disk

end MemoryDisk

/-- The runs of a program in which markers are written between its calls, each to the directory
of a version that is there. -/
inductive Interleaved (order : ListingOrder) (tenantDir : String) :
    Dialogue diskInterface α → MemoryDisk Content → List (SweepEvent Content) → α → Prop
  | done {disk value} : Interleaved order tenantDir (.done value) disk [] value
  | call {call next disk events value} :
    Interleaved order tenantDir (next (answerIn order call disk).1) (disk.answer call).2
      events value →
    Interleaved order tenantDir (.ask call next) disk (.call call :: events) value
  | marked {program disk marker content entries events value} :
    disk.entryAt (markerPath tenantDir marker.version) = .ok (.dir entries) →
    Interleaved order tenantDir program (disk.mark tenantDir marker content) events value →
    Interleaved order tenantDir program disk (.marked marker content :: events) value

/-! ## The events of a program -/

namespace MemoryDisk

@[simp]
theorem after_nil (tenantDir : String) (disk : MemoryDisk Content) :
    disk.after tenantDir [] = disk := rfl

theorem after_append (tenantDir : String) (disk : MemoryDisk Content)
    (first second : List (SweepEvent Content)) :
    disk.after tenantDir (first ++ second) =
      (disk.after tenantDir first).after tenantDir second := List.foldl_append

theorem after_call (tenantDir : String) (disk : MemoryDisk Content) (call : DiskCall) :
    disk.after tenantDir [.call call] = (disk.answer call).2 := rfl

theorem after_marked (tenantDir : String) (disk : MemoryDisk Content) (marker : Marker)
    (content : Content) :
    disk.after tenantDir [.marked marker content] = disk.mark tenantDir marker content := rfl

/-- What holds of the disk first and not in the end is changed by some event. -/
theorem exists_event_of_change {tenantDir : String} {disk : MemoryDisk Content}
    {events : List (SweepEvent Content)} (P : MemoryDisk Content → Prop) (hfirst : P disk)
    (hlast : ¬ P (disk.after tenantDir events)) :
    ∃ before event rest, events = before ++ event :: rest ∧
      P (disk.after tenantDir before) ∧
      ¬ P ((disk.after tenantDir before).step tenantDir event) := by
  induction events generalizing disk with
  | nil => exact absurd hfirst hlast
  | cons event events ih =>
      by_cases hstep : P (disk.step tenantDir event)
      · obtain ⟨before, event', rest, rfl, hbefore, hchange⟩ := ih hstep hlast
        exact ⟨event :: before, event', rest, rfl, hbefore, hchange⟩
      · exact ⟨[], event, events, rfl, hfirst, hstep⟩

end MemoryDisk

namespace Interleaved

variable {order : ListingOrder} {tenantDir : String} {disk : MemoryDisk Content}
  {events : List (SweepEvent Content)} {value : α}

/-- A program that is done makes no calls. -/
theorem of_done {result : α}
    (h : Interleaved order tenantDir (.done result) disk events value) :
    (∀ event ∈ events, ∃ marker content, event = .marked marker content) ∧ value = result := by
  generalize hprogram : (Dialogue.done result : Dialogue diskInterface α) = program at h
  induction h with
  | done =>
      cases hprogram
      exact ⟨by simp, rfl⟩
  | call _ _ => cases hprogram
  | marked _ _ ih =>
      obtain ⟨hmarked, hvalue⟩ := ih hprogram
      exact ⟨List.forall_mem_cons.2 ⟨⟨_, _, rfl⟩, hmarked⟩, hvalue⟩

/-- A program that asks a call makes it, maybe after some markers were written. -/
theorem of_ask {call : DiskCall}
    {next : Except DiskError call.Result → Dialogue diskInterface α}
    (h : Interleaved order tenantDir (.ask call next) disk events value) :
    ∃ before rest, events = before ++ .call call :: rest ∧
      (∀ event ∈ before, ∃ marker content, event = .marked marker content) ∧
      Interleaved order tenantDir (next (answerIn order call (disk.after tenantDir before)).1)
        (disk.after tenantDir (before ++ [.call call])) rest value := by
  generalize hprogram :
    (Dialogue.ask call next : Dialogue diskInterface α) = program at h
  induction h with
  | done => cases hprogram
  | call hrest _ =>
      cases hprogram
      exact ⟨[], _, rfl, by simp, hrest⟩
  | marked _ _ ih =>
      obtain ⟨before, rest, rfl, hmarked, hrest⟩ := ih hprogram
      exact ⟨_ :: before, rest, rfl, List.forall_mem_cons.2 ⟨⟨_, _, rfl⟩, hmarked⟩, hrest⟩

theorem of_readDir {path : String}
    {next : Except DiskError (List String) → Dialogue diskInterface α}
    (h : Interleaved order tenantDir (Disk.readDir path >>= next) disk events value) :
    ∃ before rest, events = before ++ .call (.readDir path) :: rest ∧
      (∀ event ∈ before, ∃ marker content, event = .marked marker content) ∧
      Interleaved order tenantDir
        (next (((disk.after tenantDir before).listing path).map (order.arrange path)))
        (disk.after tenantDir (before ++ [.call (.readDir path)])) rest value := of_ask h

theorem readDir {path : String}
    {next : Except DiskError (List String) → Dialogue diskInterface α}
    (h : Interleaved order tenantDir (next ((disk.listing path).map (order.arrange path)))
      (disk.answer (.readDir path)).2 events value) :
    Interleaved order tenantDir (Disk.readDir path >>= next) disk
      (.call (.readDir path) :: events) value := .call h

theorem removeAll {path : String} {next : Except DiskError Unit → Dialogue diskInterface α}
    (h : Interleaved order tenantDir (next (disk.answer (.removeAll path)).1)
      (disk.answer (.removeAll path)).2 events value) :
    Interleaved order tenantDir (Disk.removeAll path >>= next) disk
      (.call (.removeAll path) :: events) value := .call h

theorem bind {program : Dialogue diskInterface β} {next : β → Dialogue diskInterface α}
    {later : List (SweepEvent Content)} {result : β}
    (h : Interleaved order tenantDir program disk events result)
    (hnext : Interleaved order tenantDir (next result) (disk.after tenantDir events) later
      value) :
    Interleaved order tenantDir (program >>= next) disk (events ++ later) value := by
  induction h with
  | done => exact hnext
  | call _ ih => exact .call (ih hnext)
  | marked hentry _ ih => exact .marked hentry (ih hnext)

/-- A run of two programs in turn is a run of the first and then one of the second. -/
theorem of_bind {program : Dialogue diskInterface β} {next : β → Dialogue diskInterface α}
    (h : Interleaved order tenantDir (program >>= next) disk events value) :
    ∃ first second result, events = first ++ second ∧
      Interleaved order tenantDir program disk first result ∧
      Interleaved order tenantDir (next result) (disk.after tenantDir first) second value := by
  generalize hprogram : program >>= next = whole at h
  induction h generalizing program with
  | @done disk value =>
      cases program with
      | done result =>
          have hnext : next result = .done value := hprogram
          exact ⟨[], [], result, rfl, .done, hnext ▸ .done⟩
      | ask call next => cases hprogram
  | @call call next' disk events value hrest ih =>
      cases program with
      | done result =>
          have hnext : next result = .ask call next' := hprogram
          exact ⟨[], _, result, rfl, .done, hnext ▸ .call hrest⟩
      | ask call next =>
          cases hprogram
          obtain ⟨first, second, result, rfl, hfirst, hsecond⟩ := ih rfl
          exact ⟨.call call :: first, second, result, rfl, .call hfirst, hsecond⟩
  | marked hentry hrest ih =>
      obtain ⟨first, second, result, rfl, hfirst, hsecond⟩ := ih hprogram
      exact ⟨.marked _ _ :: first, second, result, rfl, .marked hentry hfirst, hsecond⟩

/-- A marker is written to a directory that is there. -/
theorem directory_of_marked {program : Dialogue diskInterface α}
    (h : Interleaved order tenantDir program disk events value)
    {before rest : List (SweepEvent Content)} {marker : Marker} {content : Content}
    (hevents : events = before ++ .marked marker content :: rest) :
    ∃ entries, (disk.after tenantDir before).entryAt (markerPath tenantDir marker.version) =
      .ok (.dir entries) := by
  induction h generalizing before with
  | done => simp at hevents
  | call _ ih =>
      cases before with
      | nil => cases hevents
      | cons event before =>
          obtain ⟨rfl, htail⟩ := List.cons.inj hevents
          exact ih htail
  | marked hentry _ ih =>
      cases before with
      | nil =>
          cases hevents
          exact ⟨_, hentry⟩
      | cons event before =>
          obtain ⟨rfl, htail⟩ := List.cons.inj hevents
          exact ih htail

end Interleaved

/-! ## What an event does to a marker -/

/-- There is something under a path, and removing it does not fail. -/
def Removable (disk : MemoryDisk Content) (path : String) : Prop :=
  disk.holds path = true ∧ disk.removalFails path = false

theorem names?_markerFile (tenantDir : String) (marker : Marker) :
    Path.names? (markerFile tenantDir marker) =
      (Path.names? tenantDir).map (· ++ ["gc", marker.version, marker.pod]) := by
  rw [markerFile, Path.names?_join_entry _ marker.pod_isName,
    names?_markerPath tenantDir marker.version_isName, Option.map_map]
  simp [Function.comp_def]

theorem apart_markerFiles (tenantDir : String) {marker other : Marker} (hne : marker ≠ other) :
    Apart (markerFile tenantDir marker) (markerFile tenantDir other) := by
  refine apart_of_suffix (names?_markerFile tenantDir marker)
    (names?_markerFile tenantDir other) (fun h => hne ?_) (fun h => hne ?_)
  · obtain ⟨hversion, hpod⟩ : marker.version = other.version ∧ marker.pod = other.pod := by
      simpa using h
    exact Marker.ext hversion hpod
  · obtain ⟨hversion, hpod⟩ : other.version = marker.version ∧ other.pod = marker.pod := by
      simpa using h
    exact Marker.ext hversion.symm hpod.symm

theorem apart_markerFile_binaryPath (tenantDir : String) (marker : Marker) {version : String}
    (hv : Path.IsEntryName version) :
    Apart (markerFile tenantDir marker) (binaryPath tenantDir version) :=
  apart_of_suffix (names?_markerFile tenantDir marker) (names?_binaryPath tenantDir hv)
    (by simp) (by simp)

theorem apart_markerFile_markerPath (tenantDir : String) {marker : Marker} {version : String}
    (hv : Path.IsEntryName version) (hne : marker.version ≠ version) :
    Apart (markerFile tenantDir marker) (markerPath tenantDir version) :=
  apart_of_suffix (names?_markerFile tenantDir marker) (names?_markerPath tenantDir hv)
    (by simp) (by simp [Ne.symm hne])

section

variable {disk : MemoryDisk Content} {tenantDir : String} {marker : Marker}

theorem holds_markerPath_of_markerFile (h : disk.holds (markerFile tenantDir marker) = true) :
    disk.holds (markerPath tenantDir marker.version) = true := by
  obtain ⟨names, hlist, -⟩ := mem_list_of_holds marker.pod_isName h
  obtain ⟨entries, hentry, -⟩ := mem_of_list_eq_ok hlist
  rw [holds, hentry]
  rfl

/-- A directory that lists as empty has no marker in it. -/
theorem holds_markerFile_of_empty
    (h : disk.listing (markerPath tenantDir marker.version) = .ok []) :
    disk.holds (markerFile tenantDir marker) = false := by
  cases hholds : disk.holds (markerFile tenantDir marker) with
  | false => rfl
  | true =>
      obtain ⟨names, hlist, hmem⟩ := mem_list_of_holds marker.pod_isName hholds
      rw [listing_eq] at h
      split at h
      · cases h
      · rw [hlist] at h
        obtain rfl := Except.ok.inj h
        cases hmem

theorem entryAt_mark_of_apart {path : String} (content : Content)
    (h : Apart (markerFile tenantDir marker) path) :
    (disk.mark tenantDir marker content).entryAt path = disk.entryAt path := by
  have hfile := Path.names?_join_entry (markerPath tenantDir marker.version) marker.pod_isName
  unfold MemoryDisk.mark
  split
  · next dir hdir =>
      rw [hdir] at hfile
      rw [entryAt, entryAt]
      cases hnames : Path.names? path with
      | none => rfl
      | some names =>
          obtain ⟨hbelow, habove⟩ := h _ names hfile hnames
          exact find_place_of_apart _ hbelow habove
  · rfl

theorem holds_mark_self (content : Content) {entries : List (String × Tree String Content)}
    (hentry : disk.entryAt (markerPath tenantDir marker.version) = .ok (.dir entries)) :
    (disk.mark tenantDir marker content).holds (markerFile tenantDir marker) = true := by
  rw [entryAt] at hentry
  split at hentry
  · cases hentry
  · next dir hdir =>
      rw [holds, entryAt, Path.names?_join_entry _ marker.pod_isName, hdir]
      simp only [MemoryDisk.mark, hdir, Option.map_some]
      rw [find_place_self marker.pod (.file content) hentry]
      rfl

theorem removable_iff {path : String} :
    Removable disk path ↔ disk.holds path = true ∧ disk.refuses path = false := by
  have h := holds_and_not_removalFails disk path
  rw [Bool.eq_iff_iff] at h
  simpa [Removable] using h

theorem holds_removeAll_self {path : String} (hpath : Path.names? path ≠ some [])
    (h : Removable disk path) : (disk.answer (.removeAll path)).2.holds path = false := by
  rw [holds, entryAt_answer_removeAll_self disk hpath, (removable_iff.1 h).2,
    if_neg Bool.false_ne_true, toBool_vacated]

theorem tree_removeAll_of_not_removable {path : String} (h : ¬ Removable disk path) :
    (disk.answer (.removeAll path)).2.tree = disk.tree := by
  rw [removable_iff, holds, entryAt] at h
  rw [tree_after_removal]
  split
  · rfl
  · next hrefuses =>
      split
      · rfl
      · next names hnames =>
          rw [hnames] at h
          exact if_neg fun hfound => h ⟨hfound, by simpa using hrefuses⟩

/-- What an event of a sweep can be on a disk. -/
def Fits (tenantDir : String) (disk : MemoryDisk Content) : SweepEvent Content → Prop
  | .call (.readDir _) => True
  | .call (.removeAll path) => ∃ version, Path.IsEntryName version ∧
      (path = binaryPath tenantDir version ∨ path = markerPath tenantDir version)
  | .marked marker _ =>
    ∃ entries, disk.entryAt (markerPath tenantDir marker.version) = .ok (.dir entries)

variable {event : SweepEvent Content}

/-- A marker minds no event but its own writing and the removal of the directory that it is in. -/
theorem holds_markerFile_step (hfits : Fits tenantDir disk event)
    (hmarked : ∀ content, event ≠ .marked marker content)
    (hremoval : event = .call (.removeAll (markerPath tenantDir marker.version)) →
      ¬ Removable disk (markerPath tenantDir marker.version)) :
    (disk.step tenantDir event).holds (markerFile tenantDir marker) =
      disk.holds (markerFile tenantDir marker) := by
  have hentry : (disk.step tenantDir event).entryAt (markerFile tenantDir marker) =
      disk.entryAt (markerFile tenantDir marker) := by
    cases event with
    | marked other content =>
        have hne : other ≠ marker := fun heq => hmarked content (by rw [heq])
        exact entryAt_mark_of_apart content (apart_markerFiles tenantDir hne)
    | call call =>
        cases call with
        | readDir path =>
            rw [entryAt, entryAt, MemoryDisk.step, tree_answer_readDir]
        | removeAll path =>
            obtain ⟨version, hv, rfl | rfl⟩ := hfits
            · exact entryAt_answer_removeAll_of_apart disk
                (apart_markerFile_binaryPath tenantDir marker hv).symm
            · by_cases heq : marker.version = version
              · subst heq
                rw [entryAt, entryAt, MemoryDisk.step,
                  tree_removeAll_of_not_removable (hremoval rfl)]
              · exact entryAt_answer_removeAll_of_apart disk
                  (apart_markerFile_markerPath tenantDir hv heq).symm
  rw [holds, holds, hentry]

theorem removal_of_lost (hfits : Fits tenantDir disk event)
    (hbefore : disk.holds (markerFile tenantDir marker) = true)
    (hafter : ¬ (disk.step tenantDir event).holds (markerFile tenantDir marker) = true) :
    event = .call (.removeAll (markerPath tenantDir marker.version)) ∧
      Removable disk (markerPath tenantDir marker.version) := by
  by_contra hnot
  rw [not_and] at hnot
  refine hafter ?_
  by_cases hmarked : ∃ content, event = .marked marker content
  · obtain ⟨content, rfl⟩ := hmarked
    obtain ⟨entries, hentry⟩ := hfits
    exact holds_mark_self content hentry
  · rw [holds_markerFile_step hfits (not_exists.1 hmarked) hnot, hbefore]

theorem marked_of_gained (hfits : Fits tenantDir disk event)
    (hbefore : disk.holds (markerFile tenantDir marker) = false)
    (hafter : ¬ (disk.step tenantDir event).holds (markerFile tenantDir marker) = false) :
    ∃ content, event = .marked marker content := by
  by_contra hnot
  refine hafter ?_
  by_cases hremoval : event = .call (.removeAll (markerPath tenantDir marker.version)) ∧
      Removable disk (markerPath tenantDir marker.version)
  · obtain ⟨rfl, hremovable⟩ := hremoval
    have hpath : Path.names? (markerPath tenantDir marker.version) ≠ some [] := by
      simp [names?_markerPath tenantDir marker.version_isName]
    have hgone := holds_removeAll_self hpath hremovable
    rw [Bool.eq_false_iff] at hgone ⊢
    exact fun h => hgone (holds_markerPath_of_markerFile h)
  · rw [holds_markerFile_step hfits (not_exists.1 hnot) (not_and.1 hremoval), hbefore]

/-- No event of a sweep makes a directory for markers. -/
theorem holds_markerPath_step {version : String} (hv : Path.IsEntryName version)
    (hfits : Fits tenantDir disk event)
    (hbefore : disk.holds (markerPath tenantDir version) = false) :
    (disk.step tenantDir event).holds (markerPath tenantDir version) = false := by
  cases event with
  | marked other content =>
      obtain ⟨entries, hentry⟩ := hfits
      have hne : other.version ≠ version := by
        rintro rfl
        rw [holds, hentry] at hbefore
        cases hbefore
      rw [holds, MemoryDisk.step,
        entryAt_mark_of_apart content (apart_markerFile_markerPath tenantDir hv hne)]
      exact hbefore
  | call call =>
      cases call with
      | readDir path =>
          rw [holds, entryAt, MemoryDisk.step, tree_answer_readDir]
          exact hbefore
      | removeAll path =>
          obtain ⟨other, ho, hpath⟩ := hfits
          have hmark : Path.names? (markerPath tenantDir version) ≠ some [] := by
            simp [names?_markerPath tenantDir hv]
          by_cases heq : path = markerPath tenantDir version
          · subst heq
            rw [holds, MemoryDisk.step, entryAt_answer_removeAll_self disk hmark]
            split
            · exact hbefore
            · exact toBool_vacated _
          · have hapart : Apart path (markerPath tenantDir version) := by
              rcases hpath with rfl | rfl
              · exact apart_of_names? (names?_binaryPath tenantDir ho)
                  (names?_markerPath tenantDir hv) (by simp)
              · refine apart_of_names? (names?_markerPath tenantDir ho)
                  (names?_markerPath tenantDir hv) ?_
                rintro ⟨-, rfl⟩
                exact heq rfl
            rw [holds, MemoryDisk.step, entryAt_answer_removeAll_of_apart disk hapart]
            exact hbefore

end

end FleetOperator
