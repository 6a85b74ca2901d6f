import FleetOperator.Proofs.Disk.Memory

/-!
# Disks that list in any order

A disk promises the names of a directory in no order. `runIn` runs a program
on a disk in memory whose listings are put into an order of the reader's
choice; the order in which such a disk lists by itself is one of them
(`runIn_own`). Whether a directory is empty is the same in every order.

Of what a call is answered with, everything but the order of names depends
on the failures that are set and on what is found under its path
(`SameView`). So a call that leaves a path alone leaves all answers about it
alone.
-/

namespace FleetOperator

/-- In which order directories are listed; it may be another one for each of them. -/
structure ListingOrder where
  arrange : String → List String → List String
  perm : ∀ path names, (arrange path names).Perm names

/-- The order in which a disk lists by itself. -/
def ListingOrder.own : ListingOrder := ⟨fun _ names => names, fun _ names => .refl names⟩

namespace MemoryDisk

variable {Content α β : Type}

/-- Answers a call, with the names of a listing in the given order. -/
def answerIn (order : ListingOrder) : (call : DiskCall) → MemoryDisk Content →
    Except DiskError call.Result × MemoryDisk Content
  | .readDir path, disk =>
    ((disk.answer (.readDir path)).1.map (order.arrange path), (disk.answer (.readDir path)).2)
  | .removeAll path, disk => disk.answer (.removeAll path)

/-- Runs a program of disk calls on a disk that lists in the given order. -/
def runIn (order : ListingOrder) (program : Dialogue diskInterface α)
    (disk : MemoryDisk Content) : α × MemoryDisk Content :=
  Dialogue.run (I := diskInterface) (answerIn order) program disk

theorem answerIn_own (call : DiskCall) (disk : MemoryDisk Content) :
    answerIn .own call disk = disk.answer call := by
  cases call with
  | removeAll path => rfl
  | readDir path =>
      have hmap : (disk.answer (.readDir path)).1.map (ListingOrder.own.arrange path) =
          (disk.answer (.readDir path)).1 := by
        cases (disk.answer (.readDir path)).1 <;> rfl
      exact Prod.ext hmap rfl

theorem runIn_own (program : Dialogue diskInterface α) (disk : MemoryDisk Content) :
    disk.runIn .own program = disk.run program := by
  have hanswer : (answerIn ListingOrder.own : (call : DiskCall) → MemoryDisk Content → _) =
      answer := by
    funext call disk
    exact answerIn_own call disk
  rw [runIn, run, hanswer]

/-! ## Runs by the parts of a program -/

theorem runIn_readDir_bind (order : ListingOrder) (disk : MemoryDisk Content) (path : String)
    (next : Except DiskError (List String) → Dialogue diskInterface α) :
    disk.runIn order (Disk.readDir path >>= next) =
      (disk.answer (.readDir path)).2.runIn order
        (next ((disk.listing path).map (order.arrange path))) := rfl

theorem runIn_removeAll_bind (order : ListingOrder) (disk : MemoryDisk Content) (path : String)
    (next : Except DiskError Unit → Dialogue diskInterface α) :
    disk.runIn order (Disk.removeAll path >>= next) =
      (disk.answer (.removeAll path)).2.runIn order
        (next (disk.answer (.removeAll path)).1) := rfl

theorem runIn_bind (order : ListingOrder) (disk : MemoryDisk Content)
    (program : Dialogue diskInterface α) (next : α → Dialogue diskInterface β) :
    disk.runIn order (program >>= next) =
      (disk.runIn order program).2.runIn order (next (disk.runIn order program).1) :=
  Dialogue.run_bind _ _ _ _

/-- An order finds a directory empty if it is. -/
theorem map_arrange_eq_nil (order : ListingOrder) (path : String)
    {listed : Except DiskError (List String)} :
    listed.map (order.arrange path) = .ok [] ↔ listed = .ok [] := by
  cases listed with
  | error e => exact Iff.rfl
  | ok names =>
      have harrange : order.arrange path names = [] ↔ names = [] := by
        constructor
        · intro h
          exact List.Perm.nil_eq (h ▸ order.perm path names) |>.symm
        · intro h
          exact List.perm_nil.1 (h ▸ order.perm path names)
      simp [Except.map, harrange]

theorem listing_of_no_faults {disk : MemoryDisk Content} (h : disk.faults = [])
    (path : String) : disk.listing path = disk.list path := by
  rw [listing_eq, fault?, h]
  rfl

/-- A listing has the names of the entries, each as often as the directory. -/
theorem perm_of_listing {disk : MemoryDisk Content} {path : String} {names : List String}
    (h : disk.listing path = .ok names) :
    ∃ entries, disk.entryAt path = .ok (.dir entries) ∧ names.Perm (entries.map (·.1)) := by
  rw [listing_eq] at h
  split at h
  · cases h
  · obtain ⟨entries, hentry, -⟩ := mem_of_list_eq_ok h
    refine ⟨entries, hentry, ?_⟩
    rw [list_eq, hentry] at h
    obtain rfl := Except.ok.inj h
    split
    · exact (List.reverse_perm _).trans (List.mergeSort_perm _ _)
    · exact List.mergeSort_perm _ _

/-! ## What an answer depends on -/

/-- Whether removing a path fails. -/
def removalFails (disk : MemoryDisk Content) (path : String) : Bool :=
  !(disk.answer (.removeAll path)).1.toBool

theorem removalFails_eq (disk : MemoryDisk Content) (path : String) :
    disk.removalFails path =
      (disk.refuses path || match disk.entryAt path with
        | .ok _ => false
        | .error e => e != .notFound) := by
  rw [removalFails, answer_eq, refuses, entryAt]
  cases disk.fault? (.removeAll path) with
  | some e => rfl
  | none =>
      simp only [serve, removed]
      cases Path.names? path with
      | none => rfl
      | some names =>
          simp only
          cases find names disk.tree with
          | ok entry => rfl
          | error e => cases e <;> rfl

/-- A removal takes something out if it is not made to fail and there is something. -/
theorem holds_and_not_removalFails (disk : MemoryDisk Content) (path : String) :
    (disk.holds path && !disk.removalFails path) = (disk.holds path && !disk.refuses path) := by
  rw [removalFails_eq, holds]
  cases disk.entryAt path with
  | error e => rfl
  | ok entry => simp only [Bool.or_false]

/-- The failures that are set and what is found under a path are the same. -/
structure SameView (disk other : MemoryDisk Content) (path : String) : Prop where
  setting : SameSetting disk other
  entry : other.entryAt path = disk.entryAt path

namespace SameView

variable {disk other third : MemoryDisk Content} {path : String}

theorem trans (h : SameView disk other path) (h' : SameView other third path) :
    SameView disk third path :=
  ⟨h.setting.trans h'.setting, h'.entry.trans h.entry⟩

theorem listing (h : SameView disk other path) : other.listing path = disk.listing path := by
  rw [listing_eq, listing_eq, h.setting.fault?, list_eq, list_eq, h.entry, h.setting.descending]

theorem holds (h : SameView disk other path) : other.holds path = disk.holds path := by
  rw [MemoryDisk.holds, MemoryDisk.holds, h.entry]

theorem removalFails (h : SameView disk other path) :
    other.removalFails path = disk.removalFails path := by
  rw [removalFails_eq, removalFails_eq, h.setting.refuses, h.entry]

end SameView

theorem sameView_refl (disk : MemoryDisk Content) (path : String) : SameView disk disk path :=
  ⟨⟨rfl, rfl⟩, rfl⟩

theorem sameView_answer_readDir (disk : MemoryDisk Content) (listed path : String) :
    SameView disk (disk.answer (.readDir listed)).2 path := by
  refine ⟨sameSetting_answer disk _, ?_⟩
  rw [entryAt, entryAt, tree_answer_readDir]

theorem sameView_answer_removeAll (disk : MemoryDisk Content) {removed path : String}
    (h : Apart removed path) : SameView disk (disk.answer (.removeAll removed)).2 path :=
  ⟨sameSetting_answer disk _, entryAt_answer_removeAll_of_apart disk h⟩

end MemoryDisk

end FleetOperator
