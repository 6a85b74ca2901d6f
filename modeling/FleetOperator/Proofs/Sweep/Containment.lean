import FleetOperator.Proofs.Dialogue
import FleetOperator.Proofs.Disk.Path
import FleetOperator.Sweep.Collect

/-!
# A sweep stays in the directory of its tenant

The tenant is what a remote service says it is, and it becomes part of every
path that a sweep lists or removes. What keeps a sweep in its place is the
check on the tenant and nothing else: a path joined to another one may start
over, go up, or say nothing at all. A tenant that passes the check says one
name (`Path.isPlainName_iff`), and joining it adds that name
(`Path.components_join_saysOnly`). The names behind it are two fixed ones and
those that the disk lists.

So every call of a sweep is within the directory of its tenant
(`asksOnly_sweepVersions`), and two tenants with different names have no path
in common, nor does one have a path under one of the other
(`Within.leads_apart`).
-/

namespace FleetOperator

variable {σ : Type}

/-- A path in one of the two directories of a tenant, or one of the two itself: the root, the name
of the tenant, `bin` or `gc`, and at most one more name. -/
def Within (root name path : String) : Prop :=
  ∃ directory below, (directory = "bin" ∨ directory = "gc") ∧
    Path.components path =
      Path.components root ++ .normal name :: .normal directory :: below ∧
    (below = [] ∨ ∃ version, Path.IsEntryName version ∧ below = [.normal version])

/-- Paths of two tenants do not lead through each other. -/
theorem Within.leads_apart {root name other path path' : String} (hne : name ≠ other)
    (h : Within root name path) (h' : Within root other path') :
    ¬ Path.components path <+: Path.components path' := by
  obtain ⟨directory, below, -, hpath, -⟩ := h
  obtain ⟨directory', below', -, hpath', -⟩ := h'
  rw [hpath, hpath', List.prefix_append_right_inj]
  intro hprefix
  exact hne (Path.Component.normal.inj (List.cons_prefix_cons.1 hprefix).1)

section

variable {root tenant name version : String}

theorem components_tenantDir (htenant : Path.SaysOnly tenant name) (root : String)
    {directory : String} (hdirectory : directory = "bin" ∨ directory = "gc") :
    Path.components (Path.join (Path.join root tenant) directory) =
      Path.components root ++ [.normal name, .normal directory] := by
  have hentry : Path.IsEntryName directory := by
    rcases hdirectory with rfl | rfl <;> decide
  rw [Path.components_join_entry _ hentry, Path.components_join_saysOnly _ htenant,
    List.append_assoc]
  rfl

theorem within_directory (htenant : Path.SaysOnly tenant name) (root : String)
    {directory : String} (hdirectory : directory = "bin" ∨ directory = "gc") :
    Within root name (Path.join (Path.join root tenant) directory) :=
  ⟨directory, [], hdirectory, components_tenantDir htenant root hdirectory, .inl rfl⟩

theorem within_version (htenant : Path.SaysOnly tenant name) (root : String)
    {directory : String} (hdirectory : directory = "bin" ∨ directory = "gc")
    (hversion : Path.IsEntryName version) :
    Within root name (Path.join (Path.join (Path.join root tenant) directory) version) := by
  refine ⟨directory, [.normal version], hdirectory, ?_, .inr ⟨version, hversion, rfl⟩⟩
  rw [Path.components_join_entry _ hversion, components_tenantDir htenant root hdirectory,
    List.append_assoc]
  rfl

end

/-! ## The calls of a sweep -/

section

variable {p : DiskCall → Prop} {tenantDir latest : String}

theorem asksOnly_tryRemove {path : String} (h : p (.removeAll path)) :
    (tryRemove path).AsksOnly (I := diskInterface) p := by
  refine Dialogue.AsksOnly.bind ⟨h, fun _ => trivial⟩ fun result => ?_
  cases result <;> trivial

/-- The calls for a version are about its two directories. -/
theorem asksOnly_sweepVersion {version : String}
    (hread : p (.readDir (Path.join (referenceDir tenantDir) version)))
    (hbinary : p (.removeAll (Path.join (binaryDir tenantDir) version)))
    (hreferences : p (.removeAll (Path.join (referenceDir tenantDir) version))) :
    (sweepVersion tenantDir latest version).AsksOnly (I := diskInterface) p := by
  unfold sweepVersion
  split
  · trivial
  · refine Dialogue.AsksOnly.bind ⟨hread, fun _ => trivial⟩ fun result => ?_
    split
    · exact (asksOnly_tryRemove hbinary).bind fun _ =>
        (asksOnly_tryRemove hreferences).bind fun _ => trivial
    · trivial

theorem asksOnly_sweepVersions {versions : List String}
    (h : ∀ version ∈ versions, (sweepVersion tenantDir latest version).AsksOnly
      (I := diskInterface) p) :
    (sweepVersions tenantDir latest versions).AsksOnly (I := diskInterface) p := by
  induction versions with
  | nil => trivial
  | cons version rest ih =>
      obtain ⟨hversion, hrest⟩ := List.forall_mem_cons.1 h
      exact hversion.bind fun _ => (ih hrest).bind fun _ => trivial

end

/-- A sweep of a tenant that is none makes no calls. -/
theorem collect_of_rejected {root tenant : String} (h : Path.isPlainName tenant = false)
    (latest : String) : collect root tenant latest = .done .empty := by
  rw [collect, if_neg (by simp [h])]
  rfl

/-- The names that a disk lists for a directory are such as entries can have. -/
def ListsNames (partner : (call : DiskCall) → σ → Except DiskError call.Result × σ) (state : σ)
    (path : String) : Prop :=
  ∀ names : List String, (partner (.readDir path) state).1 = .ok names →
    ∀ name ∈ names, Path.IsEntryName name

theorem within_of_mem_moments {root tenant name latest : String}
    {partner : (call : DiskCall) → σ → Except DiskError call.Result × σ} {state : σ}
    (htenant : Path.SaysOnly tenant name)
    (hlists : ListsNames partner state (referenceDir (Path.join root tenant)))
    {moment : Moment diskInterface σ}
    (hmem : moment ∈ (collect root tenant latest).moments partner state) :
    Within root name moment.call.path := by
  rw [collect, if_pos (Path.isPlainName_iff.2 ⟨name, htenant⟩)] at hmem
  rcases List.mem_cons.1 hmem with rfl | hmem
  · exact within_directory htenant root (.inr rfl)
  · cases hanswer : (partner (.readDir (referenceDir (Path.join root tenant))) state).1 with
    | error e =>
        rw [hanswer] at hmem
        cases hmem
    | ok versions =>
        rw [hanswer] at hmem
        refine Dialogue.call_of_mem_moments (I := diskInterface)
          (p := fun call : DiskCall => Within root name call.path)
          (asksOnly_sweepVersions fun version hversion => ?_) hmem
        have hentry := hlists versions hanswer version hversion
        exact asksOnly_sweepVersion (within_version htenant root (.inr rfl) hentry)
          (within_version htenant root (.inl rfl) hentry)
          (within_version htenant root (.inr rfl) hentry)

/-- A path that a sweep of a tenant can list or remove, on a disk of any kind that lists such names
as entries can have. -/
def Touches (root tenant path : String) : Prop :=
  ∃ (σ : Type) (partner : (call : DiskCall) → σ → Except DiskError call.Result × σ) (state : σ)
    (latest : String), ListsNames partner state (referenceDir (Path.join root tenant)) ∧
      ∃ moment ∈ (collect root tenant latest).moments partner state, moment.call.path = path

theorem Touches.within {root tenant name path : String} (h : Touches root tenant path)
    (htenant : Path.SaysOnly tenant name) : Within root name path := by
  obtain ⟨σ, partner, state, latest, hlists, moment, hmem, rfl⟩ := h
  exact within_of_mem_moments htenant hlists hmem

/-- A tenant is accepted exactly if its first segment is a name and the others say nothing, and
one that is not accepted is not swept. All that a sweep lists or removes is in the two directories
under that name. So what a sweep for one name lists or removes is neither the same as what a sweep
for another one does, nor is it above or below that. -/
theorem sweeps_stay_with_their_tenant (root : String) :
    (∀ tenant, Path.isPlainName tenant = true ↔ ∃ name, Path.SaysOnly tenant name) ∧
    (∀ tenant, Path.isPlainName tenant = false →
      ∀ latest, collect root tenant latest = .done .empty) ∧
    (∀ tenant name path, Path.SaysOnly tenant name → Touches root tenant path →
      Within root name path) ∧
    ∀ tenant name path tenant' name' path', Path.SaysOnly tenant name →
      Path.SaysOnly tenant' name' → name ≠ name' → Touches root tenant path →
      Touches root tenant' path' → ¬ Path.components path <+: Path.components path' :=
  ⟨fun _ => Path.isPlainName_iff, fun _ h latest => collect_of_rejected h latest,
    fun _ _ _ htenant h => h.within htenant,
    fun _ _ _ _ _ _ htenant htenant' hne h h' =>
      (h.within htenant).leads_apart hne (h'.within htenant')⟩

/-- A disk that lists one version first and nothing after that, and from which all can be
removed. -/
def listsOnce : (call : DiskCall) → Bool → Except DiskError call.Result × Bool
  | .readDir _, first => (.ok (if first then ["1"] else []), false)
  | .removeAll _, first => (.ok (), first)

theorem touches_listsOnce : Touches "/srv" "t/." "/srv/t/./bin/1" := by
  have hpaths : ((collect "/srv" "t/." "2").moments listsOnce true).map (·.call.path) =
      ["/srv/t/./gc", "/srv/t/./gc/1", "/srv/t/./bin/1", "/srv/t/./gc/1"] := by
    decide +kernel
  have hmem : "/srv/t/./bin/1" ∈
      ((collect "/srv" "t/." "2").moments listsOnce true).map (·.call.path) := by
    rw [hpaths]
    decide
  obtain ⟨moment, hmoment, hpath⟩ := List.mem_map.1 hmem
  refine ⟨Bool, listsOnce, true, "2", ?_, moment, hmoment, hpath⟩
  intro names hnames name hname
  obtain rfl := Except.ok.inj hnames
  obtain rfl := List.mem_singleton.1 hname
  decide

theorem saysOnly_dotted : Path.SaysOnly "t/." "t" where
  segments := ⟨["."], by decide +kernel, by decide⟩
  not_empty := by decide
  not_dot := by decide
  not_dotDot := by decide

/-- A tenant with a dot behind it is swept, in its own directory. -/
theorem dotted_tenant_is_swept_in_place :
    Path.SaysOnly "t/." "t" ∧ Touches "/srv" "t/." "/srv/t/./bin/1" ∧
      Within "/srv" "t" "/srv/t/./bin/1" := by
  obtain ⟨-, -, hwithin, -⟩ := sweeps_stay_with_their_tenant "/srv"
  exact ⟨saysOnly_dotted, touches_listsOnce,
    hwithin "t/." "t" "/srv/t/./bin/1" saysOnly_dotted touches_listsOnce⟩

end FleetOperator
