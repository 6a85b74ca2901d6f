import FleetOperator.Proofs.Gateway.SideBySide

/-!
# Fleets side by side

The cycles of several fleets run on one cluster, and take turns call by call.
A fleet has its objects and the secret with its custom properties under names
that begin with its own name and a dash. One fleet may be called `a` and
another one `a-kubemon`, so it is the end of a name that tells which part of
it is the name of the fleet: the modules end in different letters, and so do
the owners of the secrets (`eq_of_dashed_eq`). Hence fleets of different names
or namespaces have territories that are apart, unless one of them is told to
read a secret of the other (`territories_apart`).

Cycles look before they write (`looksFirst_fleetCycles`), do not see resource
versions (`alike_fleetCycles`) and stay in the territory of their fleet
(`within_of_fleetCall`). So a fleet comes to the same results and leaves the
same objects and secrets whether the others have their turns or not
(`fleets_do_not_interfere`).
-/

namespace FleetOperator

open SimulatedCluster

/-! ## Names with a dash in them -/

/-- Words that end in different characters; the empty one ends in the dash before it. -/
def EndApart (words : List String) : Prop :=
  ∀ word ∈ words, ∀ other ∈ words,
    word.toList.getLast?.getD '-' = other.toList.getLast?.getD '-' → word = other

/-- What stands before the last dash is known, whatever dashes it has itself. -/
theorem eq_of_dashed_eq {words : List String} (hwords : EndApart words)
    {first second word other : String} (hword : word ∈ words) (hother : other ∈ words)
    (h : first ++ "-" ++ word = second ++ "-" ++ other) : first = second := by
  have hlast (name word : String) :
      (name ++ "-" ++ word).toList.getLast? = some (word.toList.getLast?.getD '-') := by
    rw [String.toList_append, String.toList_append, List.getLast?_append, List.getLast?_append]
    cases word.toList.getLast? <;> rfl
  -- The last characters are the same, so the words are, and then both come off.
  have hends := congrArg (·.toList.getLast?) h
  simp only [hlast, Option.some.injEq] at hends
  obtain rfl := hwords word hword other hother hends
  rwa [String.append_left_inj, String.append_left_inj] at h

theorem endApart_modules : EndApart ["multi", "kubemon", "routing"] := by
  unfold EndApart
  decide

theorem endApart_owners : EndApart ["kubernetes-monitoring", ""] := by
  unfold EndApart
  decide

/-! ## What a fleet has to do with -/

/-- The names of the stateful sets of a fleet. -/
def gatewayNames (fleetName : String) : List String :=
  ["multi", "kubemon", "routing"].map fun moduleName => fleetName ++ "-" ++ moduleName

namespace Fleet

/-- A place for a stateful set of a fleet. -/
def HasPlace (fleet : Fleet) (key : ObjectKey) : Prop :=
  fleet.ns? = some key.ns ∧ key.name ∈ gatewayNames fleet.name

/-- The gateways of a fleet; none if they cannot be put together. -/
def gateways (operatorVersion : String) (fleet : Fleet) : List GatewayDescriptor :=
  match GatewayDescriptor.all fleet .builtin operatorVersion with
  | .ok gateways => gateways
  | .error _ => []

/-- The secrets that a fleet refers to for custom properties. -/
def referredSecrets (operatorVersion : String) (fleet : Fleet) : List String :=
  ((fleet.gateways operatorVersion).filter (·.enabled)).filterMap fun gateway =>
    gateway.customProperties?.bind (·.reference?)

/-- The secrets that a fleet keeps custom properties in. -/
def ownSecrets (operatorVersion : String) (fleet : Fleet) : List String :=
  ((fleet.gateways operatorVersion).filter (·.ownProperties?.isSome)).map (·.ownSecret fleet.name)

def ReadsSecret (operatorVersion : String) (fleet : Fleet) (key : ObjectKey) : Prop :=
  fleet.ns? = some key.ns ∧ key.name ∈ fleet.referredSecrets operatorVersion

def WritesSecret (operatorVersion : String) (fleet : Fleet) (key : ObjectKey) : Prop :=
  fleet.ns? = some key.ns ∧ key.name ∈ fleet.ownSecrets operatorVersion

/-- A call to a collaborator in the namespace of a fleet, and only about stateful sets of it. -/
def Addresses (fleet : Fleet) : GatewayCall → Prop
  | .applyProperties _ ns _ _ => fleet.ns? = some ns
  | .readSecret ns _ => fleet.ns? = some ns
  | .serverVersion => True
  | .get ns name => fleet.HasPlace ⟨ns, name⟩
  | .create workload => fleet.HasPlace workload.key
  | .update workload => fleet.HasPlace workload.key
  | .delete workload => fleet.HasPlace workload.key

/-- Another fleet by name or namespace, which keeps nothing in a secret that the first one refers
to. -/
structure StrangerTo (operatorVersion : String) (fleet other : Fleet) : Prop where
  ne : fleet.name ≠ other.name ∨ fleet.ns? ≠ other.ns?
  secrets : fleet.ns? = other.ns? → ∀ secret ∈ fleet.referredSecrets operatorVersion,
    secret ∉ other.ownSecrets operatorVersion

end Fleet

/-- The territory of a client that runs the cycles of some fleets. -/
def fleetTerritory (operatorVersion : String) (fleets : List Fleet) : Territory where
  owns key := ∃ fleet ∈ fleets, fleet.HasPlace key
  reads key := ∃ fleet ∈ fleets, fleet.ReadsSecret operatorVersion key
  writes key := ∃ fleet ∈ fleets, fleet.WritesSecret operatorVersion key

section

variable {operatorVersion : String} {fleet other : Fleet} {gateway : GatewayDescriptor}
  {base : WorkloadMeta} {call : GatewayCall} {key : ObjectKey}

/-! ### Territories are apart -/

theorem exists_owner_of_mem_ownSecrets {secret : String}
    (h : secret ∈ fleet.ownSecrets operatorVersion) :
    ∃ owner ∈ ["kubernetes-monitoring", ""],
      secret = customPropertiesSecretName fleet.name owner := by
  obtain ⟨gateway, hgateway, rfl⟩ := List.mem_map.1 h
  obtain ⟨hmem, hown⟩ := List.mem_filter.1 hgateway
  rw [Option.isSome_iff_ne_none] at hown
  refine ⟨gateway.configuration.serviceAccountOwner, ?_, rfl⟩
  unfold Fleet.gateways at hmem
  split at hmem
  · next hall =>
      obtain ⟨merged, kubemon, routing, rfl, hmerged, hkubemon, hrouting⟩ := keepsUnder_all hall
      simp only [List.mem_cons, List.not_mem_nil, or_false] at hmem
      rcases hmem with rfl | rfl | rfl
      · rw [hmerged.owner_eq (hmerged.own_eq ▸ hown), Fleet.mergedOwner]
        split
        · exact List.mem_cons_self
        · exact List.mem_cons_of_mem _ List.mem_cons_self
      · rw [hkubemon.owner_eq (hkubemon.own_eq ▸ hown)]
        exact List.mem_cons_self
      · rw [hrouting.owner_eq (hrouting.own_eq ▸ hown)]
        exact List.mem_cons_of_mem _ List.mem_cons_self
  · cases hmem

theorem not_hasPlace_of_ne (hne : fleet.name ≠ other.name ∨ fleet.ns? ≠ other.ns?)
    (h : fleet.HasPlace key) : ¬ other.HasPlace key := by
  rintro ⟨hns', hname'⟩
  obtain ⟨hns, hname⟩ := h
  obtain ⟨word, hword, hkey⟩ := List.mem_map.1 hname
  obtain ⟨word', hword', hkey'⟩ := List.mem_map.1 hname'
  have hsame : fleet.name = other.name :=
    eq_of_dashed_eq endApart_modules hword hword' (hkey.trans hkey'.symm)
  rcases hne with hne | hne
  · exact hne hsame
  · exact hne (hns.trans hns'.symm)

theorem not_writesSecret_of_ne (hne : fleet.name ≠ other.name ∨ fleet.ns? ≠ other.ns?)
    (h : fleet.WritesSecret operatorVersion key) : ¬ other.WritesSecret operatorVersion key := by
  rintro ⟨hns', hsecret'⟩
  obtain ⟨hns, hsecret⟩ := h
  obtain ⟨owner, howner, hkey⟩ := exists_owner_of_mem_ownSecrets hsecret
  obtain ⟨owner', howner', hkey'⟩ := exists_owner_of_mem_ownSecrets hsecret'
  have hname := hkey.symm.trans hkey'
  unfold customPropertiesSecretName at hname
  rw [String.append_left_inj] at hname
  have hsame : fleet.name = other.name := eq_of_dashed_eq endApart_owners howner howner' hname
  rcases hne with hne | hne
  · exact hne hsame
  · exact hne (hns.trans hns'.symm)

theorem territories_apart {fleets others : List Fleet}
    (h : ∀ fleet ∈ fleets, ∀ other ∈ others, fleet.StrangerTo operatorVersion other) :
    (fleetTerritory operatorVersion fleets).Apart (fleetTerritory operatorVersion others) where
  owns := fun _ ⟨fleet, hfleet, hkey⟩ ⟨other, hother, hkey'⟩ =>
    not_hasPlace_of_ne (h fleet hfleet other hother).ne hkey hkey'
  reads := fun _ ⟨fleet, hfleet, hns, hsecret⟩ ⟨other, hother, hns', hsecret'⟩ =>
    (h fleet hfleet other hother).secrets (hns.trans hns'.symm) _ hsecret hsecret'
  writes := fun _ ⟨fleet, hfleet, hkey⟩ ⟨other, hother, hkey'⟩ =>
    not_writesSecret_of_ne (h fleet hfleet other hother).ne hkey hkey'

/-! ### Calls are within -/

theorem hasPlace_of_mayBeAt {gateways : List GatewayDescriptor}
    (hall : GatewayDescriptor.all fleet .builtin operatorVersion = .ok gateways)
    (hmem : gateway ∈ gateways) (hbase : fleet.workloadMeta = .ok base)
    (hkey : gateway.MayBeAt [] base key) : fleet.HasPlace key := by
  obtain ⟨hname, hns⟩ := Fleet.exists_base hbase
  have hsame : key = gateway.key base := by
    unfold GatewayDescriptor.MayBeAt at hkey
    split at hkey
    · obtain ⟨hash, version, rfl⟩ := hkey
      exact key_desired (by simp) base gateway hash version
    · exact hkey
  have hmodule : gateway.moduleName ∈ gateways.map (·.moduleName) := List.mem_map_of_mem hmem
  rw [map_moduleName_of_all tellsApart_builtin hall] at hmodule
  rw [hsame]
  refine ⟨hns, List.mem_map.2 ⟨gateway.moduleName, hmodule, ?_⟩⟩
  rw [← hname]
  rfl

/-- The calls of a cycle are in the namespace of its fleet, and only about stateful sets of it. -/
theorem addresses_of_fleetCall (h : FleetCall .builtin operatorVersion [] fleet call) :
    fleet.Addresses call := by
  obtain ⟨gateways, gateway, hall, hmem, hcall⟩ := h
  cases hcall with
  | applyProperties _ hbase | readSecret _ hbase => exact (Fleet.exists_base hbase).2
  | serverVersion => trivial
  | get hbase hkey | create hbase hkey | update hbase hkey | delete hbase hkey =>
      exact hasPlace_of_mayBeAt hall hmem hbase hkey

/-- The secret that an enabled gateway applies is one of its fleet. -/
theorem mem_ownSecrets_of_applied {owner : OwnerReference} {properties : ValueSource}
    {secret : Secret} (hmem : gateway ∈ fleet.gateways operatorVersion)
    (henabled : gateway.enabled = true) (howner : fleet.ownerReference? = some owner)
    (hproperties : gateway.customProperties? = some properties)
    (h : secretToApply? owner base.ns gateway.configuration.serviceAccountOwner properties =
      some secret) :
    secret.ns = base.ns ∧ secret.name ∈ fleet.ownSecrets operatorVersion := by
  unfold secretToApply? at h
  split at h
  · cases h
  · next hreference =>
      obtain rfl := Option.some.inj h
      have hown : gateway.ownProperties?.isSome = true := by
        unfold GatewayDescriptor.customProperties? at hproperties
        rw [GatewayDescriptor.ownProperties?, if_pos henabled,
          CapabilityProperties.inlineProperties?, hproperties]
        simp only [hreference]
        rfl
      refine ⟨rfl, List.mem_map.2 ⟨gateway, List.mem_filter.2 ⟨hmem, hown⟩, ?_⟩⟩
      exact congrArg (customPropertiesSecretName · _) (Fleet.name_of_ownerReference howner).symm

theorem within_of_fleetCall {fleets : List Fleet} (hmem : fleet ∈ fleets)
    (h : FleetCall .builtin operatorVersion [] fleet call) :
    call.Within (fleetTerritory operatorVersion fleets) := by
  have haddresses := addresses_of_fleetCall h
  obtain ⟨gateways, gateway, hall, hgateway, hcall⟩ := h
  have hgateways : gateway ∈ fleet.gateways operatorVersion := by
    rw [Fleet.gateways, hall]
    exact hgateway
  cases hcall with
  | applyProperties henabled hbase howner hproperties =>
      intro secret hsecret
      obtain ⟨hns, hname⟩ :=
        mem_ownSecrets_of_applied hgateways henabled howner hproperties hsecret
      exact ⟨fleet, hmem, haddresses.trans (congrArg some hns.symm), hname⟩
  | readSecret henabled _ hproperties hreference =>
      refine ⟨fleet, hmem, haddresses, ?_⟩
      refine List.mem_filterMap.2 ⟨gateway, List.mem_filter.2 ⟨hgateways, henabled⟩, ?_⟩
      rw [hproperties]
      exact hreference
  | serverVersion => trivial
  | get | create | update | delete => exact ⟨fleet, hmem, haddresses⟩

end

/-! ## Cycle after cycle -/

/-- Cycles of a fleet, one after the other. What the fleet asks for may differ between them. -/
def fleetCycles (operatorVersion : String) :
    List Fleet → Dialogue gatewayInterface (List (Except GatewayError Nat))
  | [] => .done []
  | fleet :: rest =>
    (ExceptT.run (reconcileFleet .builtin operatorVersion [] fleet)).bind fun result =>
      (fleetCycles operatorVersion rest).bind fun results => .done (result :: results)

theorem looksFirst_fleetCycles (operatorVersion : String) (fleets : List Fleet) :
    (fleetCycles operatorVersion fleets).LooksFirst
      (fun call => ∃ fleet ∈ fleets, FleetCall .builtin operatorVersion [] fleet call) none := by
  induction fleets with
  | nil => trivial
  | cons fleet rest ih =>
      refine Dialogue.LooksFirst.bind ?_ fun result => .bind ?_ fun results => trivial
      · exact Dialogue.LooksFirst.mono (fun call hcall => ⟨fleet, List.mem_cons_self, hcall⟩)
          looksFirst_reconcileFleet
      · exact ih.mono fun call ⟨other, hmem, hcall⟩ => ⟨other, List.mem_cons_of_mem _ hmem, hcall⟩

theorem alike_fleetCycles (operatorVersion : String) (fleets : List Fleet) :
    (fleetCycles operatorVersion fleets).Alike (fleetCycles operatorVersion fleets) := by
  induction fleets with
  | nil => exact .done []
  | cons fleet rest ih =>
      exact .bind (alike_reconcileFleet .builtin operatorVersion) fun result =>
        ih.bind fun results => .done _

def fleetClients {ι : Type} (operatorVersion : String) (fleets : ι → List Fleet)
    (cluster : SimulatedCluster) : Clients ι (List (Except GatewayError Nat)) where
  programs who := fleetCycles operatorVersion (fleets who)
  cluster := cluster

section

open Clients

variable {ι : Type} {operatorVersion : String} {fleets : ι → List Fleet}
  {cluster : SimulatedCluster}

theorem orderly_fleetClients (hkeyed : cluster.Keyed) :
    Orderly (fun who call => ∃ fleet ∈ fleets who, FleetCall .builtin operatorVersion [] fleet call)
      (fun who => fleetTerritory operatorVersion (fleets who))
      (fleetClients operatorVersion fleets cluster) :=
  ⟨hkeyed, fun who => ⟨none, looksFirst_fleetCycles operatorVersion (fleets who), by simp⟩⟩

variable [DecidableEq ι]

/-- Whatever the other clients do, a call of a cycle is in the namespace of its fleet, and only
about stateful sets of it. -/
theorem addresses_of_pending (server : SecretServer) (hkeyed : cluster.Keyed) (who : ι)
    (turns : List (Turn ι)) {call : GatewayCall}
    (h : (((fleetClients operatorVersion fleets cluster).after server turns).programs
      who).pending? = some call) : ∃ fleet ∈ fleets who, fleet.Addresses call := by
  have hlooks : ((fleetClients operatorVersion fleets cluster).programs who).LooksFirst _ none :=
    looksFirst_fleetCycles operatorVersion (fleets who)
  obtain ⟨look?, hnow, -⟩ := exists_look server hlooks hkeyed turns
  cases hprogram : ((fleetClients operatorVersion fleets cluster).after server turns).programs
      who with
  | done value =>
      rw [hprogram] at h
      cases h
  | ask asked next =>
      rw [hprogram] at h hnow
      obtain rfl := Option.some.inj h
      obtain ⟨fleet, hmem, hcall⟩ := hnow.1.1
      exact ⟨fleet, hmem, addresses_of_fleetCall hcall⟩

/-- To a client whose fleets are strangers to those of the others, a run next to the others looks
like one of its own turns only. -/
theorem mirrors_after_fleetClients {server : SecretServer} (hlocal : server.Local)
    (hkeyed : cluster.Keyed)
    (hstrangers : ∀ who other, who ≠ other → ∀ fleet ∈ fleets who, ∀ neighbour ∈ fleets other,
      fleet.StrangerTo operatorVersion neighbour) (who : ι) (turns : List (Turn ι)) :
    Mirrors (fleetTerritory operatorVersion (fleets who)) who
      ((fleetClients operatorVersion fleets cluster).after server turns)
      ((fleetClients operatorVersion fleets cluster).after server
        (turns.filter (·.who = who))) := by
  have horderly : Orderly _ _ (fleetClients operatorVersion fleets cluster) :=
    orderly_fleetClients hkeyed
  have hsame : Mirrors (fleetTerritory operatorVersion (fleets who)) who
      (fleetClients operatorVersion fleets cluster)
      (fleetClients operatorVersion fleets cluster) :=
    ⟨alike_fleetCycles operatorVersion (fleets who), .refl _ _⟩
  exact mirrors_after hlocal
    (fun who call ⟨fleet, hmem, hcall⟩ => within_of_fleetCall hmem hcall)
    (fun who other hne => territories_apart (hstrangers who other hne)) horderly horderly hsame
    turns

/-- Every call of a cycle is in the namespace of its fleet, and only about stateful sets of it.
And where the fleets of different clients differ in name or namespace, and none refers to a
secret that another one writes, the cycles of a client come to the same results next to the
others as alone, and leave the same stateful sets and secrets, apart from resource versions. -/
theorem fleets_do_not_interfere {server : SecretServer} (hlocal : server.Local)
    (operatorVersion : String) (fleets : ι → List Fleet) {cluster : SimulatedCluster}
    (hkeyed : cluster.Keyed) (who : ι) (turns : List (Turn ι)) :
    let start := fleetClients operatorVersion fleets cluster
    let together := start.after server turns
    let alone := start.after server (turns.filter (·.who = who))
    (∀ call, (together.programs who).pending? = some call →
      ∃ fleet ∈ fleets who, fleet.Addresses call) ∧
    ((∀ who other, who ≠ other → ∀ fleet ∈ fleets who, ∀ neighbour ∈ fleets other,
        fleet.StrangerTo operatorVersion neighbour) →
      (together.programs who).result? = (alone.programs who).result? ∧
      ∀ fleet ∈ fleets who,
        (∀ key, fleet.HasPlace key →
          SameContents (together.cluster.objects.get? key) (alone.cluster.objects.get? key)) ∧
        ∀ key, fleet.WritesSecret operatorVersion key →
          together.cluster.secrets.get? key = alone.cluster.secrets.get? key) := by
  refine ⟨fun call hcall => addresses_of_pending server hkeyed who turns hcall,
    fun hstrangers => ?_⟩
  have h := mirrors_after_fleetClients hlocal hkeyed hstrangers who turns
  refine ⟨h.programs.result?_eq, fun fleet hmem => ⟨fun key hkey => ?_, fun key hkey => ?_⟩⟩
  · exact h.clusters.contents key ⟨fleet, hmem, hkey⟩
  · exact h.clusters.secrets key (.inr ⟨fleet, hmem, hkey⟩)

end

/-! ## Two fleets to go by -/

theorem local_replacing : SecretServer.replacing.Local := by
  intro secret secrets others _
  exact (SortedMap.get?_insert_self _ _ _).trans (SortedMap.get?_insert_self _ _ _).symm

/-- A fleet under the name of the merged gateway of the sample fleet, which keeps its custom
properties in a secret of its own. -/
def nearFleet : Fleet :=
  { sampleFleet with
    header := { sampleFleet.header with name := some "fleet-multi" }
    spec := { sampleFleet.spec with
      activeGate := { sampleFleet.spec.activeGate with properties := inlineOnly "a=1" } } }

/-- One client has the sample fleet, which loses its capability after a cycle, and the other one
has the fleet next to it. -/
def sampleFleets : Bool → List Fleet
  | false => [sampleFleet, idleFleet]
  | true => [nearFleet]

theorem strangers_sampleFleets : ∀ who other, who ≠ other → ∀ fleet ∈ sampleFleets who,
    ∀ neighbour ∈ sampleFleets other, fleet.StrangerTo "1.0.0" neighbour := by
  have hnames : ∀ who other, who ≠ other → ∀ fleet ∈ sampleFleets who,
      ∀ neighbour ∈ sampleFleets other, fleet.name ≠ neighbour.name := by decide
  have hsecrets : ∀ who other, who ≠ other → ∀ fleet ∈ sampleFleets who,
      ∀ neighbour ∈ sampleFleets other, ∀ secret ∈ fleet.referredSecrets "1.0.0",
        secret ∉ neighbour.ownSecrets "1.0.0" := by decide
  exact fun who other hne fleet hfleet neighbour hneighbour =>
    ⟨.inl (hnames who other hne fleet hfleet neighbour hneighbour),
      fun _ => hsecrets who other hne fleet hfleet neighbour hneighbour⟩

/-- The two clients in turn, the one with the sample fleet first. -/
def inTurn : List (Turn Bool) := (List.replicate 11 [⟨false, none⟩, ⟨true, none⟩]).flatten

def sampleAfter (turns : List (Turn Bool)) : Clients Bool (List (Except GatewayError Nat)) :=
  (fleetClients "1.0.0" sampleFleets sampleCluster).after .replacing turns

/-- The sample fleet has its object created and removed again while the other fleet gets its own,
and alone it comes to the same. -/
theorem sample_fleets_do_not_interfere :
    let together := sampleAfter inTurn
    let alone := sampleAfter (inTurn.filter (·.who = false))
    (together.programs false).result? = some [.ok 30, .ok 30] ∧
      (alone.programs false).result? = some [.ok 30, .ok 30] ∧
      (together.cluster.objects.get? ⟨"meridian", "fleet-multi-multi"⟩).isSome = true ∧
      SameContents (together.cluster.objects.get? ⟨"meridian", "fleet-multi"⟩)
        (alone.cluster.objects.get? ⟨"meridian", "fleet-multi"⟩) := by
  have hresult : ((sampleAfter inTurn).programs false).result? = some [.ok 30, .ok 30] := by
    decide +kernel
  have hthere : ((sampleAfter inTurn).cluster.objects.get?
      ⟨"meridian", "fleet-multi-multi"⟩).isSome = true := by decide +kernel
  obtain ⟨-, hsame⟩ := fleets_do_not_interfere local_replacing "1.0.0" sampleFleets
    keyed_sampleCluster false inTurn
  obtain ⟨hresults, hleft⟩ := hsame strangers_sampleFleets
  obtain ⟨hcontents, -⟩ := hleft sampleFleet List.mem_cons_self
  exact ⟨hresult, hresults.symm.trans hresult, hthere, hcontents _ ⟨rfl, List.mem_cons_self⟩⟩

end FleetOperator
