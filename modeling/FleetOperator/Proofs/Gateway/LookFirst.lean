import FleetOperator.Proofs.Gateway.Calls

/-!
# Looking before writing

What a cycle writes, it decides on what it saw when it last looked: it creates
an object where it saw none, replaces one under the resource version that it
saw, and deletes the very object that it saw. `LooksFirst` says so of a
program, whatever the answers to its calls are, as long as a look at a key
shows an object under that key. After a write the program has to look again.

`CycleCall` has the calls that the cycle of a gateway can make. That a cycle
looks first and makes no other calls is one lemma over its program
(`looksFirst_reconcileGateway`), and a program that asks for nothing before
it looks can follow any other one (`LooksFirst.bind`), so the same holds of
the cycle of a whole fleet.
-/

namespace FleetOperator

open GatewayProgram (ask askOr ofExcept)

/-! ## Looks -/

/-- What a client saw when it last looked. -/
structure Look where
  key : ObjectKey
  found : Option StatefulSet

namespace GatewayCall

/-- A write is about what was seen last. -/
def Fits (look? : Option Look) : GatewayCall → Prop
  | .create workload => look? = some ⟨workload.key, none⟩
  | .update workload => ∃ live, look? = some ⟨workload.key, some live⟩ ∧
      workload.metadata.resourceVersion = live.metadata.resourceVersion
  | .delete workload => look? = some ⟨workload.key, some workload⟩
  | _ => True

/-- A look at a key shows an object under that key. -/
def Sound : (call : GatewayCall) → Except OperatorError call.Result → Prop
  | .get ns name, answer => ∀ live, answer = .ok (some live) → live.key = ⟨ns, name⟩
  | _, _ => True

/-- What was seen last, after the answer to a call. A write makes it void. -/
def lookAfter (look? : Option Look) :
    (call : GatewayCall) → Except OperatorError call.Result → Option Look
  | .get ns name, .ok found => some ⟨⟨ns, name⟩, found⟩
  | .create _, _ => none
  | .update _, _ => none
  | .delete _, _ => none
  | _, _ => look?

theorem fits_of_fits_none {call : GatewayCall} (h : call.Fits none) (look? : Option Look) :
    call.Fits look? := by
  cases call with
  | create workload => cases h
  | update workload =>
      obtain ⟨live, hlook, -⟩ := h
      cases hlook
  | delete workload => cases h
  | applyProperties | readSecret | serverVersion | get => trivial

theorem fits_of_read {call : GatewayCall} (h : call.isWrite = false) (look? : Option Look) :
    call.Fits look? := by
  cases call with
  | create workload | update workload | delete workload => cases h
  | applyProperties | readSecret | serverVersion | get => trivial

/-- After an answer, what was seen before the call is all that is left of it, or nothing is. -/
theorem lookAfter_cases (call : GatewayCall) (answer : Except OperatorError call.Result) :
    (∀ look?, call.lookAfter look? answer = look?) ∨
      ∃ last, ∀ look?, call.lookAfter look? answer = last := by
  cases call with
  | get ns name =>
      cases answer with
      | ok found => exact .inr ⟨_, fun _ => rfl⟩
      | error e => exact .inl fun _ => rfl
  | create workload | update workload | delete workload => exact .inr ⟨none, fun _ => rfl⟩
  | applyProperties | readSecret | serverVersion => exact .inl fun _ => rfl

end GatewayCall

/-- A program that makes calls of some kind, and writes only what fits to what it saw last. -/
def Dialogue.LooksFirst {α : Type} (p : GatewayCall → Prop) :
    Dialogue gatewayInterface α → Option Look → Prop
  | .done _, _ => True
  | .ask call next, look? => (p call ∧ GatewayCall.Fits look? call) ∧
      ∀ answer, GatewayCall.Sound call answer →
        (next answer).LooksFirst p (GatewayCall.lookAfter look? call answer)

section

variable {α β : Type} {p q : GatewayCall → Prop} {look? : Option Look}

/-- A program that looks itself does not depend on what was seen before. -/
theorem Dialogue.LooksFirst.of_none {program : Dialogue gatewayInterface α}
    (h : program.LooksFirst p none) : program.LooksFirst p look? := by
  induction program generalizing look? with
  | done value => trivial
  | ask call next ih =>
      obtain ⟨⟨hcall, hfits⟩, hnext⟩ := h
      refine ⟨⟨hcall, GatewayCall.fits_of_fits_none hfits look?⟩, fun answer hsound => ?_⟩
      have hrest := hnext answer hsound
      rcases GatewayCall.lookAfter_cases call answer with hlook | ⟨last, hlook⟩
      · rw [hlook] at hrest ⊢
        exact ih answer hrest
      · rw [hlook] at hrest ⊢
        exact hrest

theorem Dialogue.LooksFirst.mono {program : Dialogue gatewayInterface α}
    (hmono : ∀ call, p call → q call) (h : program.LooksFirst p look?) :
    program.LooksFirst q look? := by
  induction program generalizing look? with
  | done value => trivial
  | ask call next ih =>
      exact ⟨⟨hmono call h.1.1, h.1.2⟩, fun answer hsound => ih answer (h.2 answer hsound)⟩

theorem Dialogue.LooksFirst.bind {program : Dialogue gatewayInterface α}
    {next : α → Dialogue gatewayInterface β} (h : program.LooksFirst p look?)
    (hnext : ∀ value, (next value).LooksFirst p none) :
    (program.bind next).LooksFirst p look? := by
  induction program generalizing look? with
  | done value => exact (hnext value).of_none
  | ask call rest ih => exact ⟨h.1, fun answer hsound => ih answer (h.2 answer hsound)⟩

namespace GatewayProgram

/-- A gateway program that writes only what fits to what it saw last. -/
def LooksFirst (p : GatewayCall → Prop) (program : GatewayProgram α) (look? : Option Look) :
    Prop :=
  (ExceptT.run program).LooksFirst p look?

namespace LooksFirst

theorem pure (value : α) : LooksFirst p (Pure.pure value) look? := trivial

theorem bind {program : GatewayProgram α} {next : α → GatewayProgram β}
    (h : LooksFirst p program look?) (hnext : ∀ value, LooksFirst p (next value) none) :
    LooksFirst p (program >>= next) look? := by
  refine Dialogue.LooksFirst.bind h fun result => ?_
  cases result with
  | ok value => exact hnext value
  | error e => trivial

theorem ofExcept_bind {ε : Type} {wrap : ε → GatewayError} {value : Except ε α}
    {next : α → GatewayProgram β} (hnext : ∀ a, value = .ok a → LooksFirst p (next a) look?) :
    LooksFirst p (GatewayProgram.ofExcept wrap value >>= next) look? := by
  cases value with
  | error e => trivial
  | ok a => exact hnext a rfl

theorem ask_bind {call : GatewayCall} {next : call.Result → GatewayProgram β} (hcall : p call)
    (hfits : call.Fits look?)
    (hnext : ∀ value, call.Sound (.ok value) →
      LooksFirst p (next value) (call.lookAfter look? (.ok value))) :
    LooksFirst p (GatewayProgram.ask call >>= next) look? := by
  refine ⟨⟨hcall, hfits⟩, fun answer hsound => ?_⟩
  cases answer with
  | error e => trivial
  | ok value => exact hnext value hsound

theorem ask {call : GatewayCall} (hcall : p call) (hfits : call.Fits look?) :
    LooksFirst p (GatewayProgram.ask call) look? := ⟨⟨hcall, hfits⟩, fun _ _ => trivial⟩

theorem askOr {call : GatewayCall} (hcall : p call) (hfits : call.Fits look?)
    (default : call.Result) : LooksFirst p (GatewayProgram.askOr call default) look? :=
  ⟨⟨hcall, hfits⟩, fun _ _ => trivial⟩

theorem mapM {γ : Type} {f : γ → GatewayProgram α} {items : List γ}
    (h : ∀ item ∈ items, LooksFirst p (f item) none) : LooksFirst p (items.mapM f) none := by
  induction items with
  | nil => exact .pure []
  | cons item rest ih =>
      rw [List.mapM_cons]
      refine .bind (h item List.mem_cons_self) fun value => ?_
      refine .bind (ih fun other hmem => h other (List.mem_cons_of_mem _ hmem)) fun values => ?_
      exact .pure _

end LooksFirst

end GatewayProgram

end

/-! ## The calls of a cycle -/

/-- Where the object of a gateway may be: under the key that it is built with, after the
adjustments, or that it would have had. -/
def GatewayDescriptor.MayBeAt (gateway : GatewayDescriptor) (adjustments : List Adjustment)
    (base : WorkloadMeta) (key : ObjectKey) : Prop :=
  if gateway.enabled then
    ∃ hash version, key = (StatefulSet.desired base gateway hash version adjustments).key
  else key = gateway.key base

/-- The calls that the cycle of a gateway can make. -/
inductive CycleCall (adjustments : List Adjustment) (fleet : Fleet)
    (gateway : GatewayDescriptor) : GatewayCall → Prop
  | applyProperties {base : WorkloadMeta} {owner : OwnerReference} {properties : ValueSource}
      (henabled : gateway.enabled = true) (hbase : fleet.workloadMeta = .ok base)
      (howner : fleet.ownerReference? = some owner)
      (hproperties : gateway.customProperties? = some properties) :
      CycleCall adjustments fleet gateway
        (.applyProperties owner base.ns gateway.configuration.serviceAccountOwner properties)
  | readSecret {base : WorkloadMeta} {properties : ValueSource} {secret : String}
      (henabled : gateway.enabled = true) (hbase : fleet.workloadMeta = .ok base)
      (hproperties : gateway.customProperties? = some properties)
      (hreference : properties.reference? = some secret) :
      CycleCall adjustments fleet gateway (.readSecret base.ns secret)
  | serverVersion {base : WorkloadMeta} (hbase : fleet.workloadMeta = .ok base) :
      CycleCall adjustments fleet gateway .serverVersion
  | get {base : WorkloadMeta} {ns name : String} (hbase : fleet.workloadMeta = .ok base)
      (hkey : gateway.MayBeAt adjustments base ⟨ns, name⟩) :
      CycleCall adjustments fleet gateway (.get ns name)
  | create {base : WorkloadMeta} {workload : StatefulSet}
      (hbase : fleet.workloadMeta = .ok base)
      (hkey : gateway.MayBeAt adjustments base workload.key) :
      CycleCall adjustments fleet gateway (.create workload)
  | update {base : WorkloadMeta} {workload : StatefulSet}
      (hbase : fleet.workloadMeta = .ok base)
      (hkey : gateway.MayBeAt adjustments base workload.key) :
      CycleCall adjustments fleet gateway (.update workload)
  /-- A gateway that should not exist loses only an object that has its labels. -/
  | delete {base : WorkloadMeta} {workload : StatefulSet}
      (hbase : fleet.workloadMeta = .ok base)
      (hkey : gateway.MayBeAt adjustments base workload.key)
      (hgateway : gateway.enabled = false →
        workload.isGatewayOf base.name gateway.moduleName = true) :
      CycleCall adjustments fleet gateway (.delete workload)

section

variable {adjustments : List Adjustment} {fleet : Fleet} {gateway : GatewayDescriptor}
  {base : WorkloadMeta}

/-- The cycle of a gateway that should exist, call by call. -/
theorem convergeGateway_steps : convergeGateway adjustments fleet gateway =
    ofExcept id fleet.workloadMeta >>= fun base =>
      applyCustomProperties fleet base gateway >>= fun _ =>
        hashCustomProperties base.ns gateway.customProperties? >>= fun hash =>
          askOr .serverVersion .unknown >>= fun (version : ServerVersion) =>
            let built := StatefulSet.desired base gateway hash version adjustments
            ofExcept id (fleet.ownerOf built.name) >>= fun owner =>
              ask (.get built.ns built.name) >>= settle (built.ownedBy owner) := by
  simp only [convergeGateway, buildDesired, bind_assoc, pure_bind]
  rfl

theorem looksFirst_applyCustomProperties (henabled : gateway.enabled = true)
    (hbase : fleet.workloadMeta = .ok base) :
    (applyCustomProperties fleet base gateway).LooksFirst
      (CycleCall adjustments fleet gateway) none := by
  unfold applyCustomProperties
  split
  · exact .pure ()
  · next properties hproperties =>
      refine .ofExcept_bind fun owner howner => .ask ?_ trivial
      exact .applyProperties henabled hbase (Fleet.ownerReference?_of_ownerOf howner) hproperties

theorem looksFirst_hashCustomProperties (henabled : gateway.enabled = true)
    (hbase : fleet.workloadMeta = .ok base) :
    (hashCustomProperties base.ns gateway.customProperties?).LooksFirst
      (CycleCall adjustments fleet gateway) none := by
  unfold hashCustomProperties
  split
  · exact .pure ""
  · next properties hproperties =>
      split
      · exact .pure _
      · next secret hreference =>
          refine .ask_bind (.readSecret henabled hbase hproperties hreference) trivial
            fun found _ => .ofExcept_bind fun bytes _ => .pure _

theorem looksFirst_settle (henabled : gateway.enabled = true)
    (hbase : fleet.workloadMeta = .ok base) {desired : StatefulSet}
    (hkey : gateway.MayBeAt adjustments base desired.key) {live? : Option StatefulSet}
    (hlive : ∀ live, live? = some live → live.key = desired.key) :
    (settle desired live?).LooksFirst (CycleCall adjustments fleet gateway)
      (some ⟨desired.key, live?⟩) := by
  cases live? with
  | none => exact .ask_bind (.create hbase hkey) rfl fun _ _ => .pure _
  | some live =>
      have hsame := hlive live rfl
      simp only [settle]
      split
      · refine .ask_bind (.delete hbase (hsame ▸ hkey) ?_) (by rw [GatewayCall.Fits, hsame])
          fun _ _ => .pure _
        rw [henabled]
        exact fun h => by cases h
      · split
        · exact .ask_bind (.update hbase hkey) ⟨live, rfl, rfl⟩ fun _ _ => .pure _
        · exact .pure _

theorem looksFirst_convergeGateway (henabled : gateway.enabled = true) :
    (convergeGateway adjustments fleet gateway).LooksFirst
      (CycleCall adjustments fleet gateway) none := by
  rw [convergeGateway_steps]
  refine .ofExcept_bind fun base hbase => ?_
  refine .bind (looksFirst_applyCustomProperties henabled hbase) fun _ => ?_
  refine .bind (looksFirst_hashCustomProperties henabled hbase) fun hash => ?_
  refine .bind (.askOr (.serverVersion hbase) (GatewayCall.fits_of_read rfl _) _)
    fun (version : ServerVersion) => ?_
  refine .ofExcept_bind fun owner _ => ?_
  have hkey : gateway.MayBeAt adjustments base
      ((StatefulSet.desired base gateway hash version adjustments).ownedBy owner).key := by
    rw [GatewayDescriptor.MayBeAt, if_pos henabled]
    exact ⟨hash, version, rfl⟩
  refine .ask_bind (.get hbase hkey) trivial fun live? hsound => ?_
  exact looksFirst_settle henabled hbase hkey fun live hlive =>
    hsound live (congrArg Except.ok hlive)

theorem looksFirst_retireGateway (hdisabled : gateway.enabled = false) :
    (retireGateway fleet gateway).LooksFirst (CycleCall adjustments fleet gateway) none := by
  rw [retireGateway_eq]
  refine .ofExcept_bind fun base hbase => ?_
  have hkey : gateway.MayBeAt adjustments base (gateway.key base) := by
    rw [GatewayDescriptor.MayBeAt, hdisabled]
    rfl
  refine .ask_bind (.get hbase hkey) trivial fun live? hsound => ?_
  cases live? with
  | none => exact .pure _
  | some live =>
      have hsame : live.key = gateway.key base := hsound live rfl
      simp only [settleAbsence]
      split
      · next hgateway =>
          refine .ask_bind (.delete hbase (hsame ▸ hkey) fun _ => hgateway) ?_ fun _ _ => .pure _
          rw [GatewayCall.Fits, hsame]
          rfl
      · exact .pure _

/-- The cycle of a gateway looks before it writes, and makes no calls but those of a cycle. -/
theorem looksFirst_reconcileGateway :
    (reconcileGateway adjustments fleet gateway).LooksFirst
      (CycleCall adjustments fleet gateway) none := by
  unfold reconcileGateway
  split
  · next henabled => exact looksFirst_convergeGateway henabled
  · next hdisabled => exact looksFirst_retireGateway (Bool.not_eq_true _ ▸ hdisabled)

/-- The calls that the cycle of a fleet can make. -/
def FleetCall (registry : TemplateRegistry) (operatorVersion : String)
    (adjustments : List Adjustment) (fleet : Fleet) (call : GatewayCall) : Prop :=
  ∃ gateways gateway, GatewayDescriptor.all fleet registry operatorVersion = .ok gateways ∧
    gateway ∈ gateways ∧ CycleCall adjustments fleet gateway call

/-- The cycle of a fleet looks before it writes, and makes no calls but those of its gateways. -/
theorem looksFirst_reconcileFleet {registry : TemplateRegistry} {operatorVersion : String} :
    (reconcileFleet registry operatorVersion adjustments fleet).LooksFirst
      (FleetCall registry operatorVersion adjustments fleet) none := by
  refine .ofExcept_bind fun gateways hall => .bind (.mapM fun gateway hmem => ?_) fun _ => .pure _
  exact Dialogue.LooksFirst.mono (fun call hcall => ⟨gateways, gateway, hall, hmem, hcall⟩)
    looksFirst_reconcileGateway

end

end FleetOperator
