import FleetOperator.Proofs.Capability.Composition

/-!
# Which error a fleet gets

A list of capabilities is read from the front, with the modules in hand that
were seen on the way. It is refused at the first capability that has no
template or whose module has been seen, and nothing behind that one counts
(`select_eq_error_iff`). What carries this through the list is that the modules
in hand are those of the part that has been read.

The gateways of a fleet are put together in turn, so a fleet gets the first
error of the first gateway that has one. Of the fleet itself no more counts for
that than `AsksLike` lists.
-/

namespace FleetOperator

theorem Except.bind_eq_error_iff {ε α β : Type} {value : Except ε α} {next : α → Except ε β}
    {e : ε} :
    (value >>= next) = .error e ↔
      value = .error e ∨ ∃ a, value = .ok a ∧ next a = .error e := by
  cases value with
  | error e' =>
      have hbind : (Except.error e' >>= next) = .error e' := rfl
      simp [hbind]
  | ok a =>
      refine ⟨fun h => .inr ⟨a, rfl, h⟩, ?_⟩
      rintro (h | ⟨_, hok, h⟩)
      · cases h
      · obtain rfl := Except.ok.inj hok
        exact h

theorem Except.bind_pure_eq_error_iff {ε α β : Type} {value : Except ε α} {f : α → β} {e : ε} :
    (value >>= fun a => pure (f a)) = .error e ↔ value = .error e := by
  rw [Except.bind_eq_error_iff]
  exact or_iff_left fun ⟨_, _, h⟩ => nomatch h

theorem Except.exists_ok_iff {ε α : Type} {value : Except ε α} :
    (∃ a, value = .ok a) ↔ ∀ e, value ≠ .error e := by
  cases value <;> simp

/-! ## Lists of capabilities -/

namespace TemplateRegistry

/-- Why the capability at a place of a list cannot be merged with those before it. -/
inductive Offends (registry : TemplateRegistry) (kinds : List CapabilityKind) (i : Nat) :
    CapabilityError → Prop
  | unknown {kind : CapabilityKind} (hkind : kinds[i]? = some kind)
      (hget : registry.get? kind = none) : Offends registry kinds i (.unknownCapability kind)
  | duplicate {kind : CapabilityKind} {template : CapabilityTemplate}
      (hkind : kinds[i]? = some kind) (hget : registry.get? kind = some template)
      (hearlier : template.moduleName ∈
        (registry.templatesOf (kinds.take i)).map (·.moduleName)) :
      Offends registry kinds i (.duplicateModule template.moduleName)

/-- Why a list of capabilities cannot be merged: what is wrong with the first that offends. -/
def FirstOffence (registry : TemplateRegistry) (kinds : List CapabilityKind)
    (error : CapabilityError) : Prop :=
  ∃ i, registry.Offends kinds i error ∧ ∀ j < i, ∀ other, ¬ registry.Offends kinds j other

variable {registry : TemplateRegistry} {kinds read rest : List CapabilityKind}
  {kind : CapabilityKind} {template : CapabilityTemplate} {seen : List String}
  {error other : CapabilityError} {i : Nat}

theorem Offends.lt_length (h : registry.Offends kinds i error) : i < kinds.length := by
  cases h with
  | unknown hkind | duplicate hkind => exact (List.getElem?_eq_some_iff.1 hkind).1

theorem Offends.unique (h : registry.Offends kinds i error)
    (hother : registry.Offends kinds i other) : error = other := by
  cases h with
  | unknown hkind hget =>
      cases hother with
      | unknown hkind' hget' =>
          obtain rfl := Option.some.inj (hkind.symm.trans hkind')
          rfl
      | duplicate hkind' hget' hearlier' =>
          obtain rfl := Option.some.inj (hkind.symm.trans hkind')
          rw [hget] at hget'
          cases hget'
  | duplicate hkind hget hearlier =>
      cases hother with
      | unknown hkind' hget' =>
          obtain rfl := Option.some.inj (hkind.symm.trans hkind')
          rw [hget] at hget'
          cases hget'
      | duplicate hkind' hget' hearlier' =>
          obtain rfl := Option.some.inj (hkind.symm.trans hkind')
          obtain rfl := Option.some.inj (hget.symm.trans hget')
          rfl

/-- Where nothing before a place offends, what is wrong there is what is wrong with the list. -/
theorem Offends.firstOffence_iff (h : registry.Offends kinds i other)
    (hclean : ∀ j < i, ∀ other, ¬ registry.Offends kinds j other) :
    registry.FirstOffence kinds error ↔ other = error := by
  constructor
  · rintro ⟨j, hj, hfirst⟩
    rcases Nat.lt_trichotomy i j with hlt | rfl | hlt
    · exact absurd h (hfirst i hlt other)
    · exact h.unique hj
    · exact absurd hj (hclean j hlt error)
  · rintro rfl
    exact ⟨i, h, hclean⟩

/-! ## One capability after another -/

theorem offends_length_of_none (hget : registry.get? kind = none) :
    registry.Offends (read ++ kind :: rest) read.length (.unknownCapability kind) :=
  .unknown (by simp) hget

theorem offends_length_of_some (hget : registry.get? kind = some template) :
    registry.Offends (read ++ kind :: rest) read.length error ↔
      template.moduleName ∈ (registry.templatesOf read).map (·.moduleName) ∧
        error = .duplicateModule template.moduleName := by
  have hplace : (read ++ kind :: rest)[read.length]? = some kind := by simp
  have hearlier : (read ++ kind :: rest).take read.length = read := by simp
  constructor
  · intro h
    cases h with
    | unknown hkind hnone =>
        obtain rfl := Option.some.inj (hplace.symm.trans hkind)
        rw [hget] at hnone
        cases hnone
    | duplicate hkind hget' hmem =>
        obtain rfl := Option.some.inj (hplace.symm.trans hkind)
        obtain rfl := Option.some.inj (hget.symm.trans hget')
        rw [hearlier] at hmem
        exact ⟨hmem, rfl⟩
  · rintro ⟨hmem, rfl⟩
    rw [← hearlier] at hmem
    exact .duplicate hplace hget hmem

theorem select_cons_of_none (hget : registry.get? kind = none) :
    registry.select seen (kind :: rest) = .error (.unknownCapability kind) := by
  rw [select, hget]

theorem select_cons_of_mem (hget : registry.get? kind = some template)
    (hmem : template.moduleName ∈ seen) :
    registry.select seen (kind :: rest) = .error (.duplicateModule template.moduleName) := by
  rw [select, hget]
  exact if_pos hmem

theorem select_cons_eq_error_iff_of_not_mem (hget : registry.get? kind = some template)
    (hfresh : template.moduleName ∉ seen) :
    registry.select seen (kind :: rest) = .error error ↔
      registry.select (template.moduleName :: seen) rest = .error error := by
  rw [select, hget]
  dsimp only
  rw [if_neg hfresh, Except.bind_pure_eq_error_iff]

/-- The rest of a list is refused for what is wrong with the whole, if the modules that were seen
are those of the part that has been read and nothing in that offends. -/
theorem select_eq_error_iff_of_read
    (hseen : ∀ name, name ∈ seen ↔ name ∈ (registry.templatesOf read).map (·.moduleName))
    (hclean : ∀ j < read.length, ∀ other, ¬ registry.Offends (read ++ rest) j other) :
    registry.select seen rest = .error error ↔ registry.FirstOffence (read ++ rest) error := by
  induction rest generalizing read seen with
  | nil =>
      rw [List.append_nil] at hclean ⊢
      constructor
      · intro h
        cases h
      · rintro ⟨i, hi, -⟩
        exact absurd hi (hclean i hi.lt_length error)
  | cons kind rest ih =>
      cases hget : registry.get? kind with
      | none =>
          rw [select_cons_of_none hget, (offends_length_of_none hget).firstOffence_iff hclean,
            Except.error.injEq]
      | some template =>
          have hhere (other : CapabilityError) :
              registry.Offends (read ++ kind :: rest) read.length other ↔ _ :=
            offends_length_of_some hget
          by_cases hmem : template.moduleName ∈ seen
          · have hoffends := (hhere _).2 ⟨(hseen _).1 hmem, rfl⟩
            rw [select_cons_of_mem hget hmem, hoffends.firstOffence_iff hclean, Except.error.injEq]
          · rw [select_cons_eq_error_iff_of_not_mem hget hmem]
            have hread : registry.templatesOf (read ++ [kind]) =
                registry.templatesOf read ++ [template] := by
              simp [templatesOf, hget]
            -- The list stays the same, this capability goes over to what has been read.
            rw [List.append_cons] at hclean hhere ⊢
            refine ih (fun name => ?_) fun j hj other => ?_
            · rw [hread, List.map_append, List.mem_append, List.mem_cons, hseen, or_comm,
                List.map_singleton, List.mem_singleton]
            · rw [List.length_append, List.length_singleton] at hj
              rcases Nat.lt_succ_iff_lt_or_eq.1 hj with hj | rfl
              · exact hclean j hj other
              · exact fun h => hmem ((hseen _).2 ((hhere other).1 h).1)

/-- A list of capabilities is refused for what is wrong with the first that offends. -/
theorem select_eq_error_iff :
    registry.select [] kinds = .error error ↔ registry.FirstOffence kinds error := by
  rw [← List.nil_append kinds]
  exact select_eq_error_iff_of_read (by simp [templatesOf]) (by simp)

theorem Offends.exists_firstOffence (h : registry.Offends kinds i error) :
    ∃ first, registry.FirstOffence kinds first := by
  induction i using Nat.strongRecOn generalizing error with
  | ind i ih =>
      by_cases hclean : ∀ j < i, ∀ other, ¬ registry.Offends kinds j other
      · exact ⟨error, i, h, hclean⟩
      · simp only [not_forall, not_not] at hclean
        obtain ⟨j, hj, other, hother⟩ := hclean
        exact ih j hj hother

theorem forall_not_firstOffence_iff :
    (∀ error, ¬ registry.FirstOffence kinds error) ↔
      ∀ i error, ¬ registry.Offends kinds i error := by
  constructor
  · intro hnone i error hoffends
    obtain ⟨first, hfirst⟩ := hoffends.exists_firstOffence
    exact hnone first hfirst
  · rintro hnone error ⟨i, hoffends, -⟩
    exact hnone i error hoffends

end TemplateRegistry

/-! ## Fleets -/

namespace Fleet

/-- What a fleet without a namespace is refused with. -/
def missingNamespace (fleet : Fleet) : CapabilityError :=
  .invalidFleet fleet.name "resource has no namespace"

/-- Whether a fleet has a section that asks for the gateway of one capability. -/
def asksForLegacy (fleet : Fleet) (variant : GatewayVariant) : Bool :=
  (fleet.legacySection? variant).any (·.enabled)

/-- Two fleets of one name and namespace that ask for the same gateways, whatever these are to
be like. -/
structure AsksLike (fleet other : Fleet) : Prop where
  name : other.name = fleet.name
  ns : other.ns? = fleet.ns?
  capabilities : other.spec.activeGate.capabilities = fleet.spec.activeGate.capabilities
  sections : ∀ variant, other.asksForLegacy variant = fleet.asksForLegacy variant

theorem AsksLike.missingNamespace_eq {fleet other : Fleet} (h : fleet.AsksLike other) :
    other.missingNamespace = fleet.missingNamespace := by
  rw [missingNamespace, missingNamespace, h.name]

end Fleet

namespace GatewayDescriptor

variable {fleet other : Fleet} {registry : TemplateRegistry} {operatorVersion : String}
  {variant : GatewayVariant} {kind : CapabilityKind} {error : CapabilityError}

theorem ofFleet_eq_error_iff :
    FleetContext.ofFleet fleet operatorVersion = .error error ↔
      fleet.ns? = none ∧ error = fleet.missingNamespace := by
  rw [FleetContext.ofFleet, Fleet.missingNamespace]
  cases fleet.ns? with
  | none => simp [eq_comm]
  | some ns => simp

theorem exists_ofFleet_iff (operatorVersion : String) :
    (∃ context, FleetContext.ofFleet fleet operatorVersion = .ok context) ↔
      fleet.ns? ≠ none := by
  rw [FleetContext.ofFleet]
  cases fleet.ns? with
  | none => simp
  | some ns => simp

/-- The merged gateway fails for want of a namespace first, and then for the first capability
that offends. -/
theorem compose_eq_error_iff (hwanted : fleet.spec.activeGate.capabilities ≠ []) :
    compose fleet registry operatorVersion = .error error ↔
      fleet.ns? = none ∧ error = fleet.missingNamespace ∨
        fleet.ns? ≠ none ∧ registry.FirstOffence fleet.spec.activeGate.capabilities error := by
  have hwants : fleet.wantsMergedGateway = true := by
    simpa [Fleet.wantsMergedGateway] using hwanted
  rw [compose, if_pos hwants, Except.bind_eq_error_iff, ofFleet_eq_error_iff,
    ← exists_ofFleet_iff operatorVersion, exists_and_right.symm,
    ← TemplateRegistry.select_eq_error_iff]
  exact or_congr_right (exists_congr fun context => and_congr_right fun _ =>
    Except.bind_pure_eq_error_iff)

/-- A gateway of one capability fails for want of a template, and then, if it is asked for, for
want of a namespace. -/
theorem legacy_eq_error_iff {asked : Option LegacyCapabilitySpec} :
    legacy fleet registry operatorVersion kind variant asked = .error error ↔
      registry.get? kind = none ∧ error = .unknownCapability kind ∨
        registry.get? kind ≠ none ∧ asked.any (·.enabled) = true ∧ fleet.ns? = none ∧
          error = fleet.missingNamespace := by
  rw [legacy]
  cases registry.get? kind with
  | none => simp only [Except.error.injEq, ne_eq, not_true_eq_false, true_and, false_and, or_false,
      eq_comm]
  | some template =>
      have hany : asked.any (·.enabled) = (asked.filter (·.enabled)).isSome := by
        cases asked with
        | none => rfl
        | some spec => cases h : spec.enabled <;> simp [h]
      rw [hany]
      cases asked.filter (·.enabled) with
      | none => simp
      | some spec =>
          dsimp only
          rw [Except.bind_pure_eq_error_iff, ofFleet_eq_error_iff]
          simp

/-- The first gateway that fails counts. -/
theorem all_eq_error_iff :
    all fleet registry operatorVersion = .error error ↔
      compose fleet registry operatorVersion = .error error ∨
        (∃ gateway, compose fleet registry operatorVersion = .ok gateway) ∧
          (legacyKubernetesMonitoring fleet registry operatorVersion = .error error ∨
            (∃ gateway, legacyKubernetesMonitoring fleet registry operatorVersion =
                .ok gateway) ∧
              legacyRouting fleet registry operatorVersion = .error error) := by
  rw [all, Except.bind_eq_error_iff, ← exists_and_right]
  refine or_congr_right (exists_congr fun merged => and_congr_right fun _ => ?_)
  rw [Except.bind_eq_error_iff, ← exists_and_right]
  exact or_congr_right (exists_congr fun monitoring => and_congr_right fun _ =>
    Except.bind_pure_eq_error_iff)

theorem ofVariant_eq_error_iff (hkind : variant.kind? = some kind) :
    ofVariant fleet registry operatorVersion variant = .error error ↔
      registry.get? kind = none ∧ error = .unknownCapability kind ∨
        registry.get? kind ≠ none ∧ fleet.asksForLegacy variant = true ∧ fleet.ns? = none ∧
          error = fleet.missingNamespace := by
  rw [ofVariant_eq_legacy hkind]
  exact legacy_eq_error_iff

/-- Fleets that ask for the same gateways get the same error for each. -/
theorem ofVariant_eq_error_iff_of_asksLike {otherVersion : String} (h : fleet.AsksLike other)
    (hwanted : fleet.spec.activeGate.capabilities ≠ []) :
    ofVariant other registry otherVersion variant = .error error ↔
      ofVariant fleet registry operatorVersion variant = .error error := by
  cases hkind : variant.kind? with
  | some kind =>
      rw [ofVariant_eq_error_iff hkind, ofVariant_eq_error_iff hkind, h.ns, h.sections,
        h.missingNamespace_eq]
  | none =>
      cases variant with
      | legacyKubernetesMonitoring | legacyRouting => cases hkind
      | multi =>
          have hother := hwanted
          rw [← h.capabilities] at hother
          rw [ofVariant, ofVariant, compose_eq_error_iff hwanted, compose_eq_error_iff hother, h.ns,
            h.capabilities, h.missingNamespace_eq]

/-- Let a fleet list at least one capability. Its merged gateway fails for want of a namespace
exactly if there is none. With a namespace it fails for the first capability in the list that has
no template or a module of an earlier one, and it is put together if no capability is like that.

A gateway of one capability fails if that has no template, or if it is asked for and there is no
namespace. Of the three gateways the first that fails gives the error of the fleet. Neither error
changes with anything but the name, the namespace and which gateways are asked for. -/
theorem first_error_counts (hwanted : fleet.spec.activeGate.capabilities ≠ []) :
    let kinds := fleet.spec.activeGate.capabilities
    let merged := compose fleet registry operatorVersion
    let monitoring := legacyKubernetesMonitoring fleet registry operatorVersion
    let routing := legacyRouting fleet registry operatorVersion
    ((∃ name message, merged = .error (.invalidFleet name message)) ↔ fleet.ns? = none) ∧
    (fleet.ns? = none → merged = .error fleet.missingNamespace) ∧
    (fleet.ns? ≠ none →
      (∀ error, merged = .error error ↔ registry.FirstOffence kinds error) ∧
      ((∃ gateway, merged = .ok gateway) ↔ ∀ i error, ¬ registry.Offends kinds i error)) ∧
    (∀ variant kind, variant.kind? = some kind → ∀ error,
      ofVariant fleet registry operatorVersion variant = .error error ↔
        registry.get? kind = none ∧ error = .unknownCapability kind ∨
          registry.get? kind ≠ none ∧ fleet.asksForLegacy variant = true ∧ fleet.ns? = none ∧
            error = fleet.missingNamespace) ∧
    (∀ error, all fleet registry operatorVersion = .error error ↔
      merged = .error error ∨ (∃ gateway, merged = .ok gateway) ∧
        (monitoring = .error error ∨ (∃ gateway, monitoring = .ok gateway) ∧
          routing = .error error)) ∧
    ∀ other otherVersion, fleet.AsksLike other → ∀ error,
      (∀ variant, ofVariant other registry otherVersion variant = .error error ↔
        ofVariant fleet registry operatorVersion variant = .error error) ∧
      (all other registry otherVersion = .error error ↔
        all fleet registry operatorVersion = .error error) := by
  intro kinds merged monitoring routing
  have hmerged (error : CapabilityError) : merged = .error error ↔ _ :=
    compose_eq_error_iff hwanted
  refine ⟨?_, fun hns => (hmerged _).2 (.inl ⟨hns, rfl⟩), fun hns => ?_,
    fun variant kind hkind error => ofVariant_eq_error_iff hkind, fun error => all_eq_error_iff,
    fun other otherVersion hother error => ?_⟩
  · constructor
    · rintro ⟨name, message, herror⟩
      rcases (hmerged _).1 herror with ⟨hns, -⟩ | ⟨-, i, hoffends, -⟩
      · exact hns
      · cases hoffends
    · exact fun hns => ⟨_, _, (hmerged _).2 (.inl ⟨hns, rfl⟩)⟩
  · have hfirst (error : CapabilityError) :
        merged = .error error ↔ registry.FirstOffence kinds error := by
      rw [hmerged]
      simp [hns, kinds]
    refine ⟨hfirst, ?_⟩
    rw [Except.exists_ok_iff, ← TemplateRegistry.forall_not_firstOffence_iff]
    exact forall_congr' fun error => not_congr (hfirst error)
  · have hvariant (variant : GatewayVariant) (error : CapabilityError) :
        ofVariant other registry otherVersion variant = .error error ↔
          ofVariant fleet registry operatorVersion variant = .error error :=
      ofVariant_eq_error_iff_of_asksLike hother hwanted
    refine ⟨fun variant => hvariant variant error, ?_⟩
    rw [all_eq_error_iff, all_eq_error_iff]
    simp only [Except.exists_ok_iff, ne_eq]
    have hm := hvariant .multi
    have hk := hvariant .legacyKubernetesMonitoring
    have hr := hvariant .legacyRouting
    simp only [ofVariant] at hm hk hr
    simp only [hm, hk, hr]

/-- The templates of routing and of data ingest have one module, and there is none for
monitoring. -/
def collidingRegistry : TemplateRegistry :=
  ⟨none, some .routing, some { CapabilityTemplate.dataIngest with moduleName := "routing" }⟩

/-- The second capability has the module of the first, and the third has no template. -/
theorem first_error_of_collidingRegistry :
    let fleet := sampleFleet.withActiveGate
      ⟨[.routing, .dataIngest, .kubernetesMonitoring], "", "", .none⟩
    fleet.spec.activeGate.capabilities ≠ [] ∧
    legacyKubernetesMonitoring fleet collidingRegistry "1.0.0" =
      .error (.unknownCapability .kubernetesMonitoring) ∧
    collidingRegistry.FirstOffence fleet.spec.activeGate.capabilities
      (.duplicateModule "routing") ∧
    all fleet collidingRegistry "1.0.0" = .error (.duplicateModule "routing") := by
  intro fleet
  have hwanted : fleet.spec.activeGate.capabilities ≠ [] := List.cons_ne_nil _ _
  obtain ⟨-, -, hmerged, -, hall, -⟩ := @first_error_counts fleet collidingRegistry "1.0.0" hwanted
  have hns : fleet.ns? ≠ none := by decide
  exact ⟨hwanted, rfl, ((hmerged hns).1 _).1 rfl, (hall _).2 (.inl rfl)⟩

end GatewayDescriptor

end FleetOperator
