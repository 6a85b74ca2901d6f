import FleetOperator.Proofs.Gateway.Identity
import FleetOperator.Proofs.Json.Reading
import Mathlib.Data.Prod.Lex

/-!
# Which nodes a cluster version asks for

The two parts of a cluster version come as texts, such as `21+` on a managed
cluster. What counts is the number at the front of each. `Spells` says what
that number is without saying how to find it: the text falls into digits and a
rest that does not go on with a digit. There is only one way to take a text
apart so, and from there on everything is about numbers.

The numbers have no bound, but the reader of them has: one that needs more than
32 bits is taken for no number at all (`leadingNumber?_eq_some_iff`), and a
version with such a part for an unknown one. So the choice of nodes follows the
order of versions only among those that can be held
(`large_numbers_are_not_known`).
-/

namespace FleetOperator

/-! ## The number at the front of a text -/

/-- The text starts with digits that are those of the number, and goes on with none. -/
def Spells (s : String) (n : Nat) : Prop :=
  ∃ digits rest, s.toList = digits ++ rest ∧ digits ≠ [] ∧
    (∀ d ∈ digits, d.isDigit = true) ∧ Json.NoDigit rest ∧ Nat.ofDigitChars 10 digits 0 = n

theorem spells_iff {s : String} {n : Nat} :
    Spells s n ↔ s.toList.takeWhile Char.isDigit ≠ [] ∧
      Nat.ofDigitChars 10 (s.toList.takeWhile Char.isDigit) 0 = n := by
  constructor
  · rintro ⟨digits, rest, htext, hne, hdigits, hrest, hvalue⟩
    obtain ⟨htake, -⟩ := (Text.takeWhile_dropWhile_eq_iff _ _).2 ⟨htext, hdigits, hrest⟩
    rw [htake]
    exact ⟨hne, hvalue⟩
  · rintro ⟨hne, hvalue⟩
    obtain ⟨htext, hdigits, hrest⟩ :=
      (Text.takeWhile_dropWhile_eq_iff Char.isDigit s.toList).1 ⟨rfl, rfl⟩
    exact ⟨_, _, htext, hne, hdigits, hrest, hvalue⟩

theorem Spells.unique {s : String} {m n : Nat} (hm : Spells s m) (hn : Spells s n) : m = n :=
  (spells_iff.1 hm).2.symm.trans (spells_iff.1 hn).2

/-- A number is read off a text exactly when the text spells it and 32 bits hold it. -/
theorem leadingNumber?_eq_some_iff {s : String} {n : Nat} :
    leadingNumber? s = some n ↔ Spells s n ∧ n < UInt32.size := by
  have hvalue := Json.digitsValue_eq_ofDigitChars (s.toList.takeWhile Char.isDigit)
  rw [Json.digitsValue] at hvalue
  rw [spells_iff, leadingNumber?, hvalue]
  simp only [List.isEmpty_iff]
  split
  · next hnone =>
      constructor
      · intro h
        cases h
      · rintro ⟨⟨hne, rfl⟩, hlt⟩
        exact absurd hlt (Nat.not_lt.2 (hnone.resolve_left hne))
  · next hsome =>
      obtain ⟨hne, hlt⟩ := not_or.1 hsome
      rw [Option.some_inj]
      constructor
      · rintro rfl
        exact ⟨⟨hne, rfl⟩, Nat.not_le.1 hlt⟩
      · rintro ⟨⟨-, hn⟩, -⟩
        exact hn

namespace ServerVersion

/-- Both parts of the version spell a number that can be held; versions are in order by the
first number and then by the second. -/
def Known (version : ServerVersion) (numbers : Nat ×ₗ Nat) : Prop :=
  ∃ major minor, Spells version.major major ∧ Spells version.minor minor ∧
    major < UInt32.size ∧ minor < UInt32.size ∧ numbers = toLex (major, minor)

/-- The version is known, and it is this one or a later one. -/
def KnownFrom (version : ServerVersion) (least : Nat ×ₗ Nat) : Prop :=
  ∃ numbers, version.Known numbers ∧ least ≤ numbers

theorem known_iff {version : ServerVersion} {major minor : Nat} :
    version.Known (toLex (major, minor)) ↔
      leadingNumber? version.major = some major ∧ leadingNumber? version.minor = some minor := by
  rw [leadingNumber?_eq_some_iff, leadingNumber?_eq_some_iff]
  constructor
  · rintro ⟨major', minor', hmajor, hminor, hlt, hlt', hnumbers⟩
    obtain ⟨rfl, rfl⟩ := Prod.mk.inj (toLex_inj.1 hnumbers)
    exact ⟨⟨hmajor, hlt⟩, hminor, hlt'⟩
  · rintro ⟨⟨hmajor, hlt⟩, hminor, hlt'⟩
    exact ⟨major, minor, hmajor, hminor, hlt, hlt', rfl⟩

theorem Known.unique {version : ServerVersion} {numbers others : Nat ×ₗ Nat}
    (h : version.Known numbers) (hother : version.Known others) : numbers = others := by
  obtain ⟨major, minor, hmajor, hminor, -, -, rfl⟩ := h
  obtain ⟨major', minor', hmajor', hminor', -, -, rfl⟩ := hother
  rw [hmajor.unique hmajor', hminor.unique hminor']

/-- What is known of one version is known of each known version that is not before it. -/
theorem KnownFrom.mono {version later : ServerVersion} {least numbers laterNumbers : Nat ×ₗ Nat}
    (h : version.KnownFrom least) (hversion : version.Known numbers)
    (hlater : later.Known laterNumbers) (hle : numbers ≤ laterNumbers) :
    later.KnownFrom least := by
  obtain ⟨others, hothers, hleast⟩ := h
  obtain rfl := hversion.unique hothers
  exact ⟨laterNumbers, hlater, hleast.trans hle⟩

theorem stable_iff_le {major minor : Nat} :
    (major > 1 || (major == 1 && minor >= 14)) = true ↔
      toLex (1, 14) ≤ (toLex (major, minor) : Nat ×ₗ Nat) := by
  rw [Prod.Lex.toLex_le_toLex]
  simp only [Bool.or_eq_true, Bool.and_eq_true, decide_eq_true_eq, beq_iff_eq, gt_iff_lt,
    ge_iff_le, eq_comm (a := major)]

theorem hasStableNodeLabels_iff {version : ServerVersion} :
    version.hasStableNodeLabels = true ↔ version.KnownFrom (toLex (1, 14)) := by
  rw [hasStableNodeLabels]
  constructor
  · intro h
    split at h
    · next major minor hmajor hminor =>
        exact ⟨_, known_iff.2 ⟨hmajor, hminor⟩, stable_iff_le.1 h⟩
    · cases h
  · rintro ⟨numbers, hknown, hle⟩
    obtain ⟨major, minor, -, -, -, -, rfl⟩ := id hknown
    obtain ⟨hmajor, hminor⟩ := known_iff.1 hknown
    simp only [hmajor, hminor]
    exact stable_iff_le.2 hle

end ServerVersion

/-! ## The nodes -/

/-- The pods run on any node that has the labels of its platform under one of the domains. -/
def StatefulSet.RunsOn (workload : StatefulSet) (domains : List String) : Prop :=
  workload.spec.template.spec.affinity = some ⟨some ⟨some ⟨domains.map platformTerm⟩⟩⟩

/-- Adjustments that leave it alone where pods run. -/
def KeepAffinity (adjustments : List Adjustment) : Prop :=
  ∀ adjust ∈ adjustments, ∀ workload : StatefulSet,
    (adjust workload).spec.template.spec.affinity = workload.spec.template.spec.affinity

theorem keepAffinity_nil : KeepAffinity [] := by
  intro adjust hmem
  cases hmem

section

variable {adjustments : List Adjustment}

theorem affinity_desired (hkeep : KeepAffinity adjustments) (base : WorkloadMeta)
    (gateway : GatewayDescriptor) (hash : String) (version : ServerVersion) :
    (StatefulSet.desired base gateway hash version adjustments).spec.template.spec.affinity =
      some (gatewayAffinity version) :=
  foldl_adjustments_eq (fun workload => workload.spec.template.spec.affinity) hkeep _

theorem runsOn_desired_iff (hkeep : KeepAffinity adjustments) (base : WorkloadMeta)
    (gateway : GatewayDescriptor) (hash : String) (version : ServerVersion)
    (domains : List String) :
    (StatefulSet.desired base gateway hash version adjustments).RunsOn domains ↔
      domains.map platformTerm = platformTerms version := by
  rw [StatefulSet.RunsOn, affinity_desired hkeep, gatewayAffinity]
  simp only [Option.some_inj, Affinity.mk.injEq, NodeAffinity.mk.injEq, NodeSelector.mk.injEq]
  exact eq_comm

theorem platformTerms_stable_iff (version : ServerVersion) :
    ["kubernetes.io"].map platformTerm = platformTerms version ↔
      version.hasStableNodeLabels = true := by
  rw [platformTerms]
  cases version.hasStableNodeLabels <;> simp

theorem platformTerms_both_iff (version : ServerVersion) :
    ["kubernetes.io", "beta.kubernetes.io"].map platformTerm = platformTerms version ↔
      ¬ version.hasStableNodeLabels = true := by
  rw [platformTerms]
  cases version.hasStableNodeLabels <;> simp

/-- Pods ask for the labels of version 1.14 alone exactly when the cluster is known to be of that
version or a later one, and otherwise put up with the older labels too; so a later one of two
known versions never takes the older labels up again. -/
theorem nodes_follow_cluster_version (hkeep : KeepAffinity adjustments) (base : WorkloadMeta)
    (gateway : GatewayDescriptor) (hash : String) (version : ServerVersion) :
    let built (version : ServerVersion) : StatefulSet :=
      StatefulSet.desired base gateway hash version adjustments
    ((built version).RunsOn ["kubernetes.io"] ↔ version.KnownFrom (toLex (1, 14))) ∧
      ((built version).RunsOn ["kubernetes.io", "beta.kubernetes.io"] ↔
        ¬ version.KnownFrom (toLex (1, 14))) ∧
      ∀ later numbers laterNumbers, version.Known numbers → later.Known laterNumbers →
        numbers ≤ laterNumbers → (built version).RunsOn ["kubernetes.io"] →
        (built later).RunsOn ["kubernetes.io"] := by
  have hstable (version : ServerVersion) :
      (StatefulSet.desired base gateway hash version adjustments).RunsOn ["kubernetes.io"] ↔
        version.KnownFrom (toLex (1, 14)) := by
    rw [runsOn_desired_iff hkeep, platformTerms_stable_iff,
      ServerVersion.hasStableNodeLabels_iff]
  refine ⟨hstable version, ?_, ?_⟩
  · rw [runsOn_desired_iff hkeep, platformTerms_both_iff, ServerVersion.hasStableNodeLabels_iff]
  · intro later numbers laterNumbers hversion hlater hle hruns
    exact (hstable later).2 (((hstable version).1 hruns).mono hversion hlater hle)

end

/-- The sample gateway on clusters of the versions 1.21+ and 2.0. -/
theorem nodes_of_managed_cluster :
    KeepAffinity [] ∧
      (StatefulSet.desired (sampleSteady [] ⟨"1", "21+"⟩).base sampleGateway (Hash.ofText "a=1")
        ⟨"1", "21+"⟩ []).RunsOn ["kubernetes.io"] ∧
      (StatefulSet.desired (sampleSteady [] ⟨"2", "0"⟩).base sampleGateway (Hash.ofText "a=1")
        ⟨"2", "0"⟩ []).RunsOn ["kubernetes.io"] := by
  obtain ⟨hiff, -, hmono⟩ := nodes_follow_cluster_version keepAffinity_nil
    (sampleSteady [] ⟨"1", "21+"⟩).base sampleGateway (Hash.ofText "a=1") ⟨"1", "21+"⟩
  have hmanaged : ServerVersion.Known ⟨"1", "21+"⟩ (toLex (1, 21)) :=
    ServerVersion.known_iff.2 (by decide)
  have hnext : ServerVersion.Known ⟨"2", "0"⟩ (toLex (2, 0)) :=
    ServerVersion.known_iff.2 (by decide)
  have hruns := hiff.2 ⟨_, hmanaged, by decide⟩
  exact ⟨keepAffinity_nil, hruns, hmono ⟨"2", "0"⟩ _ _ hmanaged hnext (by decide) hruns⟩

/-- The number 4294967296 does not fit into 32 bits, so version 1.4294967296 counts as unknown,
though the one before it does not. -/
theorem large_numbers_are_not_known :
    Spells "1" 1 ∧ Spells "4294967295" 4294967295 ∧ Spells "4294967296" 4294967296 ∧
      toLex (1, 14) ≤ (toLex (1, 4294967296) : Nat ×ₗ Nat) ∧
      (StatefulSet.desired (sampleSteady [] .unknown).base sampleGateway (Hash.ofText "a=1")
        ⟨"1", "4294967295"⟩ []).RunsOn ["kubernetes.io"] ∧
      ¬ (StatefulSet.desired (sampleSteady [] .unknown).base sampleGateway (Hash.ofText "a=1")
        ⟨"1", "4294967296"⟩ []).RunsOn ["kubernetes.io"] ∧
      (StatefulSet.desired (sampleSteady [] .unknown).base sampleGateway (Hash.ofText "a=1")
        ⟨"1", "4294967296"⟩ []).RunsOn ["kubernetes.io", "beta.kubernetes.io"] := by
  refine ⟨spells_iff.2 (by decide), spells_iff.2 (by decide), spells_iff.2 (by decide),
    by decide, ?_, ?_, ?_⟩
  · rw [runsOn_desired_iff keepAffinity_nil, platformTerms_stable_iff]
    decide
  · rw [runsOn_desired_iff keepAffinity_nil, platformTerms_stable_iff]
    decide
  · rw [runsOn_desired_iff keepAffinity_nil, platformTerms_both_iff]
    decide

end FleetOperator
