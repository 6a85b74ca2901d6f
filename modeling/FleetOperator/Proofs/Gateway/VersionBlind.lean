import FleetOperator.Proofs.Gateway.LookFirst

/-!
# Cycles that do not see resource versions

Two runs of a cycle that find the same objects under different resource
versions do the same. `Dialogue.Alike` relates two programs that make the same
calls and come to the same result, as long as they are given the same answers,
apart from the resource versions of objects: what the programs look up may
differ in them, and so may what they replace and delete.

A cycle uses what it looks up for a comparison of labels, hash and
specification, and for the version that a replacement carries. So the cycle of
a gateway is alike to itself (`alike_reconcileGateway`), and with it that of a
fleet.
-/

namespace FleetOperator

open GatewayProgram (ask askOr ofExcept)

/-! ## Contents -/

namespace StatefulSet

variable {live other : StatefulSet}

theorem key_eq_of_withoutRevision (h : live.withoutRevision = other.withoutRevision) :
    live.key = other.key :=
  congrArg (·.key) h

theorem labels_eq_of_withoutRevision (h : live.withoutRevision = other.withoutRevision) :
    live.metadata.labels = other.metadata.labels :=
  congrArg (·.metadata.labels) h

theorem differsFrom_eq_of_withoutRevision (h : live.withoutRevision = other.withoutRevision)
    (desired : StatefulSet) : live.differsFrom desired = other.differsFrom desired :=
  congrArg (·.differsFrom desired) h

theorem isGatewayOf_eq_of_withoutRevision (h : live.withoutRevision = other.withoutRevision)
    (fleetName moduleName : String) :
    live.isGatewayOf fleetName moduleName = other.isGatewayOf fleetName moduleName :=
  congrArg (·.isGatewayOf fleetName moduleName) h

end StatefulSet

theorem SameContents.refl (slot : Option StatefulSet) : SameContents slot slot := rfl

theorem sameContents_some {live other : StatefulSet} :
    SameContents (some live) (some other) ↔ live.withoutRevision = other.withoutRevision := by
  simp [SameContents]

/-- Two places with the same contents are both empty or both taken. -/
theorem SameContents.cases {slot other : Option StatefulSet} (h : SameContents slot other) :
    slot = none ∧ other = none ∨
      ∃ live live', slot = some live ∧ other = some live' ∧
        live.withoutRevision = live'.withoutRevision := by
  cases slot with
  | none =>
      cases other with
      | none => exact .inl ⟨rfl, rfl⟩
      | some live' => cases h
  | some live =>
      cases other with
      | none => cases h
      | some live' => exact .inr ⟨live, live', rfl, rfl, sameContents_some.1 h⟩

/-! ## Programs -/

/-- Two calls for the same, apart from the resource versions of what is replaced or deleted. -/
inductive GatewayCall.Alike : GatewayCall → GatewayCall → Prop
  | refl (call : GatewayCall) : Alike call call
  | update {workload other : StatefulSet}
      (h : workload.withoutRevision = other.withoutRevision) :
      Alike (.update workload) (.update other)
  | delete {workload other : StatefulSet}
      (h : workload.withoutRevision = other.withoutRevision) :
      Alike (.delete workload) (.delete other)

/-- Two answers that say the same, apart from the resource version of an object. -/
def GatewayCall.SameAnswer :
    (call : GatewayCall) → (answer other : Except OperatorError call.Result) → Prop
  | .get _ _, .ok found, .ok other => SameContents found other
  | _, answer, other => answer = other

/-- Two programs that do the same, apart from resource versions. -/
inductive Dialogue.Alike {α : Type} :
    Dialogue gatewayInterface α → Dialogue gatewayInterface α → Prop
  | done (value : α) : Alike (.done value) (.done value)
  | ask {call : GatewayCall} {next next' : _ → Dialogue gatewayInterface α}
      (h : ∀ answer other, call.SameAnswer answer other → Alike (next answer) (next' other)) :
      Alike (.ask call next) (.ask call next')
  | update {workload other : StatefulSet} {next next' : _ → Dialogue gatewayInterface α}
      (hsame : workload.withoutRevision = other.withoutRevision)
      (h : ∀ answer : Except OperatorError Unit, Alike (next answer) (next' answer)) :
      Alike (.ask (.update workload) next) (.ask (.update other) next')
  | delete {workload other : StatefulSet} {next next' : _ → Dialogue gatewayInterface α}
      (hsame : workload.withoutRevision = other.withoutRevision)
      (h : ∀ answer : Except OperatorError Unit, Alike (next answer) (next' answer)) :
      Alike (.ask (.delete workload) next) (.ask (.delete other) next')

namespace Dialogue.Alike

variable {α β : Type}

theorem bind {program other : Dialogue gatewayInterface α}
    {next next' : α → Dialogue gatewayInterface β} (h : program.Alike other)
    (hnext : ∀ value, (next value).Alike (next' value)) :
    (program.bind next).Alike (other.bind next') := by
  induction h with
  | done value => exact hnext value
  | ask _ ih => exact .ask ih
  | update hsame _ ih => exact .update hsame ih
  | delete hsame _ ih => exact .delete hsame ih

/-- A program that looks up no object is alike to itself. -/
theorem of_asksOnly {program : Dialogue gatewayInterface α}
    (h : program.AsksOnly fun (call : GatewayCall) => ∀ ns name, call ≠ .get ns name) :
    program.Alike program := by
  induction program with
  | done value => exact .done value
  | ask call next ih =>
      refine .ask fun answer other hsame => ?_
      have heq : answer = other := by
        cases call with
        | get ns name => exact absurd rfl (h.1 ns name)
        | applyProperties | readSecret | serverVersion | create | update | delete => exact hsame
      rw [heq]
      exact ih other (h.2 other)

end Dialogue.Alike

namespace GatewayProgram

variable {α β : Type}

/-- Two gateway programs that do the same, apart from resource versions. -/
def Alike (program other : GatewayProgram α) : Prop :=
  (ExceptT.run program).Alike (ExceptT.run other)

namespace Alike

theorem pure (value : α) : Alike (Pure.pure value) (Pure.pure value) := .done _

theorem ofExcept {ε : Type} (wrap : ε → GatewayError) (value : Except ε α) :
    Alike (GatewayProgram.ofExcept wrap value) (GatewayProgram.ofExcept wrap value) := .done _

theorem bind {program other : GatewayProgram α} {next next' : α → GatewayProgram β}
    (h : Alike program other) (hnext : ∀ value, Alike (next value) (next' value)) :
    Alike (program >>= next) (other >>= next') := by
  refine Dialogue.Alike.bind h fun result => ?_
  cases result with
  | ok value => exact hnext value
  | error e => exact .done _

theorem of_asksOnly {program : GatewayProgram α}
    (h : program.AsksOnly fun call => ∀ ns name, call ≠ .get ns name) : Alike program program :=
  Dialogue.Alike.of_asksOnly h

/-- After a look, programs go on alike where they do for the same contents. -/
theorem get_bind {ns name : String} {next next' : Option StatefulSet → GatewayProgram β}
    (hnext : ∀ found other, SameContents found other → Alike (next found) (next' other)) :
    Alike (ask (.get ns name) >>= next) (ask (.get ns name) >>= next') := by
  refine .ask fun answer other hsame => ?_
  cases answer with
  | error e =>
      obtain rfl : Except.error e = other := hsame
      exact .done _
  | ok found =>
      cases other with
      | error e => cases hsame
      | ok found' => exact hnext found found' hsame

theorem update_bind {workload other : StatefulSet}
    (hsame : workload.withoutRevision = other.withoutRevision) (outcome : Outcome) :
    Alike (ask (.update workload) >>= fun _ => Pure.pure outcome)
      (ask (.update other) >>= fun _ => Pure.pure outcome) :=
  .update hsame fun answer => by cases answer <;> exact .done _

theorem delete_bind {workload other : StatefulSet}
    (hsame : workload.withoutRevision = other.withoutRevision) (outcome : Outcome) :
    Alike (ask (.delete workload) >>= fun _ => Pure.pure outcome)
      (ask (.delete other) >>= fun _ => Pure.pure outcome) :=
  .delete hsame fun answer => by cases answer <;> exact .done _

theorem mapM {γ : Type} {f : γ → GatewayProgram α} (h : ∀ item, Alike (f item) (f item))
    (items : List γ) : Alike (items.mapM f) (items.mapM f) := by
  induction items with
  | nil => exact .pure []
  | cons item rest ih =>
      rw [List.mapM_cons]
      exact .bind (h item) fun _ => .bind ih fun _ => .pure _

end Alike

end GatewayProgram

/-! ## Cycles -/

section

variable {adjustments : List Adjustment} {fleet : Fleet} {gateway : GatewayDescriptor}

theorem alike_settle (desired : StatefulSet) {found other : Option StatefulSet}
    (h : SameContents found other) : (settle desired found).Alike (settle desired other) := by
  rcases h.cases with ⟨rfl, rfl⟩ | ⟨live, live', rfl, rfl, hsame⟩
  · exact .of_asksOnly (.bind (.ask (by simp)) fun _ => .pure _)
  · simp only [settle, StatefulSet.labels_eq_of_withoutRevision hsame,
      StatefulSet.differsFrom_eq_of_withoutRevision hsame desired]
    split
    · exact .delete_bind hsame _
    · split
      · have hreplaced : (desired.atVersionOf live).withoutRevision =
            (desired.atVersionOf live').withoutRevision := rfl
        exact .update_bind hreplaced _
      · exact .pure _

theorem alike_settleAbsence (base : WorkloadMeta) {found other : Option StatefulSet}
    (h : SameContents found other) :
    (settleAbsence base gateway found).Alike (settleAbsence base gateway other) := by
  rcases h.cases with ⟨rfl, rfl⟩ | ⟨live, live', rfl, rfl, hsame⟩
  · exact .pure _
  · simp only [settleAbsence, StatefulSet.isGatewayOf_eq_of_withoutRevision hsame]
    split
    · exact .delete_bind hsame _
    · exact .pure _

theorem alike_applyCustomProperties (base : WorkloadMeta) :
    (applyCustomProperties fleet base gateway).Alike
      (applyCustomProperties fleet base gateway) := by
  refine .of_asksOnly ?_
  unfold applyCustomProperties
  split
  · exact .pure ()
  · exact .bind (.ofExcept _ _) fun _ => .ask (by simp)

/-- The cycle of a gateway does not depend on the resource versions that it finds. -/
theorem alike_reconcileGateway :
    (reconcileGateway adjustments fleet gateway).Alike
      (reconcileGateway adjustments fleet gateway) := by
  unfold reconcileGateway
  split
  · rw [convergeGateway_steps]
    refine .bind (.ofExcept _ _) fun base => ?_
    refine .bind (alike_applyCustomProperties base) fun _ => ?_
    refine .bind (.of_asksOnly (asksOnly_hashCustomProperties (by simp) _ _)) fun hash => ?_
    refine .bind (.of_asksOnly (.askOr (by simp) _)) fun version => ?_
    exact .bind (.ofExcept _ _) fun owner => .get_bind fun found other hsame =>
      alike_settle _ hsame
  · rw [retireGateway_eq]
    exact .bind (.ofExcept _ _) fun base => .get_bind fun found other hsame =>
      alike_settleAbsence base hsame

theorem alike_reconcileFleet (registry : TemplateRegistry) (operatorVersion : String) :
    (reconcileFleet registry operatorVersion adjustments fleet).Alike
      (reconcileFleet registry operatorVersion adjustments fleet) :=
  .bind (.ofExcept _ _) fun _ => .bind (.mapM (fun _ => alike_reconcileGateway) _) fun _ => .pure _

end

end FleetOperator
