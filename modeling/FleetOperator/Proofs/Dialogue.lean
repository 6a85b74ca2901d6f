import FleetOperator.Dialogue

/-!
# What a program does in a run

A run of a program against a partner is a list of moments: the calls that it
makes, in their order, each with the state of the partner that answers it. The
list follows the run, so the moments of two programs in turn are those of the
first and then those of the second (`moments_bind`), which a program that may
stop with an error comes to only if the first does not stop
(`Performs.bind_ok`, `Performs.bind_error`).

What is true of every call that a program can make is true of every call that
it makes (`call_of_mem_moments`). A program with other dialogues in place of
its calls runs as it does against a partner that has these dialogues with a
partner of its own (`run_translate`).
-/

namespace FleetOperator

/-- A call, and the state that it is made to. -/
structure Moment (I : Interface) (σ : Type) where
  state : σ
  call : I.Call

namespace Dialogue

variable {I J : Interface} {α β σ ε : Type}

/-! ## The calls that a program can make -/

/-- The calls of a program are none but those with a property. -/
def AsksOnly (p : I.Call → Prop) : Dialogue I α → Prop
  | .done _ => True
  | .ask call next => p call ∧ ∀ answer, (next answer).AsksOnly p

theorem AsksOnly.bind {p : I.Call → Prop} {program : Dialogue I α} {next : α → Dialogue I β}
    (h : program.AsksOnly p) (hnext : ∀ value, (next value).AsksOnly p) :
    (program.bind next).AsksOnly p := by
  induction program with
  | done value => exact hnext value
  | ask call rest ih => exact ⟨h.1, fun answer => ih answer (h.2 answer)⟩

/-! ## The calls that a program makes -/

/-- The moments of a run against a partner. -/
def moments (partner : (c : I.Call) → σ → I.Answer c × σ) : Dialogue I α → σ → List (Moment I σ)
  | .done _, _ => []
  | .ask call next, state =>
    ⟨state, call⟩ :: (next (partner call state).1).moments partner (partner call state).2

theorem moments_bind (partner : (c : I.Call) → σ → I.Answer c × σ) (x : Dialogue I α)
    (f : α → Dialogue I β) (state : σ) :
    (x >>= f).moments partner state = x.moments partner state ++
      (f (x.run partner state).1).moments partner (x.run partner state).2 := by
  induction x generalizing state with
  | done value => rfl
  | ask call next ih => exact congrArg (List.cons _) (ih _ _)

theorem call_of_mem_moments {partner : (c : I.Call) → σ → I.Answer c × σ} {p : I.Call → Prop}
    {x : Dialogue I α} (h : x.AsksOnly p) {state : σ} {moment : Moment I σ}
    (hmem : moment ∈ x.moments partner state) : p moment.call := by
  induction x generalizing state with
  | done value => cases hmem
  | ask call next ih =>
      rcases List.mem_cons.1 hmem with rfl | hmem
      · exact h.1
      · exact ih _ (h.2 _) hmem

/-- A run of two programs in turn stops with the first that fails. -/
theorem run_exceptT_bind (partner : (c : I.Call) → σ → I.Answer c × σ)
    (program : ExceptT ε (Dialogue I) α) (next : α → ExceptT ε (Dialogue I) β) (state : σ) :
    (ExceptT.run (program >>= next)).run partner state =
      match (ExceptT.run program).run partner state with
      | (.ok value, after) => (ExceptT.run (next value)).run partner after
      | (.error e, after) => (.error e, after) := by
  refine (run_bind partner (ExceptT.run program) (ExceptT.bindCont next) state).trans ?_
  cases (ExceptT.run program).run partner state with
  | mk result after => cases result <;> rfl

/-- The moments of a first program, and of a second one if the first does not fail. -/
theorem moments_exceptT_bind (partner : (c : I.Call) → σ → I.Answer c × σ)
    (program : ExceptT ε (Dialogue I) α) (next : α → ExceptT ε (Dialogue I) β) (state : σ) :
    (ExceptT.run (program >>= next)).moments partner state =
      (ExceptT.run program).moments partner state ++
        match (ExceptT.run program).run partner state with
        | (.ok value, after) => (ExceptT.run (next value)).moments partner after
        | (.error _, _) => [] := by
  refine (moments_bind partner (ExceptT.run program) (ExceptT.bindCont next) state).trans ?_
  cases (ExceptT.run program).run partner state with
  | mk result after => cases result <;> rfl

/-! ## Runs as wholes -/

/-- A run of a program: the calls that it makes, its value and the state that it leaves. -/
structure Performs (partner : (c : I.Call) → σ → I.Answer c × σ) (program : Dialogue I α)
    (before : σ) (calls : List I.Call) (value : α) (after : σ) : Prop where
  run : program.run partner before = (value, after)
  calls : (program.moments partner before).map (·.call) = calls

section

variable {partner : (c : I.Call) → σ → I.Answer c × σ} {before middle after : σ}
  {calls rest : List I.Call}

theorem exists_performs (partner : (c : I.Call) → σ → I.Answer c × σ) (program : Dialogue I α)
    (before : σ) : ∃ calls value after, program.Performs partner before calls value after :=
  ⟨_, _, _, rfl, rfl⟩

theorem Performs.bind {program : Dialogue I α} {next : α → Dialogue I β} {value : α} {result : β}
    (h : program.Performs partner before calls value middle)
    (hnext : (next value).Performs partner middle rest result after) :
    (program >>= next).Performs partner before (calls ++ rest) result after where
  run := by rw [run_bind, h.run, hnext.run]
  calls := by rw [moments_bind, List.map_append, h.run, h.calls, hnext.calls]

theorem Performs.map {program : Dialogue I α} {value : α}
    (h : program.Performs partner before calls value after) (f : α → β) :
    (program.bind fun found => .done (f found)).Performs partner before calls (f value)
      after where
  run := by
    refine (run_bind partner program (fun found => .done (f found)) before).trans ?_
    rw [h.run]
    rfl
  calls := by
    rw [← h.calls]
    refine congrArg (List.map _)
      ((moments_bind partner program (fun found => .done (f found)) before).trans ?_)
    exact List.append_nil _

theorem Performs.bind_ok {program : ExceptT ε (Dialogue I) α}
    {next : α → ExceptT ε (Dialogue I) β} {value : α} {result : Except ε β}
    (h : (ExceptT.run program).Performs partner before calls (.ok value) middle)
    (hnext : (ExceptT.run (next value)).Performs partner middle rest result after) :
    (ExceptT.run (program >>= next)).Performs partner before (calls ++ rest) result after where
  run := by
    rw [run_exceptT_bind, h.run]
    exact hnext.run
  calls := by
    rw [moments_exceptT_bind, List.map_append, h.run, h.calls]
    exact congrArg _ hnext.calls

theorem Performs.bind_error {program : ExceptT ε (Dialogue I) α} {e : ε}
    (h : (ExceptT.run program).Performs partner before calls (.error e) after)
    (next : α → ExceptT ε (Dialogue I) β) :
    (ExceptT.run (program >>= next)).Performs partner before calls (.error e) after where
  run := by rw [run_exceptT_bind, h.run]
  calls := by rw [moments_exceptT_bind, h.run, List.append_nil, h.calls]

end

/-! ## Other dialogues in place of calls -/

theorem run_translate (partner : (c : J.Call) → σ → J.Answer c × σ)
    (f : (c : I.Call) → Dialogue J (I.Answer c)) (program : Dialogue I α) (state : σ) :
    (program.translate f).run partner state =
      program.run (fun call state => (f call).run partner state) state := by
  induction program generalizing state with
  | done value => rfl
  | ask call next ih =>
      have hcall := run_bind partner (f call) (fun answer => (next answer).translate f) state
      rw [ih] at hcall
      exact hcall

/-- Where every call is held with one of two partners only, so is the program. -/
theorem run_translate_left {δ : Type} {partner : (c : J.Call) → σ × δ → J.Answer c × σ × δ}
    {own : (c : I.Call) → σ → I.Answer c × σ} {f : (c : I.Call) → Dialogue J (I.Answer c)}
    (hf : ∀ call left right,
      (f call).run partner (left, right) = ((own call left).1, (own call left).2, right))
    (program : Dialogue I α) (left : σ) (right : δ) :
    (program.translate f).run partner (left, right) =
      ((program.run own left).1, (program.run own left).2, right) := by
  induction program generalizing left with
  | done value => rfl
  | ask call next ih =>
      refine (run_bind partner (f call) (fun answer => (next answer).translate f) _).trans ?_
      rw [hf]
      exact ih _ _

end Dialogue

end FleetOperator
