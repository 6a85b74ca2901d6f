/-!
# Dialogues

A controller is a program that talks: it makes a call, looks at the answer and goes on. A
`Dialogue` is such a program as data. It is either done or asks one call and knows for every
answer how to go on. What answers the calls is outside the program, so one and the same program
runs against an in-memory cluster, against the API server, with calls that fail and with other
clients that act between its calls.
-/

namespace FleetOperator

/-- The calls that a program may make, and what is answered to each. -/
structure Interface where
  Call : Type
  Answer : Call → Type

/-- A program over an interface. -/
inductive Dialogue (I : Interface) (α : Type) : Type where
  | done (value : α)
  | ask (call : I.Call) (next : I.Answer call → Dialogue I α)

namespace Dialogue

variable {I J : Interface} {α β σ : Type}

/-- Goes on with a second program where the first is done. -/
def bind : Dialogue I α → (α → Dialogue I β) → Dialogue I β
  | .done value, f => f value
  | .ask call next, f => .ask call fun answer => (next answer).bind f

instance : Monad (Dialogue I) where
  pure := .done
  bind := bind

/-- The program that makes one call and is done with its answer. -/
def call (c : I.Call) : Dialogue I (I.Answer c) := .ask c .done

/-- Runs a program against a partner with a state. -/
def run (partner : (c : I.Call) → σ → I.Answer c × σ) : Dialogue I α → σ → α × σ
  | .done value, state => (value, state)
  | .ask call next, state =>
    let (answer, state) := partner call state
    (next answer).run partner state

/-- The program that holds another dialogue in place of each call. -/
def translate (f : (c : I.Call) → Dialogue J (I.Answer c)) : Dialogue I α → Dialogue J α
  | .done value => .done value
  | .ask call next => (f call).bind fun answer => (next answer).translate f

theorem bind_done (x : Dialogue I α) : x.bind .done = x := by
  induction x with
  | done value => rfl
  | ask call next ih => exact congrArg (ask call) (funext ih)

theorem bind_assoc {γ : Type} (x : Dialogue I α) (f : α → Dialogue I β) (g : β → Dialogue I γ) :
    (x.bind f).bind g = x.bind fun a => (f a).bind g := by
  induction x with
  | done value => rfl
  | ask call next ih => exact congrArg (ask call) (funext ih)

instance : LawfulMonad (Dialogue I) :=
  LawfulMonad.mk' _ (fun x => bind_done x) (fun _ _ => rfl) (fun x f g => bind_assoc x f g)

/-- A run of two programs in turn is a run of the first and then of the second. -/
theorem run_bind (partner : (c : I.Call) → σ → I.Answer c × σ) (x : Dialogue I α)
    (f : α → Dialogue I β) (state : σ) :
    (x >>= f).run partner state =
      (f (x.run partner state).1).run partner (x.run partner state).2 := by
  induction x generalizing state with
  | done value => rfl
  | ask call next ih => exact ih _ _

end Dialogue

end FleetOperator
