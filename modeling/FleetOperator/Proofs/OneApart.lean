import FleetOperator.Proofs.Hash
import Mathlib.Logic.ExistsUnique

/-!
# Bytes that are the same but for one

A step of the hash is one-to-one in the state that it starts from: the byte is
xored in, which can be taken back, and the prime is odd, so that a product with
it can be divided by it again. In the byte it is one-to-one for the same reasons.
So two texts lead to one state up to the byte in which they differ, to two states
after it, and to two states ever after (`Hash.fnv1a_ne`).

Where texts differ is kept as a relation that goes down a list (`OneApart`), so
that it can be built up along with the text.
-/

namespace FleetOperator

/-! ## Lists that differ in one place -/

/-- Two lists of one length that differ at exactly one place. -/
def DifferOnce {α : Type} (xs ys : List α) : Prop :=
  xs.length = ys.length ∧ ∃! i : Nat, xs[i]? ≠ ys[i]?

/-- Two lists that are the same but for one place, where they have related items. -/
inductive OneApart {α : Type} (R : α → α → Prop) : List α → List α → Prop
  | head {x y : α} {rest : List α} (h : R x y) : OneApart R (x :: rest) (y :: rest)
  | tail {x : α} {xs ys : List α} (h : OneApart R xs ys) : OneApart R (x :: xs) (x :: ys)

namespace OneApart

variable {α β : Type} {R : α → α → Prop} {S : β → β → Prop} {xs ys : List α}

theorem append_left (h : OneApart R xs ys) (before : List α) :
    OneApart R (before ++ xs) (before ++ ys) := by
  induction before with
  | nil => exact h
  | cons x before ih => exact .tail ih

theorem append_right (h : OneApart R xs ys) (after : List α) :
    OneApart R (xs ++ after) (ys ++ after) := by
  induction h with
  | head h => exact .head h
  | tail _ ih => exact .tail ih

theorem of_split {x y : α} (h : R x y) (before after : List α) :
    OneApart R (before ++ x :: after) (before ++ y :: after) :=
  (head h).append_left before

theorem map {f : α → β} (h : OneApart R xs ys) (hf : ∀ {x y}, R x y → S (f x) (f y)) :
    OneApart S (xs.map f) (ys.map f) := by
  induction h with
  | head h => exact .head (hf h)
  | tail _ ih => exact .tail ih

theorem flatMap {f : α → List β} (h : OneApart R xs ys)
    (hf : ∀ {x y}, R x y → OneApart S (f x) (f y)) :
    OneApart S (xs.flatMap f) (ys.flatMap f) := by
  induction h with
  | head h => exact (hf h).append_right _
  | tail _ ih => exact ih.append_left _

end OneApart

theorem differOnce_of_oneApart {α : Type} {xs ys : List α}
    (h : OneApart (· ≠ ·) xs ys) : DifferOnce xs ys := by
  induction h with
  | head h =>
      refine ⟨rfl, 0, by simpa using h, fun i hi => ?_⟩
      cases i with
      | zero => rfl
      | succ i => exact absurd rfl hi
  | tail _ ih =>
      obtain ⟨hlength, i, hi, hunique⟩ := ih
      refine ⟨congrArg Nat.succ hlength, i + 1, hi, fun j hj => ?_⟩
      cases j with
      | zero => exact absurd rfl hj
      | succ j => rw [hunique j hj]

theorem oneApart_of_differOnce {α : Type} {xs ys : List α} (h : DifferOnce xs ys) :
    OneApart (· ≠ ·) xs ys := by
  obtain ⟨hlength, i, hi, hunique⟩ := h
  induction xs generalizing ys i with
  | nil =>
      obtain rfl := List.length_eq_zero_iff.1 hlength.symm
      exact absurd rfl hi
  | cons x xs ih =>
      obtain _ | ⟨y, ys⟩ := ys
      · cases hlength
      by_cases hxy : x = y
      · subst hxy
        cases i with
        | zero => exact absurd rfl hi
        | succ i =>
            exact .tail (ih (Nat.succ.inj hlength) i hi fun j hj =>
              Nat.succ.inj (hunique (j + 1) hj))
      · -- The first place is the one, so nothing behind it differs.
        have hzero := hunique 0 (by simpa using hxy)
        have hrest : xs = ys := by
          refine List.ext_getElem? fun j => Classical.byContradiction fun hj => ?_
          have hlater := hunique (j + 1) hj
          omega
        rw [hrest]
        exact .head hxy

/-! ## One byte and the hash -/

namespace Hash

/-- A product with the prime can be divided by it again. -/
theorem mul_prime_cancel {m n : UInt64} (h : m * prime = n * prime) : m = n := by
  have hinverse : prime * 0xce965057aff6957b = 1 := by decide
  have hdivided := congrArg (· * 0xce965057aff6957b) h
  simpa only [UInt64.mul_assoc, hinverse, UInt64.mul_one] using hdivided

theorem step_state_injective (byte : UInt8) : Function.Injective (step · byte) := by
  intro state other h
  exact (UInt64.xor_left_inj _).1 (mul_prime_cancel h)

theorem step_byte_injective (state : UInt64) : Function.Injective (step state) := by
  intro byte other h
  exact UInt8.toUInt64_inj.1 ((UInt64.xor_right_inj _).1 (mul_prime_cancel h))

/-- States that differ stay different, whatever bytes follow. -/
theorem foldl_step_injective (bytes : List UInt8) :
    Function.Injective fun state => bytes.foldl step state := by
  induction bytes with
  | nil => exact Function.injective_id
  | cons byte rest ih => exact ih.comp (step_state_injective byte)

theorem foldl_step_ne {xs ys : List UInt8} (h : OneApart (· ≠ ·) xs ys) (state : UInt64) :
    xs.foldl step state ≠ ys.foldl step state := by
  induction h generalizing state with
  | @head _ _ rest h => exact (foldl_step_injective rest).ne ((step_byte_injective state).ne h)
  | @tail x _ _ _ ih => exact ih (step state x)

/-- Bytes that are the same but for one have two hashes. -/
theorem fnv1a_ne {xs ys : List UInt8} (h : OneApart (· ≠ ·) xs ys) : fnv1a xs ≠ fnv1a ys :=
  foldl_step_ne h offset

theorem ofText_ne {s t : String} (h : OneApart (· ≠ ·) (Text.bytes s) (Text.bytes t)) :
    ofText s ≠ ofText t := by
  rw [Ne, ofText_eq_iff]
  exact fnv1a_ne h

end Hash

end FleetOperator
