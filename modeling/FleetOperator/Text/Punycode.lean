/-!
# Punycode

A label of a host name that is not ASCII is written with its ASCII characters first and then, in
the order of their code points, where the others go: each as the distance from the last one, in
digits of base 36 whose thresholds adapt to the distances so far. A distance ends at the first
digit below its threshold, so the digits of one need no mark before those of the next.
-/

namespace FleetOperator.Text.Punycode

/-- The letters stand for the digits below 26, the numerals for the others. -/
def digit (d : Nat) : Char :=
  if d < 26 then Char.ofNat ('a'.toNat + d) else Char.ofNat ('0'.toNat + (d - 26))

/-- The threshold of the digit with weight `k`. -/
def threshold (k bias : Nat) : Nat :=
  if k ≤ bias then 1 else if bias + 26 ≤ k then 26 else k - bias

theorem threshold_pos (k bias : Nat) : 1 ≤ threshold k bias := by
  unfold threshold
  split
  · omega
  · split <;> omega

/-- Brings a distance below 456, with 36 for each division that takes. -/
def shrink (delta k : Nat) : Nat × Nat :=
  if 455 < delta then shrink (delta / 35) (k + 36) else (delta, k)
termination_by delta

/-- The bias after a distance, of which there have been `count`. -/
def adapt (delta count : Nat) (first : Bool) : Nat :=
  let delta := if first then delta / 700 else delta / 2
  let (delta, k) := shrink (delta + delta / count) 0
  k + 36 * delta / (delta + 38)

/-- The digits of a distance. -/
def distance (bias k q : Nat) : List Char :=
  let t := threshold k bias
  if q < t then [digit q]
  else digit (t + (q - t) % (36 - t)) :: distance bias (k + 36) ((q - t) / (36 - t))
termination_by q
decreasing_by
  have := threshold_pos k bias
  calc (q - threshold k bias) / (36 - threshold k bias)
      ≤ q - threshold k bias := Nat.div_le_self _ _
    _ < q := by omega

structure State where
  written : List Char
  delta : Nat
  bias : Nat
  /-- How many characters of the label are written. -/
  handled : Nat

/-- Looks at a character of the label on the way to the code point `m`. -/
def visit (basic m : Nat) (state : State) (c : Char) : State :=
  if c.toNat < m then { state with delta := state.delta + 1 }
  else if c.toNat = m then {
    written := state.written ++ distance state.bias 36 state.delta
    delta := 0
    bias := adapt state.delta (state.handled + 1) (state.handled = basic)
    handled := state.handled + 1 }
  else state

/-- Writes the code points of a list, which is in ascending order, all from `n` on. -/
def insertAll (label : List Char) (basic : Nat) : List Nat → Nat → State → State
  | [], _, state => state
  | m :: rest, n, state =>
    let state := { state with delta := state.delta + (m - n) * (state.handled + 1) }
    let state := label.foldl (visit basic m) state
    insertAll label basic rest (m + 1) { state with delta := state.delta + 1 }

/-- The code points of a label that are not ASCII, in ascending order and each once. -/
def foreignPoints (label : List Char) : List Nat :=
  (((label.map Char.toNat).filter (0x80 ≤ ·)).mergeSort fun a b => a ≤ b).eraseDups

def encode (label : List Char) : List Char :=
  let basic := label.filter (·.toNat < 0x80)
  let start : State := ⟨[], 0, 72, basic.length⟩
  let final := insertAll label basic.length (foreignPoints label) 0x80 start
  (if basic.isEmpty then [] else basic ++ ['-']) ++ final.written

/-! ## Reading -/

/-- The number of a digit, of either case. -/
def value? (c : Char) : Option Nat :=
  if 'a' ≤ c ∧ c ≤ 'z' then some (c.toNat - 'a'.toNat)
  else if 'A' ≤ c ∧ c ≤ 'Z' then some (c.toNat - 'A'.toNat)
  else if '0' ≤ c ∧ c ≤ '9' then some (c.toNat - '0'.toNat + 26)
  else none

/-- Adds a distance to the place `i`, of which the digit with weight `k` counts `scale` times, and
gives what is behind it. No number on the way may need more than 32 bits. -/
def readDistance? (bias k scale i : Nat) : List Char → Option (Nat × List Char)
  | [] => none
  | c :: rest =>
    match value? c with
    | none => none
    | some d =>
      let t := threshold k bias
      if UInt32.size ≤ i + d * scale then none
      else if d < t then some (i + d * scale, rest)
      else if UInt32.size ≤ scale * (36 - t) then none
      else readDistance? bias (k + 36) (scale * (36 - t)) (i + d * scale) rest

theorem length_lt_of_readDistance? {bias k scale i : Nat} {cs rest : List Char} {next : Nat}
    (h : readDistance? bias k scale i cs = some (next, rest)) : rest.length < cs.length := by
  fun_induction readDistance? bias k scale i cs with
  | case1 => simp at h
  | case2 => simp at h
  | case3 => simp at h
  | case4 =>
    simp only [Option.some.injEq, Prod.mk.injEq] at h
    simp [← h.2]
  | case5 => simp at h
  | case6 k scale i c r d hd t _ _ _ ih =>
    have := ih h
    simp only [List.length_cons]
    omega

/-- Puts the characters that a text gives the distances of among those that are `written`; the
last one was the code point `n`, in front of the place `i`. -/
def readAll? (bias n i : Nat) (written cs : List Char) : Option (List Char) :=
  if cs.isEmpty then some written
  else match _h : readDistance? bias 36 1 i cs with
    | none => none
    | some (next, rest) =>
      let count := written.length + 1
      let code := n + next / count
      if code.isValidChar then
        readAll? (adapt (next - i) count (i = 0)) code (next % count + 1)
          (written.insertIdx (next % count) (Char.ofNat code)) rest
      else none
termination_by cs.length
decreasing_by exact length_lt_of_readDistance? _h

/-- The label that a text spells. What stands in front of the last hyphen is there as it is, and a
hyphen with nothing in front of it is no digit. -/
def decode? (cs : List Char) : Option (List Char) :=
  let digits := (cs.reverse.takeWhile (· ≠ '-')).reverse
  let front := cs.take (cs.length - digits.length)
  if front.length ≤ 1 then readAll? 72 0x80 0 [] cs
  else readAll? 72 0x80 0 front.dropLast digits

end FleetOperator.Text.Punycode
