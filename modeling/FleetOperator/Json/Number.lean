import FleetOperator.Json.Basic

/-!
# Reading JSON numbers

A number has a whole part without leading zeros, then perhaps a fraction and an exponent. It is
held if its double is finite. The double is found in two roundings, that of the digits and that of
the power of ten that they are multiplied with; only as many digits count as fit into 64 bits, and
the whole ones after them count as zeros.
-/

namespace FleetOperator.Json

/-- The number that decimal digits spell. -/
def digitsValue (ds : List Char) : Nat :=
  ds.foldl (fun n d => n * 10 + (d.toNat - '0'.toNat)) 0

/-- The digits in front, and what follows them. -/
def spanDigits (cs : List Char) : List Char × List Char :=
  (cs.takeWhile Char.isDigit, cs.dropWhile Char.isDigit)

/-! ## Doubles -/

/-- The whole number of 53 bits and zeros behind them that is nearest to `n`; of two, the even
one. -/
def roundToDouble (n : Nat) : Nat :=
  let unit := 1 <<< (n.log2 - 52)
  let bits := n / unit
  let rest := n % unit
  if unit < 2 * rest ∨ (2 * rest = unit ∧ bits % 2 = 1) then (bits + 1) * unit else bits * unit

/-- The least number that no finite double is nearest to: 2^1024 less half a unit. -/
def doubleBound : Nat := (1 <<< 1024) - (1 <<< 970)

/-- The greatest power of ten whose double is finite. -/
def largestTenPower : Nat := 308

/-- Whether `digits * 10 ^ exponent` has a finite double. -/
def isFiniteDouble (digits : Nat) (exponent : Int) : Bool :=
  if exponent < 0 ∨ digits = 0 then true
  else
    exponent ≤ largestTenPower &&
      roundToDouble digits * roundToDouble (Nat.pow 10 exponent.toNat) < doubleBound

/-- Appends digits to a number as long as it fits into 64 bits, and counts them. -/
def appendDigits (n : Nat) : List Char → Nat × Nat
  | [] => (n, 0)
  | d :: ds =>
    let next := n * 10 + (d.toNat - '0'.toNat)
    if next < UInt64.size then
      let (all, count) := appendDigits next ds
      (all, count + 1)
    else (n, 0)

/-- Whether a number can be held that is written with these digits and this exponent. -/
def isHeld (whole fraction : List Char) (exponent : Int) : Bool :=
  let (digits, count) := appendDigits 0 whole
  let skipped := whole.length - count
  let (digits, count) := appendDigits digits fraction
  isFiniteDouble digits (exponent + skipped - count)

/-! ## The grammar -/

/-- A fraction: a point and at least one digit. -/
def readFraction (cs : List Char) : Option (List Char × List Char) :=
  match cs with
  | '.' :: rest =>
    match spanDigits rest with
    | ([], _) => none
    | (ds, left) => some (ds, left)
  | _ => some ([], cs)

/-- An exponent: its letter, a sign and at least one digit. -/
def readExponent (cs : List Char) : Option (Option Int × List Char) :=
  match cs with
  | c :: rest =>
    if c = 'e' ∨ c = 'E' then
      let (sign, digits) : Int × List Char :=
        match rest with
        | '+' :: ds => (1, ds)
        | '-' :: ds => (-1, ds)
        | ds => (1, ds)
      match spanDigits digits with
      | ([], _) => none
      | (ds, left) => some (some (sign * digitsValue ds), left)
    else some (none, cs)
  | [] => some (none, [])

/-- A number. A text with a fraction or an exponent, and the negative zero, are no whole
numbers. -/
def readNumber (cs : List Char) : Option (Json × List Char) := do
  let (negative, body) : Bool × List Char :=
    match cs with
    | '-' :: rest => (true, rest)
    | _ => (false, cs)
  let (whole, afterWhole) := spanDigits body
  match whole with
  | [] => none
  | ['0'] => pure ()
  | '0' :: _ => none
  | _ => pure ()
  let (fraction, afterFraction) ← readFraction afterWhole
  let (exponent, left) ← readExponent afterFraction
  let m := digitsValue whole
  if !isHeld whole fraction (exponent.getD 0) then return (.unreadable, left)
  else if fraction.isEmpty ∧ exponent.isNone ∧ ¬ (negative ∧ m = 0) then
    return (.int (if negative then -(m : Int) else m), left)
  else
    return (.real (String.ofList (cs.take (cs.length - left.length))), left)

end FleetOperator.Json
