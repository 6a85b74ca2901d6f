import FleetOperator.Text.Hex

/-!
# Tables of code points

What a standard says of characters it says of whole runs of code points. A table is written as a
text: runs in ascending order with blanks or line ends between them, each its first and its last
code point in hexadecimal, or the only one, and behind a colon what is said of them, where there is
more to say than that they are in the table.

The runs do not overlap, so a code point can only lie in the first one that does not end before
it, and that one is found by halving.
-/

namespace FleetOperator.Text

/-- Code points of which the same is said. -/
structure Run (α : Type) where
  first : Nat
  last : Nat
  value : α
deriving Repr, Inhabited

/-- Runs in ascending order. -/
structure RunTable (α : Type) where
  runs : Array (Run α)
deriving Repr, Inhabited

namespace RunTable

variable {α : Type}

/-- The place of the first run that does not end before a code point, among those from `lo` on
and before `hi`. -/
def lowerBound (runs : Array (Run α)) (code lo hi : Nat) : Nat :=
  if lo < hi then
    let middle := lo + (hi - lo) / 2
    match runs[middle]? with
    | some run =>
      if run.last < code then lowerBound runs code (middle + 1) hi
      else lowerBound runs code lo middle
    | none => lo
  else lo
termination_by hi - lo
decreasing_by all_goals omega

/-- The run that a code point is in. -/
def run? (table : RunTable α) (code : Nat) : Option (Run α) :=
  (table.runs[lowerBound table.runs code 0 table.runs.size]?).filter (·.first ≤ code)

/-- What is said of a character. -/
def get? (table : RunTable α) (c : Char) : Option α := (table.run? c.toNat).map Run.value

/-- Whether a character is in the table. -/
def contains (table : RunTable α) (c : Char) : Bool := (table.run? c.toNat).isSome

/-- The run of a word; `read?` reads what is behind the colon. -/
def readRun? (read? : String → Option α) (word : String) : Option (Run α) := do
  let (range, value) ← match word.splitOn ":" with
    | [range] => some (range, "")
    | [range, value] => some (range, value)
    | _ => none
  let (first, last) ← match range.splitOn "-" with
    | [only] => some (only, only)
    | [first, last] => some (first, last)
    | _ => none
  return ⟨← Hex.number? first, ← Hex.number? last, ← read? value⟩

/-- The words of a text, on all its lines. -/
def words (text : String) : List String :=
  ((text.splitOn "\n").flatMap (·.splitOn " ")).filter (!·.isEmpty)

/-- The table that a text spells. -/
def ofText (read? : String → Option α) (text : String) : RunTable α :=
  ⟨((words text).filterMap (readRun? read?)).toArray⟩

/-- The table of a text that says no more than which code points there are. -/
def setOfText (text : String) : RunTable Unit := ofText (fun _ => some ()) text

end RunTable

end FleetOperator.Text
