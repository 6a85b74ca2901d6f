import FleetOperator.Text.Hex

/-!
# Patterns of values

A directive of a log may give the value of a field, as a number or as a regular expression. All
that matters here is whether it is one: groups and classes are closed, what is repeated is there,
and what stands behind a backslash has a meaning. A brace ends the value, so nothing that needs a
closing one can be written.
-/

namespace FleetOperator.Log.Pattern

/-! ## Numbers -/

/-- A text without the digits at its start, of which there are some. -/
def afterDigits? (cs : List Char) : Option (List Char) :=
  if cs.head?.any Char.isDigit then some (cs.dropWhile Char.isDigit) else none

/-- Whether a text is an exponent, or empty. -/
def isExponent : List Char → Bool
  | [] => true
  | e :: rest =>
    let digits := if ['+', '-'].contains (rest.headD ' ') then rest.drop 1 else rest
    (e == 'e' || e == 'E') && afterDigits? digits == some []

/-- Whether a text is a number without a sign. -/
def isUnsigned (cs : List Char) : Bool :=
  ["inf", "infinity", "nan"].contains (String.ofList cs).toLower ||
    match afterDigits? cs with
    | some ('.' :: rest) => isExponent ((afterDigits? rest).getD rest)
    | some rest => isExponent rest
    | none => match cs with
      | '.' :: rest => (afterDigits? rest).any isExponent
      | _ => false

/-! ## Characters behind a backslash -/

/-- What a part of a pattern stands for. -/
inductive Piece where
  | char (code : Nat)
  | set
deriving DecidableEq, Repr, Inhabited

/-- A character by its code point in some digits. -/
def hex? (count : Nat) (cs : List Char) : Option (Piece × List Char) := do
  let code ← Text.Hex.number? (String.ofList (cs.take count))
  if count ≤ cs.length ∧ code.isValidChar then some (.char code, cs.drop count) else none

/-- What stands behind a backslash: a letter with a meaning, or any other sign as it is. The bounds
of words have none here, as they need more than the next character. -/
def escape? : List Char → Option (Piece × List Char)
  | [] => none
  | 'x' :: rest => hex? 2 rest
  | 'u' :: rest => hex? 4 rest
  | 'U' :: rest => hex? 8 rest
  | 'p' :: kind :: rest | 'P' :: kind :: rest =>
    if "CLMNPSZ".toList.contains kind then some (.set, rest) else none
  | c :: rest =>
    if "dswDSW".toList.contains c then some (.set, rest)
    else if "aftnrv".toList.contains c ∨
        (c.toNat < 0x80 ∧ !c.isAlphanum ∧ c ≠ '<' ∧ c ≠ '>') then some (.char c.toNat, rest)
    else none

/-! ## Classes -/

/-- A member of a class. -/
def member? : List Char → Option (Piece × List Char)
  | [] => none
  | '\\' :: rest => escape? rest
  | c :: rest => some (.char c.toNat, rest)

/-- The names of classes. -/
def classNames : List String := ["alnum", "alpha", "ascii", "blank", "cntrl", "digit", "graph",
  "lower", "print", "punct", "space", "upper", "word", "xdigit"]

/-- What follows a class that is given by its name between colons. -/
def afterNamed? : List Char → Option (List Char)
  | ':' :: rest =>
    let rest := if rest.head? = some '^' then rest.drop 1 else rest
    let name := rest.takeWhile Char.isAlpha
    match rest.drop name.length with
    | ':' :: ']' :: rest => if classNames.contains (String.ofList name) then some rest else none
    | _ => none
  | _ => none

/-- What follows the start of a class, where hyphens, or a bracket, are members. -/
def afterOpening (cs : List Char) : List Char :=
  let cs := if cs.head? = some '^' then cs.drop 1 else cs
  if cs.head? = some ']' then cs.drop 1 else cs.dropWhile (· = '-')

/-- What follows the end of a class, of which `depth` are open around the text. -/
def afterClass? : Nat → Nat → List Char → Option (List Char)
  | 0, _, _ => none
  | fuel + 1, depth, cs =>
    match cs with
    | [] => none
    | ']' :: rest => if depth ≤ 1 then some rest else afterClass? fuel (depth - 1) rest
    | '[' :: rest =>
      match afterNamed? rest with
      | some rest => afterClass? fuel depth rest
      | none => afterClass? fuel (depth + 1) (afterOpening rest)
    | '&' :: '&' :: rest | '-' :: '-' :: rest | '~' :: '~' :: rest => afterClass? fuel depth rest
    | cs =>
      match member? cs with
      | none => none
      | some (first, rest) =>
        match first, rest with
        | _, '-' :: ']' :: _ | _, '-' :: '-' :: _ => afterClass? fuel depth rest
        | .char low, '-' :: last =>
          match member? last with
          | some (.char high, rest) => if low ≤ high then afterClass? fuel depth rest else none
          | _ => none
        | .set, '-' :: _ => none
        | _, rest => afterClass? fuel depth rest

/-! ## Groups -/

/-- Whether flags make sense: each once, and some behind the hyphen that takes flags back. -/
def areFlags (cs : List Char) : Bool :=
  cs.all ("imsUuRx-".toList.contains ·) && cs.Nodup && cs.getLast? ≠ some '-'

/-- Whether a group may have a name. -/
def isName : List Char → Bool
  | [] => false
  | c :: rest => (c.isAlpha || c == '_') &&
      rest.all fun c => c.isAlphanum || ['_', '.', '[', ']'].contains c

/-- What follows the start of a group with a question mark, and whether the group is open then or
has only set flags. -/
def afterQuestion? (cs : List Char) : Option (Bool × List Char) :=
  let named (cs : List Char) : Option (Bool × List Char) :=
    let name := cs.takeWhile (· ≠ '>')
    if isName name ∧ name.length < cs.length then some (true, cs.drop (name.length + 1)) else none
  match cs with
  | 'P' :: '<' :: rest | '<' :: rest => named rest
  | _ =>
    let flags := cs.takeWhile fun c => c ≠ ':' ∧ c ≠ ')'
    if areFlags flags then
      match cs.drop flags.length with
      | ':' :: rest => some (true, rest)
      | ')' :: rest => if flags.isEmpty then none else some (false, rest)
      | _ => none
    else none

/-! ## Whole patterns -/

/-- Whether a text goes on well where `depth` groups are open; `repeatable` says whether something
is in front of it that a sign may repeat. -/
def goesOn : Nat → Nat → Bool → List Char → Bool
  | 0, _, _, _ => false
  | fuel + 1, depth, repeatable, cs =>
    match cs with
    | [] => depth == 0
    | '(' :: '?' :: rest =>
      match afterQuestion? rest with
      | some (true, rest) => goesOn fuel (depth + 1) false rest
      | some (false, rest) => goesOn fuel depth false rest
      | none => false
    | '(' :: rest => goesOn fuel (depth + 1) false rest
    | ')' :: rest => 0 < depth && goesOn fuel (depth - 1) true rest
    | '|' :: rest => goesOn fuel depth false rest
    | '[' :: rest => (afterClass? cs.length 1 (afterOpening rest)).any (goesOn fuel depth true)
    | '\\' :: 'A' :: rest | '\\' :: 'z' :: rest => goesOn fuel depth true rest
    | '\\' :: rest => (escape? rest).any fun (_, rest) => goesOn fuel depth true rest
    | '\x7b' :: _ => false
    | c :: rest =>
      if ['*', '+', '?'].contains c then
        repeatable && goesOn fuel depth true (if rest.head? = some '?' then rest.drop 1 else rest)
      else goesOn fuel depth true rest

/-- Whether a text is a regular expression. -/
def isExpression (text : String) : Bool := goesOn (text.length + 1) 0 false text.toList

/-- Whether a text is a value: a number, with a sign or without, or a regular expression. -/
def isValue (text : String) : Bool :=
  isExpression text || (text.startsWith "+" && isUnsigned (text.toList.drop 1))

end FleetOperator.Log.Pattern
