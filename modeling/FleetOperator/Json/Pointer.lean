import FleetOperator.Json.Basic

/-!
# JSON pointers

A pointer is empty, for the whole document, or a sequence of tokens, each behind a slash. In a
token `~1` stands for the slash and `~0` for the tilde. A token selects a member by its key or
an item by its decimal index, which is written without a sign and without leading zeros.
-/

namespace FleetOperator.Json

/-- The text of a written token. -/
def unescapeToken : List Char → List Char
  | '~' :: '1' :: rest => '/' :: unescapeToken rest
  | '~' :: '0' :: rest => '~' :: unescapeToken rest
  | c :: rest => c :: unescapeToken rest
  | [] => []

/-- The index that a token spells. -/
def indexOfToken? (token : List Char) : Option Nat :=
  match token with
  | [] => none
  | ['0'] => some 0
  | '0' :: _ => none
  | ds =>
    if ds.all Char.isDigit then some (ds.foldl (fun n d => n * 10 + (d.toNat - '0'.toNat)) 0)
    else none

/-- The value that a token selects. -/
def select? (token : List Char) : Json → Option Json
  | .obj members => members.lookup (String.ofList token)
  | .arr items => (indexOfToken? token).bind fun i => items[i]?
  | _ => none

/-- The value under a pointer. -/
def pointer? (pointer : String) (value : Json) : Option Json :=
  match pointer.splitOn "/" with
  | [""] => some value
  | "" :: tokens =>
    tokens.foldlM (fun (found : Json) token => found.select? (unescapeToken token.toList)) value
  | _ => none

end FleetOperator.Json
