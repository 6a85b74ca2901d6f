import FleetOperator.Distribution.Address
import FleetOperator.Distribution.HostName
import FleetOperator.Text.Percent

/-!
# Hosts in addresses

A host is given by its number or by its name. Addresses of the web know both kinds of numbers, and
their names may hold percent signs and characters of all scripts; addresses of other kinds take a
name as it is written.
-/

namespace FleetOperator.Host

/-- The host of eight groups between brackets, if the text starts with one. -/
def bracketed? (cs : List Char) : Option String :=
  match cs.drop 1 |>.reverse with
  | ']' :: inside =>
    (Address.long? (String.ofList inside.reverse)).map fun groups =>
      "[" ++ Address.longText groups ++ "]"
  | _ => none

/-- The host of a web address. -/
def ofWeb? (cs : List Char) : Option String :=
  if cs.head? = some '[' then bracketed? cs
  else do
    let name ← HostName.ofText? (← Text.ofBytes? (Text.percentDecode cs))
    if name.isEmpty then none
    else if Address.isNumeric name then Address.short? name
    else some name

/-- Whether a character cannot stand in the host of any address. -/
def isReserved (c : Char) : Bool :=
  ['\x00', '\t', '\n', '\r', ' ', '#', '/', ':', '<', '>', '?', '@', '[', '\\', ']', '^',
    '|'].contains c

/-- The host of an address that is not of the web. -/
def ofOther? (cs : List Char) : Option String :=
  if cs.head? = some '[' then bracketed? cs
  else if cs.any isReserved then none
  else some (String.ofList cs)

/-- Whether a request can name a host: every character is ASCII and needs no percent sign. -/
def isPlain (host : String) : Bool :=
  host.toList.all fun c => c.isAlphanum ||
    ['!', '$', '&', '\'', '(', ')', '*', '+', ',', '-', '.', ';', '=', '_', '~', '[', ']',
      ':'].contains c

end FleetOperator.Host
