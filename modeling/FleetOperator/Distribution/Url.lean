import FleetOperator.Distribution.Host
import FleetOperator.Text.Base64

/-!
# Addresses of web services

An address is read the way browsers read it: blanks around it and line breaks in it do not count,
the scheme and the host are put into lower case, a port that goes without saying is dropped, dots
in the path are resolved, and what cannot stand in a part is written as bytes behind percent signs.
The last part, behind a hash, is kept but never sent.
-/

namespace FleetOperator

/-- Why a text is no address of a service. -/
inductive UrlFailure where
  /-- It does not start with a scheme. -/
  | relative
  /-- It is an address, but of nothing on a host. -/
  | hostless
  | malformed
deriving DecidableEq, Repr, Inhabited

structure Url where
  scheme : String
  /-- The name that a request is made in, as it is written. -/
  user : String
  password : Option String
  host : String
  /-- The port, if it is not the one of the scheme. -/
  port : Option Nat
  path : String
  query : Option String
  fragment : Option String
deriving DecidableEq, Repr, Inhabited

/-- Who makes a request. -/
structure Credentials where
  user : String
  password : Option String
deriving DecidableEq, Repr, Inhabited

/-- The credentials as the value of a header. -/
def Credentials.header (credentials : Credentials) : String :=
  "Basic " ++ Text.Base64.encode
    (Text.bytes (credentials.user ++ ":" ++ credentials.password.getD ""))

namespace Url

/-! ## Characters -/

/-- Whether a character is visible and ASCII, and none of some. -/
def isVisibleBut (others : List Char) (c : Char) : Bool :=
  0x20 < c.toNat && c.toNat < 0x7F && !others.contains c

/-- Whether a character may stand behind the hash. -/
def isFragmentChar : Char → Bool := isVisibleBut ['"', '<', '>', '\x60']

/-- Whether a character may stand in a path. -/
def isPathChar : Char → Bool := isVisibleBut ['"', '#', '<', '>', '?', '\x60', '\x7b', '\x7d']

/-- Whether a character may stand in the name of a user or in a password. -/
def isUserChar (c : Char) : Bool :=
  isPathChar c && !(['/', ':', ';', '=', '@', '[', '\\', ']', '^', '|'].contains c)

/-- Whether a character may stand in the query of a web address. -/
def isQueryChar : Char → Bool := isVisibleBut ['"', '#', '<', '>', '\'']

/-- A part of an address, of which some characters are kept. -/
def part (keep : Char → Bool) (cs : List Char) : String :=
  String.ofList (Text.percentEncode keep cs)

/-! ## Schemes -/

/-- The scheme of a text, in lower case, and what follows its colon. -/
def scheme? (cs : List Char) : Option (String × List Char) :=
  match cs with
  | c :: _ =>
    let isSchemeChar (c : Char) : Bool := c.isAlphanum || ['+', '-', '.'].contains c
    if c.isAlpha then
      match cs.dropWhile isSchemeChar with
      | ':' :: rest => some ((String.ofList (cs.takeWhile isSchemeChar)).toLower, rest)
      | _ => none
    else none
  | [] => none

/-- The port of a scheme of the web, whose addresses always have a host. -/
def ownPort? (scheme : String) : Option Nat :=
  if scheme = "http" ∨ scheme = "ws" then some 80
  else if scheme = "https" ∨ scheme = "wss" then some 443
  else if scheme = "ftp" then some 21
  else none

/-! ## Authorities

An authority is a host, with a user in front of it and a port behind it.
-/

/-- What is in front of the last at sign, if there is one, and what is behind it. -/
def splitUser (authority : List Char) : Option (List Char) × List Char :=
  let behind := (authority.reverse.takeWhile (· ≠ '@')).reverse
  if behind.length = authority.length then (none, authority)
  else (some (authority.take (authority.length - behind.length - 1)), behind)

/-- The name of a user and the password behind a colon, which cannot be empty. -/
def readUser (cs : List Char) : String × Option String :=
  let user := cs.takeWhile (· ≠ ':')
  let password := cs.drop (user.length + 1)
  (part isUserChar user, if password.isEmpty then none else some (part isUserChar password))

/-- What is in front of the first colon that is not between brackets, and the colon with what is
behind it. -/
def splitPort (inBrackets : Bool) : List Char → List Char × List Char
  | [] => ([], [])
  | c :: rest =>
    if c = ':' ∧ !inBrackets then ([], c :: rest)
    else
      let (host, port) := splitPort (c = '[' ∨ (inBrackets ∧ c ≠ ']')) rest
      (c :: host, port)

/-- The number of a port behind its colon; none is written where nothing follows. -/
def readPort? (cs : List Char) : Option (Option Nat) :=
  let digits := cs.takeWhile Char.isDigit
  let n := digits.foldl (fun n d => n * 10 + (d.toNat - '0'.toNat)) 0
  if 65536 ≤ n ∨ !([none, some '\\'].contains (cs.drop digits.length).head?) then none
  else if digits.isEmpty then some none
  else some (some n)

/-- Who and what an address is about. -/
structure Authority where
  user : String
  password : Option String
  host : String
  port : Option Nat

/-- The authority that a text spells; `rest` is what follows it. -/
def readAuthority (isWeb : Bool) (cs rest : List Char) : Except UrlFailure Authority :=
  let (written?, hostPort) := splitUser cs
  if written? = some [] ∧ hostPort.isEmpty ∧ !rest.isEmpty then .error .malformed
  else
    let (user, password) := readUser (written?.getD [])
    let (hostText, portText) := splitPort false hostPort
    if hostText.isEmpty then
      if isWeb ∨ !portText.isEmpty ∨ !user.isEmpty ∨ password.isSome then .error .malformed
      else .error .hostless
    else
      match if isWeb then Host.ofWeb? hostText else Host.ofOther? hostText,
        readPort? (portText.drop 1) with
      | some host, some port => .ok ⟨user, password, host, port⟩
      | _, _ => .error .malformed

/-! ## Paths -/

/-- Whether a segment stands for the directory itself. -/
def isDot (segment : String) : Bool := [".", "%2e"].contains segment.toLower

/-- Whether a segment stands for the directory above. -/
def isDoubleDot (segment : String) : Bool :=
  ["..", ".%2e", "%2e.", "%2e%2e"].contains segment.toLower

/-- Whether a text names a drive, above which there is nothing. -/
def isDrive (cs : List Char) : Bool :=
  match cs with
  | [letter, sign] => letter.isAlpha && (sign == ':' || sign == '|')
  | _ => false

/-- The segments that are left when dots are resolved; `above` holds those in front, the nearest
first. -/
def resolveDots (above : List String) : List String → List String
  | [] => above.reverse
  | segment :: rest =>
    let above :=
      if isDoubleDot segment then
        if above.head?.any fun nearest => isDrive nearest.toList then above else above.tail
      else if isDot segment then above
      else segment :: above
    if rest.isEmpty ∧ (isDoubleDot segment ∨ isDot segment) then ("" :: above).reverse
    else resolveDots above rest

/-- The path of a web address, in which a backslash is a slash too. -/
def webPath (cs : List Char) : String :=
  let slashed := String.ofList (cs.map fun c => if c = '\\' then '/' else c)
  let segments := (if slashed.startsWith "/" then slashed.splitOn "/" |>.tail else [slashed]).map
    fun segment => part isPathChar segment.toList
  "/" ++ "/".intercalate (resolveDots [] segments)

/-! ## Whole addresses -/

/-- The address of an authority and what follows it: a path, a query and a fragment. -/
def build (scheme : String) (authority : Authority) (rest : List Char) : Url :=
  let path := rest.takeWhile fun c => c ≠ '?' ∧ c ≠ '#'
  let rest := rest.drop path.length
  let queryText := rest.takeWhile (· ≠ '#')
  {
    scheme := scheme
    user := authority.user
    password := authority.password
    host := authority.host
    port := if authority.port = ownPort? scheme then none else authority.port
    path := webPath path
    query := match queryText with
      | '?' :: query => some (part isQueryChar query)
      | _ => none
    fragment := match rest.drop queryText.length with
      | '#' :: fragment => some (part isFragmentChar fragment)
      | _ => none }

/-- The address behind the scheme of files. The host may be left out, as may this machine. -/
def parseFile (rest : List Char) : Except UrlFailure Url :=
  let isSlash (c : Char) : Bool := c == '/' || c == '\\'
  match rest with
  | a :: b :: rest =>
    let hostText := rest.takeWhile fun c => !isSlash c && c ≠ '?' && c ≠ '#'
    if !(isSlash a && isSlash b) || hostText.isEmpty || isDrive hostText then .error .hostless
    else match Host.ofWeb? hostText with
      | none => .error .malformed
      | some "localhost" => .error .hostless
      | some host => .ok (build "file" ⟨"", none, host, none⟩ (rest.drop hostText.length))
  | _ => .error .hostless

/-- The address that a text is. -/
def parse (text : String) : Except UrlFailure Url :=
  let isEdge (c : Char) : Bool := c.toNat ≤ 0x20
  let trimmed := ((text.toList.dropWhile isEdge).reverse.dropWhile isEdge).reverse
  match scheme? (trimmed.filter fun c => c ≠ '\t' ∧ c ≠ '\n' ∧ c ≠ '\r') with
  | none => .error .relative
  | some ("file", rest) => parseFile rest
  | some (scheme, rest) =>
    let isWeb := (ownPort? scheme).isSome
    let afterSlashes? : Option (List Char) :=
      if isWeb then some (rest.dropWhile fun c => c = '/' ∨ c = '\\')
      else match rest with
        | '/' :: '/' :: rest => some rest
        | _ => none
    match afterSlashes? with
    | none => .error .hostless
    | some rest =>
      let endsAuthority (c : Char) : Bool := ['/', '?', '#'].contains c || (isWeb && c == '\\')
      let authorityText := rest.takeWhile (!endsAuthority ·)
      let rest := rest.dropWhile (!endsAuthority ·)
      (readAuthority isWeb authorityText rest).map fun authority => build scheme authority rest

/-- Whether documents are asked for at an address, and not files or streams. -/
def isHypertext (url : Url) : Bool := url.scheme = "http" ∨ url.scheme = "https"

/-- The address with more pairs in its query. -/
def withQuery (url : Url) (pairs : List (String × String)) : Url :=
  let written := pairs.map fun (key, value) => Text.formEncode key ++ "=" ++ Text.formEncode value
  let parts := (match url.query with
    | none => []
    | some "" => []
    | some query => [query]) ++ written
  { url with query := if parts.isEmpty then none else some ("&".intercalate parts) }

/-- The credentials of an address. A name whose bytes are no text has none, and a password whose
bytes are no text is left out. -/
def credentials? (url : Url) : Option Credentials := do
  let decode? (s : String) : Option String := Text.ofBytes? (Text.percentDecode s.toList)
  let user ← decode? url.user
  let password := url.password.bind decode?
  if user.isEmpty ∧ password.isNone then none else some ⟨user, password⟩

/-- The address in nobody's name. -/
def withoutUser (url : Url) : Url := { url with user := "", password := none }

/-- The path and the query, as they are asked for at the host itself. -/
def originForm (url : Url) : String :=
  match url.query with
  | none => url.path
  | some query => url.path ++ "?" ++ query

/-- The whole address, as it is asked for at a proxy. -/
def absoluteForm (url : Url) : String :=
  let password := match url.password with
    | none => ""
    | some password => ":" ++ password
  let name := url.user ++ password
  let port := match url.port with
    | none => ""
    | some port => ":" ++ toString port
  url.scheme ++ "://" ++ (if name.isEmpty then "" else name ++ "@") ++ url.host ++ port ++
    url.originForm

/-- The most bytes of an address that is asked for. -/
def mostBytes : Nat := 65534

/-- Whether a request can be made for an address. -/
def canBeSent (url : Url) : Bool :=
  let fragment := match url.fragment with
    | none => ""
    | some fragment => "#" ++ fragment
  Host.isPlain url.host && (url.absoluteForm ++ fragment).utf8ByteSize ≤ mostBytes

end Url

end FleetOperator
