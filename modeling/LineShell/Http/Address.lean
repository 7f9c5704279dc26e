import LineShell.Http.HostName
import LineShell.Number.Numeral
import LineShell.Text.Lenient

/-!
# Addresses

What a client calls: a scheme, who asks whom, a path, a query and a fragment. An address is read from a
text or put together from parts; either way every part is checked and brought into the form in which
requests carry it. A client has an address of its own, to which it appends the relative ones.
-/

namespace LineShell.Http

open Text

/-! ## Faults -/

inductive AddressFault
  | tooLong
  | longPart (name : String)
  | unprintable (c : Char) (position : Nat)
  | host (fault : HostFault) (text : String)
  | socket (text : String)
  | rootless
  | doubleSlash
  | colon
deriving Repr, DecidableEq

def AddressFault.message : AddressFault → String
  | tooLong => "URL too long"
  | longPart name => s!"URL component '{name}' too long"
  | unprintable c position =>
    s!"Invalid non-printable ASCII character in URL, {quoted c.toString} at position {position}."
  | host .four text => "Invalid IPv4 address: " ++ quoted text
  | host .grouped text => "Invalid IPv6 address: " ++ quoted text
  | host .name text => "Invalid IDNA hostname: " ++ quoted text
  | socket text => "Invalid port: " ++ quoted text
  | rootless => "For absolute URLs, path must be empty or begin with '/'"
  | doubleSlash => "Relative URLs cannot have a path starting with '//'"
  | colon => "Relative URLs cannot have a path starting with ':'"

/-! ## Parts -/

structure AddressParts where
  scheme : List Char := []
  authority : List Char := []
  path : List Char := []
  query : Option (List Char) := none
  fragment : Option (List Char) := none
deriving Repr, DecidableEq

/-- An address. Its user, host, path, query and fragment hold safe characters and escapes only. -/
structure Address where
  scheme : String := ""
  user : String := ""
  host : String := ""
  socket : Option Int := none
  path : String := ""
  query : Option String := none
  fragment : Option String := none
deriving Repr, DecidableEq, Inhabited

def inScheme (c : Char) : Bool := c.isAlphanum || c == '+' || c == '.' || c == '-'

def takeScheme (cs : List Char) : List Char × List Char :=
  let name := cs.takeWhile inScheme
  match cs.drop name.length with
  | ':' :: rest => if (name.head?.map Char.isAlpha).getD true then (name, rest) else ([], cs)
  | _ => ([], cs)

def takeAuthority : List Char → List Char × List Char
  | '/' :: '/' :: cs =>
    let ends (c : Char) : Bool := c == '/' || c == '?' || c == '#'
    (cs.takeWhile (!ends ·), cs.dropWhile (!ends ·))
  | cs => ([], cs)

def behind? (sign : Char) (cs : List Char) : Option (List Char) :=
  if cs.contains sign then some (cutFirst (· == sign) cs).2 else none

def AddressParts.ofText (cs : List Char) : AddressParts :=
  let (scheme, cs) := takeScheme cs
  let (authority, cs) := takeAuthority cs
  let fragment := behind? '#' cs
  let cs := cs.takeWhile (· != '#')
  { scheme, authority, path := cs.takeWhile (· != '?'), query := behind? '?' cs, fragment }

/-! ## Who asks whom -/

def takeUser (cs : List Char) : List Char × List Char :=
  if cs.contains '@' then
    let rest := (cs.reverse.takeWhile (· != '@')).reverse
    (cs.take (cs.length - rest.length - 1), rest)
  else ([], cs)

/-- The host up to a colon, or from a bracket to the last one that closes, and the rest. -/
def takeHost (cs : List Char) : List Char × List Char :=
  if cs.head? == some '[' && cs.contains ']' then
    let rest := (cs.reverse.takeWhile (· != ']')).reverse
    (cs.take (cs.length - rest.length), rest)
  else (cs.takeWhile (· != ':'), cs.dropWhile (· != ':'))

def standardSockets : List (String × Int) := [("ftp", 21), ("http", 80), ("https", 443), ("ws", 80), ("wss", 443)]

def socketOf (scheme : String) (cs : List Char) : Except AddressFault (Option Int) :=
  let cs := match cs with
    | ':' :: rest => rest
    | cs => cs
  if cs.isEmpty then .ok none else
    match Numeral.integer (String.ofList cs) with
    | .ok n => .ok (if standardSockets.lookup scheme == some n then none else some n)
    | .error _ => .error (.socket (String.ofList cs))

/-! ## Path -/

/-- Takes a segment to those before it, the last first: `.` adds nothing, and `..` takes back the segment
before it, but never the root. -/
def takeSegment (done : List (List Char)) (segment : List Char) : List (List Char) :=
  if segment == ['.'] then done
  else if segment == ['.', '.'] then (if done == [[]] then done else done.drop 1)
  else segment :: done

def normalSegments (segments : List (List Char)) : List (List Char) := (segments.foldl takeSegment []).reverse

def normalPath (path : List Char) : List Char :=
  List.intercalate ['/'] (normalSegments (cutChars (· == '/') path))

def pathFault? (hasScheme hasAuthority : Bool) (path : List Char) : Option AddressFault :=
  if hasAuthority then
    if path.isEmpty || path.head? == some '/' then none else some .rootless
  else if hasScheme then none
  else if "//".toList.isPrefixOf path then some .doubleSlash
  else if path.head? == some ':' then some .colon
  else none

/-! ## Reading -/

namespace Address

def ofParts (p : AddressParts) : Except AddressFault Address := do
  let scheme := String.ofList p.scheme
  let (user, rest) := takeUser p.authority
  let (host, rest) := takeHost rest
  let user := escapedFor safeInUser user
  let known ← (hostOf host).mapError fun fault => .host fault (String.ofList host)
  let socket ← socketOf scheme rest
  let hasScheme := !p.scheme.isEmpty
  let hasAuthority := !user.isEmpty || !known.isEmpty || socket.isSome
  match pathFault? hasScheme hasAuthority p.path with
  | some fault => .error fault
  | none =>
    let path := if hasScheme || hasAuthority then normalPath p.path else p.path
    pure {
      scheme := String.ofList (p.scheme.map Char.toLower)
      user := String.ofList user
      host := String.ofList known
      socket
      path := String.ofList (escapedFor safeInPath path)
      query := p.query.map fun query => String.ofList (escapedFor safeInQuery query)
      fragment := p.fragment.map fun fragment => String.ofList (escapedFor safeInFragment fragment) }

def lengthLimit : Nat := 65536

def isControl (c : Char) : Bool := c.toNat < 0x20 || c.toNat == 0x7F

def ofText (text : String) : Except AddressFault Address :=
  let cs := text.toList
  if lengthLimit < cs.length then .error .tooLong
  else match cs.dropWhile (!isControl ·) with
    | c :: rest => .error (.unprintable c (cs.length - rest.length - 1))
    | [] => ofParts (.ofText cs)

/-! ## Writing -/

def authority (a : Address) : String :=
  let user := if a.user.isEmpty then "" else s!"{a.user}@"
  let host := if hasChar ':' a.host then s!"[{a.host}]" else a.host
  user ++ host ++ ((a.socket.map fun n => s!":{n}").getD "")

/-- The path, from the root if there is none, and the query. -/
def target (a : Address) : String :=
  (if a.path.isEmpty then "/" else a.path) ++ ((a.query.map ("?" ++ ·)).getD "")

def text (a : Address) : String :=
  (if a.scheme.isEmpty then "" else s!"{a.scheme}:") ++
  (if a.authority.isEmpty then "" else s!"//{a.authority}") ++
  a.path ++ ((a.query.map ("?" ++ ·)).getD "") ++ ((a.fragment.map ("#" ++ ·)).getD "")

/-! ## Changing -/

def parts (a : Address) : AddressParts where
  scheme := a.scheme.toList
  authority := a.authority.toList
  path := a.path.toList
  query := a.query.map String.toList
  fragment := a.fragment.map String.toList

def longPart? (p : AddressParts) : Option String :=
  let sizes := [("scheme", p.scheme.length), ("authority", p.authority.length), ("path", p.path.length),
    ("query", (p.query.getD []).length), ("fragment", (p.fragment.getD []).length)]
  (sizes.find? fun (_, size) => lengthLimit < size).map (·.1)

def remade (p : AddressParts) : Except AddressFault Address :=
  match longPart? p with
  | some name => .error (.longPart name)
  | none => ofParts p

def withTarget (target : String) (a : Address) : Except AddressFault Address :=
  let cs := target.toList
  remade { a.parts with path := cs.takeWhile (· != '?'), query := behind? '?' cs }

/-- The address with parameters in place of its query; without any there is no query. -/
def withParams (params : List (String × String)) (a : Address) : Except AddressFault Address :=
  remade { a.parts with query := if params.isEmpty then none else some (formQuery params) }

/-! ## Clients -/

/-- The address of a client, whose path and query end in a slash. -/
def ofClient (text : String) : Except AddressFault Address := do
  let a ← ofText text
  if a.target.toList.getLast? == some '/' then pure a else a.withTarget (a.target ++ "/")

def isAbsolute (a : Address) : Bool := !a.scheme.isEmpty && !a.host.isEmpty

def merge (client a : Address) : Except AddressFault Address :=
  if a.isAbsolute then .ok a else client.withTarget (client.target ++ dropLeading '/' a.target)

def resolve (client : Address) (reference : String) (params : Option (List (String × String))) :
    Except AddressFault Address := do
  let a ← client.merge (← ofText reference)
  match params with
  | none => pure a
  | some params => a.withParams params

/-- What is at fault with the host when its name is read back, as it is before a request goes there. -/
def unreadable? (a : Address) : Option NameFault := readingFault? a.host.toList

/-! ## Kinds -/

/-- The text of an address by which its kind is told: without a mark in front that says nothing, and
without an empty fragment. -/
def plainText (a : Address) : String :=
  let cs := a.text.toList
  let cs := if "URL:".toList.isPrefixOf cs then cs.drop 4 else cs
  String.ofList (if cs.getLast? == some '#' then cs.dropLast else cs)

/-- Whether an address says of what kind it is: something stands before a colon and has no slash. -/
def hasKind (a : Address) : Bool :=
  let cs := a.plainText.toList
  let rest := cs.dropWhile fun c => c != '/' && c != ':'
  rest.head? == some ':' && rest.length < cs.length

/-! ## Services -/

def pathTaken (a : Address) : String := percentDecoded (if a.path.isEmpty then "/" else a.path)

def unescaped (cs : List Char) : String :=
  percentDecoded (String.ofList (cs.map fun c => if c == '+' then ' ' else c))

def paramsTaken (a : Address) : List (String × String) :=
  ((cutChars (· == '&') (a.query.getD "").toList).filter (!·.isEmpty)).map fun part =>
    let (name, value) := cutFirst (· == '=') part
    (unescaped name, unescaped value)

end Address

end LineShell.Http
