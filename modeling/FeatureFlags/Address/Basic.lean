import FeatureFlags.Address.Domain
import FeatureFlags.Address.Path

namespace FeatureFlags.Address

/-!
# Addresses

Absolute addresses of resources. Reading is lenient: blanks around the text and
line breaks inside it are dropped, backslashes count as slashes in common
schemes, and what may not stand in a part is escaped. What is printed is canonical: the
scheme and the host are in lower case, the default port of the scheme is left out,
and dot segments are resolved.
-/

/-- Why a text is not an address. -/
inductive Fault where
  /-- The text has no scheme. -/
  | relative
  | emptyHost
  | invalidPort
  | invalidFourBytes
  | invalidEightPieces
  | invalidName
  /-- The host of an uncommon scheme has a character that no host may have. -/
  | invalidCharacter
deriving DecidableEq, Repr

/-- The wording of a fault. -/
def Fault.message : Fault → String
  | .relative => "relative URL without a base"
  | .emptyHost => "empty host"
  | .invalidPort => "invalid port number"
  | .invalidFourBytes => "invalid IPv4 address"
  | .invalidEightPieces => "invalid IPv6 address"
  | .invalidName => "invalid international domain name"
  | .invalidCharacter => "invalid domain character"

/-- The authority of an address: credentials, host and port. -/
structure Authority where
  /-- The credentials with the sign that ends them, or nothing. -/
  credentials : String := ""
  host : String
  port : Option Nat := none

end Address

/-- An absolute address; its parts are in their escaped form. -/
structure Address where
  scheme : String
  authority : Option Address.Authority
  path : String
  query : Option String := none
  fragment : Option String := none

namespace Address

/-! ## The parts before the path -/

/-- The scheme before the first colon, in lower case, and what follows. -/
def splitScheme? (text : List Char) : Option (String × List Char) :=
  match text with
  | [] => none
  | first :: _ =>
      let scheme := text.takeWhile fun c => c.isAlphanum || c = '+' || c = '-' || c = '.'
      match text.drop scheme.length with
      | ':' :: rest =>
          if first.isAlpha then some (String.ofList (scheme.map Char.toLower), rest) else none
      | _ => none

/-- The text before the first separator, and the text after it. -/
def splitFirst
    (separator : Char)
    (text : List Char) :
    List Char × Option (List Char) :=
  match text.dropWhile (· != separator) with
  | [] => (text, none)
  | _ :: after => (text.takeWhile (· != separator), some after)

/-- The credentials before the last at sign, and the host and port after it. -/
def splitCredentials (text : List Char) : Option (List Char) × List Char :=
  if '@' ∈ text then
    let after := (text.reverse.takeWhile (· != '@')).reverse
    (some (text.take (text.length - after.length - 1)), after)
  else
    (none, text)

/-- The printed form of credentials; a password that is empty is left out. -/
def writeCredentials (text : List Char) : String :=
  let (user, password) := splitFirst ':' text
  let password := escape credentialSet (password.getD [])
  let user := escape credentialSet user
  let both := if password.isEmpty then user else user ++ ':' :: password
  if both.isEmpty then "" else String.ofList (both ++ ['@'])

/-- The host before the first colon outside of brackets, and the rest. -/
def splitHost : Bool → List Char → List Char × List Char
  | _, [] => ([], [])
  | bracketed, c :: rest =>
      if c = ':' ∧ !bracketed then
        ([], c :: rest)
      else
        let (host, after) := splitHost (c = '[' || (bracketed && c != ']')) rest
        (c :: host, after)

/-- The printed form of a host in brackets. -/
def readBracketed (inner : List Char) : Except Fault String :=
  match inner.getLast? with
  | some ']' =>
      match readPieces? inner.dropLast with
      | some pieces => .ok (writeEightPieces pieces)
      | none => .error .invalidEightPieces
  | _ => .error .invalidEightPieces

/-- The printed form of a host of a common scheme. -/
def readHost (host : List Char) : Except Fault String :=
  match host with
  | '[' :: inner => readBracketed inner
  | _ =>
      match asciiName? (unescape host) with
      | none => .error .invalidName
      | some [] => .error .emptyHost
      | some name =>
          if endsInNumber name then
            match readFourBytes? name with
            | some text => .ok text
            | none => .error .invalidFourBytes
          else
            .ok (String.ofList name)

/-- The printed form of a host of any other scheme. -/
def readOpaqueHost (host : List Char) : Except Fault String :=
  match host with
  | '[' :: inner => readBracketed inner
  | _ =>
      if host.any fun c =>
          c ∈ ['\x00', ' ', '#', '/', ':', '<', '>', '?', '@', '[', '\\', ']', '^', '|'] then
        .error .invalidCharacter
      else
        .ok (String.ofList (escape isControl host))

/-- A port, if there is one that is not the default, and what a backslash after it starts. -/
def readPort
    (kind : SchemeKind)
    (text : List Char) :
    Except Fault (Option Nat × List Char) := do
  let digits := text.takeWhile Char.isDigit
  let after := text.drop digits.length
  if after.head?.any (· != '\\') then
    throw .invalidPort
  match digits, ofDigits? 10 digits with
  | [], _ => return (none, after)
  | _, none => throw .invalidPort
  | _, some port =>
      if 65535 < port then
        throw .invalidPort
      return (if kind = .common port then none else some port, after)

/-- The host and the port after the credentials, and what is left. -/
def readHostAndPort
    (kind : SchemeKind)
    (text : List Char) :
    Except Fault (String × Option Nat × List Char) := do
  let (host, after) := splitHost false text
  if host.isEmpty ∧ (kind.isSpecial ∨ !after.isEmpty) then
    throw .emptyHost
  let host ← if kind.isSpecial then readHost host else readOpaqueHost host
  let (port, left) ← readPort kind (after.drop 1)
  return (host, port, left)

/--
The authority of an address, and what is left of the text. Text after an at sign must
name a host, unless nothing at all stands there in an uncommon scheme.
-/
def readAuthority
    (kind : SchemeKind)
    (text : List Char)
    (isLast : Bool) :
    Except Fault (Authority × List Char) := do
  match splitCredentials text with
  | (none, rest) =>
      let (host, port, left) ← readHostAndPort kind rest
      return ({ host, port }, left)
  | (some credentials, rest) =>
      if credentials.isEmpty ∧ rest.isEmpty ∧ !isLast then
        throw .emptyHost
      let (host, port, left) ← readHostAndPort kind rest
      let credentials := writeCredentials credentials
      if host.isEmpty ∧ !credentials.isEmpty then
        throw .emptyHost
      return ({ credentials, host, port }, left)

/-! ## Reading -/

/-- Read what follows two slashes. -/
def readWithAuthority
    (kind : SchemeKind)
    (text : List Char)
    (isLast : Bool) :
    Except Fault (Option Authority × String) := do
  let front := text.takeWhile fun c => !isSlash kind c
  let path := text.drop front.length
  let (authority, left) ← readAuthority kind front (isLast && path.isEmpty)
  return (some authority, readPathAfterAuthority kind (left ++ path))

/-- The authority of a file; a file on a drive has no host. -/
def fileAuthority
    (host : String)
    (kept : List String) :
    Authority :=
  if kept.head?.any fun first => isDrive first.toList then { host := "" } else { host }

/-- Read what follows the scheme of a file. -/
def readFile (text : List Char) : Except Fault (Option Authority × String) := do
  let front := text.take 2
  if front.length = 2 ∧ front.all (isSlash .file) then
    let rest := text.drop 2
    let host := rest.takeWhile fun c => !isSlash .file c
    let path := rest.drop host.length
    if isDrive host then
      return (some { host := "" }, readPath .file rest)
    let name ← if host.isEmpty then pure "" else readHost host
    if name = "" ∨ name = "localhost" then
      return (some { host := "" }, readPath .file path)
    let kept := keptSegments .file (dropSlash .file path)
    return (some (fileAuthority name kept), writePath .file kept)
  else
    return (some { host := "" }, readPath .file (dropSlash .file text))

/-- Read what follows the scheme. -/
def readAfterScheme
    (kind : SchemeKind)
    (text : List Char)
    (isLast : Bool) :
    Except Fault (Option Authority × String) :=
  match kind with
  | .common _ => readWithAuthority kind (text.dropWhile (isSlash kind)) isLast
  | .file => readFile text
  | .other =>
      match text with
      | '/' :: '/' :: rest => readWithAuthority kind rest isLast
      | '/' :: rest => .ok (none, readPath kind rest)
      | _ => .ok (none, String.ofList (escape isControl text))

/-- Drop the blanks and controls at both ends, and line breaks and tabs anywhere. -/
def clean (text : List Char) : List Char :=
  let isOuter (c : Char) : Bool := c.toNat ≤ 0x20
  (((text.dropWhile isOuter).reverse.dropWhile isOuter).reverse).filter fun c =>
    c != '\t' && c != '\n' && c != '\r'

/-- Read an address. -/
def ofText (text : String) : Except Fault Address :=
  match splitScheme? (clean text.toList) with
  | none => .error .relative
  | some (scheme, rest) => do
      let kind := schemeKind scheme
      let (rest, fragment) := splitFirst '#' rest
      let (rest, query) := splitFirst '?' rest
      let (authority, path) ← readAfterScheme kind rest (query.isNone && fragment.isNone)
      let escaped := if kind.isSpecial then specialQuerySet else querySet
      return {
        scheme
        authority
        path
        query := query.map fun part => String.ofList (escape escaped part)
        fragment := fragment.map fun part => String.ofList (escape fragmentSet part) }

/-! ## Printing -/

/-- The printed form of an authority. -/
def Authority.toText (authority : Authority) : String :=
  let port :=
    match authority.port with
    | some port => ":" ++ toString port
    | none => ""
  authority.credentials ++ authority.host ++ port

/-- The printed form of an address. -/
def toText (address : Address) : String :=
  let front :=
    match address.authority with
    | some authority => "//" ++ authority.toText
    | none => if address.path.startsWith "//" then "/." else ""
  let query :=
    match address.query with
    | some query => "?" ++ query
    | none => ""
  let fragment :=
    match address.fragment with
    | some fragment => "#" ++ fragment
    | none => ""
  address.scheme ++ ":" ++ front ++ address.path ++ query ++ fragment

/-- The last segment of the path. -/
def lastSegment (address : Address) : String :=
  String.ofList (address.path.toList.reverse.takeWhile (· != '/')).reverse

/-- The printed form of form fields. -/
def formText (fields : List (String × String)) : String :=
  "&".intercalate (fields.map fun field =>
    String.ofList (escapeForm field.1.toList ++ '=' :: escapeForm field.2.toList))

/-- Add form fields to the query; a query that stays empty is dropped. -/
def withForm
    (address : Address)
    (fields : List (String × String)) :
    Address :=
  let added := formText fields
  let old := address.query.getD ""
  let query := if old.isEmpty ∨ added.isEmpty then old ++ added else old ++ "&" ++ added
  { address with query := if query.isEmpty then none else some query }

end Address

end FeatureFlags
