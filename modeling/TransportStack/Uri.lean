import TransportStack.Parameters
import TransportStack.Text.Truth
import TransportStack.Uri.Host

/-!
URIs that say where and how to dial or listen: `scheme://host:port?parameters`.
-/

namespace TransportStack.Uri

open TransportStack.Text

inductive SchemeKind
  | file | web | other
  deriving DecidableEq, Repr

def webSchemes : List (String × Nat) :=
  [("http", 80), ("https", 443), ("ws", 80), ("wss", 443), ("ftp", 21)]

def SchemeKind.of (scheme : String) : SchemeKind :=
  if scheme = "file" then file
  else if (webSchemes.lookup scheme).isSome then web
  else other

structure Parts where
  scheme : String
  host : String
  port : Option Nat
  query : List (String × String)

/-- Drops controls and spaces at both ends, and tabs and line ends everywhere. -/
def clean (cs : List Char) : List Char :=
  let isEdge := fun c : Char => decide (c.toNat ≤ 0x20)
  ((dropEndWhile isEdge (cs.dropWhile isEdge))).filter fun c => !(['\t', '\n', '\r'].contains c)

def isSchemeChar (c : Char) : Bool :=
  c.isAlphanum || c == '+' || c == '-' || c == '.'

def readScheme? (cs : List Char) : Option (String × List Char) :=
  let name := cs.takeWhile isSchemeChar
  match name, cs.dropWhile isSchemeChar with
  | c :: _, ':' :: rest =>
      if c.isAlpha then some (String.ofList (name.map lowerAscii), rest) else none
  | _, _ => none

def endsAuthority (kind : SchemeKind) (c : Char) : Bool :=
  c == '/' || c == '?' || c == '#' || (kind != .other && c == '\\')

/-- Drops the user before the host, and tells whether a user or password was given. -/
def dropUser (kind : SchemeKind) (cs : List Char) : Except UriError (Bool × List Char) :=
  let authority := cs.takeWhile fun c => !endsAuthority kind c
  let rest := cs.dropWhile fun c => !endsAuthority kind c
  match cutLast '@' authority with
  | none => .ok (false, cs)
  | some ([], host) =>
      if host.isEmpty && !rest.isEmpty then .error .emptyHost else .ok (false, host ++ rest)
  | some (user, host) => .ok (user != [':'], host ++ rest)

/-- Cuts the text after a host. A colon between brackets belongs to the host. -/
def takeHost (kind : SchemeKind) (inBrackets : Bool) : List Char → List Char × List Char
  | [] => ([], [])
  | c :: cs =>
      if (c == ':' && !inBrackets) || endsAuthority kind c then ([], c :: cs)
      else
        let r := takeHost kind (c == '[' || (inBrackets && c != ']')) cs
        (c :: r.1, r.2)

def readPort (cs : List Char) : Except UriError (Option Nat × List Char) :=
  let digits := cs.takeWhile fun c => (digit? c).isSome
  let rest := cs.dropWhile fun c => (digit? c).isSome
  match readNatural? digits with
  | none => if portEnds rest then .ok (none, rest) else .error .invalidPort
  | some n =>
      if n < 65536 && portEnds rest then .ok (some n, rest) else .error .invalidPort
where
  portEnds (rest : List Char) : Bool :=
    match rest.head? with
    | none => true
    | some c => c == '/' || c == '\\' || c == '?' || c == '#'

/-- The pairs of the query in the text after the host: from the first question mark, if no number
sign comes before it, up to the number sign. -/
def queryAfter (cs : List Char) : List (String × String) :=
  match cutFirst '?' (cs.takeWhile (· != '#')) with
  | some (_, query) => queryPairs query
  | none => []

def readAuthority (scheme : String) (kind : SchemeKind) (cs : List Char) :
    Except UriError Parts := do
  let (hasUser, cs) ← dropUser kind cs
  let (host, rest) := takeHost kind false cs
  if kind = .web && host.isEmpty then throw .emptyHost
  let host ← if kind = .web then webHost host else opaqueHost host
  if host = "" && (rest.head? = some ':' || hasUser) then throw .emptyHost
  let (port, rest) ←
    match rest with
    | ':' :: rest => readPort rest
    | _ => pure (none, rest)
  let port := if port = webSchemes.lookup scheme then none else port
  pure ⟨scheme, host, port, queryAfter rest⟩

/-- Whether a text is a letter and a colon or bar, the name of a drive. -/
def isDrive (cs : List Char) : Bool :=
  match cs with
  | [c, d] => c.isAlpha && (d == ':' || d == '|')
  | _ => false

def pathSegments (cs : List Char) : List (List Char) :=
  let path := cs.takeWhile fun c => c != '?' && c != '#'
  pieces '/' ((path.drop 1).map fun c => if c = '\\' then '/' else c)

def plainDots : List Char → List Char
  | '%' :: '2' :: 'e' :: cs | '%' :: '2' :: 'E' :: cs => '.' :: plainDots cs
  | c :: cs => c :: plainDots cs
  | [] => []

/-- Whether a walk along segments comes to the name of a drive at the top, given the segments above,
the nearest one first. One dot stays where it is, and two dots go up, but not from a drive. -/
def reachesDrive (above : List (List Char)) : List (List Char) → Bool
  | [] => false
  | s :: rest =>
      if plainDots s = ['.'] then reachesDrive above rest
      else if plainDots s = ['.', '.'] then
        match above with
        | [] => reachesDrive [] rest
        | d :: top => reachesDrive (if isDrive d then d :: top else top) rest
      else (above.isEmpty && isDrive s) || reachesDrive (s :: above) rest

/-- Reads the text after the colon of the scheme `file`. A host counts only between two slashes and
a path, and not if the path leads to a drive. -/
def readFile (scheme : String) (cs : List Char) : Except UriError Parts :=
  let isSlash := fun c : Char => c == '/' || c == '\\'
  match cs with
  | a :: b :: rest =>
      if isSlash a && isSlash b then do
        let host := rest.takeWhile fun c => !endsAuthority .file c
        let path := rest.dropWhile fun c => !endsAuthority .file c
        if isDrive host || host.isEmpty then pure ⟨scheme, "", none, queryAfter rest⟩
        else
          let name ← webHost host
          let name := if name = "localhost" || reachesDrive [] (pathSegments path) then "" else name
          pure ⟨scheme, name, none, queryAfter path⟩
      else pure ⟨scheme, "", none, queryAfter cs⟩
  | _ => pure ⟨scheme, "", none, queryAfter cs⟩

def read (text : String) : Except UriError Parts :=
  match readScheme? (clean text.toList) with
  | none => .error .relative
  | some (scheme, rest) =>
      match SchemeKind.of scheme with
      | .file => readFile scheme rest
      | .web => readAuthority scheme .web (rest.dropWhile fun c => c == '/' || c == '\\')
      | .other =>
          match rest with
          | '/' :: '/' :: rest => readAuthority scheme .other rest
          | _ => .ok ⟨scheme, "", none, queryAfter rest⟩

end TransportStack.Uri

namespace TransportStack

structure Endpoint where
  scheme : String
  address : String
  parameters : Parameters
  deriving DecidableEq

/-- What takes a URI apart. -/
abbrev Uri.Reader := String → Except UriError Uri.Parts

def Endpoint.readWith (reader : Uri.Reader) (text : String) : Except TransportError Endpoint :=
  match reader text with
  | .error fault => .error (.invalidUri fault)
  | .ok parts =>
      if parts.host = "" then .error (.missingPart "host")
      else
        let port := (parts.port.map fun n => ":" ++ toString n).getD ""
        .ok ⟨parts.scheme, parts.host ++ port, .ofPairs parts.query⟩

def Endpoint.read (text : String) : Except TransportError Endpoint :=
  readWith Uri.read text

end TransportStack
