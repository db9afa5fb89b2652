import Precis.Host.Ipv4
import Precis.Host.Ipv6
import Precis.Problem
import Precis.Text.Blank
import Precis.Text.Encoding

/-!
# The host of an address

Destinations are told apart by their hosts. An address is read as a url; where that gives no host it
is read again as what follows `https://`, so a bare host does as well. The host is in its usual
form: small letters, encoded labels, normal numbers, and without a leading `www.`.
-/

namespace Precis.Host

open Text

/-- The kinds of scheme that read what follows in different ways. -/
inductive Scheme where
  /-- A scheme of the web. -/
  | web
  | file
  | other
  deriving DecidableEq

/-- Schemes of the web. -/
def webSchemes : List (List Char) :=
  ["http".toList, "https".toList, "ws".toList, "wss".toList, "ftp".toList]

/-- The kind of a scheme in small letters. -/
def Scheme.of (s : List Char) : Scheme :=
  if webSchemes.contains s then .web else if s = "file".toList then .file else .other

/-- A character that may stand in a scheme. -/
def inScheme (c : Char) : Bool := c.isAlphanum || c == '+' || c == '-' || c == '.'

/-- The scheme of an address, and what follows its colon. -/
def schemeAt (s : List Char) : Option (Scheme × List Char) :=
  match s.head?, s.dropWhile inScheme with
  | some c, ':' :: rest =>
    if c.isAlpha then some (Scheme.of ((s.takeWhile inScheme).map Char.toLower), rest) else none
  | _, _ => none

/-- The address without blanks at its ends, and without tabs and line ends. -/
def cleaned (s : List Char) : List Char :=
  let blank := fun (c : Char) => c.toNat ≤ 0x20
  let s := ((s.dropWhile blank).reverse.dropWhile blank).reverse
  s.filter fun c => !(c == '\t' || c == '\n' || c == '\r')

/-- A slash of either kind. -/
def isSlash (c : Char) : Bool := c == '/' || c == '\\'

/-- Ends the authority of an address. -/
def endsAuthority (scheme : Scheme) (c : Char) : Bool :=
  c == '/' || c == '?' || c == '#' || (c == '\\' && scheme != .other)

/-- What follows the last `@`. -/
def afterUser (s : List Char) : List Char := (s.reverse.takeWhile (· != '@')).reverse

/-- The host before a colon that stands outside brackets, and what follows. -/
def hostAndRest (bracketed : Bool) : List Char → List Char × List Char
  | [] => ([], [])
  | c :: rest =>
    if c == ':' && !bracketed then ([], c :: rest)
    else
      let r := hostAndRest (if c == '[' then true else if c == ']' then false else bracketed) rest
      (c :: r.1, r.2)

/-- A colon and a port number, a colon alone, or nothing. -/
def isPort : List Char → Bool
  | [] => true
  | ':' :: s =>
    ofDigits (s.takeWhile Char.isDigit) ≤ 65535
      && (match s.dropWhile Char.isDigit with
        | [] => true
        | c :: _ => c == '\\')
  | _ => false

/-- The host of a web address in its usual form. -/
def webHost (s : List Char) : Option (List Char) :=
  if s.head? = some '[' then Ipv6.normal? s
  else do
    let domain ← asciiDomain (← percentDecode s)
    if Ipv4.endsInNumber domain then Ipv4.normal? domain else return domain

/-- A character that is not allowed in a host of another scheme. -/
def isForbiddenElsewhere (c : Char) : Bool :=
  c == '\x00' || " #/:<>?@[\\]^|".toList.contains c

/-- The host of an address of another scheme. -/
def otherHost (s : List Char) : Option (List Char) :=
  if s.head? = some '[' then Ipv6.normal? s
  else if s.any isForbiddenElsewhere then none
  else some (percentEncode s)

/-- The host of an authority. -/
def hostOfAuthority (scheme : Scheme) (s : List Char) : Option (List Char) :=
  let (host, rest) := hostAndRest false (afterUser s)
  if host.isEmpty || !isPort rest then none
  else if scheme = .other then otherHost host
  else webHost host

/-- A letter and a colon or bar: the name of a drive. -/
def isDrive : List Char → Bool
  | [a, b] => a.isAlpha && (b == ':' || b == '|')
  | _ => false

/-- A segment that stands for its own directory or the one above. -/
def isDots (s : List Char) : Bool :=
  let s := String.ofList (s.map Char.toLower)
  [".", "%2e", "..", ".%2e", "%2e.", "%2e%2e"].contains s

/-- The path starts with a drive. -/
def startsWithDrive (path : List Char) : Bool :=
  let segments := cutAt isSlash (path.takeWhile fun c => !(c == '?' || c == '#'))
  ((segments.drop 1).dropWhile isDots).head?.any isDrive

/-- The host of a file address: none for this machine and for a path that starts with a drive. -/
def fileHost (s : List Char) : Option (List Char) :=
  match s with
  | a :: b :: rest =>
    if isSlash a && isSlash b then do
      let name := rest.takeWhile fun c => !endsAuthority .file c
      if name.isEmpty || isDrive name then none
      else
        let host ← webHost name
        if host = "localhost".toList || startsWithDrive (rest.drop name.length) then none
        else return host
    else none
  | _ => none

/-- The host of a url. -/
def ofUrl (s : List Char) : Option (List Char) := do
  let (scheme, rest) ← schemeAt (cleaned s)
  match scheme with
  | .file => fileHost rest
  | .web =>
    let s := rest.dropWhile isSlash
    hostOfAuthority .web (s.takeWhile fun c => !endsAuthority .web c)
  | .other =>
    match rest with
    | '/' :: '/' :: s => hostOfAuthority .other (s.takeWhile fun c => !endsAuthority .other c)
    | _ => none

/-- Drops one `www.` from the start. -/
def withoutWww : List Char → List Char
  | 'w' :: 'w' :: 'w' :: '.' :: rest => rest
  | s => s

/-- The host of an address, which may lack its scheme. -/
def ofAddress (s : List Char) : Option (List Char) :=
  ((ofUrl s).or (ofUrl ("https://".toList ++ s))).map fun host =>
    withoutWww (host.map Char.toLower)

/-- An address has no host. -/
def noHost (address : String) : Problem :=
  .stated .validation "cannot extract host"
    { details := some address, source := some "domain_rate_limiter" }

/-- The host that tells the destination of an address. -/
def extract (raw : String) : Except Problem String :=
  let address := trimmed raw.toList
  match ofAddress address with
  | some host => .ok (String.ofList host)
  | none => .error (noHost (String.ofList address))

end Precis.Host
