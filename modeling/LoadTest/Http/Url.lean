import LoadTest.Net.Domain
import LoadTest.Text.Utf8

/-!
# Absolute urls

Whether a text is an absolute url, and of which scheme. Schemes for which hosts are looked up have a
domain that is not empty: an IP address or a name.
-/

namespace LoadTest.Http.Url

open LoadTest (Authority.splitHost Authority.afterUser)

/-! ## IPv4 addresses -/

/-- the digits of a base, of which there may be none -/
def inBase? (base : Nat) (s : List Char) : Option Nat :=
  s.foldlM (fun n c =>
    (Text.hexValue c).bind fun d => if d < base then some (base * n + d) else none) 0

/-- `0x` begins a hexadecimal number and a zero an octal one -/
def ipv4Number? : List Char → Option Nat
  | [] => none
  | ['0'] => some 0
  | '0' :: 'x' :: s | '0' :: 'X' :: s => inBase? 16 s
  | '0' :: s => inBase? 8 s
  | s => inBase? 10 s

def dotted (labels : List (List Char)) : List (List Char) :=
  if 1 < labels.length ∧ labels.getLast? = some [] then labels.dropLast else labels

/-- a name whose last label looks like a number is an IPv4 address -/
def endsInNumber (labels : List (List Char)) : Bool :=
  match (dotted labels).getLast? with
  | none | some [] => false
  | some last => last.all Char.isDigit || (ipv4Number? last).isSome

/-- up to four numbers, where the last one fills the rest of the address -/
def isIpv4 (labels : List (List Char)) : Bool :=
  match (dotted labels).mapM ipv4Number? with
  | none => false
  | some ns =>
    ns.length ≤ 4 && ns.dropLast.all (· < 256) && (ns.getLastD 0) < Nat.pow 256 (5 - ns.length)

/-! ## hosts -/

/-- a name after percent-decoding, or an IP address -/
def isDomain : List Char → Bool
  | [] => false
  | '[' :: s => (Authority.bracketed? s).isSome
  | s =>
    match Text.ofUtf8? (Percent.decode s) with
    | none => false
    | some name =>
      (Domain.labels? name.toList).any fun labels =>
        labels ≠ [[]] && (!endsInNumber labels || isIpv4 labels)

/-- no port at all, or a colon and a number of 16 bits that may be left out -/
def isPort : List Char → Bool
  | [] | [':'] | ':' :: '\\' :: _ => true
  | s => (Authority.port? s).isSome

/-! ## schemes -/

def isSlash (c : Char) : Bool := c = '/' || c = '\\'

def splitScheme? (s : List Char) : Option (List Char × List Char) :=
  let run := s.takeWhile fun c => c.isAlphanum || c = '+' || c = '-' || c = '.'
  match s.dropWhile fun c => c.isAlphanum || c = '+' || c = '-' || c = '.' with
  | ':' :: rest => if run.head?.any Char.isAlpha then some (run.map Char.toLower, rest) else none
  | _ => none

/-- after any number of slashes comes an authority with a domain -/
def isHosted (s : List Char) : Bool :=
  let authority := (s.dropWhile isSlash).takeWhile fun c => !(isSlash c || c = '?' || c = '#')
  let (host, port) := Authority.splitHost false (Authority.afterUser authority)
  isDomain host && isPort port

def isDriveLetter : List Char → Bool
  | [c, bar] => c.isAlpha && (bar = ':' || bar = '|')
  | _ => false

/-- two slashes may introduce a host -/
def isFile : List Char → Bool
  | a :: b :: s =>
    let host := s.takeWhile fun c => !(isSlash c || c = '?' || c = '#')
    !(isSlash a && isSlash b) || host = [] || isDriveLetter host || isDomain host
  | _ => true

/-- Whether an authority may lack host and port. A user without a name and a password is none, but
after an `@` with nothing before it the url has to end. -/
def mayBeBare (authority : List Char) (isEnd : Bool) : Bool :=
  match Authority.user? authority with
  | none | some [':'] => true
  | some [] => isEnd
  | some _ => false

/-- two slashes introduce an authority -/
def isGeneric : List Char → Bool
  | '/' :: '/' :: s =>
    let authority := s.takeWhile (!Authority.endsAuthority ·)
    let (host, port) := Authority.splitHost false (Authority.afterUser authority)
    if host = [] then port = [] && mayBeBare authority (!s.any Authority.endsAuthority)
    else (Authority.opaqueHost? host).isSome && isPort port
  | _ => true

def hostedSchemes : List String := ["http", "https", "ws", "wss", "ftp"]

def isUrlOf (scheme : String) (rest : List Char) : Bool :=
  if scheme ∈ hostedSchemes then isHosted rest
  else if scheme = "file" then isFile rest
  else isGeneric rest

def scheme? (s : List Char) : Option String := do
  let (scheme, rest) ← splitScheme? (Authority.clean s)
  let scheme := String.ofList scheme
  if isUrlOf scheme rest then some scheme else none

end LoadTest.Http.Url
