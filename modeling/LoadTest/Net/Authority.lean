import LoadTest.Net.Address
import LoadTest.Net.Percent

/-!
# The authority part of a url

User, host and port, as they stand between `//` and the path. The user is passed over.
-/

namespace LoadTest.Authority

def isControlOrSpace (c : Char) : Bool := c.toNat ≤ 0x20

/-- drops controls and spaces at both ends, and tabs and line ends everywhere -/
def clean (s : List Char) : List Char :=
  let s := (s.dropWhile isControlOrSpace).reverse.dropWhile isControlOrSpace
  s.reverse.filter fun c => c ≠ '\t' ∧ c ≠ '\n' ∧ c ≠ '\r'

def endsAuthority (c : Char) : Bool := c = '/' || c = '?' || c = '#'

def user? (s : List Char) : Option (List Char) :=
  match s.reverse.dropWhile (· ≠ '@') with
  | [] => none
  | _ :: user => some user.reverse

def afterUser (s : List Char) : List Char :=
  (s.reverse.takeWhile (· ≠ '@')).reverse

/-- The host goes up to the first colon outside brackets. -/
def splitHost (inBrackets : Bool) : List Char → List Char × List Char
  | [] => ([], [])
  | c :: s =>
    if c = ':' ∧ inBrackets = false then ([], c :: s)
    else
      let inside := if c = '[' then true else if c = ']' then false else inBrackets
      let (host, rest) := splitHost inside s
      (c :: host, rest)

def isForbiddenInHost (c : Char) : Bool :=
  c = '\x00' || c = '\t' || c = '\n' || c = '\r' || c = ' ' || c = '#' || c = '/' || c = ':' ||
    c = '<' || c = '>' || c = '?' || c = '@' || c = '[' || c = '\\' || c = ']' || c = '^' || c = '|'

def bracketed? (s : List Char) : Option Ipv6 :=
  if s.getLast? = some ']' then Ipv6.ofText? s.dropLast else none

/-- a host that is not empty: an IPv6 address in brackets, or opaque text -/
def opaqueHost? : List Char → Option (List Char)
  | [] => none
  | '[' :: s => (bracketed? s).map Ipv6.write
  | s => if s.any isForbiddenInHost then none else some (Percent.encode Percent.isControl s)

/-- the digits after the colon; a backslash ends them -/
def port? : List Char → Option UInt16
  | ':' :: s => Address.port? (s.takeWhile (· ≠ '\\'))
  | _ => none

end LoadTest.Authority
