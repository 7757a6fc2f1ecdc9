import LoadTest.Error
import LoadTest.Net.Authority
import LoadTest.Text.Blank

/-!
# Endpoints

An endpoint is a `tcp://host:port` address. It is read with the rules for urls of a scheme without
rules of its own: the host is opaque text, percent-encoded where needed, or an IPv6 address in
brackets; user, path, query and fragment are passed over.
-/

namespace LoadTest

structure Endpoint where
  host : String
  port : UInt16
deriving DecidableEq, Repr, Inhabited

namespace Endpoint

def withPort (e : Endpoint) (port : UInt16) : Endpoint := { e with port := port }

def ofAddress (a : Address) : Endpoint := ⟨a.host, a.port⟩

/-! ## written forms -/

def writeHost (host : List Char) : List Char :=
  if ':' ∈ host then '[' :: host ++ [']'] else host

def writeAuthority (e : Endpoint) : List Char :=
  writeHost e.host.toList ++ ':' :: Text.digits e.port.toNat

def authority (e : Endpoint) : String := String.ofList e.writeAuthority

def write (e : Endpoint) : List Char := 't' :: 'c' :: 'p' :: ':' :: '/' :: '/' :: e.writeAuthority

def display (e : Endpoint) : String := String.ofList e.write

/-! ## reading -/

/-- what stands after `tcp:`, in letters of either case -/
def afterScheme? : List Char → Option (List Char)
  | t :: c :: p :: ':' :: s =>
    if t.toLower = 't' ∧ c.toLower = 'c' ∧ p.toLower = 'p' then some s else none
  | _ => none

def ofAuthority? (s : List Char) : Option Endpoint :=
  let (host, rest) := Authority.splitHost false (Authority.afterUser s)
  match Authority.opaqueHost? host, Authority.port? rest with
  | some host, some port => some ⟨String.ofList host, port⟩
  | _, _ => none

def ofText? (s : List Char) : Option Endpoint :=
  match afterScheme? (Authority.clean (Text.trim s)) with
  | some ('/' :: '/' :: s) => ofAuthority? (s.takeWhile (!Authority.endsAuthority ·))
  | _ => none

/-- the error repeats the text as it was given -/
def parse (text : String) : Except Error Endpoint :=
  match ofText? text.toList with
  | some e => .ok e
  | none => .error (.invalidEndpoint text)

end Endpoint

end LoadTest
