import LoadTest.Net.Ipv6

/-!
# Socket addresses
-/

namespace LoadTest

inductive Address where
  | v4 (ip : Ipv4) (port : UInt16)
  | v6 (ip : Ipv6) (port : UInt16)
deriving DecidableEq

namespace Address

/-- digits only, however many zeros in front -/
def port? (s : List Char) : Option UInt16 :=
  (Text.ofDigits s).bind fun n => if n < UInt16.size then some (UInt16.ofNat n) else none

def cut (c : Char) (s : List Char) : Option (List Char × List Char) :=
  match s.dropWhile (· ≠ c) with
  | [] => none
  | _ :: rest => some (s.takeWhile (· ≠ c), rest)

/-- the address before a zone number of 32 bits -/
def withoutZone? (s : List Char) : Option (List Char) :=
  match cut '%' s with
  | none => some s
  | some (ip, zone) =>
    (Text.ofDigits zone).bind fun n => if n < UInt32.size then some ip else none

def ofText? : List Char → Option Address
  | '[' :: s => do
    let (inner, rest) ← cut ']' s
    let ip ← (← withoutZone? inner) |> Ipv6.ofText?
    match rest with
    | ':' :: port => return .v6 ip (← port? port)
    | _ => none
  | s => do
    let (ip, port) ← cut ':' s
    return .v4 (← Ipv4.ofText? ip) (← port? port)

def host : Address → String
  | v4 ip _ => String.ofList ip.write
  | v6 ip _ => String.ofList ip.write

def port : Address → UInt16
  | v4 _ p => p
  | v6 _ p => p

end Address

end LoadTest
