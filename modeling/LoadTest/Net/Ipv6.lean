import LoadTest.Net.Ipv4
import LoadTest.Text.Hex

/-!
# IPv6 addresses

* `Ipv6`                         eight groups of 16 bits
* `Ipv6.write`                   the compressed text: the longest run of zero groups, or the first
  of several, becomes `::`; an IPv4 address inside `::ffff:` is written with dots
* `Ipv6.ofText?`                 reads any text of an address
-/

namespace LoadTest

structure Ipv6 where
  groups : List UInt16
  size : groups.length = 8
deriving DecidableEq

namespace Ipv6

/-! ## writing -/

def hexGroup (g : UInt16) : List Char := Nat.toDigits 16 g.toNat

def writeGroups (gs : List UInt16) : List Char := [':'].intercalate (gs.map hexGroup)

def zerosAt (gs : List UInt16) (i : Nat) : Nat := ((gs.drop i).takeWhile (· = 0)).length

def longestZeros (gs : List UInt16) : Nat :=
  (List.range gs.length).foldl (fun best i => if zerosAt gs best < zerosAt gs i then i else best) 0

/-- an IPv4 address in its place inside `::ffff:0:0/96` -/
def mapped? (ip : Ipv6) : Option Ipv4 :=
  match ip.groups with
  | [0, 0, 0, 0, 0, 0xffff, hi, lo] =>
    some ⟨(hi >>> 8).toUInt8, hi.toUInt8, (lo >>> 8).toUInt8, lo.toUInt8⟩
  | _ => none

def write (ip : Ipv6) : List Char :=
  match ip.mapped? with
  | some v4 => "::ffff:".toList ++ v4.write
  | none =>
    let start := longestZeros ip.groups
    let run := zerosAt ip.groups start
    if 1 < run then
      writeGroups (ip.groups.take start) ++ [':', ':'] ++ writeGroups (ip.groups.drop (start + run))
    else writeGroups ip.groups

/-! ## reading -/

def group? (s : List Char) : Option UInt16 :=
  if s = [] ∨ 4 < s.length then none
  else (s.foldlM (fun n c => (Text.hexValue c).map (16 * n + ·)) 0).map UInt16.ofNat

def groupsOfIpv4 (ip : Ipv4) : List UInt16 :=
  [ip.a.toUInt16 <<< 8 ||| ip.b.toUInt16, ip.c.toUInt16 <<< 8 ||| ip.d.toUInt16]

/-- groups with colons between them; where `tail` is set the last one may be an IPv4 address -/
def groupsOfParts? (tail : Bool) : List (List Char) → Option (List UInt16)
  | [] => some []
  | [part] =>
    match group? part with
    | some g => some [g]
    | none => if tail then (Ipv4.ofText? part).map groupsOfIpv4 else none
  | part :: parts => do return (← group? part) :: (← groupsOfParts? tail parts)

def groups? (tail : Bool) (s : List Char) : Option (List UInt16) :=
  if s = [] then some [] else groupsOfParts? tail (s.splitOn ':')

def splitGap : List Char → Option (List Char × List Char)
  | ':' :: ':' :: s => some ([], s)
  | c :: s => (splitGap s).map fun (before, after) => (c :: before, after)
  | [] => none

def ofGroups? (gs : List UInt16) : Option Ipv6 :=
  if h : gs.length = 8 then some ⟨gs, h⟩ else none

/-- a gap stands for one or more zero groups -/
def ofText? (s : List Char) : Option Ipv6 :=
  match splitGap s with
  | none => (groups? true s).bind ofGroups?
  | some (before, after) => do
    let left ← groups? false before
    let right ← groups? true after
    if left.length + right.length < 8 then
      ofGroups? (left ++ List.replicate (8 - left.length - right.length) 0 ++ right)
    else none

end Ipv6

end LoadTest
