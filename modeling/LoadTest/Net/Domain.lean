import LoadTest.Net.Authority
import LoadTest.Net.Domain.Mapping
import LoadTest.Net.Domain.Punycode
import LoadTest.Text.Direction
import LoadTest.Text.Joining
import LoadTest.Text.Normal

/-!
# Names of hosts

A name is a row of labels between dots. Labels may use the letters of any script, or write them in
ASCII after `xn--`. Characters that stand for others are replaced first, and what is left has to
follow a few rules, so that a name is not taken for another one.
-/

namespace LoadTest.Domain

def isAscii (s : List Char) : Bool := s.all (·.toNat < 0x80)

def isForbidden (c : Char) : Bool :=
  Authority.isForbiddenInHost c || Percent.isControl c || c = '%'

/-! ## characters -/

def prepared? (s : List Char) : Option (List Char) := (mapped? s).map Text.normalForm

/-! ## encoded labels -/

def isEncoded (label : List Char) : Bool := label.take 4 = ['x', 'n', '-', '-']

/-- the most characters of a label that is decoded, and of one that would have to be encoded -/
def maxEncoded : Nat := 2000
def maxDecoded : Nat := 1000

/-- What is encoded needs to be: it is not all ASCII, and nothing in it stands for anything else. -/
def decoded? (label : List Char) : Option (List Char) :=
  if isEncoded label then
    let code := label.drop 4
    if isAscii code && code.length ≤ maxEncoded then
      (Punycode.decode? code).filter fun s =>
        !isAscii s && !s.any (fun c => isForbidden c || c = '.') && prepared? s = some s
    else none
  else if isAscii label || label.length ≤ maxDecoded then some label
  else none

/-! ## single labels -/

/-- whether the first character that is not transparent has a property -/
def reaches (p : Char → Bool) (s : List Char) : Bool :=
  (s.dropWhile fun c => !p c && Text.isTransparent c).head?.any p

/-- Joiners stand after a sign that suppresses a vowel. The one that keeps letters apart may also
stand between letters that would be joined. -/
def isJoinerAfter (before : List Char) (c : Char) (after : List Char) : Bool :=
  match before with
  | [] => false
  | d :: _ =>
    Text.combiningClass d = 9 ||
      (c = '\u200C' && reaches Text.joinsLeft before && reaches Text.joinsRight after)

/-- `before` is what stands before, the last character first -/
def hasGoodJoiners (before : List Char) : List Char → Bool
  | [] => true
  | c :: s =>
    (!(c = '\u200C' || c = '\u200D') || isJoinerAfter before c s) && hasGoodJoiners (c :: before) s

def isLabel (label : List Char) : Bool :=
  isAscii label || (!label.head?.any Text.isMark && hasGoodJoiners [] label)

/-! ## directions -/

open Text (Direction)

/-- letters to the right, with numbers and signs among them -/
def isToRight (body : List Direction) (last : Direction) : Bool :=
  (last = .leftToRight || last = .europeanNumber) &&
    body.all (· ∉ [.rightToLeft, .arabicLetter, .arabicNumber])

/-- letters to the left, with numbers of one kind and signs among them -/
def isToLeft (body : List Direction) (last : Direction) : Bool :=
  last ∈ [.rightToLeft, .arabicLetter, .europeanNumber, .arabicNumber] &&
    body.all (· ≠ .leftToRight) &&
    !((last :: body).contains .europeanNumber && (last :: body).contains .arabicNumber)

/-- The first letter decides. Marks at the end do not count. -/
def isDirected (label : List Char) : Bool :=
  match label.map Direction.of with
  | [] => true
  | first :: rest =>
    let isLeft := first = .rightToLeft || first = .arabicLetter
    (isLeft || first = .leftToRight) &&
      (match rest.reverse.dropWhile (· = .nonspacing) with
       | [] => true
       | last :: body => if isLeft then isToLeft body last else isToRight body last)

/-! ## names -/

def labels? (name : List Char) : Option (List (List Char)) := do
  let parts ← (name.splitOn '.').mapM prepared?
  let labels ← (parts.flatMap (·.splitOn '.')).mapM decoded?
  if labels.all (fun label => !label.any isForbidden && isLabel label) &&
      (!labels.any (·.any Text.isRightToLeft) || labels.all isDirected) then some labels
  else none

end LoadTest.Domain
