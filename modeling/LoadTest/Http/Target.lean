/-!
# Request targets

Where a request goes and what it asks for, read from a url without changing a character of it. A url
that would have to be encoded first is refused.
-/

namespace LoadTest.Http

/-- `path` begins with a slash and holds the query. -/
structure Target where
  authority : List Char
  path : List Char
deriving DecidableEq, Repr

inductive Reading where
  | absolute (t : Target)
  | loneAuthority
deriving DecidableEq, Repr

namespace Target

/-! ## authorities -/

def isUrlChar (c : Char) : Bool :=
  c.isAlphanum || c ∈ ['!', '#', '$', '&', '\'', '(', ')', '*', '+', ',', '-', '.', '/', ':', ';',
    '=', '?', '@', '[', ']', '_', '~']

/-- what has been seen of an authority since its last `@` or closing bracket -/
structure Scan where
  colons : Nat := 0
  isOpened : Bool := false
  isClosed : Bool := false
  hasPercent : Bool := false
  endsWithAt : Bool := false
deriving DecidableEq, Repr

def Scan.step (s : Scan) (c : Char) : Option Scan :=
  let s := { s with endsWithAt := false }
  if c = ':' then if s.colons < 8 then some { s with colons := s.colons + 1 } else none
  else if c = '[' then
    if s.hasPercent ∨ s.isOpened then none else some { s with isOpened := true }
  else if c = ']' then
    if s.isOpened ∧ ¬ s.isClosed then
      some { s with isClosed := true, colons := 0, hasPercent := false }
    else none
  else if c = '@' then some { s with colons := 0, hasPercent := false, endsWithAt := true }
  else if c = '%' then some { s with hasPercent := true }
  else if isUrlChar c then some s
  else none

def Scan.isComplete (s : Scan) : Bool :=
  s.isOpened = s.isClosed && s.colons ≤ 1 && !s.endsWithAt && !s.hasPercent

/-- brackets in pairs, at most one colon for the port, percent signs only before the `@` -/
def isAuthority (s : List Char) : Bool := (s.foldlM Scan.step {}).any Scan.isComplete

/-! ## paths and queries -/

def isPathChar (c : Char) : Bool :=
  let n := c.toNat
  n = 0x21 || n = 0x22 || (0x24 ≤ n && n ≤ 0x3B) || n = 0x3D || (0x40 ≤ n && n ≤ 0x5F) ||
    (0x61 ≤ n && n ≠ 0x7F)

def isQueryChar (c : Char) : Bool :=
  let n := c.toNat
  n = 0x21 || (0x24 ≤ n && n ≤ 0x3B) || n = 0x3D || (0x3F ≤ n && n ≠ 0x7F)

def path? (s : List Char) : Option (List Char) :=
  let s := s.takeWhile (· ≠ '#')
  let path := s.takeWhile (· ≠ '?')
  let query := s.dropWhile (· ≠ '?')
  if path.all isPathChar && query.all isQueryChar then
    some ((if path = [] then ['/'] else path) ++ query)
  else none

/-! ## urls -/

/-- what stands after `http://` or `https://`, in letters of either case -/
def afterScheme? (s : List Char) : Option (List Char) :=
  let isScheme (name : List Char) : Bool := (s.take name.length).map Char.toLower = name
  if isScheme "http://".toList then some (s.drop 7)
  else if isScheme "https://".toList then some (s.drop 8)
  else none

def longest : Nat := 65534

def endsAuthority (c : Char) : Bool := c = '/' || c = '?' || c = '#'

def ofAbsolute? (s : List Char) : Option Target :=
  let authority := s.takeWhile (!endsAuthority ·)
  if authority ≠ [] && isAuthority authority then
    (path? (s.dropWhile (!endsAuthority ·))).map fun path => ⟨authority, path⟩
  else none

def ofUrl? (url : String) : Option Reading :=
  if longest < url.utf8ByteSize then none
  else
    match afterScheme? url.toList with
    | some s => (ofAbsolute? s).map .absolute
    | none =>
      if !url.toList.any endsAuthority && isAuthority url.toList then some .loneAuthority else none

end Target

end LoadTest.Http
