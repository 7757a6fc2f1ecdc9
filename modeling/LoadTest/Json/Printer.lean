import LoadTest.Json.Basic

/-!
# Writing JSON

The compact form: no blanks, members in order. In a string the quote, the backslash and the
characters below U+0020 are escaped; all other characters stand for themselves.
-/

namespace LoadTest.Json

/-! ## strings -/

def unicodeEscape (n : Nat) : List Char :=
  '\\' :: 'u' :: [n / 4096 % 16, n / 256 % 16, n / 16 % 16, n % 16].map Nat.digitChar

def escape (c : Char) : List Char :=
  if c = '"' then ['\\', '"']
  else if c = '\\' then ['\\', '\\']
  else if c = '\x08' then ['\\', 'b']
  else if c = '\x0c' then ['\\', 'f']
  else if c = '\n' then ['\\', 'n']
  else if c = '\r' then ['\\', 'r']
  else if c = '\t' then ['\\', 't']
  else if c.toNat < 0x20 then unicodeEscape c.toNat
  else [c]

def writeText (s : List Char) : List Char := '"' :: s.flatMap escape ++ ['"']

/-- a string that spells no text is written as a lone half of a surrogate pair -/
def writeString : Option String → List Char
  | some s => writeText s.toList
  | none => '"' :: unicodeEscape 0xD800 ++ ['"']

/-! ## values -/

mutual
def write : Json → List Char
  | .null => ['n', 'u', 'l', 'l']
  | .bool true => ['t', 'r', 'u', 'e']
  | .bool false => ['f', 'a', 'l', 's', 'e']
  | .number n => n.write
  | .text s => writeString s
  | .array [] => ['[', ']']
  | .array (v :: vs) => '[' :: write v ++ writeItems vs
  | .object [] => ['{', '}']
  | .object ((k, v) :: ms) => '{' :: writeString k ++ ':' :: write v ++ writeMembers ms

def writeItems : List Json → List Char
  | [] => [']']
  | v :: vs => ',' :: write v ++ writeItems vs

def writeMembers : List Member → List Char
  | [] => ['}']
  | (k, v) :: ms => ',' :: writeString k ++ ':' :: write v ++ writeMembers ms
end

def render (v : Json) : String := String.ofList v.write

end LoadTest.Json
