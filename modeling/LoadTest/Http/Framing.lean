import LoadTest.Http.Chunked

/-!
# Where a body ends
-/

namespace LoadTest.Http

/-! ## headers -/

def items (value : Bytes) : List Bytes := (value.splitOn 0x2C).map trimBytes

def lengthOf? (s : Bytes) : Option Nat :=
  (Text.ofDigits (s.map Char.ofUInt8)).filter (· < UInt64.size)

def announced? (values : List Bytes) : Option Nat :=
  match (values.flatMap items).mapM lengthOf? with
  | some (n :: ns) => if ns.all (· = n) then some n else none
  | _ => none

def endsChunked (values : List Bytes) : Bool :=
  let isPlain (b : UInt8) : Bool := isTextByte b && b < 0x7F
  (values.getLast?.filter (·.all isPlain)).any fun value =>
    (items value).getLast?.any fun item => (plainText item).toLower = "chunked"

/-! ## framings -/

inductive Framing where
  | empty
  | chunked
  | length (n : Nat)
  | untilClose
deriving DecidableEq, Repr

namespace Framing

/-- the most bytes that may be announced -/
def maxLength : Nat := UInt64.size - 3

/-- An encoding counts before a length. The older version knows no encodings. -/
def ofHead? (method : String) (head : Head) : Option Framing :=
  let encodings := Field.values "transfer-encoding" head.fields
  let lengths := Field.values "content-length" head.fields
  if !hasBody method head.status then some .empty
  else if encodings ≠ [] then
    if head.version = .http10 then none
    else some (if endsChunked encodings then .chunked else .untilClose)
  else if lengths ≠ [] then ((announced? lengths).filter (· ≤ maxLength)).map .length
  else some .untilClose

def take? : Framing → Bytes → Option Bytes
  | empty, _ => some []
  | chunked, s => unchunked? s
  | length n, s => if (s.take n).length = n then some (s.take n) else none
  | untilClose, s => some s

end Framing

/-! ## reactions -/

/-- A connection is refused or breaks before a whole head has come, an answer comes whole or breaks
off inside its body, or nothing comes at all. -/
inductive Reaction where
  | lost
  | answered (a : Answer)
  | cut
  | silent

def Reaction.ofBytes (method : String) (s : Bytes) : Reaction :=
  match Head.final? s with
  | none => .lost
  | some (head, rest) =>
    match Framing.ofHead? method head with
    | none => .lost
    | some framing =>
      match framing.take? rest with
      | none => .cut
      | some body =>
        .answered { version := head.version, status := UInt16.ofNat head.status
                    fields := head.fields, body }

end LoadTest.Http
