import LoadTest.Http.Client
import LoadTest.Text.Blank

/-!
# What a plain server hears

The server reads header lines as they come and takes as many bytes for the body as are announced. It
knows no encodings.
-/

namespace LoadTest.Testbed

/-- `extras` are the header lines that do not belong to the protocol. -/
structure Heard where
  line : String
  extras : List String
  body : String
deriving DecidableEq, Repr

/-- the characters of the first `n` bytes; one that is cut is shown as a replacement character -/
def cutText (n : Nat) : List Char → List Char
  | [] => []
  | c :: s =>
    if n = 0 then []
    else if c.utf8Size ≤ n then c :: cutText (n - c.utf8Size) s
    else ['\uFFFD']

namespace Heard

/-- A length that contradicts itself is replaced by that of the body. -/
def bodyOf (r : Http.Request) : String :=
  let fields := r.headers.map Http.Field.ofHeader
  if Http.Field.values "transfer-encoding" fields ≠ [] then ""
  else
    match Http.announced? (Http.Field.values "content-length" fields) with
    | some n => String.ofList (cutText n r.body.toList)
    | none => r.body

def extraLine (h : Http.Header) : String :=
  String.ofList (Text.trimEnd (h.1 ++ ": " ++ h.2).toList)

def ofRequest (r : Http.Request) (t : Http.Target) : Heard where
  line := r.line t.authority t.path
  extras := ((Http.Header.grouped r.headers).filter fun h => h.1.startsWith "x-").map extraLine
  body := bodyOf r

end Heard

end LoadTest.Testbed
