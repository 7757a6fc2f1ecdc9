import LoadTest.Text.Lines
import LoadTest.Text.Utf8

/-!
# What an agent's connection yields
-/

namespace LoadTest.Coordinator

/-- the texts up to the first one that is not UTF-8 -/
def decodeWhile : List (List UInt8) → List String
  | [] => []
  | bytes :: rest =>
    match Text.ofUtf8? bytes with
    | some line => line :: decodeWhile rest
    | none => []

def decodeLines (bytes : List UInt8) : List String := decodeWhile (Text.lines 0x0A 0x0D bytes)

/-- The lines of a connection that stays open: what stands after the last line feed is no line
yet. -/
def endedLines (bytes : List UInt8) : List String :=
  decodeLines (bytes.reverse.dropWhile (· ≠ 0x0A)).reverse

end LoadTest.Coordinator
