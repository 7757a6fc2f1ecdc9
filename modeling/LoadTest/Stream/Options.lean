import LoadTest.Error
import LoadTest.Time.Spoken

/-!
# Streams and their options

Every kind of stream declares the options it takes: a name, a help text, the kind of its values and
a default.
-/

namespace LoadTest

inductive StreamKind where
  | stdout | remote
deriving DecidableEq, Repr, Inhabited

inductive OptionKind where
  | str | int | bool | duration
deriving DecidableEq, Repr

/-- `cli` options can be given on the command line. -/
structure StreamOption where
  name : String
  help : String
  kind : OptionKind
  default : Option String
  cli : Bool
deriving DecidableEq, Repr

namespace StreamKind

def all : List StreamKind := [stdout, remote]

def name : StreamKind → String
  | stdout => "stdout"
  | remote => "remote"

def sortedNames : List String := ["remote", "stdout"]

def options : StreamKind → List StreamOption
  | stdout =>
    [⟨"total", "Expected number of invocations, used for progress display", .int, none, false⟩,
     ⟨"progress", "Render a progress bar on stderr", .bool, some "true", true⟩]
  | remote =>
    [⟨"endpoint", "Endpoint receiving result events", .str, some "tcp://127.0.0.1:7781", true⟩,
     ⟨"connect-timeout", "How long to wait for the endpoint to accept the connection", .duration,
       some "5s", true⟩]

def option? (k : StreamKind) (name : String) : Option StreamOption :=
  k.options.find? fun o => o.name = name

def ofName (name : String) : Except Error StreamKind :=
  match all.find? fun k => k.name = name with
  | some k => .ok k
  | none => .error (.unknownStream name sortedNames)

end StreamKind

/-! ## values -/

inductive OptionValue where
  | str (s : String)
  | int (n : UInt64)
  | bool (b : Bool)
  | duration (d : Duration)
deriving DecidableEq

def OptionValue.kind : OptionValue → OptionKind
  | str _ => .str
  | int _ => .int
  | bool _ => .bool
  | duration _ => .duration

/-- four words for yes, four for no -/
def readBool (s : String) : Option Bool :=
  if s ∈ ["true", "1", "yes", "on"] then some true
  else if s ∈ ["false", "0", "no", "off"] then some false
  else none

def OptionKind.expectation : OptionKind → String
  | .str => "expected text"
  | .int => "expected a non-negative integer"
  | .bool => "expected true or false"
  | .duration => "expected a duration such as 5s or 250ms"

/-- the value in a text, blanks around it dropped; text is taken as it is -/
def OptionKind.read (k : OptionKind) (text : String) : Except Spoken.Fault OptionValue :=
  let ofOption (v : Option OptionValue) : Except Spoken.Fault OptionValue :=
    match v with
    | some v => .ok v
    | none => .error .malformed
  match k with
  | .str => .ok (.str text)
  | .int => ofOption ((Text.word64? (Text.trim text.toList)).map .int)
  | .bool => ofOption ((readBool (Text.trimmed text)).map .bool)
  | .duration =>
    match Duration.ofText (Text.trim text.toList) with
    | .ok d => .ok (.duration d)
    | .error e => .error e

def StreamOption.read (o : StreamOption) (stream : StreamKind) (text : String) :
    Except Error OptionValue :=
  match o.kind.read text with
  | .ok v => .ok v
  | .error .malformed =>
    .error (.invalidStreamOption stream.name o.name text o.kind.expectation)
  | .error .overflow => .error .clockOverflow

end LoadTest
