import LoadTest.Net.Endpoint
import LoadTest.Stream.Options
import LoadTest.Text.Sorted

/-!
# Stream configurations

A configuration holds the texts of the options that were set, sorted by name.
-/

namespace LoadTest

structure StreamConfig where
  values : List (String × String) := []
deriving DecidableEq, Repr, Inhabited

namespace StreamConfig

/-! ## texts -/

def set (c : StreamConfig) (name value : String) : StreamConfig :=
  ⟨Text.putNamed name value c.values⟩

def ofList (values : List (String × String)) : StreamConfig :=
  values.foldl (fun c nv => c.set nv.1 nv.2) {}

def get? (c : StreamConfig) (name : String) : Option String :=
  Text.getNamed? name c.values

/-! ## checking -/

/-- one text that was set, against the options of the stream -/
def check (stream : StreamKind) (name value : String) : Except Error OptionValue :=
  match stream.option? name with
  | none => .error (.invalidStreamOption stream.name name value "unknown option")
  | some o => o.read stream value

/-- the first failure in the order of the names counts -/
def validateAll (stream : StreamKind) : List (String × String) → Except Error Unit
  | [] => .ok ()
  | (name, value) :: rest =>
    match check stream name value with
    | .ok _ => validateAll stream rest
    | .error e => .error e

def validate (c : StreamConfig) (stream : StreamKind) : Except Error Unit :=
  validateAll stream c.values

/-! ## typed values -/

/-- the value of a declared option: what was set, or else the default -/
def value? (c : StreamConfig) (stream : StreamKind) (name : String) :
    Except Error (Option OptionValue) :=
  match stream.option? name with
  | none => .ok none
  | some o =>
    match (c.get? name).or o.default with
    | none => .ok none
    | some text => (o.read stream text).map some

/-- the value if it has the wanted kind -/
def pick {α : Type} (select : OptionValue → Option α) (v : Except Error (Option OptionValue)) :
    Except Error (Option α) :=
  v.map fun v => v.bind select

def int (c : StreamConfig) (stream : StreamKind) (name : String) : Except Error (Option UInt64) :=
  pick (fun | .int n => some n | _ => none) (c.value? stream name)

def bool (c : StreamConfig) (stream : StreamKind) (name : String) : Except Error (Option Bool) :=
  pick (fun | .bool b => some b | _ => none) (c.value? stream name)

def duration (c : StreamConfig) (stream : StreamKind) (name : String) :
    Except Error (Option Duration) :=
  pick (fun | .duration d => some d | _ => none) (c.value? stream name)

/-- the text of an option, read as an endpoint -/
def endpoint (c : StreamConfig) (stream : StreamKind) (name : String) :
    Except Error (Option Endpoint) :=
  match c.value? stream name with
  | .error e => .error e
  | .ok (some (.str text)) => (Endpoint.parse text).map some
  | .ok _ => .ok none

end StreamConfig

end LoadTest
