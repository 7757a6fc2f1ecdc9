import LoadTest.Stream.Config
import LoadTest.Stream.Echo
import LoadTest.Stream.Remote

/-!
# The stream of a run

Exactly one stream is told of every event of a run.
-/

namespace LoadTest

inductive Stream where
  | stdout (echo : Echo)
  | remote (r : Remote)
deriving DecidableEq, Repr

namespace Stream

def kind : Stream → StreamKind
  | stdout _ => .stdout
  | remote _ => .remote

def name (s : Stream) : String := s.kind.name

/-- takes in an event; a closed connection refuses it -/
def push (s : Stream) (e : Event) : Except String Stream :=
  match s with
  | stdout echo => .ok (stdout (echo.push e))
  | remote r => (r.push e).map remote

def close : Stream → Stream
  | stdout echo => stdout echo.close
  | remote r => remote r.close

end Stream

/-! ## what a configuration asks for -/

/-- A stream that has not been opened yet. -/
inductive StreamOrder where
  | stdout (total : Option Nat)
  | remote (endpoint : Endpoint) (timeout : Duration)
deriving DecidableEq, Repr

namespace StreamOrder

def ofStdout (c : StreamConfig) : Except Error StreamOrder :=
  match c.int .stdout "total" with
  | .error e => .error e
  | .ok total =>
    match c.bool .stdout "progress" with
    | .error e => .error e
    | .ok _ => .ok (stdout (total.map UInt64.toNat))

def ofRemote (c : StreamConfig) : Except Error StreamOrder :=
  match c.endpoint .remote "endpoint" with
  | .error e => .error e
  | .ok none => .error (.invalidEndpoint "")
  | .ok (some endpoint) =>
    match c.duration .remote "connect-timeout" with
    | .error e => .error e
    | .ok timeout => .ok (remote endpoint (timeout.getD (.ofParts 5 0)))

/-- The whole configuration is checked, the options one by one and then the endpoint. -/
def ofConfig (k : StreamKind) (c : StreamConfig) : Except Error StreamOrder :=
  match c.validate k with
  | .error e => .error e
  | .ok () =>
    match k with
    | .stdout => ofStdout c
    | .remote => ofRemote c

/-- what has to be connected to -/
def destination? : StreamOrder → Option Endpoint
  | stdout _ => none
  | remote endpoint _ => some endpoint

def fill (o : StreamOrder) (link : Endpoint → Link) : Except Error Stream :=
  match o with
  | stdout total => .ok (.stdout { total })
  | remote endpoint timeout => (Remote.connect endpoint timeout (link endpoint)).map .remote

end StreamOrder

/-- Nothing is connected before the whole configuration has been checked. -/
def Stream.build (k : StreamKind) (c : StreamConfig) (link : Endpoint → Link) :
    Except Error Stream :=
  match StreamOrder.ofConfig k c with
  | .error e => .error e
  | .ok o => o.fill link


end LoadTest
