import LoadTest.Event
import LoadTest.Json.Parser
import LoadTest.Json.Printer
import LoadTest.Json.Record
import LoadTest.Text.Blank

/-!
# Events as lines of text

An event travels as one line: a JSON record with the tag `event`. Times are seconds written as
doubles; the worker is left out when there is none.
-/

namespace LoadTest

/-! ## writing -/

def Status.toJson (s : Status) : Json :=
  .array [.natural s.cycle.toNat, .natural s.user.toNat, .natural s.currentCycle.toNat,
    .natural s.currentUser.toNat]

def workerMember : Option String → List (String × Json)
  | some w => [("worker_id", .string w)]
  | none => []

/-- a start before the epoch is written as the epoch -/
def Hit.startedSeconds (h : Hit) : Float := (Duration.mk h.started.toNat).seconds

namespace Event

def members : Event → List (String × Json)
  | startTestRun w | stopTestRun w => workerMember w
  | startTest test s w | stopTest test s w | addSuccess test s w =>
    ("test", .string test) :: ("status", s.toJson) :: workerMember w
  | addError test info s w | addFailure test info s w =>
    ("test", .string test) :: ("exc_info", .string info) :: ("status", s.toJson) :: workerMember w
  | addHit h =>
    ("url", .string h.url) :: ("method", .string h.method) ::
      ("http_status", .natural h.httpStatus.toNat) :: ("started", .float h.startedSeconds) ::
      ("elapsed", .float h.elapsed.seconds) :: ("status", h.status.toJson) :: workerMember h.worker
  | socketOpen s w | socketClose s w => ("status", s.toJson) :: workerMember w
  | socketMessage s size w =>
    ("status", s.toJson) :: ("size", .natural size.toNat) :: workerMember w

def toJson (e : Event) : Json := .record (("event", .string e.kind.name) :: e.members)

def line (e : Event) : String := e.toJson.render ++ "\n"

end Event

/-! ## fields -/

inductive Field where
  | test | info | status | size | url | method | httpStatus | started | elapsed | worker
deriving DecidableEq, Repr

def Field.name : Field → String
  | test => "test"
  | info => "exc_info"
  | status => "status"
  | size => "size"
  | url => "url"
  | method => "method"
  | httpStatus => "http_status"
  | started => "started"
  | elapsed => "elapsed"
  | worker => "worker_id"

/-- the fields of a kind in the order of the array form; the worker is always last -/
def EventKind.fields : EventKind → List Field
  | startTestRun | stopTestRun => [.worker]
  | startTest | stopTest | addSuccess => [.test, .status, .worker]
  | addError | addFailure => [.test, .info, .status, .worker]
  | addHit => [.url, .method, .httpStatus, .started, .elapsed, .status, .worker]
  | socketOpen | socketClose => [.status, .worker]
  | socketMessage => [.status, .size, .worker]

def EventKind.field? (k : EventKind) (name : String) : Option Field :=
  k.fields.find? fun f => f.name = name

/-! ## reading -/

/-- Why a line gives no event: it is none, or its start time is later than the clock can hold and
nothing can go on. -/
inductive WireFault where
  | malformed
  | clockOverflow
deriving DecidableEq, Repr

def Status.ofJson? : Json → Option Status
  | .array [c, u, cc, cu] => do
    return ⟨← c.natural?, ← u.natural?, ← cc.natural?, ← cu.natural?⟩
  | _ => none

def httpStatus? (v : Json) : Option UInt16 :=
  v.natural?.bind fun n => if n < 65536 then some n.toUInt16 else none

def span? (v : Json) : Option Duration := v.float?.bind Duration.ofSeconds?

def moment (v : Json) : Except WireFault Int :=
  match span? v with
  | none => .error .malformed
  | some d => if isOnCalendar d.nanos then .ok d.nanos else .error .clockOverflow

structure Draft where
  test : Option String := none
  info : Option String := none
  status : Option Status := none
  size : Option UInt64 := none
  url : Option String := none
  method : Option String := none
  httpStatus : Option UInt16 := none
  started : Option Int := none
  elapsed : Option Duration := none
  worker : Option (Option String) := none
deriving DecidableEq

namespace Draft

def fill {α : Type} (place : Option α) (value : Option α) : Except WireFault (Option α) :=
  match place, value with
  | none, some v => .ok (some v)
  | _, _ => .error .malformed

/-- reads one field; none may be given twice -/
def put (d : Draft) (f : Field) (v : Json) : Except WireFault Draft :=
  match f with
  | .test => (fill d.test v.text?).map fun x => { d with test := x }
  | .info => (fill d.info v.text?).map fun x => { d with info := x }
  | .status => (fill d.status (Status.ofJson? v)).map fun x => { d with status := x }
  | .size => (fill d.size v.natural?).map fun x => { d with size := x }
  | .url => (fill d.url v.text?).map fun x => { d with url := x }
  | .method => (fill d.method v.text?).map fun x => { d with method := x }
  | .httpStatus => (fill d.httpStatus (httpStatus? v)).map fun x => { d with httpStatus := x }
  | .elapsed => (fill d.elapsed (span? v)).map fun x => { d with elapsed := x }
  | .worker =>
    (fill d.worker (Json.optional? Json.text? v)).map fun x => { d with worker := x }
  | .started =>
    if d.started = none then (moment v).map fun x => { d with started := some x }
    else .error .malformed

/-- takes in the members of an object from left to right and passes over unknown names -/
def putMembers (k : EventKind) (d : Draft) : List Json.Member → Except WireFault Draft
  | [] => .ok d
  | (name, v) :: ms =>
    match name.bind k.field? with
    | none => putMembers k d ms
    | some f =>
      match d.put f v with
      | .ok d => putMembers k d ms
      | .error e => .error e

/-- takes in the items of an array, one for each field; there may be no more items than fields -/
def putItems (d : Draft) : List Field → List Json → Except WireFault Draft
  | _, [] => .ok d
  | [], _ :: _ => .error .malformed
  | f :: fs, v :: vs =>
    match d.put f v with
    | .ok d => putItems d fs vs
    | .error e => .error e

section
variable {k : EventKind} {d : Draft} {name : Option String} {v : Json} {ms : List Json.Member}

theorem putMembers_skip (hfield : name.bind k.field? = none) :
    putMembers k d ((name, v) :: ms) = putMembers k d ms := by
  simp only [putMembers, hfield]

theorem putMembers_put {f : Field} (hfield : name.bind k.field? = some f) :
    putMembers k d ((name, v) :: ms) = (d.put f v).bind fun d => putMembers k d ms := by
  simp only [putMembers, hfield]
  cases d.put f v <;> rfl

theorem putItems_cons {f : Field} {fs : List Field} {vs : List Json} :
    putItems d (f :: fs) (v :: vs) = (d.put f v).bind fun d => putItems d fs vs := by
  rw [putItems]
  cases d.put f v <;> rfl

end

def finish? (d : Draft) (k : EventKind) : Option Event :=
  let w := d.worker.getD none
  match k with
  | .startTestRun => some (.startTestRun w)
  | .stopTestRun => some (.stopTestRun w)
  | .startTest => return .startTest (← d.test) (← d.status) w
  | .stopTest => return .stopTest (← d.test) (← d.status) w
  | .addError => return .addError (← d.test) (← d.info) (← d.status) w
  | .addFailure => return .addFailure (← d.test) (← d.info) (← d.status) w
  | .addSuccess => return .addSuccess (← d.test) (← d.status) w
  | .addHit =>
    return .addHit ⟨← d.url, ← d.method, ← d.httpStatus, ← d.started, ← d.elapsed, ← d.status, w⟩
  | .socketOpen => return .socketOpen (← d.status) w
  | .socketClose => return .socketClose (← d.status) w
  | .socketMessage => return .socketMessage (← d.status) (← d.size) w

end Draft

namespace Event

/-- the event of a kind from what stands beside the tag -/
def ofUntagged (k : EventKind) (rest : Json.Untagged) : Except WireFault Event :=
  let draft :=
    match rest with
    | .members ms => Draft.putMembers k {} ms
    | .items vs => Draft.putItems {} k.fields vs
  match draft with
  | .error e => .error e
  | .ok d =>
    match d.finish? k with
    | some e => .ok e
    | none => .error .malformed

/-- A record is read as a whole, so what nobody asks for has to be readable too. -/
def ofJson (v : Json) : Except WireFault Event :=
  if v.isReadable then
    match Json.tagged? "event" v with
    | none => .error .malformed
    | some (tag, rest) =>
      match EventKind.ofName? tag with
      | none => .error .malformed
      | some k => ofUntagged k rest
  else .error .malformed

/-- Blanks at the end of a line do not matter. Whether anything else follows the record is looked at
after the record itself. -/
def ofLine (line : String) : Except WireFault Event :=
  match Json.front (Text.trimEnd line.toList) with
  | none => .error .malformed
  | some (v, rest) =>
    match ofJson v with
    | .error e => .error e
    | .ok e => if Json.isDone rest then .ok e else .error .malformed

end Event

end LoadTest
