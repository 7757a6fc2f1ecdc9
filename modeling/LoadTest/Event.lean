import LoadTest.Time.Duration

/-!
# Events of a run
-/

namespace LoadTest

/-- `cycle` and `user` count from one inside the cycle and the tier whose sizes are `currentCycle`
and `currentUser`. -/
structure Status where
  cycle : UInt64
  user : UInt64
  currentCycle : UInt64
  currentUser : UInt64
deriving DecidableEq, Repr, Inhabited, Hashable

/-- `started` counts nanoseconds from the Unix epoch and is negative before it. -/
structure Hit where
  url : String
  method : String
  httpStatus : UInt16
  started : Int
  elapsed : Duration
  status : Status
  worker : Option String
deriving DecidableEq, Repr, Inhabited

def Hit.isSuccess (h : Hit) : Bool := 200 ≤ h.httpStatus && h.httpStatus < 400

/-! ## kinds -/

inductive EventKind where
  | startTestRun | stopTestRun | startTest | stopTest | addError | addFailure | addSuccess
  | addHit | socketOpen | socketClose | socketMessage
deriving DecidableEq, Repr, Inhabited

namespace EventKind

def all : List EventKind :=
  [startTestRun, stopTestRun, startTest, stopTest, addError, addFailure, addSuccess, addHit,
    socketOpen, socketClose, socketMessage]

def name : EventKind → String
  | startTestRun => "startTestRun"
  | stopTestRun => "stopTestRun"
  | startTest => "startTest"
  | stopTest => "stopTest"
  | addError => "addError"
  | addFailure => "addFailure"
  | addSuccess => "addSuccess"
  | addHit => "add_hit"
  | socketOpen => "socket_open"
  | socketClose => "socket_close"
  | socketMessage => "socket_message"

def ofName? (name : String) : Option EventKind := all.find? fun k => k.name = name

theorem ofName?_name (k : EventKind) : ofName? k.name = some k := by cases k <;> decide

end EventKind

/-! ## events -/

inductive Event where
  | startTestRun (worker : Option String)
  | stopTestRun (worker : Option String)
  | startTest (test : String) (status : Status) (worker : Option String)
  | stopTest (test : String) (status : Status) (worker : Option String)
  | addError (test info : String) (status : Status) (worker : Option String)
  | addFailure (test info : String) (status : Status) (worker : Option String)
  | addSuccess (test : String) (status : Status) (worker : Option String)
  | addHit (hit : Hit)
  | socketOpen (status : Status) (worker : Option String)
  | socketClose (status : Status) (worker : Option String)
  | socketMessage (status : Status) (size : UInt64) (worker : Option String)
deriving DecidableEq, Repr, Inhabited

namespace Event

def kind : Event → EventKind
  | startTestRun _ => .startTestRun
  | stopTestRun _ => .stopTestRun
  | startTest _ _ _ => .startTest
  | stopTest _ _ _ => .stopTest
  | addError _ _ _ _ => .addError
  | addFailure _ _ _ _ => .addFailure
  | addSuccess _ _ _ => .addSuccess
  | addHit _ => .addHit
  | socketOpen _ _ => .socketOpen
  | socketClose _ _ => .socketClose
  | socketMessage _ _ _ => .socketMessage

def worker : Event → Option String
  | startTestRun w | stopTestRun w => w
  | startTest _ _ w | stopTest _ _ w | addSuccess _ _ w => w
  | addError _ _ _ w | addFailure _ _ _ w => w
  | addHit h => h.worker
  | socketOpen _ w | socketClose _ w | socketMessage _ _ w => w

/-- the invocation that an event belongs to; the start and the end of a run belong to none -/
def status? : Event → Option Status
  | startTestRun _ | stopTestRun _ => none
  | startTest _ s _ | stopTest _ s _ | addSuccess _ s _ => some s
  | addError _ _ s _ | addFailure _ _ s _ => some s
  | addHit h => some h.status
  | socketOpen s _ | socketClose s _ | socketMessage s _ _ => some s

def isRunEvent (e : Event) : Bool := e.kind = .startTestRun || e.kind = .stopTestRun

def isStopTest (e : Event) : Bool := e.kind = .stopTest

def isOutcome (e : Event) : Bool :=
  e.kind = .addSuccess || e.kind = .addFailure || e.kind = .addError

end Event

end LoadTest
