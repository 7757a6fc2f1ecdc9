import LoadTest.Http.Client
import LoadTest.Scenario

/-!
# Measured requests

A session reports what it sends: the socket opens, and either it closes again, or the response
counts as a hit with its bytes before the socket closes.
-/

namespace LoadTest.Http

structure Session where
  status : Status
  worker : Option String := none
deriving DecidableEq, Repr

namespace Session

def hit (s : Session) (r : Request) (a : Response) : Hit :=
  ⟨r.url, r.method, a.status, a.started, a.elapsed, s.status, s.worker⟩

/-- what is reported once the exchange has ended -/
def closing (s : Session) (r : Request) : Except Fault Response → List Act
  | .error _ => [.report (.socketClose s.status s.worker)]
  | .ok a =>
    [.report (.addHit (s.hit r a)),
      .report (.socketMessage s.status (UInt64.ofNat a.bytesReceived) s.worker),
      .report (.socketClose s.status s.worker)]

/-- the time from the opening of the socket to the end of the exchange -/
def waiting : Except Fault Response → Act
  | .error (.timeout after) => .wait after.nanos
  | .error _ => .wait 0
  | .ok a => .wait a.elapsed.nanos

def acts (s : Session) (r : Request) (result : Except Fault Response) : List Act :=
  .report (.socketOpen s.status s.worker) :: waiting result :: s.closing r result

def send (s : Session) (r : Request) (far : Target → Exchange) :
    List Act × Except Fault Response :=
  let result := r.send far
  (s.acts r result, result)

end Session

end LoadTest.Http
