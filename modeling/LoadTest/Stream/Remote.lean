import LoadTest.Error
import LoadTest.Event.Wire
import LoadTest.Net.Endpoint
import LoadTest.Text.Utf8

/-!
# Streaming to a coordinator

A push leaves its line in a queue. A writer takes the lines off the queue, gathers their bytes, and
hands them over to the far side, in pieces of any size.

* `Link`                        how the far side takes a connection
* `Remote`                      a connection: what is on its way and what has arrived
* `Remote.connect`              opens one
* `Remote.push`                 sends an event as one line; refused after closing
* `Remote.Turn`, `Remote.turn`  what the writer does on its own
* `Remote.close`                ends it once everything has arrived; closing again changes nothing
* `Remote.closing`              what closing reports
* `Remote.Act`, `Remote.act`    a call on a connection, or a turn between two calls
-/

namespace LoadTest

/-- What happens when a connection is asked for. -/
inductive Link where
  | accepted
  | refused (cause : String)
  | silent
deriving DecidableEq, Repr

/-- The writer of a connection runs until the connection is lost or closed. -/
inductive Writer where
  | running
  | failed (cause : String)
  | joined
deriving DecidableEq, Repr

/-- `queue` holds lines that the writer has not taken yet, and `buffer` bytes that it has not handed
over. -/
structure Remote where
  endpoint : Endpoint
  isOpen : Bool := true
  writer : Writer := .running
  queue : List String := []
  buffer : List UInt8 := []
  arrived : List UInt8 := []
deriving DecidableEq, Repr

namespace Remote

def connect (endpoint : Endpoint) (timeout : Duration) : Link → Except Error Remote
  | .accepted => .ok { endpoint }
  | .refused cause => .error (.connect endpoint.display cause)
  | .silent => .error (.connect endpoint.display ("no connection after " ++ timeout.describe))

def closedMessage : String := "remote stream already closed"

def goneMessage (r : Remote) : String := "connection to " ++ r.endpoint.display ++ " is gone"

def push (r : Remote) (e : Event) : Except String Remote :=
  if r.isOpen then
    match r.writer with
    | .running => .ok { r with queue := r.queue ++ [e.line] }
    | .failed _ | .joined => .error r.goneMessage
  else .error closedMessage

/-! ## the writer -/

inductive Turn where
  | take
  | deliver (count : Nat)
  | lose (cause : String)
deriving DecidableEq, Repr

/-- With the connection, all that is still on its way is lost. -/
def turn (r : Remote) (t : Turn) : Remote :=
  match r.writer, t with
  | .running, .take =>
    match r.queue with
    | [] => r
    | line :: queue => { r with queue, buffer := r.buffer ++ Text.utf8 line }
  | .running, .deliver count =>
    { r with buffer := r.buffer.drop count, arrived := r.arrived ++ r.buffer.take count }
  | .running, .lose cause => { r with writer := .failed cause, queue := [], buffer := [] }
  | .failed _, _ | .joined, _ => r

/-- the writer at work until nothing is left -/
def drain (r : Remote) : Remote :=
  let r := r.queue.foldl (fun r _ => r.turn .take) r
  r.turn (.deliver r.buffer.length)

/-! ## closing -/

def close (r : Remote) : Remote := { r.drain with isOpen := false, writer := .joined }

/-- the failure of the writer, for the first one who closes -/
def closing (r : Remote) : Except Error Unit :=
  match r.writer with
  | .failed cause => .error (.io cause)
  | .running | .joined => .ok ()

/-! ## courses -/

inductive Act where
  | push (e : Event)
  | close
  | turn (t : Turn)
deriving DecidableEq, Repr

/-- a refused push changes nothing -/
def act (r : Remote) : Act → Remote
  | .push e => (r.push e).toOption.getD r
  | .close => r.close
  | .turn t => r.turn t

def actAll (r : Remote) (acts : List Act) : Remote := acts.foldl act r

end Remote

end LoadTest
