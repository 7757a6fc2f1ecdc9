import LoadTest.Http.Framing
import LoadTest.Http.Target
import LoadTest.Http.Url

/-!
# Sending requests

A request is checked before anything is sent: first the url, then the headers in order.
-/

namespace LoadTest.Http

/-! ## faults -/

inductive Fault where
  | invalidUrl (url : String)
  | unsupportedScheme (url : String)
  | invalidRequest
  | connect
  | timeout (after : Duration)
  | body
deriving DecidableEq, Repr

namespace Fault

def kind : Fault → String
  | invalidUrl _ => "invalid_url"
  | unsupportedScheme _ => "unsupported_scheme"
  | invalidRequest => "invalid_request"
  | connect => "connect"
  | timeout _ => "timeout"
  | body => "body"

def message : Fault → String
  | invalidUrl url => "invalid url: " ++ url
  | unsupportedScheme url => "unsupported url scheme (expected http or https): " ++ url
  | invalidRequest => "invalid header"
  | connect => "request failed: no response"
  | timeout after => "request timed out after " ++ after.describe
  | body => "failed to read response body: connection closed inside it"

end Fault

/-! ## checking -/

namespace Request

/-- the url has to be absolute, of a known scheme, and in a form that can be sent as it is -/
def target (r : Request) : Except Fault Reading :=
  match Url.scheme? r.url.toList with
  | none => .error (.invalidUrl r.url)
  | some scheme =>
    if scheme = "http" ∨ scheme = "https" then
      match Target.ofUrl? r.url with
      | some reading => .ok reading
      | none => .error (.invalidUrl r.url)
    else .error (.unsupportedScheme r.url)

def check (r : Request) : Except Fault Reading :=
  match r.target with
  | .error e => .error e
  | .ok reading => if r.headers.all Header.isValid then .ok reading else .error .invalidRequest

end Request

/-! ## exchanges -/

/-- `started` counts nanoseconds from the Unix epoch. -/
structure Exchange where
  reaction : Reaction
  started : Int := 0
  took : Duration := .zero

def Answer.response (a : Answer) (x : Exchange) : Response :=
  { status := a.status, fields := a.fields, body := a.body
    started := x.started, elapsed := x.took
    bytesReceived := min (UInt64.size - 1) (a.headBytes + a.body.length) }

/-- Silence is waited for until the timeout; without one the connection is lost at some time. -/
def Request.receive (r : Request) (x : Exchange) : Except Fault Response :=
  match x.reaction with
  | .lost => .error .connect
  | .answered a => .ok (a.response x)
  | .cut => .error .body
  | .silent =>
    match r.timeout with
    | some after => .error (.timeout after)
    | none => .error .connect

/-- a lone authority names no place to connect to -/
def Request.send (r : Request) (far : Target → Exchange) : Except Fault Response :=
  match r.check with
  | .error e => .error e
  | .ok .loneAuthority => .error .connect
  | .ok (.absolute t) => r.receive (far t)

end LoadTest.Http
