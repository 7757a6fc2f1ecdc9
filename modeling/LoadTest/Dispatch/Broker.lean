import LoadTest.Dispatch.Message
import LoadTest.Net.Endpoint
import LoadTest.Text.Blank
import LoadTest.Text.Lines
import LoadTest.Text.Utf8
import LoadTest.Time.Duration

/-!
# Asking a broker

One connection, one request line, one reply line.
-/

namespace LoadTest.Dispatch

/-- `bytes` is all that the broker sends before it closes. -/
inductive Peer where
  | refuses (cause : String)
  | silent
  | sends (bytes : List UInt8)
deriving DecidableEq, Repr

def Peer.answers (text : String) : Peer := .sends (Text.utf8 text)

def defaultPatience : Duration := .ofParts 10 0

def Peer.hears (p : Peer) (r : Request) : Option String :=
  match p with
  | .refuses _ => none
  | _ => some r.line

def readReply (line : String) : Except Error (List String) :=
  let line := Text.trim line.toList
  match Reply.parse? line with
  | some reply => reply.workers
  | none => .error (.brokerProtocol ("unreadable: `" ++ String.ofList line ++ "`"))

/-- Only the first line of the answer counts. -/
def readAnswer (endpoint : Endpoint) (bytes : List UInt8) : Except Error (List String) :=
  if bytes = [] then .error (.brokerProtocol "connection closed without a reply")
  else
    match Text.ofUtf8? (Text.firstLine 0x0A bytes) with
    | some line => readReply line
    | none => .error (.brokerUnreachable endpoint.display "stream did not contain valid UTF-8")

def ask (endpoint : Endpoint) (patience : Duration) : Peer → Except Error (List String)
  | .refuses cause => .error (.brokerUnreachable endpoint.display cause)
  | .silent => .error (.brokerUnreachable endpoint.display ("no reply after " ++ patience.describe))
  | .sends bytes => readAnswer endpoint bytes

end LoadTest.Dispatch
