import LoadTest.Http.Message
import LoadTest.Net.Percent

/-!
# A target for trials

A small HTTP server with three routes.
-/

namespace LoadTest.Testbed

structure Urls where
  base : String
  hello : String
  slow : String
deriving DecidableEq, Repr

def Urls.ofBase (base : String) : Urls := ⟨base, base ++ "/hello", base ++ "/slow"⟩

def Urls.status (u : Urls) (code : UInt16) : String :=
  u.base ++ "/status/" ++ Text.decimal code.toNat

/-! ## routes -/

/-- `segment` is what stands after `/status/`. -/
inductive Route where
  | hello
  | slow
  | status (segment : List Char)
deriving DecidableEq, Repr

def Route.ofPath? (path : List Char) : Option Route :=
  match path.splitOn '/' with
  | [[], ['h', 'e', 'l', 'l', 'o']] => some .hello
  | [[], ['s', 'l', 'o', 'w']] => some .slow
  | [[], ['s', 't', 'a', 't', 'u', 's'], c :: segment] => some (.status (c :: segment))
  | _ => none

def codeOf? (segment : List Char) : Option UInt16 :=
  (Text.ofUtf8? (Percent.decode segment)).bind fun s => Text.word16? s.toList

/-! ## answers -/

structure Served where
  status : Nat
  text : String := ""
  isHandled : Bool := true
deriving DecidableEq, Repr

/-- What is no status is answered as a bad request. Before an interim status no answer is complete,
so the server takes that for a failure of its own. -/
def Served.ofCode (code : Nat) : Served :=
  if Http.isInterim code then { status := 500 }
  else if Http.isStatus code then { status := code, text := Http.statusText code }
  else { status := 400, text := "bad status " ++ Text.decimal code }

def Route.serve : Route → Served
  | hello => { status := 200, text := "hello" }
  | slow => { status := 200, text := "slow" }
  | status segment =>
    match codeOf? segment with
    | some code => .ofCode code.toNat
    | none => { status := 400, isHandled := false }

/-- The query does not matter, and `HEAD` is served like `GET`. -/
def serve (method : String) (path : List Char) : Served :=
  match Route.ofPath? (path.takeWhile (· ≠ '?')) with
  | none => { status := 404, isHandled := false }
  | some route =>
    if method = "GET" ∨ method = "HEAD" then route.serve
    else { status := 405, isHandled := false }

def Served.answer (s : Served) (method : String) : Http.Answer :=
  { status := UInt16.ofNat s.status
    body := if Http.hasBody method s.status then Text.utf8 s.text else [] }

def Served.line (s : Served) : String :=
  "HTTP/1.1 " ++ Text.decimal s.status ++ " " ++ (Http.reason? s.status).getD "<none>"

end LoadTest.Testbed
