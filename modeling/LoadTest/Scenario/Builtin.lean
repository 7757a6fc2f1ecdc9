import LoadTest.Http.Session
import LoadTest.Scenario.Registry
import LoadTest.Text.Blank

/-!
# The scenarios that are always there
-/

namespace LoadTest

/-! ## what they look at -/

/-- A clock that stands still keeps the results of a trial the same from run to run. -/
inductive Clock where
  | running
  | still
deriving DecidableEq, Repr

def Clock.over : Clock → Duration → Nat
  | .running, d => d.nanos
  | .still, _ => 0

/-- `setting` holds the variables of the environment. `exchange` is how the target of a request
takes the one that the invocation at a slot makes. -/
structure Outside where
  setting : String → Option String
  clock : Clock
  exchange : Slot → Http.Target → Http.Exchange

namespace Builtin

/-! ## one outcome -/

def noop : Scenario := .testCase "noop" fun _ _ => .only .success

def failureMessage (s : Status) : String :=
  let n (v : UInt64) := Text.decimal v.toNat
  "expected failure (cycle " ++ n s.cycle ++ "/" ++ n s.currentCycle ++ ", user " ++ n s.user ++
    "/" ++ n s.currentUser ++ ")"

def fail : Scenario := .testCase "fail" fun slot _ => .only (.failure (failureMessage slot.status))

def error : Scenario := .testCase "error" fun _ _ => .only (.error "expected error")

/-! ## a pause -/

def defaultPause : Nat := 10

/-- the number of milliseconds in a setting; one that is no number counts as absent -/
def pauseMillis (setting : Option String) : Nat :=
  ((setting.bind fun text => Text.word64? (Text.trim text.toList)).map UInt64.toNat).getD
    defaultPause

def pauseVariable : String := "SLEEP_MS"

def pause (o : Outside) : Duration := .ofMillis (pauseMillis (o.setting pauseVariable))

def sleep (o : Outside) : Scenario :=
  .testCase "sleep" fun _ _ => { acts := [.wait (o.clock.over (pause o))] }

/-! ## a request -/

def defaultUrl : String := "http://127.0.0.1:8080/"

def urlVariable : String := "BASE_URL"

/-- an empty setting is not absent -/
def targetUrl (o : Outside) : String := (o.setting urlVariable).getD defaultUrl

/-- A response counts by its status; without one the invocation is an error. -/
def requestOutcome (url : String) : Except Http.Fault Http.Response → Outcome
  | .ok r =>
    if 400 ≤ r.status then
      .failure ("GET " ++ url ++ " returned " ++ Text.decimal r.status.toNat)
    else .success
  | .error f => .error (f.kind ++ ": " ++ f.message)

def requestBody (o : Outside) (slot : Slot) (worker : Option String) : Body :=
  let url := targetUrl o
  let (acts, result) := Http.Session.send ⟨slot.status, worker⟩ (.get url) (o.exchange slot)
  { acts, ending := .returned (requestOutcome url result) }

def httpGet (o : Outside) : Scenario := .testCase "http-get" (requestBody o)

end Builtin

def Registry.builtin (o : Outside) : Registry :=
  [Builtin.noop, Builtin.sleep o, Builtin.fail, Builtin.error, Builtin.httpGet o].foldl
    (fun r s => r.register s.name s) {}

theorem Registry.ids_builtin (o : Outside) :
    (Registry.builtin o).ids = ["error", "fail", "http-get", "noop", "sleep"] := by
  simp only [Registry.builtin, List.foldl_cons, List.foldl_nil, Registry.ids_register]
  show Text.insertText "http-get" (Text.insertText "error" (Text.insertText "fail"
    (Text.insertText "sleep" (Text.insertText "noop" [])))) = _
  decide

end LoadTest
