import LoadTest.Cli.Help
import LoadTest.Cli.Reader
import LoadTest.Cli.Run

/-!
# The program
-/

namespace LoadTest.Cli

/-- `isAborted` tells that nothing could go on. -/
structure Printed where
  stdout : String := ""
  stderr : String := ""
  exit : Nat := ExitCode.success.code
  isAborted : Bool := false
deriving DecidableEq, Repr

namespace Printed

def abortCode : Nat := 101

def aborted (f : Failure) (stdout : String) : Printed :=
  { stdout, stderr := f.message ++ "\n", exit := abortCode, isAborted := true }

def ofStop : Stop → Printed
  | .help full => { stdout := helpText full }
  | .version => { stdout := versionText }
  | .refused f => { stderr := f.report, exit := ExitCode.invalidInput.code }
  | .clockOverflow => aborted (.error .clockOverflow) ""

def ofCourse (c : Course) : Printed :=
  match c.result with
  | .ok code => { stdout := c.printed, exit := code.code }
  | .error f =>
    if f.isFatal then aborted f c.printed
    else { stdout := c.printed, stderr := f.message ++ "\n", exit := f.exit.code }

end Printed

/-- Without a scenario the program says how it is called. -/
def program (w : World) (words : List String) : Printed :=
  match Arguments.read w.outside.setting words with
  | .error s => .ofStop s
  | .ok a => if a.scenario.isNone then { stdout := usage ++ "\n" } else .ofCourse (run w a)

end LoadTest.Cli
