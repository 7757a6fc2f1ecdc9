import LoadTest.Cli.Program

/-!
# The command line program

It has no network: whatever is connected to refuses, and time passes only on the clock of the run.
-/

open LoadTest.Cli in
def main (words : List String) : IO UInt32 := do
  let worker ← IO.getEnv workerVariable
  let pause ← IO.getEnv LoadTest.Builtin.pauseVariable
  let url ← IO.getEnv LoadTest.Builtin.urlVariable
  let setting (name : String) : Option String :=
    if name = workerVariable then worker
    else if name = LoadTest.Builtin.pauseVariable then pause
    else if name = LoadTest.Builtin.urlVariable then url
    else none
  let printed := program (.offline setting .running) words
  (← IO.getStdout).putStr printed.stdout
  (← IO.getStderr).putStr printed.stderr
  return UInt32.ofNat printed.exit
