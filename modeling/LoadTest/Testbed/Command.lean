import LoadTest.Net.Endpoint

/-!
# The command line of the target
-/

namespace LoadTest.Testbed

inductive CommandFault where
  | missingAddress
  | missingProgram
  | badAddress
  | unknown (argument : String)
deriving DecidableEq, Repr

def CommandFault.message : CommandFault → String
  | missingAddress => "--bind requires an address, e.g. 127.0.0.1:0"
  | missingProgram => "--agent-exe requires a path"
  | badAddress => "invalid socket address syntax"
  | unknown argument => "unknown argument: " ++ argument

/-- With a program for agents there is a broker too. -/
inductive Command where
  | help
  | serve (address : Address) (program : Option String)

def helpText : String :=
  "volley-testserver\n\nUSAGE:\n  volley-testserver [--bind 127.0.0.1:0] [--agent-exe <path to " ++
  "volley>]\n\nOUTPUT:\n  Prints HTTP_URL=<url> (and BROKER_URL=<tcp url> with --agent-exe) to " ++
  "stdout once ready.\n"

namespace Command

/-- a port of the system's choice on this machine -/
def defaultAddress : Address := .v4 ⟨127, 0, 0, 1⟩ 0

def read (address : Address) (program : Option String) : List String → Except CommandFault Command
  | [] => .ok (.serve address program)
  | "--bind" :: text :: rest =>
    match Address.ofText? text.toList with
    | some address => read address program rest
    | none => .error .badAddress
  | ["--bind"] => .error .missingAddress
  | "--agent-exe" :: program :: rest => read address (some program) rest
  | ["--agent-exe"] => .error .missingProgram
  | argument :: _ =>
    if argument = "-h" ∨ argument = "--help" then .ok .help else .error (.unknown argument)

def ofArguments (arguments : List String) : Except CommandFault Command :=
  read defaultAddress none arguments

/-- the ready lines: `http` is the address of the target, `broker` that of the broker -/
def announcement (http : String) (broker : Option Endpoint) : List String :=
  ("HTTP_URL=http://" ++ http) :: (broker.map fun e => "BROKER_URL=" ++ e.display).toList

end Command

end LoadTest.Testbed
