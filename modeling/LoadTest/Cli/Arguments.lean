import LoadTest.Cli.Option
import LoadTest.Report.Format
import LoadTest.Stream.Config

/-!
# Arguments
-/

namespace LoadTest.Cli

structure Arguments where
  scenario : Option String := none
  users : String := Entry.defaultOf .users
  cycles : String := Entry.defaultOf .cycles
  agents : Option UInt64 := none
  broker : String := Entry.defaultOf .broker
  stream : String := Entry.defaultOf .stream
  worker : Option String := none
  deadline : Option Duration := none
  output : Format := .humanReadable
  stdout : StreamConfig := {}
  remote : StreamConfig := {}

/-! ## faults -/

inductive Fault where
  | unknown (word : String)
  | missingValue (k : Key)
  | invalidValue (k : Key) (text : String)
  | invalidChoice (k : Key) (text : String)
  | repeated (k : Key)
  | unexpectedValue (s : Switch)
deriving DecidableEq, Repr

/-- What a command line leads to instead of arguments; `full` asks for the long form of the help. -/
inductive Stop where
  | help (full : Bool)
  | version
  | refused (f : Fault)
  | clockOverflow
deriving DecidableEq, Repr

namespace Key

def long (k : Key) : String :=
  "--" ++ ((Entry.all.find? fun e => e.key = k).map (·.long)).getD ""

end Key

def Fault.message : Fault → String
  | unknown word => "unexpected argument '" ++ word ++ "' found"
  | missingValue k => "a value is required for '" ++ k.long ++ "' but none was supplied"
  | invalidValue k text => "invalid value '" ++ text ++ "' for '" ++ k.long ++ "'"
  | invalidChoice k text => "invalid value '" ++ text ++ "' for '" ++ k.long ++ "'"
  | repeated k => "the argument '" ++ k.long ++ "' cannot be used multiple times"
  | unexpectedValue s => "unexpected value for '--" ++ s.long ++ "' found; no more were expected"

def seeHelp : String := "For more information, try '--help'."

def Fault.report (f : Fault) : String := "error: " ++ f.message ++ "\n\n" ++ seeHelp ++ "\n"

/-! ## values -/

namespace Arguments

def config (a : Arguments) : StreamKind → StreamConfig
  | .stdout => a.stdout
  | .remote => a.remote

def setConfig (a : Arguments) (kind : StreamKind) (name text : String) : Arguments :=
  match kind with
  | .stdout => { a with stdout := a.stdout.set name text }
  | .remote => { a with remote := a.remote.set name text }

/-- blanks around a deadline do not matter -/
def putDeadline (a : Arguments) (text : String) : Except Stop Arguments :=
  match Duration.ofText (Text.trim text.toList) with
  | .ok d => .ok { a with deadline := some d }
  | .error .malformed => .error (.refused (.invalidValue .deadline text))
  | .error .overflow => .error .clockOverflow

/-- Numbers, deadlines and formats are read at once; all other texts are looked at by the run. -/
def put (a : Arguments) (k : Key) (text : String) : Except Stop Arguments :=
  match k with
  | .users => .ok { a with users := text }
  | .cycles => .ok { a with cycles := text }
  | .agents =>
    match Text.word64? text.toList with
    | some n => .ok { a with agents := some n }
    | none => .error (.refused (.invalidValue .agents text))
  | .broker => .ok { a with broker := text }
  | .stream => .ok { a with stream := text }
  | .worker => .ok { a with worker := some text }
  | .deadline => a.putDeadline text
  | .output =>
    match Format.ofName? text with
    | some f => .ok { a with output := f }
    | none => .error (.refused (.invalidChoice .output text))
  | .streamOption kind name => .ok (a.setConfig kind name text)

end Arguments

end LoadTest.Cli
