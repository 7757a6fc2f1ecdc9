import LoadTest.Stream.Options

/-!
# The options of the command line
-/

namespace LoadTest.Cli

/-- Every option of a stream that is meant for the command line is a key of its own. -/
inductive Key where
  | users
  | cycles
  | agents
  | broker
  | stream
  | worker
  | deadline
  | output
  | streamOption (kind : StreamKind) (name : String)
deriving DecidableEq, Repr

inductive Switch where
  | help
  | version
deriving DecidableEq, Repr

namespace Switch

def all : List Switch := [help, version]

def long : Switch → String
  | help => "help"
  | version => "version"

def short : Switch → Char
  | help => 'h'
  | version => 'V'

def description : Switch → String
  | help => "Print help (see a summary with '-h')"
  | version => "Print version"

end Switch

/-! ## the keys -/

structure Entry where
  key : Key
  long : String
  short : Option Char
  value : String
  description : String
  default : Option String

namespace Entry

def fixed : List Entry :=
  [⟨.users, "users", some 'u', "USERS", "User tiers, colon separated (e.g. 1:10:50)", some "1"⟩,
   ⟨.cycles, "cycles", some 'c', "CYCLES", "Cycle sizes, colon separated (e.g. 10:100)", some "1"⟩,
   ⟨.agents, "agents", some 'a', "AGENTS", "Number of agents; selects a distributed run", none⟩,
   ⟨.broker, "broker", some 'b', "BROKER", "Broker endpoint used by distributed runs",
     some "tcp://127.0.0.1:7780"⟩,
   ⟨.stream, "stream", none, "STREAM", "Result stream for local runs", some "stdout"⟩,
   ⟨.worker, "worker-id", none, "WORKER_ID",
     "Identity stamped on every result event (set by brokers when starting agents)", none⟩,
   ⟨.deadline, "deadline", none, "DEADLINE",
     "Give up on a distributed run after this long (e.g. 30s, 5m)", none⟩,
   ⟨.output, "output", none, "OUTPUT", "Summary format", some "human-readable"⟩]

def valueName : OptionKind → String
  | .str => "VALUE"
  | .int => "N"
  | .bool => "BOOL"
  | .duration => "DURATION"

def ofStreamOption (k : StreamKind) (o : StreamOption) : Entry :=
  ⟨.streamOption k o.name, "stream-" ++ k.name ++ "-" ++ o.name, none, valueName o.kind, o.help,
    o.default⟩

def ofStream (k : StreamKind) : List Entry := (k.options.filter (·.cli)).map (ofStreamOption k)

def all : List Entry := fixed ++ StreamKind.all.flatMap ofStream

def defaultOf (k : Key) : String := ((all.find? fun e => e.key = k).bind (·.default)).getD ""

end Entry

/-! ## names -/

inductive Named where
  | value (k : Key)
  | switch (s : Switch)
deriving DecidableEq, Repr

namespace Named

def ofLong? (name : String) : Option Named :=
  match Entry.all.find? fun e => e.long = name with
  | some e => some (value e.key)
  | none => (Switch.all.find? fun s => s.long = name).map switch

def ofShort? (letter : Char) : Option Named :=
  match Entry.all.find? fun e => e.short = some letter with
  | some e => some (value e.key)
  | none => (Switch.all.find? fun s => s.short = letter).map switch

end Named

end LoadTest.Cli
