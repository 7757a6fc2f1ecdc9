import LoadTest.Cli.Arguments

/-!
# Help
-/

namespace LoadTest.Cli

def programName : String := "volley"

def versionText : String := programName ++ " 0.1.0\n"

def usage : String := "Usage: " ++ programName ++ " [OPTIONS] [SCENARIO]"

def about : String :=
  "Drive a scenario as many concurrent virtual users, locally or across agents"

def fullAbout : String :=
  programName ++ " runs a scenario as concurrent virtual users.\n\nEach entry of --users is a " ++
  "tier: tiers run one after another, and every virtual user of a tier runs the scenario once " ++
  "per step of every --cycles entry.\n\nWith --agents the run is distributed: a broker starts " ++
  "the scenario on remote agents, which stream their results back to this process."

def examples : String :=
  "Examples:\n  volley noop -u 1:5:10 -c 10:20\n  volley http-get -u 50 -c 100 --output json\n" ++
  "  volley http-get -u 10 -c 10 -a 4 -b tcp://broker:7780 --stream-remote-endpoint " ++
  "tcp://0.0.0.0:7781\n\nScenarios: noop, sleep, fail, error, http-get"

def shortText : Option Char → String
  | some c => "  -" ++ c.toString ++ ", "
  | none => "      "

def Entry.text (e : Entry) : String :=
  shortText e.short ++ "--" ++ e.long ++ " <" ++ e.value ++ ">\n          " ++ e.description ++
    ((e.default.map fun d => " [default: " ++ d ++ "]").getD "")

def Switch.text (s : Switch) : String :=
  shortText (some s.short) ++ "--" ++ s.long ++ "\n          " ++ s.description

def helpText (full : Bool) : String :=
  (if full then fullAbout else about) ++ "\n\n" ++ usage ++
    "\n\nArguments:\n  [SCENARIO]\n          Scenario to run\n\nOptions:\n" ++
    "\n".intercalate (Entry.fixed.map Entry.text ++ Switch.all.map Switch.text) ++
    "\n\nStream options:\n" ++
    "\n".intercalate ((StreamKind.all.flatMap Entry.ofStream).map Entry.text) ++
    "\n\n" ++ examples ++ "\n"

end LoadTest.Cli
