import LoadTest.Report.Human
import LoadTest.Report.Json

/-!
# What a run prints
-/

namespace LoadTest

inductive Format where
  | humanReadable
  | json
deriving DecidableEq, Repr

namespace Format

def name : Format → String
  | humanReadable => "human-readable"
  | json => "json"

def ofName? (text : String) : Option Format := [humanReadable, json].find? fun f => f.name = text

def before (f : Format) (h : Header) : String :=
  match f with
  | humanReadable => h.toText
  | json => ""

def after (f : Format) (h : Header) (r : Report) : String :=
  match f with
  | humanReadable => r.toText
  | json => (r.toJson h).render ++ "\n"

end Format

end LoadTest
