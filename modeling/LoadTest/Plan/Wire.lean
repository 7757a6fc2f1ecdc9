import LoadTest.Json.Parser
import LoadTest.Json.Printer
import LoadTest.Json.Record
import LoadTest.Plan

/-!
# Plans in JSON
-/

namespace LoadTest.Plan

def writeCounts (values : List UInt64) : Json :=
  .array (values.map fun v => .natural v.toNat)

def toJson (p : Plan) : Json :=
  .record [("users", writeCounts p.users), ("cycles", writeCounts p.cycles),
    ("agents", match p.agents with
      | some n => .natural n.toNat
      | none => .null)]

def fieldNames : List String := ["users", "cycles", "agents"]

def ofJson? (v : Json) : Option Plan := do
  let fields ← Json.record? fieldNames v
  let users ← fields.required? "users" (Json.list? Json.natural?)
  let cycles ← fields.required? "cycles" (Json.list? Json.natural?)
  let agents ← fields.optional? "agents" Json.natural?
  return ⟨users, cycles, agents⟩

def ofText? (text : List Char) : Option Plan := (Json.parse text).bind ofJson?

end LoadTest.Plan
