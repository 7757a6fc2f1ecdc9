import LoadTest.Plan.Wire

/-!
# What a coordinator and a broker say to each other

The coordinator sends one request line, the broker answers with one reply line.
-/

namespace LoadTest.Dispatch

structure Request where
  scenario : String
  plan : Plan
  endpoint : String
deriving DecidableEq, Repr, Inhabited

inductive Reply where
  | dispatched (workers : List String)
  | rejected (reason : String)
deriving DecidableEq, Repr, Inhabited

namespace Request

def toJson (r : Request) : Json :=
  .record [("scenario", .string r.scenario), ("plan", r.plan.toJson),
    ("endpoint", .string r.endpoint)]

def line (r : Request) : String := r.toJson.render ++ "\n"

def ofJson? (v : Json) : Option Request := do
  let fields ← Json.record? ["scenario", "plan", "endpoint"] v
  let scenario ← fields.required? "scenario" Json.text?
  let plan ← fields.required? "plan" Plan.ofJson?
  let endpoint ← fields.required? "endpoint" Json.text?
  return ⟨scenario, plan, endpoint⟩

def parse? (text : List Char) : Option Request := (Json.parse text).bind ofJson?

end Request

namespace Reply

def toJson : Reply → Json
  | dispatched workers =>
    .record [("result", .string "dispatched"), ("workers", .array (workers.map Json.string))]
  | rejected reason => .record [("result", .string "rejected"), ("reason", .string reason)]

def line (r : Reply) : String := r.toJson.render ++ "\n"

/-- the one field that stands beside the tag -/
def onlyField? {α : Type} (name : String) (read : Json → Option α) (rest : Json.Untagged) :
    Option α := do
  let fields ←
    match rest with
    | .members ms => Json.fields? [name] ms
    | .items vs => Json.positional? [name] vs
  fields.required? name read

/-- A reply carries a tag, so it is read as a whole. -/
def ofJson? (v : Json) : Option Reply :=
  if v.isReadable then
    match Json.tagged? "result" v with
    | some ("dispatched", rest) =>
      (onlyField? "workers" (Json.list? Json.text?) rest).map dispatched
    | some ("rejected", rest) => (onlyField? "reason" Json.text? rest).map rejected
    | _ => none
  else none

def parse? (text : List Char) : Option Reply := (Json.parse text).bind ofJson?

def workers : Reply → Except Error (List String)
  | dispatched ws => .ok ws
  | rejected reason => .error (.brokerRejected reason)

end Reply

end LoadTest.Dispatch
