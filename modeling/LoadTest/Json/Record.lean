import LoadTest.Json.Basic

/-!
# Records in JSON

A record with known fields is read from an object, where the order of the members does not matter,
unknown members are passed over and a known one may not come twice; or from an array that lists the
fields in order.
-/

namespace LoadTest.Json

abbrev Fields := List (String × Json)

def Fields.get? (fs : Fields) (name : String) : Option Json :=
  (fs.find? fun f => f.1 = name).map (·.2)

/-- The known members of an object. All names must be readable, and no known one may be repeated. -/
def fields? (known : List String) (members : List Member) : Option Fields := do
  let named ← members.mapM fun m => m.1.map fun name => (name, m.2)
  let wanted := named.filter fun f => known.contains f.1
  if (wanted.map (·.1)).Nodup then some wanted else none

/-- an array that lists every field -/
def positional? (known : List String) (items : List Json) : Option Fields :=
  if items.length = known.length then some (known.zip items) else none

def record? (known : List String) : Json → Option Fields
  | .object members => fields? known members
  | .array items => positional? known items
  | _ => none

def Fields.required? {α : Type} (fs : Fields) (name : String) (read : Json → Option α) : Option α :=
  (fs.get? name).bind read

def Fields.optional? {α : Type} (fs : Fields) (name : String) (read : Json → Option α) :
    Option (Option α) :=
  match fs.get? name with
  | none => some none
  | some v => Json.optional? read v

/-! ## tags -/

/-- what stands beside the tag of a tagged record -/
inductive Untagged where
  | members (ms : List Member)
  | items (vs : List Json)

/-- The tag and the rest: in an object it is the one member of that name, in an array the first
item. -/
def tagged? (tag : String) : Json → Option (String × Untagged)
  | .object ms =>
    match ms.filter fun m => m.1 = some tag with
    | [m] => m.2.text?.map fun t => (t, .members (ms.filter fun m => m.1 ≠ some tag))
    | _ => none
  | .array (t :: vs) => t.text?.map fun t => (t, .items vs)
  | _ => none

end LoadTest.Json
