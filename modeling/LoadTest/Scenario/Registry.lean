import LoadTest.Error
import LoadTest.Scenario
import LoadTest.Text.Quoted
import LoadTest.Text.Sorted

/-!
# Registered scenarios

Identifiers and what they stand for, in the order of the identifiers.
-/

namespace LoadTest

structure Registry where
  entries : List (String × Scenario) := []

namespace Registry

def register (r : Registry) (id : String) (s : Scenario) : Registry :=
  ⟨Text.putNamed id s r.entries⟩

def ids (r : Registry) : List String := r.entries.map (·.1)

theorem ids_register (r : Registry) (id : String) (s : Scenario) :
    (r.register id s).ids = Text.insertText id r.ids := Text.names_putNamed id s r.entries

def contains (r : Registry) (id : String) : Bool := (Text.getNamed? id r.entries).isSome

def resolve (r : Registry) (id : String) : Except Error Scenario :=
  match Text.getNamed? id r.entries with
  | some s => .ok s
  | none => .error (.unknownScenario id)

def describe (r : Registry) : String := Text.quotedList r.ids

end Registry

end LoadTest
