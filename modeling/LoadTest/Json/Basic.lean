import LoadTest.Decimal.Numeral

/-!
# JSON values

A value keeps what was written: numerals with all their digits, members in order and with
repetitions, and the place of a string whose escapes spell no text (a lone half of a surrogate
pair).
-/

namespace LoadTest

open Decimal (Numeral)

inductive Json where
  | null
  | bool (b : Bool)
  | number (n : Numeral)
  | text (s : Option String)
  | array (items : List Json)
  | object (members : List (Option String × Json))
deriving Inhabited

namespace Json

abbrev Member := Option String × Json

/-! ## depth and soundness -/

mutual
/-- A scalar has depth 0, an array or object one more than what it holds. -/
def depth : Json → Nat
  | .array items => depthItems items + 1
  | .object members => depthMembers members + 1
  | _ => 0

def depthItems : List Json → Nat
  | [] => 0
  | v :: vs => max (depth v) (depthItems vs)

def depthMembers : List Member → Nat
  | [] => 0
  | (_, v) :: ms => max (depth v) (depthMembers ms)
end

mutual
/-- every string spells text, and every numeral is a 64-bit count or in the range of doubles -/
def isSound : Json → Bool
  | .number n => n.natural?.isSome || n.float?.isSome
  | .text s => s.isSome
  | .array items => areSoundItems items
  | .object members => areSoundMembers members
  | _ => true

def areSoundItems : List Json → Bool
  | [] => true
  | v :: vs => isSound v && areSoundItems vs

def areSoundMembers : List Member → Bool
  | [] => true
  | (k, v) :: ms => k.isSome && isSound v && areSoundMembers ms
end

/-- arrays and objects may be nested this deep in a value that is read as a whole -/
def depthLimit : Nat := 127

/-- a value that can be taken in as a whole, members that nobody asks for included -/
def isReadable (v : Json) : Bool := v.isSound && v.depth ≤ depthLimit

/-! ## building values -/

def string (s : String) : Json := .text (some s)

def natural (n : Nat) : Json := .number (.ofNatural n)

def int (n : Int) : Json := .number (.ofInt n)

/-- infinities and NaN have no numeral and become `null` -/
def float (x : Float) : Json :=
  match Numeral.ofFloat? x with
  | some n => .number n
  | none => .null

def record (members : List (String × Json)) : Json :=
  .object (members.map fun m => (some m.1, m.2))

/-! ## looking at values -/

def text? : Json → Option String
  | .text s => s
  | _ => none

def natural? : Json → Option UInt64
  | .number n => n.natural?
  | _ => none

def float? : Json → Option Float
  | .number n => n.float?
  | _ => none

def bool? : Json → Option Bool
  | .bool b => some b
  | _ => none

def array? : Json → Option (List Json)
  | .array items => some items
  | _ => none

def member? (name : String) : Json → Option Json
  | .object members => (members.find? fun m => m.1 = some name).map (·.2)
  | _ => none

/-- `null` stands for an absent value -/
def optional? {α : Type} (read : Json → Option α) : Json → Option (Option α)
  | .null => some none
  | v => (read v).map some

def list? {α : Type} (read : Json → Option α) : Json → Option (List α)
  | .array items => items.mapM read
  | _ => none

end Json

end LoadTest
