import LoadTest.Error
import LoadTest.Text.Blank

/-!
# Workload plans

A plan lists the sizes of its user tiers and of its cycles, and how many agents execute it. Every
user of every tier goes through all cycles, so one agent makes (sum of users) x (sum of cycles)
invocations. All counts are checked against 64 bits, step by step.
-/

namespace LoadTest

structure Plan where
  users : List UInt64
  cycles : List UInt64
  agents : Option UInt64
deriving DecidableEq, Repr, Inhabited

namespace Plan

/-! ## counts -/

/-- a count has to fit in 64 bits -/
def counted (n : Nat) : Except Error Nat :=
  if n < UInt64.size then .ok n else .error .planOverflow

/-- adds up from the left and stops at the first sum that does not fit -/
def countedSum (acc : Nat) : List Nat → Except Error Nat
  | [] => .ok acc
  | n :: rest =>
    match counted (acc + n) with
    | .ok acc => countedSum acc rest
    | .error e => .error e

/-- adds the products with `factor`, each checked before it is added -/
def countedProducts (factor acc : Nat) : List Nat → Except Error Nat
  | [] => .ok acc
  | n :: rest =>
    match counted (n * factor) with
    | .error e => .error e
    | .ok product =>
      match counted (acc + product) with
      | .ok acc => countedProducts factor acc rest
      | .error e => .error e

def invocationsPerAgent (p : Plan) : Except Error Nat :=
  match countedSum 0 (p.cycles.map UInt64.toNat) with
  | .ok perUser => countedProducts perUser 0 (p.users.map UInt64.toNat)
  | .error e => .error e

/-- the number of agents; a plan without agents is executed once -/
def agentCount (p : Plan) : Nat := (p.agents.getD 1).toNat

def expectedTotal (p : Plan) : Except Error Nat :=
  match p.invocationsPerAgent with
  | .ok n => counted (n * p.agentCount)
  | .error e => .error e

def forSingleAgent (p : Plan) : Plan := { p with agents := none }

/-! ## written form -/

def writeTiers (values : List UInt64) : String :=
  ":".intercalate (values.map fun v => Text.decimal v.toNat)

def usersSpec (p : Plan) : String := writeTiers p.users

def cyclesSpec (p : Plan) : String := writeTiers p.cycles

/-- one entry of a written list: a positive number, blanks around it do not matter -/
def readTier (part : List Char) : Option UInt64 :=
  (Text.word64? (Text.trim part)).filter (1 ≤ ·)

def readTiers (spec : String) : Option (List UInt64) :=
  (spec.toList.splitOn ':').mapM readTier

/-! ## accepted plans -/

/-- Users are looked at first, then cycles, then agents, and last whether the total can be
counted. -/
def make (users cycles : List UInt64) (agents : Option UInt64) : Except Error Plan :=
  if users = [] ∨ 0 ∈ users then .error (.invalidUsers (writeTiers users))
  else if cycles = [] ∨ 0 ∈ cycles then .error (.invalidCycles (writeTiers cycles))
  else if agents = some 0 then .error .invalidAgents
  else
    match expectedTotal ⟨users, cycles, agents⟩ with
    | .ok _ => .ok ⟨users, cycles, agents⟩
    | .error e => .error e

def parse (users cycles : String) (agents : Option UInt64) : Except Error Plan :=
  match readTiers users with
  | none => .error (.invalidUsers users)
  | some us =>
    match readTiers cycles with
    | none => .error (.invalidCycles cycles)
    | some cs => make us cs agents

end Plan

/-- an accepted plan in parts, with its total -/
structure Workload where
  expectedTotal : Nat
  cycles : List UInt64
  users : List UInt64
  agents : Option UInt64
deriving DecidableEq, Repr

namespace Plan

def compute (users cycles : String) (agents : Option UInt64) : Except Error Workload :=
  match parse users cycles agents with
  | .error e => .error e
  | .ok p =>
    match p.expectedTotal with
    | .error e => .error e
    | .ok n => .ok ⟨n, p.cycles, p.users, p.agents⟩

end Plan

end LoadTest
