import LoadTest.Plan
import LoadTest.Run.Weave
import LoadTest.Scenario

/-!
# What a plan makes happen

Tiers run one after the other. Inside a tier every user goes through all cycle sizes in order and
makes as many invocations as the size says. A panic that leaves an invocation ends what its user
does; the others of the tier go on, and no later tier starts. Memory has no end here, but a list of
users can only be so long.

* `Plan.HasRoom`, `Plan.roomy`   the plans whose tiers are not too long, and what comes before one
* `Plan.slots`        the places of the invocations of one user
* `untilEscape`       what a user does of the planned invocations
* `TierRun`           what the users of a tier do
* `Schedule`          what a plan makes of a scenario, tier by tier
* `Schedule.acts`     everything in one sequence, as a weaver interleaves the users
* `Schedule.countInvocations`   the finished invocations, counted in 64 bits
-/

namespace LoadTest

/-- A tier keeps eight bytes for each user, and the bytes of a list are counted in 64 bits with a
sign. -/
def hasRoom (size : UInt64) : Bool := 8 * size.toNat < 0x8000000000000000

namespace Plan

def HasRoom (p : Plan) : Prop := ∀ size ∈ p.users, hasRoom size = true

instance (p : Plan) : Decidable p.HasRoom :=
  List.decidableBAll (fun size => hasRoom size = true) p.users

/-- the plan up to the first tier without room -/
def roomy (p : Plan) : Plan := { p with users := p.users.takeWhile hasRoom }

end Plan

/-- the slots of one cycle size, for one user of a tier -/
def stageSlots (tier : Nat) (size user : UInt64) (stage : Nat) (cycle : UInt64) : List Slot :=
  (List.range cycle.toNat).map fun k => ⟨tier, stage, ⟨UInt64.ofNat (k + 1), user, cycle, size⟩⟩

/-- The slots of one user of the tier at position `tier` with the given size, in order. -/
def Plan.slots (p : Plan) (tier : Nat) (size user : UInt64) : List Slot :=
  p.cycles.zipIdx.flatMap fun (cycle, stage) => stageSlots tier size user stage cycle

def usersOf (size : UInt64) : List UInt64 :=
  (List.range size.toNat).map fun i => UInt64.ofNat (i + 1)

namespace Run

/-- up to and including the first invocation that a panic leaves -/
def untilEscape : List Invocation → List Invocation
  | [] => []
  | i :: rest => if i.escape.isSome then [i] else i :: untilEscape rest

def escapeOf (log : List Invocation) : Option String :=
  log.foldr (fun i later => i.escape.or later) none

/-- what the users of one tier do, user by user -/
abbrev TierRun := List (List Invocation)

def TierRun.escape (t : TierRun) : Option String :=
  t.foldr (fun u later => (escapeOf u).or later) none

/-- all acts of the tier at position `tier` in one sequence -/
def TierRun.acts (t : TierRun) (weaver : Weaver Act) (tier : Nat) : List Act :=
  weaver.weave tier (t.map fun u => u.map Invocation.acts)

def userRun (p : Plan) (s : Scenario) (worker : Option String) (tier : Nat) (size user : UInt64) :
    List Invocation :=
  untilEscape ((p.slots tier size user).map fun slot => s.invoke slot worker)

def tierRun (p : Plan) (s : Scenario) (worker : Option String) (tier : Nat) (size : UInt64) :
    TierRun :=
  (usersOf size).map (userRun p s worker tier size)

/-- the tiers that were started, in order -/
abbrev Schedule := List TierRun

/-- up to and including the first tier that a panic has left -/
def untilBroken : List TierRun → Schedule
  | [] => []
  | t :: rest => if t.escape.isSome then [t] else t :: untilBroken rest

def schedule (p : Plan) (s : Scenario) (worker : Option String) : Schedule :=
  untilBroken (p.users.zipIdx.map fun (size, tier) => tierRun p s worker tier size)

def Schedule.escape (s : Schedule) : Option String :=
  s.foldr (fun t later => t.escape.or later) none

def Schedule.acts (s : Schedule) (weaver : Weaver Act) : List Act :=
  s.zipIdx.flatMap fun (t, tier) => t.acts weaver tier

/-! ## counting -/

/-- the sum, unless it does not fit in 64 bits -/
def addCounts (a b : Nat) : Option Nat := if a + b < UInt64.size then some (a + b) else none

def countUser (log : List Invocation) : Option Nat := log.foldlM (fun n _ => addCounts n 1) 0

/-- adds what the users of a tier have counted; what a panic has ended is not counted -/
def TierRun.countInvocations (total : Nat) (t : TierRun) : Option Nat :=
  (t.filter fun u => (escapeOf u).isNone).foldlM
    (fun total u => (countUser u).bind (addCounts total)) total

/-- absent if a count did not fit -/
def Schedule.countInvocations (s : Schedule) : Option Nat := s.foldlM TierRun.countInvocations 0

end Run

end LoadTest
