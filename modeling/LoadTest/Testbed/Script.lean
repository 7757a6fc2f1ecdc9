import LoadTest.Http.Client
import LoadTest.Plan
import LoadTest.Run.Schedule

/-!
# Scripts for trials
-/

namespace LoadTest.Testbed

/-! ## replies -/

/-- A connection can be closed, or filled with what is no answer, before a head has been sent; an
answer can be cut inside its body; or nothing comes at all. -/
inductive Manner where
  | whole
  | closed
  | garbage
  | cut
  | silent
deriving DecidableEq, Repr

/-- It is sent as it is prepared, whether it makes sense or not. -/
structure Reply where
  version : String
  status : Nat
  headers : List Http.Header
  body : String
  manner : Manner
deriving DecidableEq, Repr

namespace Reply

/-- the length that is announced; a body that will be cut is announced longer than it is -/
def announced (r : Reply) : Nat :=
  if r.manner = .cut then r.body.utf8ByteSize + 10 else r.body.utf8ByteSize

/-- the length and the end of the connection follow the prepared headers -/
def allHeaders (r : Reply) : List Http.Header :=
  r.headers ++ [("content-length", Text.decimal r.announced), ("connection", "close")]

def text (r : Reply) : String :=
  let lines := r.allHeaders.map fun h => h.1 ++ ": " ++ h.2 ++ "\r\n"
  "HTTP/" ++ r.version ++ " " ++ Text.decimal r.status ++ " OK\r\n" ++ String.join lines ++
    "\r\n" ++ r.body

def reaction (r : Reply) (method : String) : Http.Reaction :=
  match r.manner with
  | .whole | .cut => .ofBytes method (Text.utf8 r.text)
  | .closed | .garbage => .lost
  | .silent => .silent

end Reply

/-! ## replies for a plan -/

/-- the slots of a tier whose users take turns -/
def turnsOf (p : Plan) (tier : Nat) (size : UInt64) : List Slot :=
  let users := (usersOf size).map (p.slots tier size)
  Run.Weaver.rounds.weave tier (users.map fun slots => slots.map fun slot => [slot])

/-- all slots of a plan in the order in which its invocations are made -/
def turns (p : Plan) : List Slot :=
  p.users.zipIdx.flatMap fun (size, tier) => turnsOf p tier size

/-- The request of the n-th slot gets the n-th reply; after the last reply nobody listens any
more. -/
def exchangeOf (method : String) (slots : List Slot) (replies : List Reply) (slot : Slot) :
    Http.Exchange :=
  match replies[slots.idxOf slot]? with
  | some r => { reaction := r.reaction method }
  | none => { reaction := .lost }

/-! ## bodies -/

/-- A rule applies where all parts of the status that it names agree. -/
structure Rule where
  cycle : Option UInt64 := none
  user : Option UInt64 := none
  currentCycle : Option UInt64 := none
  currentUser : Option UInt64 := none
  acts : Slot → Option String → List Act
  ending : Ending

def Rule.applies (r : Rule) (s : Status) : Bool :=
  let agrees (wanted : Option UInt64) (value : UInt64) := wanted.all (· = value)
  agrees r.cycle s.cycle && agrees r.user s.user && agrees r.currentCycle s.currentCycle &&
    agrees r.currentUser s.currentUser

/-- The first rule that applies counts; without one the body does nothing and succeeds. -/
def bodyOf (rules : List Rule) (slot : Slot) (worker : Option String) : Body :=
  match rules.find? fun r => r.applies slot.status with
  | some r => { acts := r.acts slot worker, ending := r.ending }
  | none => {}

end LoadTest.Testbed
