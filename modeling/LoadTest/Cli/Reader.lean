import LoadTest.Cli.Arguments

/-!
# Reading a command line

The words are read from left to right. An option waits until its value has come and the next word
shows that nothing else belongs to it; only then is the value looked at. The first fault ends the
reading, and a word that nothing can be made of counts more than the value that still waits.
-/

namespace LoadTest.Cli

/-! ## words -/

/-- `letters` are what follows the dash of a short option: its name and what hangs on it. -/
inductive Word where
  | separator
  | long (name : String) (attached : Option String)
  | short (letter : Char) (rest : List Char)
  | plain
deriving DecidableEq, Repr

namespace Word

def attached? (s : List Char) : Option String :=
  match s.dropWhile (· ≠ '=') with
  | [] => none
  | _ :: text => some (String.ofList text)

/-- A lone dash is no option. -/
def ofChars : List Char → Word
  | ['-', '-'] => separator
  | '-' :: '-' :: s => long (String.ofList (s.takeWhile (· ≠ '='))) (attached? s)
  | '-' :: letter :: rest => short letter rest
  | _ => plain

/-- what hangs on the letter of a short option, with or without an equals sign -/
def valueOf? : List Char → Option String
  | [] => none
  | '=' :: text => some (String.ofList text)
  | text => some (String.ofList text)

end Word

/-! ## the reader -/

/-- `pending` is the option that came last, with its value once it is there. -/
structure Reader where
  arguments : Arguments := {}
  given : List Key := []
  pending : Option (Key × Option String) := none

namespace Reader

/-- Nothing can be given twice; that is looked at before the value is. -/
def give (r : Reader) (k : Key) (text : String) : Except Stop Reader :=
  if k ∈ r.given then .error (.refused (.repeated k))
  else
    match r.arguments.put k text with
    | .ok a => .ok { r with arguments := a, given := k :: r.given }
    | .error e => .error e

def settle (r : Reader) : Except Stop Reader :=
  match r.pending with
  | none => .ok r
  | some (k, none) => .error (.refused (.missingValue k))
  | some (k, some text) => { r with pending := none }.give k text

/-- A fault in a word; what still waits is looked at, but its own faults do not count. -/
def refuse (r : Reader) (f : Fault) : Stop :=
  match r.settle with
  | .error .clockOverflow => .clockOverflow
  | _ => .refused f

/-- an option with a value that hangs on it, or one that waits for the next word -/
def option (r : Reader) (k : Key) (text : Option String) : Except Stop Reader :=
  match r.settle with
  | .error e => .error e
  | .ok r =>
    match text with
    | some text => r.give k text
    | none => .ok { r with pending := some (k, none) }

/-- a switch ends the reading -/
def switch (r : Reader) (s : Switch) (full : Bool) : Stop :=
  match r.settle with
  | .error e => e
  | .ok _ =>
    match s with
    | .help => .help full
    | .version => .version

/-- The first word that is no option is the scenario; there is no second one. -/
def positional (r : Reader) (text : String) : Except Stop Reader :=
  match r.arguments.scenario with
  | some _ => .error (r.refuse (.unknown text))
  | none =>
    match r.settle with
    | .error e => .error e
    | .ok r => .ok { r with arguments := { r.arguments with scenario := some text } }

/-- a word that is no option goes to the option that waits for it -/
def plain (r : Reader) (text : String) : Except Stop Reader :=
  match r.pending with
  | some (k, none) => .ok { r with pending := some (k, some text) }
  | _ => r.positional text

def long (r : Reader) (text name : String) (attached : Option String) : Except Stop Reader :=
  match Named.ofLong? name with
  | none => .error (r.refuse (.unknown text))
  | some (.value k) => r.option k attached
  | some (.switch s) =>
    if attached.isSome then .error (r.refuse (.unexpectedValue s)) else .error (r.switch s true)

def short (r : Reader) (text : String) (letter : Char) (rest : List Char) : Except Stop Reader :=
  match Named.ofShort? letter with
  | none => .error (r.refuse (.unknown text))
  | some (.value k) => r.option k (Word.valueOf? rest)
  | some (.switch s) => .error (r.switch s false)

def positionals (r : Reader) : List String → Except Stop Reader
  | [] => r.settle
  | text :: words =>
    match r.positional text with
    | .ok r => r.positionals words
    | .error e => .error e

def word (r : Reader) (text : String) : Word → Except Stop Reader
  | .separator => .ok r
  | .long name attached => r.long text name attached
  | .short letter rest => r.short text letter rest
  | .plain => r.plain text

def words (r : Reader) : List String → Except Stop Reader
  | [] => r.settle
  | text :: rest =>
    match Word.ofChars text.toList with
    | .separator => r.positionals rest
    | w =>
      match r.word text w with
      | .ok r => r.words rest
      | .error e => .error e

end Reader

def workerVariable : String := "VOLLEY_WORKER_ID"

def Arguments.read (setting : String → Option String) (words : List String) :
    Except Stop Arguments :=
  match ({} : Reader).words words with
  | .error e => .error e
  | .ok r => .ok { r.arguments with worker := r.arguments.worker.or (setting workerVariable) }

end LoadTest.Cli
