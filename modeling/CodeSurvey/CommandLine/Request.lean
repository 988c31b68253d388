import CodeSurvey.Address.Basic
import CodeSurvey.CommandLine.Arguments
import CodeSurvey.Image.Query
import CodeSurvey.Protection
import CodeSurvey.Text.Number

/-!
# Requests

What a command line asks for: an image file, where it lies in memory, settings, the form of the
answer, and one command.

- `Request`, `Command`, `Window` : the request
- `Request.ofArguments?` : the request of an argument list, if it is one
-/

namespace CodeSurvey.CommandLine

/-! ## Requests -/

/-- The addresses to search in. Without a start the whole image is searched. -/
structure Window where
  start : Option Address := none
  stop : Option Address := none
  deriving DecidableEq, Repr

inductive Command
  | segments
  | listing (start : Address) (count : Option Nat)
  | search (query : Query) (window : Window)
  | findSegment (start : Address) (size : Nat) (flags : Protection)
  deriving DecidableEq, Repr

structure Request where
  binary : String
  base : Option Address := none
  settings : Option String := none
  json : Bool := false
  verbosity : Nat := 0
  command : Command
  deriving DecidableEq, Repr

/-! ## Verbosity -/

inductive LogLevel
  | warn
  | info
  | debug
  | trace
  deriving DecidableEq, Repr

def LogLevel.ofVerbosity : Nat → LogLevel
  | 0 => .warn
  | 1 => .info
  | 2 => .debug
  | _ => .trace

def LogLevel.name : LogLevel → String
  | .warn => "WARN"
  | .info => "INFO"
  | .debug => "DEBUG"
  | .trace => "TRACE"

/-! ## Values -/

def address? (s : String) : Option Address :=
  (Text.readWord s).toOption.map Address.mk

def size? (s : String) : Option Nat :=
  (Text.readWord s).toOption.map UInt64.toNat

/-- A plain decimal count. -/
def count? (s : String) : Option Nat :=
  (Text.readNumeral 10 (1 <<< 64) s.toList).toOption

/-- A file name is not empty. -/
def path? (s : String) : Option String :=
  if s.isEmpty then none else some s

/-- The value of an option that may be left out, read by `read?`. -/
def optional? {α : Type} (m : Matches) (name : String) (read? : String → Option α) :
    Option (Option α) := do
  match ← m.value? name with
  | none => return none
  | some s => return some (← read? s)

/-- The value of an option that has to be there. -/
def required? {α : Type} (m : Matches) (name : String) (read? : String → Option α) : Option α := do
  (← optional? m name read?)

/-! ## Commands -/

def windowOptions : List OptionForm :=
  [{ name := "from" }, { name := "to" }]

def window? (m : Matches) : Option Window := do
  return ⟨← optional? m "from" address?, ← optional? m "to" address?⟩

/-- What each command may hold behind its name. -/
def commandForms : List (String × CommandForm) :=
  [("segments", { options := [] }),
   ("dasm", { options := [{ name := "count", short := some 'c' }], positionals := 1 }),
   ("find-call", { options := { name := "target" } :: windowOptions }),
   ("find-lea", { options := { name := "disp", taking := .anyValue } :: windowOptions }),
   ("prologue", { options := { name := "mode" } :: windowOptions }),
   ("segment", { options := [{ name := "flags" }], positionals := 2 })]

/-- The command of a name and its sorted arguments. -/
def Command.ofMatches? (name : String) (m : Matches) : Option Command :=
  match name, m.positionals.reverse with
  | "segments", [] => some .segments
  | "dasm", [start] => do
    return .listing (← address? start) (← optional? m "count" count?)
  | "find-call", [] => do return .search (.calls (← optional? m "target" address?)) (← window? m)
  | "find-lea", [] => do
    let displacement ← required? m "disp" fun s => (Text.readInteger s).toOption
    return .search (.leas displacement) (← window? m)
  | "prologue", [] => do
    let mode ← optional? m "mode" fun s => (PrologueMode.parse s).toOption
    return .search (.prologues (mode.getD .landingPad)) (← window? m)
  | "segment", [start, size] => do
    let flags ← optional? m "flags" fun s => (Protection.parse s).toOption
    return .findSegment (← address? start) (← size? size) (flags.getD { read := true })
  | _, _ => none

def Command.ofArguments? (name : String) (args : List String) : Option Command := do
  let (_, form) ← commandForms.find? fun f => f.1 == name
  let (m, _) ← Matches.collect? form args
  Command.ofMatches? name m

/-! ## Command lines -/

/-- What may stand in front of a command's name. -/
def requestForm : CommandForm where
  options :=
    [{ name := "binary", short := some 'b' }, { name := "base" }, { name := "config" },
     { name := "json", taking := .nothing },
     { name := "verbose", short := some 'v', taking := .nothing }]
  endWords := commandForms.map Prod.fst

/-- The request of an argument list, which does not hold the program's name. -/
def Request.ofArguments? (args : List String) : Option Request := do
  let (m, rest) ← Matches.collect? requestForm args
  match rest with
  | [] => none
  | name :: args =>
    return { binary := ← required? m "binary" path?
             base := ← optional? m "base" address?
             settings := ← optional? m "config" path?
             json := ← m.flag? "json"
             verbosity := m.count "verbose"
             command := ← Command.ofArguments? name args }

end CodeSurvey.CommandLine
