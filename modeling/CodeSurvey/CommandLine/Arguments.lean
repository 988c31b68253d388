/-!
# Arguments of a command

An argument list is sorted into flags, option values and positional values by the options that a
command knows. Long options are `--name value` or `--name=value`, short ones `-n value`, `-nvalue`
or `-n=value`; short flags may share one dash; behind `--` everything is positional.

- `OptionForm` : one option that a command knows
- `Matches.collect?` : the sorted arguments, or nothing if the list is no use of the command
-/

namespace CodeSurvey.CommandLine

/-! ## Options -/

/-- What an option takes. -/
inductive Taking
  | nothing
  | value
  /-- A value that may look like an option itself. -/
  | anyValue
  deriving DecidableEq, Repr

structure OptionForm where
  name : String
  short : Option Char := none
  taking : Taking := .value
  deriving DecidableEq, Repr

/-- What a command line, or the part of it that belongs to a command, may hold. -/
structure CommandForm where
  options : List OptionForm
  /-- How many positional values there are. -/
  positionals : Nat := 0
  /-- Words that end this part. -/
  endWords : List String := []

/-- Sorted arguments, each list in reverse order. -/
structure Matches where
  flags : List String := []
  values : List (String × String) := []
  positionals : List String := []
  deriving DecidableEq, Repr

namespace Matches

/-! ## Shapes of one argument -/

/-- The part before the first equals sign, and the part behind it if there is one. -/
def splitAtEquals (cs : List Char) : String × Option String :=
  let name := String.ofList (cs.takeWhile (· ≠ '='))
  match cs.dropWhile (· ≠ '=') with
  | [] => (name, none)
  | _ :: value => (name, some (String.ofList value))

/-- A dash with something behind it. A dash alone is a value. -/
def looksLikeOption (arg : String) : Bool :=
  match arg.toList with
  | '-' :: _ :: _ => true
  | _ => false

def addFlag (m : Matches) (name : String) : Matches :=
  { m with flags := name :: m.flags }

def addValue (m : Matches) (name value : String) : Matches :=
  { m with values := (name, value) :: m.values }

def addPositional (form : CommandForm) (m : Matches) (value : String) : Option Matches :=
  if m.positionals.length < form.positionals then
    some { m with positionals := value :: m.positionals }
  else none

/-- What an argument leaves behind: matches, and the option that waits for its value. -/
abbrev Progress := Matches × Option OptionForm

/-- The letters behind one dash. The first letter that takes a value takes the rest as it, less one
equals sign; if there is no rest, the next argument. -/
def addShort (form : CommandForm) : Matches → List Char → Option Progress
  | m, [] => some (m, none)
  | m, c :: cs =>
    match form.options.find? fun o => o.short == some c with
    | none => none
    | some o =>
      if o.taking = .nothing then addShort form (m.addFlag o.name) cs
      else
        match cs with
        | [] => some (m, some o)
        | '=' :: value => some (m.addValue o.name (String.ofList value), none)
        | value => some (m.addValue o.name (String.ofList value), none)

/-- The text behind two dashes. -/
def addLong (form : CommandForm) (m : Matches) (cs : List Char) : Option Progress :=
  let (name, value) := splitAtEquals cs
  match form.options.find? fun o => o.name == name with
  | none => none
  | some o =>
    match o.taking, value with
    | .nothing, none => some (m.addFlag o.name, none)
    | .nothing, some _ => none
    | _, some value => some (m.addValue o.name value, none)
    | _, none => some (m, some o)

/-! ## Argument lists -/

/-- Sorts arguments up to an end word, and gives the arguments from that word on. An option that
waits for its value takes the next argument if that can be one. -/
def collectFrom (form : CommandForm) :
    (waiting : Option OptionForm) → (onlyPositional : Bool) → Matches → List String →
      Option (Matches × List String)
  | none, _, m, [] => some (m, [])
  | some _, _, _, [] => none
  | some o, _, m, arg :: args =>
    if o.taking = .value && looksLikeOption arg then none
    else collectFrom form none false (m.addValue o.name arg) args
  | none, true, m, arg :: args => do
    collectFrom form none true (← m.addPositional form arg) args
  | none, false, m, arg :: args =>
    if form.endWords.contains arg then some (m, arg :: args)
    else
      match arg.toList with
      | ['-', '-'] => collectFrom form none true m args
      | '-' :: '-' :: cs => do
        let (m, waiting) ← m.addLong form cs
        collectFrom form waiting false m args
      | '-' :: c :: cs => do
        let (m, waiting) ← addShort form m (c :: cs)
        collectFrom form waiting false m args
      | _ => do collectFrom form none false (← m.addPositional form arg) args

/-- Sorts an argument list. -/
def collect? (form : CommandForm) (args : List String) : Option (Matches × List String) :=
  collectFrom form none false {} args

/-! ## Looking things up -/

/-- The value of an option, which may come once. The outer level is nothing if it came again. -/
def value? (m : Matches) (name : String) : Option (Option String) :=
  match m.values.filter fun v => v.1 == name with
  | [] => some none
  | [v] => some (some v.2)
  | _ => none

/-- Whether a flag is there, which may come once. Nothing if it came again. -/
def flag? (m : Matches) (name : String) : Option Bool :=
  match m.flags.count name with
  | 0 => some false
  | 1 => some true
  | _ => none

/-- How often a flag is there. -/
def count (m : Matches) (name : String) : Nat :=
  m.flags.count name

end Matches

end CodeSurvey.CommandLine
