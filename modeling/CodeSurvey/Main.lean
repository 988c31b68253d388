import CodeSurvey.CommandLine.Run

/-!
# Program

Reads the files that a request names, prints the answer, and says by the exit code how it went.
-/

namespace CodeSurvey.CommandLine

def usage : List String :=
  ["usage: codesurvey -b FILE [--base ADDR] [--config FILE] [--json] [-v] COMMAND",
   "  segments",
   "  dasm ADDR [-c N]",
   "  find-call [--target ADDR] [--from ADDR] [--to ADDR]",
   "  find-lea --disp N [--from ADDR] [--to ADDR]",
   "  prologue [--mode endbr64|padding] [--from ADDR] [--to ADDR]",
   "  segment ADDR SIZE [--flags rwx]"]

/-- What an error of the system says about a path. -/
def faultOf (path : String) : IO.Error → FileFault
  | .noFileOrDirectory .. => .missing
  | .permissionDenied .. => .permissionDenied
  | .inappropriateType .. => .notDirectory
  | .invalidArgument .. => if path.contains '\x00' then .nulInName else .nameTooLong
  | e => .other e.toString 5

/-- What a path leads to. A directory opens and then has error 21. -/
def readFile (path : String) : IO FileEntry := do
  try
    return .regular (← IO.FS.readBinFile path).toList
  catch
    | .inappropriateType _ 21 _ => return .directory
    | e => return .unreachable (faultOf path e)

end CodeSurvey.CommandLine

open CodeSurvey.CommandLine in
def main (args : List String) : IO UInt32 := do
  match Request.ofArguments? args with
  | none =>
    usage.forM IO.eprintln
    return 2
  | some request =>
    let settingsFile ← match request.settings with
      | some path => readFile path
      | none => pure (.unreachable .missing)
    let outcome := request.run settingsFile (← readFile request.binary)
    IO.print outcome.output
    match outcome.failure with
    | none => return 0
    | some failure =>
      IO.eprintln ("[!] " ++ failure.message)
      return 1
