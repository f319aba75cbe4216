import LayeredSql.Command.Run

namespace LayeredSql

/-- Numbers of refusals may come negated, in 32 bits. -/
def systemNumber (n : UInt32) : Nat :=
  (if n < 0x80000000 then n else 0 - n).toNat

def FileError.ofSystem : IO.Error → FileError
  | .noFileOrDirectory .. => .notFound
  | .alreadyExists .. => .alreadyExists
  | .permissionDenied .. => .system "Permission denied" 13
  | .inappropriateType _ number reason =>
    match systemNumber number with
    | 20 => .notDirectory
    | 21 => .isDirectory
    | other => .system reason other
  | .userError _ => .notText
  | other => .system (toString other) 5

def attempt (action : IO α) : IO (Except FileError α) := do
  try
    return .ok (← action)
  catch e =>
    return .error (.ofSystem e)

/-- The file with this name, here or in the nearest directory above that has one. -/
def nearestFile (levels : Nat) (name : String) : IO (Option String) := do
  match levels with
  | 0 => return none
  | levels + 1 =>
    match ← attempt (IO.FS.readFile name) with
    | .ok text => return some text
    | .error .notFound => nearestFile levels ("../" ++ name)
    | .error .isDirectory => nearestFile levels ("../" ++ name)
    | .error _ => return none

def readAssignments : IO (Option String) := do
  let here := toString (← IO.currentDir)
  nearestFile (here.splitOn "/").length ".env"

def systemHost (assignments : Option String) : Host IO where
  read path := attempt (IO.FS.readFile path)
  present path := do
    match ← attempt (IO.FS.readFile path) with
    | .error .notFound => return false
    | _ => return true
  makeDirectory path := attempt (IO.FS.createDirAll path)
  readAssignments := return assignments

/-- Whatever in a text could be the name of a variable. -/
def possibleNames (text : String) : List String :=
  let broken (keep : Char → Bool) :=
    String.ofList (text.toList.map fun c => if keep c then c else ' ')
  (broken Environment.isNamePart).splitOn " " ++ (broken Text.isAlphanumeric).splitOn " "

def settingNames : List String :=
  ["SQLPLAN_DIALECT", "SQLPLAN_WINDOW_FUNCTIONS", "SQLPLAN_JOIN_SUFFIX_X",
   "SQLPLAN_JOIN_SUFFIX_Y", "RUST_LOG", "LOG_FORMAT", "LOG_OUTPUT", "LOG_DIR"]

def readEnvironment (names : List String) : IO Environment := do
  let values ← names.mapM fun name => return (name, ← IO.getEnv name)
  return Environment.ofList (values.filterMap fun (name, value) => value.map fun v => (name, v))

def commandLine (args : List String) : IO UInt32 := do
  let assignments ← readAssignments
  let env ← readEnvironment (settingNames ++ possibleNames (assignments.getD ""))
  let exit := Command.Exit.of (← Command.run (systemHost assignments) env args)
  IO.print exit.output
  IO.eprint exit.report
  return exit.code

end LayeredSql

def main (args : List String) : IO UInt32 :=
  LayeredSql.commandLine args
