import LayeredSql.Build.Pipeline
import LayeredSql.Environment.Basic

namespace LayeredSql

structure DialectSettings where
  name : String
  /-- May take window functions from a dialect that has them. -/
  windowFunctions : Bool
deriving DecidableEq

structure LoggingSettings where
  level : String
  format : String
  output : String
  directory : String
deriving DecidableEq

inductive LogFormat where
  | pretty
  | json
  | compact
deriving DecidableEq

/-- Names are exact, and any other is compact. -/
def LogFormat.named : String → LogFormat
  | "pretty" => .pretty
  | "json" => .json
  | _ => .compact

inductive LogOutput where
  | stderr
  | file
  | both
deriving DecidableEq

def LogOutput.named : String → LogOutput
  | "file" => .file
  | "both" => .both
  | _ => .stderr

def LoggingSettings.folder? (s : LoggingSettings) : Option String :=
  match LogOutput.named s.output with
  | .stderr => none
  | .file => some s.directory
  | .both => some s.directory

structure Settings where
  dialect : DialectSettings
  suffixes : Suffixes
  logging : LoggingSettings
deriving DecidableEq

namespace Settings

def standard : Settings where
  dialect := ⟨"ansi", true⟩
  suffixes := .standard
  logging := ⟨"warn", "compact", "stderr", "./logs"⟩

/-- A flag in a variable; any other text says nothing. -/
def flag? : String → Option Bool
  | "true" => some true
  | "false" => some false
  | _ => none

def override (s : Settings) (env : Environment) : Settings where
  dialect :=
    ⟨(env "SQLPLAN_DIALECT").getD s.dialect.name,
     ((env "SQLPLAN_WINDOW_FUNCTIONS").bind flag?).getD s.dialect.windowFunctions⟩
  suffixes :=
    ⟨(env "SQLPLAN_JOIN_SUFFIX_X").getD s.suffixes.left,
     (env "SQLPLAN_JOIN_SUFFIX_Y").getD s.suffixes.right⟩
  logging :=
    ⟨(env "RUST_LOG").getD s.logging.level, (env "LOG_FORMAT").getD s.logging.format,
     (env "LOG_OUTPUT").getD s.logging.output, (env "LOG_DIR").getD s.logging.directory⟩

def withDialectName (s : Settings) (name : String) : Settings :=
  { s with dialect := { s.dialect with name := name } }

def chosenDialect (s : Settings) : Except UnknownDialect Dialect := do
  let d ← Dialect.named s.dialect.name
  return if s.dialect.windowFunctions then d else d.withWindowFunctions false

def target (s : Settings) : Except UnknownDialect Target := do
  let d ← s.chosenDialect
  return ⟨d, s.suffixes⟩

end Settings
end LayeredSql
