import LayeredSql.Proofs.Outcome
import LayeredSql.Settings.Load

namespace LayeredSql

namespace Yaml

def stated? {α : Type} (fields : List (String × Yaml)) (name : String) (decode : Yaml → Option α) :
    Option (Option α) :=
  match fields.find? (·.1 == name) with
  | none => some none
  | some (_, v) => (decode v).map some

/-- The fields of a section, none if the section is left out. -/
def section? (root : Yaml) (sections : List (String × Yaml)) (name : String)
    (fields : List String) : Option (List (String × Yaml)) :=
  fieldOr sections name [] (root.record? fields)

end Yaml

namespace Settings

structure Stated.Dialect where
  name : Option String
  windowFunctions : Option Bool

structure Stated.Join where
  left : Option String
  right : Option String

structure Stated.Logging where
  level : Option String
  format : Option String
  output : Option String
  directory : Option String

structure Stated where
  dialect : Stated.Dialect
  join : Stated.Join
  logging : Stated.Logging

namespace Stated

def nothing : Stated := ⟨⟨none, none⟩, ⟨none, none⟩, ⟨none, none, none, none⟩⟩

def Dialect.ofSections? (root : Yaml) (sections : List (String × Yaml)) : Option Dialect := do
  let fields ← root.section? sections "dialect" ["name", "window_functions"]
  let name ← Yaml.stated? fields "name" root.string?
  let windowFunctions ← Yaml.stated? fields "window_functions" root.bool?
  return ⟨name, windowFunctions⟩

def Join.ofSections? (root : Yaml) (sections : List (String × Yaml)) : Option Join := do
  let fields ← root.section? sections "join" ["suffix_x", "suffix_y"]
  let left ← Yaml.stated? fields "suffix_x" root.string?
  let right ← Yaml.stated? fields "suffix_y" root.string?
  return ⟨left, right⟩

def Logging.ofSections? (root : Yaml) (sections : List (String × Yaml)) : Option Logging := do
  let fields ← root.section? sections "logging" ["level", "format", "output", "directory"]
  let level ← Yaml.stated? fields "level" root.string?
  let format ← Yaml.stated? fields "format" root.string?
  let output ← Yaml.stated? fields "output" root.string?
  let directory ← Yaml.stated? fields "directory" root.string?
  return ⟨level, format, output, directory⟩

/-- Every field of every section, each on its own. -/
def ofYaml? (root : Yaml) : Option Stated := do
  let sections ← root.record? ["dialect", "join", "logging"] root
  let dialect ← Dialect.ofSections? root sections
  let join ← Join.ofSections? root sections
  let logging ← Logging.ofSections? root sections
  return ⟨dialect, join, logging⟩

def read? (text : String) : Option Stated :=
  (Yaml.read? text).bind ofYaml?

end Stated

def first {α : Type} (sources : List (Option α)) (standard : α) : α :=
  (sources.findSome? id).getD standard

/-- Every setting with those who may decide it, in their order. -/
def chosen (dialectFlag : Option String) (env : Environment) (s : Stated) : Settings where
  dialect :=
    ⟨first [dialectFlag, env "SQLPLAN_DIALECT", s.dialect.name] "ansi",
     first [(env "SQLPLAN_WINDOW_FUNCTIONS").bind flag?, s.dialect.windowFunctions] true⟩
  suffixes :=
    ⟨first [env "SQLPLAN_JOIN_SUFFIX_X", s.join.left] "_x",
     first [env "SQLPLAN_JOIN_SUFFIX_Y", s.join.right] "_y"⟩
  logging :=
    ⟨first [env "RUST_LOG", s.logging.level] "warn",
     first [env "LOG_FORMAT", s.logging.format] "compact",
     first [env "LOG_OUTPUT", s.logging.output] "stderr",
     first [env "LOG_DIR", s.logging.directory] "./logs"⟩

variable {env : Environment} {fault : String → String}

end Settings
end LayeredSql
