import LayeredSql.Command.Arguments
import LayeredSql.Settings.Load

namespace LayeredSql

inductive Failure where
  | usage (cause : UsageError)
  | loading (path : String) (cause : SettingsError)
  | dialect (cause : UnknownDialect)
  | logging (folder : String) (cause : FileError)
  | reading (path : String) (cause : FileError)
  /-- The text of the file is no pipeline, and what its reader says. -/
  | parsing (path : String) {fault : String}
  | building (verb : Verb) (cause : BuildError)

def FileError.chain (e : FileError) : List String :=
  [e.message]

def SettingsError.chain (e : SettingsError) : List String :=
  e.message :: match e with
    | .unreadable cause => cause.chain
    | @malformed fault => [fault]
    | .dialect cause => [cause.message]

/-- The fault of an expression is told once more, without the operation. -/
def BuildError.chain (e : BuildError) : List String :=
  e.message :: match e.cause with
    | .expr cause => [cause.message]
    | _ => []

namespace Failure

def chain : Failure → List String
  | .usage cause => [cause.message]
  | .loading path cause => String.join ["loading config ", path] :: cause.chain
  | .dialect cause => (SettingsError.dialect cause).chain
  | .logging folder cause => String.join ["creating log directory ", folder] :: cause.chain
  | .reading path cause => String.join ["reading pipeline ", path] :: cause.chain
  | @parsing path fault => [String.join ["parsing pipeline ", path], fault]
  | .building verb cause => String.join ["building ", verb.text, " pipeline"] :: cause.chain

/-- Further lines of a text are indented like its first. -/
def indented (label margin text : String) : String :=
  label ++ String.ofList (text.toList.flatMap fun c => if c = '\n' then c :: margin.toList else [c])

def numbered (n : Nat) (text : String) : String :=
  indented ("    " ++ toString n ++ ": ") "       " text

def causesText : List String → String
  | [] => ""
  | [cause] => String.join ["\nCaused by:\n", indented "    " "    " cause, "\n"]
  | causes =>
    String.join
      ("\nCaused by:\n" :: causes.zipIdx.map fun (cause, n) => numbered n cause ++ "\n")

def headline (f : Failure) : String :=
  String.join ["Error: ", f.chain.headD ""]

def report (f : Failure) : String :=
  f.headline ++ "\n" ++ causesText f.chain.tail

end Failure
end LayeredSql
