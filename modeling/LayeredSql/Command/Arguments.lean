namespace LayeredSql

structure Arguments where
  pipeline : String
  config : Option String
  dialect : Option String
  explain : Bool
deriving DecidableEq

inductive UsageError where
  /-- Help was asked for, or no pipeline was given. -/
  | usage
  | configMissing
  | dialectMissing
  | unknownFlag (flag : String)
  | secondPipeline
deriving DecidableEq

def usageText : String :=
  "usage: sqlplan-cli <pipeline.json> [--config FILE] [--dialect NAME] [--explain]"

def UsageError.message : UsageError → String
  | .usage => usageText
  | .configMissing => "--config needs a file"
  | .dialectMissing => "--dialect needs a name"
  | .unknownFlag flag => String.join ["unknown flag ", flag, "\n", usageText]
  | .secondPipeline => String.join ["more than one pipeline file given\n", usageText]

namespace Arguments

structure Draft where
  pipeline : Option String := none
  config : Option String := none
  dialect : Option String := none
  explain : Bool := false

def isFlag (arg : String) : Bool :=
  match arg.toList with
  | '-' :: '-' :: _ => true
  | _ => false

/-- From left to right; a later option replaces an earlier one. -/
def readFrom (draft : Draft) : List String → Except UsageError Arguments
  | [] =>
    match draft.pipeline with
    | some path => .ok ⟨path, draft.config, draft.dialect, draft.explain⟩
    | none => .error .usage
  | arg :: args =>
    if arg = "--config" then
      match args with
      | [] => .error .configMissing
      | file :: args => readFrom { draft with config := some file } args
    else if arg = "--dialect" then
      match args with
      | [] => .error .dialectMissing
      | name :: args => readFrom { draft with dialect := some name } args
    else if arg = "--explain" then readFrom { draft with explain := true } args
    else if arg = "-h" ∨ arg = "--help" then .error .usage
    else if isFlag arg then .error (.unknownFlag arg)
    else if draft.pipeline.isSome then .error .secondPipeline
    else readFrom { draft with pipeline := some arg } args

def read (args : List String) : Except UsageError Arguments :=
  readFrom {} args

end Arguments
end LayeredSql
