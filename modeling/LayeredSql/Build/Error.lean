import LayeredSql.Sql.Error

namespace LayeredSql

inductive BuildCause where
  /-- An item applies a window to the column `inner`, itself a window of the same derivation. -/
  | windowOverWindow (item inner : String)
  /-- One row is to be kept for each combination of columns, without saying which. -/
  | distinctOn (columns : List String)
  | collision (names : List String)
  | expr (cause : ExprError)
  | missing (dialect : String) (capability : Capability)

def BuildCause.message : BuildCause → String
  | .windowOverWindow item inner =>
    String.join
      ["unsupported operation: '", item, "' applies a window function to window column '", inner,
       "' defined in the same mutate; compute '", inner, "' in an earlier mutate"]
  | .distinctOn columns =>
    String.join
      ["unsupported operation: distinct on ", Text.quotedList columns,
       " without keep_all would need per-group row selection"]
  | .collision names => String.join ["duplicate output columns ", Text.quotedList names]
  | .expr cause => cause.message
  | .missing dialect capability =>
    String.join ["dialect '", dialect, "' does not support ", capability.text]

/-- Why a pipeline has no query, and the operation that was under way. -/
structure BuildError where
  verb : Verb
  cause : BuildCause

def BuildError.ofNames (verb : Verb) : NameError → BuildError
  | .unknownColumn name available => ⟨verb, .expr (.unknownColumn name available)⟩
  | .duplicate names => ⟨verb, .collision names⟩

def BuildError.ofSql (verb : Verb) : SqlError → BuildError
  | .expr cause => ⟨verb, .expr cause⟩
  | .missing dialect capability => ⟨verb, .missing dialect capability⟩

def BuildError.message (e : BuildError) : String :=
  String.join [e.verb.text, ": ", e.cause.message]

end LayeredSql
