import LayeredSql.Codec.Query
import LayeredSql.Command.Failure
import LayeredSql.Environment.Lines
import LayeredSql.Files.Host
import LayeredSql.Json.Printer
import LayeredSql.Json.Reader
import LayeredSql.Query.Explain

namespace LayeredSql

def Pipeline.read? (text : String) : Option Pipeline :=
  (Json.read? Json.nestingLimit text).bind Pipeline.ofJson?

def Query.read? (text : String) : Option Query :=
  (Json.read? Json.nestingLimit text).bind Query.ofJson?

def Query.printed (q : Query) (explain : Bool) : String :=
  if explain then q.explain else q.toJson.indented ++ "\n"

namespace Command

def defaultConfig : String := "config.yaml"

/-- What to print for the text of a pipeline file. `fault` is what is said of it if it is refused. -/
def answer (t : Target) (args : Arguments) (text fault : String) : Except Failure String := do
  match Pipeline.read? text with
  | none => throw (@Failure.parsing args.pipeline fault)
  | some p =>
    let q ← (p.build t).mapError (.building p.verb)
    return q.printed args.explain

variable {m : Type → Type} [Monad m]

def loadFile (host : Host m) (env : Environment) (path : String) :
    m (Except Failure Settings) := do
  let contents ← host.read path
  return (Settings.ofFile env contents host.yamlFault).mapError (.loading path)

/-- A file that is named must be there; the default one need not. -/
def loadSettings (host : Host m) (env : Environment) (args : Arguments) :
    m (Except Failure Settings) := do
  match args.config with
  | some path => loadFile host env path
  | none =>
    if ← host.present defaultConfig then loadFile host env defaultConfig
    else return .ok (Settings.ofEnvironment env)

/-- The dialect of the arguments goes before that of the settings. -/
def settings (host : Host m) (env : Environment) (args : Arguments) :
    m (Except Failure Settings) := do
  let loaded ← loadSettings host env args
  return loaded.map fun s => (args.dialect.map s.withDialectName).getD s

def prepareLogging (host : Host m) (s : LoggingSettings) : m (Except Failure Unit) := do
  match s.folder? with
  | none => return .ok ()
  | some folder => return (← host.makeDirectory folder).mapError (.logging folder)

def steps (host : Host m) (env : Environment) (args : Arguments) : ExceptT Failure m String := do
  let s ← ExceptT.mk (settings host env args)
  ExceptT.mk (prepareLogging host s.logging)
  let t ← ExceptT.mk (pure (s.target.mapError .dialect))
  let contents ← host.read args.pipeline
  let text ← ExceptT.mk (pure (contents.mapError (.reading args.pipeline)))
  ExceptT.mk (pure (answer t args text (host.jsonFault text)))

/-- What the command prints, or how it fails. Variables are assigned before anything else. -/
def run (host : Host m) (env : Environment) (args : List String) : m (Except Failure String) := do
  let env :=
    match ← host.readAssignments with
    | some text => env.assign text
    | none => env
  match Arguments.read args with
  | .error e => return .error (.usage e)
  | .ok arguments => (steps host env arguments).run

structure Exit where
  code : UInt32
  output : String
  report : String
deriving DecidableEq

/-- Output comes at the end or not at all. -/
def Exit.of : Except Failure String → Exit
  | .ok text => ⟨0, text, ""⟩
  | .error failure => ⟨1, "", failure.report⟩

end Command
end LayeredSql
