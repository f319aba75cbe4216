import LayeredSql.Files.Directory
import LayeredSql.Proofs.Outcome
import LayeredSql.Proofs.Query.Printed
import LayeredSql.Proofs.Settings.Precedence

namespace LayeredSql.Command
open Settings (Stated chosen)

section Stages
variable {σ : Type} (fs : FileSystem σ) (w : σ)

def assigned (env : Environment) : Environment :=
  match fs.assignments w with
  | some text => env.assign text
  | none => env

def configFile? (a : Arguments) : Option String :=
  match a.config with
  | some path => some path
  | none => if fs.present w defaultConfig then some defaultConfig else none

inductive Configured (a : Arguments) : Stated → Prop where
  | file {path text : String} {stated : Stated} (hf : configFile? fs w a = some path)
      (ht : fs.read w path = .ok text) (hs : Stated.read? text = some stated) : Configured a stated
  | absent (hf : configFile? fs w a = none) : Configured a .nothing

/-- The arguments parse and the configuration loads, which settles the settings. -/
structure Started (env : Environment) (args : List String) (a : Arguments) (s : Settings) :
    Prop where
  arguments : Arguments.read args = .ok a
  settings : ∃ stated, Configured fs w a stated ∧ s = chosen a.dialect (assigned fs w env) stated

/-- The files once the folder of log files is there, if the settings ask for one. -/
def Prepared (s : LoggingSettings) (w' : σ) : Prop :=
  match s.folder? with
  | none => w' = w
  | some folder => fs.makeDirectory w folder = (.ok (), w')

def targetFor (s : Settings) (dialect : Dialect) : Target :=
  ⟨if s.dialect.windowFunctions then dialect else dialect.withWindowFunctions false, s.suffixes⟩

/-- The dialect resolves as well, and the files are ready for the pipeline to be read. -/
inductive Resolved (env : Environment) (args : List String) : Arguments → Target → σ → Prop where
  | intro {a : Arguments} {s : Settings} {dialect : Dialect} {w' : σ}
      (hs : Started fs w env args a s) (hd : Dialect.named s.dialect.name = .ok dialect)
      (hf : Prepared fs w s.logging w') : Resolved env args a (targetFor s dialect) w'

/-- A stage fails, after those before it succeed. A text that is refused is reported with what its
reader says of it. -/
inductive FailsFirst (env : Environment) (args : List String) : Failure → Prop where
  | usage {e : UsageError} (h : Arguments.read args = .error e) : FailsFirst env args (.usage e)
  | unreadable {a : Arguments} {path : String} {e : FileError} (ha : Arguments.read args = .ok a)
      (hf : configFile? fs w a = some path) (h : fs.read w path = .error e) :
      FailsFirst env args (.loading path (.unreadable e))
  | malformed {a : Arguments} {path text : String} (ha : Arguments.read args = .ok a)
      (hf : configFile? fs w a = some path) (ht : fs.read w path = .ok text)
      (h : Stated.read? text = none) :
      FailsFirst env args (.loading path (@SettingsError.malformed (fs.yamlFault text)))
  | dialect {a : Arguments} {s : Settings} {e : UnknownDialect} (hs : Started fs w env args a s)
      (h : Dialect.named s.dialect.name = .error e) : FailsFirst env args (.dialect e)
  | reading {a : Arguments} {t : Target} {w' : σ} {e : FileError}
      (hr : Resolved fs w env args a t w') (h : fs.read w' a.pipeline = .error e) :
      FailsFirst env args (.reading a.pipeline e)
  | parsing {a : Arguments} {t : Target} {w' : σ} {text : String}
      (hr : Resolved fs w env args a t w') (ht : fs.read w' a.pipeline = .ok text)
      (h : Pipeline.read? text = none) :
      FailsFirst env args (@Failure.parsing a.pipeline (fs.jsonFault text))
  | building {a : Arguments} {t : Target} {w' : σ} {text : String} {p : Pipeline} {e : BuildError}
      (hr : Resolved fs w env args a t w') (ht : fs.read w' a.pipeline = .ok text)
      (hp : Pipeline.read? text = some p) (h : p.build t = .error e) :
      FailsFirst env args (.building p.verb e)

/-- The output shows the query as it was asked for: as a tree, or in JSON. -/
def Shows (explain : Bool) (q : Query) (output : String) : Prop :=
  if explain then q.Drawn output else q.PrettyPrinted output

def loaded (env : Environment) (a : Arguments) : Except Failure Settings :=
  match configFile? fs w a with
  | some path => (Settings.ofFile env (fs.read w path) fs.yamlFault).mapError (.loading path)
  | none => .ok (Settings.ofEnvironment env)

def settled (env : Environment) (a : Arguments) : Except Failure Settings :=
  (loaded fs w env a).map fun s => (a.dialect.map s.withDialectName).getD s

variable {fs w}

variable {env : Environment} {args : List String} {a : Arguments} {s : Settings} {t : Target}

theorem answer_eq (t : Target) (a : Arguments) (text fault : String) :
    answer t a text fault = match Pipeline.read? text with
      | none => .error (@Failure.parsing a.pipeline fault)
      | some p =>
        ((p.build t).mapError (.building p.verb)).map fun q => q.printed a.explain := by
  unfold answer
  cases Pipeline.read? text with
  | none => rfl
  | some p => cases p.build t <;> rfl

theorem answer_ok {text fault out : String} :
    answer t a text fault = .ok out ↔
      ∃ p q, Pipeline.read? text = some p ∧ p.build t = .ok q ∧ q.printed a.explain = out := by
  rw [answer_eq]
  cases Pipeline.read? text with
  | none => simp
  | some p => simp [map_ok, map_error_ok]

end Stages

end LayeredSql.Command
