import LayeredSql.Files.Error
import LayeredSql.Settings.Document

namespace LayeredSql

inductive SettingsError where
  | unreadable (cause : FileError)
  /-- No YAML document, or not one of settings, and what its reader says. -/
  | malformed {fault : String}
  | dialect (cause : UnknownDialect)
deriving DecidableEq

def SettingsError.message : SettingsError → String
  | .unreadable cause => String.join ["Failed to read config file: ", cause.message]
  | @malformed fault => String.join ["Failed to parse YAML: ", fault]
  | .dialect cause => String.join ["Invalid dialect: ", cause.message]

def Settings.ofEnvironment (env : Environment) : Settings :=
  Settings.standard.override env

/-- With what came of reading the file. `fault` is what is said of a text that is refused. -/
def Settings.ofFile (env : Environment) (contents : Except FileError String)
    (fault : String → String := fun _ => "") : Except SettingsError Settings := do
  let text ← contents.mapError .unreadable
  match Settings.read? text with
  | some s => return s.override env
  | none => throw (@SettingsError.malformed (fault text))

end LayeredSql
