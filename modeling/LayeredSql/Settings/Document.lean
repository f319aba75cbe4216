import LayeredSql.Settings.Basic
import LayeredSql.Yaml.Reader

namespace LayeredSql

def DialectSettings.ofYaml? (standard : DialectSettings) (root v : Yaml) :
    Option DialectSettings := do
  let fields ← root.record? ["name", "window_functions"] v
  let name ← Yaml.fieldOr fields "name" standard.name root.string?
  let windowFunctions ←
    Yaml.fieldOr fields "window_functions" standard.windowFunctions root.bool?
  return ⟨name, windowFunctions⟩

def Suffixes.ofYaml? (standard : Suffixes) (root v : Yaml) : Option Suffixes := do
  let fields ← root.record? ["suffix_x", "suffix_y"] v
  let left ← Yaml.fieldOr fields "suffix_x" standard.left root.string?
  let right ← Yaml.fieldOr fields "suffix_y" standard.right root.string?
  return ⟨left, right⟩

def LoggingSettings.ofYaml? (standard : LoggingSettings) (root v : Yaml) :
    Option LoggingSettings := do
  let fields ← root.record? ["level", "format", "output", "directory"] v
  let level ← Yaml.fieldOr fields "level" standard.level root.string?
  let format ← Yaml.fieldOr fields "format" standard.format root.string?
  let output ← Yaml.fieldOr fields "output" standard.output root.string?
  let directory ← Yaml.fieldOr fields "directory" standard.directory root.string?
  return ⟨level, format, output, directory⟩

def Settings.ofYaml? (root : Yaml) : Option Settings := do
  let std := Settings.standard
  let fields ← root.record? ["dialect", "join", "logging"] root
  let dialect ← Yaml.fieldOr fields "dialect" std.dialect (std.dialect.ofYaml? root)
  let suffixes ← Yaml.fieldOr fields "join" std.suffixes (std.suffixes.ofYaml? root)
  let logging ← Yaml.fieldOr fields "logging" std.logging (std.logging.ofYaml? root)
  return ⟨dialect, suffixes, logging⟩

def Settings.read? (text : String) : Option Settings :=
  (Yaml.read? text).bind Settings.ofYaml?

end LayeredSql
