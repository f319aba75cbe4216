import LayeredSql.Files.Error

namespace LayeredSql

structure Host (m : Type → Type) where
  read : String → m (Except FileError String)
  /-- Something stands at the path. -/
  present : String → m Bool
  /-- Makes a directory and those above it, where they are missing. -/
  makeDirectory : String → m (Except FileError Unit)
  /-- The text of the file that assigns environment variables, if there is one. -/
  readAssignments : m (Option String)
  /-- What the reader of JSON says of a text that it refuses. -/
  jsonFault : String → String := fun _ => ""
  /-- What the reader of YAML says of a text that it refuses. -/
  yamlFault : String → String := fun _ => ""

/-- A system whose files are a state `σ`: what it answers depends on that state and nothing else. -/
structure FileSystem (σ : Type) where
  read : σ → String → Except FileError String
  present : σ → String → Bool
  makeDirectory : σ → String → Except FileError Unit × σ
  assignments : σ → Option String
  jsonFault : String → String
  yamlFault : String → String

def FileSystem.host (fs : FileSystem σ) : Host (StateM σ) where
  read path := return fs.read (← get) path
  present path := return fs.present (← get) path
  makeDirectory path := do
    let (made, files) := fs.makeDirectory (← get) path
    set files
    return made
  readAssignments := return fs.assignments (← get)
  jsonFault := fs.jsonFault
  yamlFault := fs.yamlFault

end LayeredSql
