import LayeredSql.Files.Host

namespace LayeredSql

inductive Entry where
  | file (text : String)
  /-- A file that cannot be read, because access is denied or its bytes are no text. -/
  | refused (cause : FileError)
  | folder

/-- A tree of files held in memory: what stands at a path, given by its names from the root, and the
folder that relative paths start from. -/
structure Directory where
  entry? : List String → Option Entry
  home : List String

namespace Directory

def empty : Directory where
  entry? path := if path = [] ∨ path = ["work"] then some .folder else none
  home := ["work"]

def put (d : Directory) (path : List String) (e : Entry) : Directory :=
  { d with entry? := fun p => if p = path then some e else d.entry? p }

def putFolders (d : Directory) (above : List String) : List String → Directory
  | [] => d
  | name :: names =>
    let here := above ++ [name]
    let d := if (d.entry? here).isNone then d.put here .folder else d
    d.putFolders here names

def parts : List Char → List (List Char)
  | [] => [[]]
  | c :: cs =>
    if c = '/' then [] :: parts cs
    else match parts cs with
      | [] => [[c]]
      | part :: others => (c :: part) :: others

def names (path : String) : List String :=
  ((parts path.toList).map String.ofList).filter fun name => name != "" && name != "."

/-- Where the names of a path start: at the root after a slash, else in the working folder. -/
def start (d : Directory) (path : String) : List String :=
  if path.toList.head? = some '/' then [] else d.home

def addEntry (d : Directory) (path : String) (e : Entry) : Directory :=
  let ns := names path
  (d.putFolders (d.start path) ns.dropLast).put (d.start path ++ ns) e

def addFile (d : Directory) (path text : String) : Directory :=
  d.addEntry path (.file text)

/-- Follows names from a folder; two dots go back, and stay at the root. -/
def follow (d : Directory) (here : List String) : List String → Except FileError (List String)
  | [] => .ok here
  | name :: ns =>
    match d.entry? here with
    | none => .error .notFound
    | some (.file _) | some (.refused _) => .error .notDirectory
    | some .folder => d.follow (if name = ".." then here.dropLast else here ++ [name]) ns

/-- The path ends in a way that only a folder may. -/
def namesFolder (path : String) : Bool :=
  match (parts path.toList).getLast? with
  | some part => part = [] || part = ['.']
  | none => true

def find (d : Directory) (path : String) : Except FileError Entry := do
  if path = "" then throw .notFound
  let here ← d.follow (d.start path) (names path)
  match d.entry? here with
  | none => throw .notFound
  | some .folder => return .folder
  | some e => if namesFolder path then throw .notDirectory else return e

def read (d : Directory) (path : String) : Except FileError String := do
  match ← d.find path with
  | .file text => return text
  | .refused cause => throw cause
  | .folder => throw .isDirectory

def contains (d : Directory) (path : String) : Bool :=
  (d.find path).isOk

def makeFrom (d : Directory) (here : List String) : List String → Except FileError Directory
  | [] =>
    match d.entry? here with
    | some .folder => .ok d
    | some (.file _) | some (.refused _) => .error .alreadyExists
    | none => .ok (d.put here .folder)
  | name :: ns =>
    let next := if name = ".." then here.dropLast else here ++ [name]
    match d.entry? here with
    | some .folder => d.makeFrom next ns
    | some (.file _) | some (.refused _) => .error .notDirectory
    | none => (d.put here .folder).makeFrom next ns

/-- An empty path is made already. -/
def makeDirectory (d : Directory) (path : String) : Except FileError Directory :=
  if path = "" then .ok d else d.makeFrom (d.start path) (names path)

/-- The file of assignments in a folder, given by its names from the innermost, or in the nearest
one above that has such a file. -/
def assignmentsFrom (d : Directory) : List String → Option String
  | [] => text? (d.entry? [".env"])
  | name :: above =>
    match d.entry? ((name :: above).reverse ++ [".env"]) with
    | none | some .folder => d.assignmentsFrom above
    | found => text? found
where
  text? : Option Entry → Option String
    | some (.file text) => some text
    | _ => none

def files : FileSystem Directory where
  read := read
  present := contains
  makeDirectory d path :=
    match d.makeDirectory path with
    | .ok d' => (.ok (), d')
    | .error e => (.error e, d)
  assignments d := d.assignmentsFrom d.home.reverse
  jsonFault _ := ""
  yamlFault _ := ""

def host : Host (StateM Directory) :=
  files.host

end Directory
end LayeredSql
