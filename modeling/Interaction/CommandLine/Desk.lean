import Interaction.CommandLine.Host

/-! # Commands at a desk

A `Desk` is all that a command can see of the world, as a value: files in folders, in one of which
the command is run. Paths are followed name by name, and every folder on the way has to be there. -/

namespace Interaction.CommandLine

/-- The way to a file or folder from the outermost folder on. -/
abbrev Names := List String

/-- Files, the folder that the command is run in, the input, and what was printed so far. A folder
is there if the command is run in it or below it, or if there is a file in it or below it. -/
structure Desk where
  files : List (Names × ByteArray)
  folder : Names
  input : ByteArray
  printed : String
  complaints : String

/-- What a name stands for. -/
inductive Entry where
  | folder (names : Names)
  | file (names : Names) (bytes : ByteArray)
  /-- Nothing yet. A new file would have these names. -/
  | vacant (names : Names)

/-- The names of the file in which a text would be written there. -/
def Entry.writable : Entry → Except FileFault Names
  | .folder _ => .error .isFolder
  | .file names _ | .vacant names => .ok names

/-- The most bytes in a name. -/
def maxNameLength : Nat := 255

/-- The most bytes in a path. -/
def maxPathLength : Nat := 4095

/-- The names in a path. Slashes may be repeated. -/
def namesOf (path : String) : Names :=
  ((path.toList.splitOn '/').filter (!·.isEmpty)).map String.ofList

/-- A path from the outermost folder on. -/
def isAbsolute (path : String) : Bool := path.toList.head? = some '/'

/-- A path whose last name can only be a folder's. -/
def endsInSlash (path : String) : Bool := path.toList.getLast? = some '/'

namespace Desk

/-- The contents of a file. -/
def bytes? (d : Desk) (names : Names) : Option ByteArray :=
  (d.files.find? (·.1 = names)).map (·.2)

/-- The text of a file. -/
def text? (d : Desk) (names : Names) : Option String := (d.bytes? names).bind String.fromUTF8?

def hasFolder (d : Desk) (names : Names) : Bool :=
  names.isPrefixOf d.folder || d.files.any fun f => names.isPrefixOf f.1 && names ≠ f.1

/-- What has those names. -/
def entry (d : Desk) (names : Names) : Entry :=
  match d.bytes? names with
  | some b => .file names b
  | none => if d.hasFolder names then .folder names else .vacant names

/-- What a name stands for in a folder. Above the outermost folder is that folder itself. -/
def look (d : Desk) (folder : Names) (name : String) : Except FileFault Entry :=
  if name = "." then .ok (.folder folder)
  else if name = ".." then .ok (.folder folder.dropLast)
  else if name.utf8ByteSize > maxNameLength then .error .nameTooLong
  else .ok (d.entry (folder ++ [name]))

/-- The folder that some names lead to from another one. -/
def enter (d : Desk) (folder : Names) : Names → Except FileFault Names
  | [] => .ok folder
  | name :: names => do
    match ← d.look folder name with
    | .folder folder => d.enter folder names
    | .file _ _ => .error .notFolder
    | .vacant _ => .error .notFound

/-- The folder that a path starts in. -/
def origin (d : Desk) (path : String) : Names := if isAbsolute path then [] else d.folder

/-- The folder of a path's last name, and that name. A path without names is that of its folder. -/
def lastFolder (d : Desk) (path : String) : Except FileFault (Names × String) :=
  if path.utf8ByteSize > maxPathLength then .error .nameTooLong
  else (d.enter (d.origin path) (namesOf path).dropLast).map fun folder =>
    (folder, (namesOf path).getLast?.getD ".")

/-- The contents of the file at a path. -/
def read (d : Desk) (path : String) : Except FileFault ByteArray := do
  let (folder, name) ← d.lastFolder path
  match ← d.look folder name with
  | .folder _ => .error .isFolder
  | .file _ b => if endsInSlash path then .error .notFolder else .ok b
  | .vacant _ => .error .notFound

/-- The files with those contents under those names, in place of old ones. -/
def putBytes (names : Names) (b : ByteArray) : List (Names × ByteArray) → List (Names × ByteArray)
  | [] => [(names, b)]
  | f :: fs => if f.1 = names then (names, b) :: fs else f :: putBytes names b fs

/-- The desk with a text in the file of those names. -/
def put (d : Desk) (names : Names) (s : String) : Desk :=
  { d with files := putBytes names s.toUTF8 d.files }

theorem find?_putBytes (names other : Names) (b : ByteArray) (fs : List (Names × ByteArray)) :
    (putBytes names b fs).find? (·.1 = other) =
      if names = other then some (names, b) else fs.find? (·.1 = other) := by
  induction fs with
  | nil => by_cases h : names = other <;> simp [putBytes, h]
  | cons f fs ih =>
    by_cases h : names = other <;> by_cases hf : f.1 = names <;>
      simp_all [putBytes, List.find?_cons]

@[simp] theorem bytes?_put (d : Desk) (names : Names) (s : String) :
    (d.put names s).bytes? names = some s.toUTF8 := by
  simp [bytes?, put, find?_putBytes]

theorem bytes?_put_of_ne (d : Desk) {names other : Names} (s : String) (h : names ≠ other) :
    (d.put names s).bytes? other = d.bytes? other := by
  simp [bytes?, put, find?_putBytes, h]

/-- The names of the file that would be written at a path. -/
def spot (d : Desk) (path : String) : Except FileFault Names := do
  let (folder, name) ← d.lastFolder path
  if endsInSlash path then .error .isFolder else (d.look folder name).bind Entry.writable

/-- The desk with a text in the file at a path. -/
def write (d : Desk) (path s : String) : Except FileFault Desk := (d.spot path).map (d.put · s)

end Desk

/-- A command at a desk. -/
def Host.atDesk : Host (StateM Desk) where
  readFile path := fun d => (((d.read path).mapError FileFault.reason).bind decode, d)
  readInput := fun d => (decode d.input, d)
  writeFile path s := fun d =>
    match d.write path s with
    | .ok d => (.ok (), d)
    | .error e => (.error e.reason, d)
  print s := fun d => ((), { d with printed := d.printed ++ s })
  complain s := fun d => ((), { d with complaints := d.complaints ++ s })

end Interaction.CommandLine
