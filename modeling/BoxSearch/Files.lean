import BoxSearch.Error

/-!
# Files and directories

Records and configurations are kept in files.  A `FileTree` says which files and
directories there are and which directory is the working one, and its operations are
those of a POSIX system: a path is followed part by part, every part but the last must
be a directory, `.` stays and `..` goes up, and a slash at the end asks for a
directory.  Names and paths have a largest length, and a path that is longer leads
nowhere, whatever its parts are.
-/

namespace BoxSearch

/-! ## Paths -/

/-- A path taken apart. -/
structure PathParts where
  /-- it starts at the root -/
  absolute : Bool
  /-- the parts between the slashes -/
  parts : List String
  /-- it ends in a slash -/
  trailing : Bool
  deriving DecidableEq, Repr

namespace PathParts

/-- A text cut at its slashes. -/
def cut : List Char → List (List Char)
  | [] => [[]]
  | c :: cs =>
    if c = '/' then [] :: cut cs
    else
      match cut cs with
      | piece :: pieces => (c :: piece) :: pieces
      | [] => [[c]]

/-- The parts of a path; empty ones do not count. -/
def ofText (path : String) : PathParts :=
  let cs := path.toList
  ⟨cs.head? == some '/', (((cut cs).filter (!·.isEmpty)).map String.ofList),
    cs.getLast? == some '/'⟩

/-- The parts that name something: a dot counts only at the start of a relative path. -/
def significant (p : PathParts) : List String :=
  match p.parts with
  | [] => []
  | first :: rest =>
    let rest := rest.filter (· ≠ ".")
    if first = "." && p.absolute then rest else first :: rest

end PathParts

/-- A name inside a directory. -/
def joinPath (directory name : String) : String :=
  if name.toList.head? == some '/' || directory.isEmpty then name
  else if directory.toList.getLast? == some '/' then directory ++ name
  else directory ++ "/" ++ name

/-! ## The tree -/

/-- What stands under a name. -/
inductive FileNode where
  /-- a file with its text -/
  | file (text : String)
  /-- a directory -/
  | directory
  deriving DecidableEq, Repr

/-- Files and directories by their places, which are lists of names from the root. -/
structure FileTree where
  /-- what there is below the root -/
  entries : List (List String × FileNode)
  /-- the working directory -/
  here : List String
  deriving DecidableEq, Repr

namespace FileTree

/-- An empty working directory. -/
def empty : FileTree := ⟨[(["work"], .directory)], ["work"]⟩

/-- What stands at a place. -/
def node? (t : FileTree) (place : List String) : Option FileNode :=
  if place.isEmpty then some .directory else t.entries.lookup place

/-- The tree with something at a place. -/
def put (t : FileTree) (place : List String) (n : FileNode) : FileTree :=
  { t with entries := (place, n) :: t.entries.filter (·.1 ≠ place) }

/-! ## Following paths -/

/-- The largest number of bytes in a name. -/
def longestName : Nat := 255

/-- The largest number of bytes in a path. -/
def longestPath : Nat := 4095

/-- Refuses a text that is no path: one with a character that no name can hold, or one
that is too long. -/
def checkPath (path : String) : Except FileError Unit :=
  if path.toList.contains (Char.ofNat 0) then .error .embeddedNul
  else if longestPath < path.utf8ByteSize then .error .nameTooLong
  else .ok ()

/-- Follows parts from a place; all of them must be there. -/
def walk (t : FileTree) : List String → List String → Except FileError (List String)
  | place, [] => .ok place
  | place, part :: parts =>
    if t.node? place ≠ some .directory then .error .notADirectory
    else if part = "." then walk t place parts
    else if part = ".." then walk t place.dropLast parts
    else if longestName < part.utf8ByteSize then .error .nameTooLong
    else if (t.node? (place ++ [part])).isSome then walk t (place ++ [part]) parts
    else .error .notFound

/-- Where a path starts. -/
def start (t : FileTree) (p : PathParts) : List String := if p.absolute then [] else t.here

/-- What a path leads to. -/
def find (t : FileTree) (path : String) : Except FileError FileNode := do
  checkPath path
  if path.isEmpty then .error .notFound
  let p := PathParts.ofText path
  match t.node? (← t.walk (t.start p) p.parts) with
  | some .directory => .ok .directory
  | some (.file text) => if p.trailing then .error .notADirectory else .ok (.file text)
  | none => .error .notFound

/-- Whether a path leads to a directory. -/
def isDirectory (t : FileTree) (path : String) : Bool :=
  (t.find path).toOption == some .directory

/-- Whether a path leads to a file. -/
def isFile (t : FileTree) (path : String) : Bool :=
  match t.find path with
  | .ok (.file _) => true
  | _ => false

/-- Whether a path leads to anything. -/
def exists? (t : FileTree) (path : String) : Bool := (t.find path).toOption.isSome

/-- The text of a file. -/
def read (t : FileTree) (path : String) : Except FileError String := do
  match ← t.find path with
  | .file text => .ok text
  | .directory => .error .isADirectory

/-! ## Making things -/

/-- The directory that holds the last part of a path, and that part. -/
def locate (t : FileTree) (p : PathParts) : Except FileError (List String × String) := do
  let some last := p.parts.getLast? | .error .alreadyExists
  let place ← t.walk (t.start p) p.parts.dropLast
  if t.node? place ≠ some .directory then .error .notADirectory
  else .ok (place, last)

/-- Makes one directory. -/
def makeDirectory (t : FileTree) (p : PathParts) : Except FileError FileTree := do
  let (place, last) ← t.locate p
  if last = "." || last = ".." then .error .alreadyExists
  else if longestName < last.utf8ByteSize then .error .nameTooLong
  else if (t.node? (place ++ [last])).isSome then .error .alreadyExists
  else .ok (t.put (place ++ [last]) .directory)

/-- Whether the parts of a path lead to a directory. -/
def leadsToDirectory (t : FileTree) (p : PathParts) : Bool :=
  match t.walk (t.start p) p.parts with
  | .ok place => t.node? place == some .directory
  | .error _ => false

/-- Makes a directory, given what has to be done when the directory around it is
missing. -/
def makeWith (t : FileTree) (p : PathParts) (around : Except FileError FileTree) :
    Except FileError FileTree :=
  match t.makeDirectory p with
  | .ok t => .ok t
  | .error .notFound => do
    let t ← around
    match t.makeDirectory p with
    | .ok t => .ok t
    | .error e => if t.leadsToDirectory p then .ok t else .error e
  | .error e => if t.leadsToDirectory p then .ok t else .error e

/-- Makes the directories of a path given by its parts from the last to the first. -/
def makeReversed (t : FileTree) (absolute : Bool) : List String → Except FileError FileTree
  | [] => .ok t
  | last :: before =>
    t.makeWith ⟨absolute, (last :: before).reverse, false⟩ (makeReversed t absolute before)

/-- Makes a directory and, where they are missing, the directories around it.  One that
is there already is left as it is, and for a path without a part that names something
there is nothing to make, however long it is. -/
def makeDirectories (t : FileTree) (path : String) : Except FileError FileTree := do
  let p := PathParts.ofText path
  if p.significant.isEmpty then .ok t
  else
    checkPath path
    t.makeWith p (makeReversed t p.absolute p.significant.dropLast.reverse)

/-- Writes a file, in place of one that is there already. -/
def write (t : FileTree) (path text : String) : Except FileError FileTree := do
  checkPath path
  if path.isEmpty then .error .notFound
  let p := PathParts.ofText path
  if p.parts.isEmpty then .error .isADirectory
  let (place, last) ← t.locate p
  if last = "." || last = ".." || p.trailing then .error .isADirectory
  else if longestName < last.utf8ByteSize then .error .nameTooLong
  else if t.node? (place ++ [last]) = some .directory then .error .isADirectory
  else .ok (t.put (place ++ [last]) (.file text))

end FileTree

end BoxSearch
