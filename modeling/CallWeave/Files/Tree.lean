import CallWeave.Bytes.BigEndian
import CallWeave.Files.Path

/-!
# File trees

A tree of directories and files, given by what stands at each location. A location is the list of names from
the root down. Paths are walked from the working directory: every part but the last has to be a directory,
a single dot stays and two dots go up.
-/

namespace CallWeave

/-- What stands at a location. -/
inductive FileNode where
  | file (content : Bytes)
  | directory
deriving DecidableEq

/-- A tree of files. -/
structure FileTree where
  /-- The working directory. -/
  here : List String
  /-- What stands at each location. -/
  node? : List String → Option FileNode

namespace FileTree

/-- A tree with the working directory and those above it. -/
def emptyAt (here : List String) : FileTree :=
  ⟨here, fun location => if location <+: here then some .directory else none⟩

/-- A tree in which nothing is known to be missing: every location is a directory. -/
def directoriesAt (here : List String) : FileTree := ⟨here, fun _ => some .directory⟩

/-- The tree with a node put at a location. -/
def put (tree : FileTree) (location : List String) (node : FileNode) : FileTree :=
  ⟨tree.here, fun other => if other = location then some node else tree.node? other⟩

/-- The tree with a location put to what stands there, if anything does. -/
def observe (tree : FileTree) (location : List String) (node : Option FileNode) : FileTree :=
  ⟨tree.here, fun other => if other = location then node else tree.node? other⟩

/-- Whether a name can stand in a directory: at most 255 bytes, none of them zero. -/
def isName (name : String) : Bool :=
  name.utf8ByteSize ≤ 255 && !name.toList.contains '\x00'

/-- Walks parts from a location; the last part need not exist. -/
def walk? (tree : FileTree) : (location parts : List String) → Option (List String)
  | location, [] => some location
  | location, part :: rest =>
    if tree.node? location = some .directory then
      if part = "." then walk? tree location rest
      else if part = ".." then walk? tree location.dropLast rest
      else if isName part then walk? tree (location ++ [part]) rest
      else none
    else none

/-- Where the walk of a path starts. -/
def start (tree : FileTree) (path : String) : List String :=
  if Path.isAbsolute path then [] else tree.here

/-- The location that a path leads to; the empty path leads nowhere. -/
def locate? (tree : FileTree) (path : String) : Option (List String) :=
  if path.isEmpty then none else tree.walk? (tree.start path) (Path.parts path)

/-- Whether something stands at the end of a path. -/
def pathExists (tree : FileTree) (path : String) : Bool :=
  ((tree.locate? path).bind tree.node?).isSome

/-- The content of a file. -/
def read? (tree : FileTree) (path : String) : Option Bytes :=
  match (tree.locate? path).bind tree.node? with
  | some (.file content) => some content
  | _ => none

/-- The text of a file. -/
def readText? (tree : FileTree) (path : String) : Option String :=
  (tree.read? path).bind fun content => String.fromUTF8? ⟨content.toArray⟩

/-- Makes the directory that some parts lead to, unless it is there. -/
def makeDirectory? (tree : FileTree) (start parts : List String) : Option FileTree :=
  match tree.walk? start parts with
  | none => none
  | some location =>
    match tree.node? location with
    | none => some (tree.put location .directory)
    | some .directory => some tree
    | some (.file _) => none

/-- Makes the directories on the way along some parts, `done` being those already made. Returns whether all
could be made, and the tree with those that were. -/
def makeDirectories (tree : FileTree) (start : List String) : (done parts : List String) → Bool × FileTree
  | _, [] => (true, tree)
  | done, part :: rest =>
    match tree.makeDirectory? start (done ++ [part]) with
    | none => (false, tree)
    | some made => makeDirectories made start (done ++ [part]) rest

/-- Writes a file, whose directory has to exist. -/
def write? (tree : FileTree) (path : String) (content : Bytes) : Option FileTree :=
  match tree.locate? path with
  | none => none
  | some location =>
    match tree.node? location, tree.node? location.dropLast with
    | some .directory, _ => none
    | _, some .directory => some (tree.put location (.file content))
    | _, _ => none

/-- The bytes of a text. -/
def textBytes (text : String) : Bytes := text.toByteArray.data.toList

end FileTree

end CallWeave
