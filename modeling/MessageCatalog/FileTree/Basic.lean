import MessageCatalog.Text.Utf8

/-!
# File trees

A file tree is what a working directory contains.  Paths are texts with
slashes between their names; they are followed name by name, so that a path
through something that is no directory leads nowhere.  Main statements: a
change at one place shows there, and at no other place.
-/

namespace MessageCatalog

inductive Node
  | file (contents : Bytes)
  | directory
  deriving DecidableEq, Repr

/-- The names on the way from the working directory to a file.  The name `..`
stands for a directory outside, and `/` for the root of all. -/
abbrev Place := List Text

namespace Place

/-- Whether a name leads out of the working directory. -/
def isAscent (name : Text) : Bool := name = "..".toList || name = "/".toList

/-- Whether a place is the working directory or a directory around it.  Such
places always exist. -/
def isAround (place : Place) : Bool := place.all isAscent

/-- The directory that a place lies in. -/
def parent (place : Place) : Place :=
  if !place.isAround then place.dropLast
  else if place.contains "/".toList then place
  else place ++ ["..".toList]

/-- Where a path begins. -/
def ofStart (path : Text) : Place := if path.head? = some '/' then ["/".toList] else []

end Place

/-- The files and directories of a working directory. -/
structure FileTree where
  entries : List (Place × Node)
  deriving DecidableEq, Repr

namespace FileTree

def node? (tree : FileTree) (place : Place) : Option Node :=
  if place.isAround then some .directory
  else (tree.entries.find? fun entry => entry.1 = place).map Prod.snd

def insert (tree : FileTree) (place : Place) (node : Node) : FileTree :=
  ⟨(place, node) :: tree.entries⟩

theorem node?_insert_self (tree : FileTree) {place : Place} (node : Node)
    (h : place.isAround = false) : (tree.insert place node).node? place = some node := by
  simp [node?, insert, h]

theorem node?_insert_of_ne (tree : FileTree) {place other : Place} (node : Node)
    (h : place ≠ other) : (tree.insert place node).node? other = tree.node? other := by
  simp [node?, insert, h]

/-- Follows one name from a place, which has to be a directory. -/
def follow? (tree : FileTree) (place : Place) (name : Text) : Option Place :=
  if tree.node? place = some .directory then
    if name.isEmpty ∨ name = ".".toList then some place
    else if name = "..".toList then some place.parent
    else some (place ++ [name])
  else none

/-- The place that a path leads to, whether or not something is there. -/
def place? (tree : FileTree) (path : Text) : Option Place :=
  (Text.splitOn '/' path).foldlM tree.follow? (.ofStart path)

def lookup? (tree : FileTree) (path : Text) : Option Node :=
  (tree.place? path).bind tree.node?

/-- Makes a directory at a place, if nothing is there. -/
def addDirectory (tree : FileTree) (place : Place) : FileTree :=
  if (tree.node? place).isNone then tree.insert place .directory else tree

/-- Makes the directories on a way, given as names, as far as nothing else stands
in it. -/
def makeDirectories (tree : FileTree) (place : Place) : List Text → FileTree × Bool
  | [] => (tree, decide (tree.node? place = some .directory))
  | name :: rest =>
      match tree.follow? place name with
      | none => (tree, false)
      | some next => makeDirectories (tree.addDirectory next) next rest

/-- Writes a file, unless its directory is missing or a directory has its
name. -/
def write? (tree : FileTree) (path : Text) (contents : Bytes) : Option FileTree :=
  match tree.place? path with
  | none => none
  | some place =>
      if tree.node? place = some .directory then none
      else some (tree.insert place (.file contents))

end FileTree

end MessageCatalog
