/-
This file holds a tree of files as a value.
A place is the list of names that leads from where the tree is rooted to a file or directory.
It may first lead out of the tree by `..`, or begin anew at `/`. A path is the text of a place.
-/

namespace Gamebook

abbrev Place : Type := List String

/-- Directories are listed apart from files, so that they can be empty. -/
structure FileTree where
  directories : List Place
  files : List (Place × ByteArray)

/-- The parts of a path stand between its slashes. -/
def pathParts (path : String) : List String :=
  (partsFrom path.toList).map String.ofList
where
  partsFrom : List Char → List (List Char)
    | [] => [[]]
    | character :: rest =>
        if character = '/' then [] :: partsFrom rest
        else
          match partsFrom rest with
          | [] => [[character]]
          | first :: others => (character :: first) :: others

/-- One further part of a path leads on, nowhere, or back. Nothing lies above `/`. -/
def Place.enter (place : Place) (part : String) : Place :=
  if part = "" ∨ part = "." then place
  else if part = ".." then
    match place.getLast? with
    | none => [".."]
    | some ".." => place ++ [".."]
    | some "/" => place
    | some _ => place.dropLast
  else place ++ [part]

/-- A path that begins with a slash begins at `/`. -/
def Place.start (path : String) : Place :=
  if path.toList.head? = some '/' then ["/"] else []

/-- This is the place that a path names when all directories on the way are there. -/
def Place.ofPath (path : String) : Place :=
  (pathParts path).foldl Place.enter (Place.start path)

/-- A name is put behind a directory with one slash between them. -/
def joinPath (directory name : String) : String :=
  if directory.isEmpty || directory.toList.getLast? == some '/' then directory ++ name
  else directory ++ "/" ++ name

namespace FileTree

def empty : FileTree := ⟨[], []⟩

/-- The tree is rooted in a directory. -/
def isDirectoryPlace (tree : FileTree) (place : Place) : Bool :=
  place.isEmpty || tree.directories.contains place

/-- A path can only lead on from a directory. -/
def placeFrom? (tree : FileTree) (place : Place) : List String → Option Place
  | [] => some place
  | part :: rest =>
      if tree.isDirectoryPlace place then tree.placeFrom? (place.enter part) rest else none

/-- The empty path names nothing. -/
def place? (tree : FileTree) (path : String) : Option Place :=
  if path.isEmpty then none else tree.placeFrom? (Place.start path) (pathParts path)

def isDirectory (tree : FileTree) (path : String) : Bool :=
  (tree.place? path).any tree.isDirectoryPlace

def read? (tree : FileTree) (path : String) : Option ByteArray :=
  (tree.place? path).bind fun place => List.lookup place tree.files

/-- These are the names of the files that lie directly in a directory. -/
def fileNames (tree : FileTree) (path : String) : List String :=
  match tree.place? path with
  | none => []
  | some place =>
      tree.files.filterMap fun file =>
        if file.1.dropLast = place then file.1.getLast? else none

/-- The directories on the way to a place are made when they are not there yet. -/
def withDirectories (tree : FileTree) (place : Place) : FileTree :=
  let onTheWay := (List.range (place.length + 1)).map place.take
  let needed := onTheWay.filter fun part => !tree.isDirectoryPlace part
  { tree with directories := tree.directories ++ needed }

def makeDirectory (tree : FileTree) (path : String) : FileTree :=
  tree.withDirectories (Place.ofPath path)

def write (tree : FileTree) (path : String) (body : ByteArray) : FileTree :=
  let place := Place.ofPath path
  let tree := tree.withDirectories place.dropLast
  { tree with files := (tree.files.filter fun file => !(file.1 == place)) ++ [(place, body)] }

/-- A directory is deleted with everything in it. -/
def delete (tree : FileTree) (path : String) : FileTree :=
  let place := Place.ofPath path
  { directories := tree.directories.filter fun directory => !place.isPrefixOf directory
    files := tree.files.filter fun file => !place.isPrefixOf file.1 }

end FileTree

end Gamebook
