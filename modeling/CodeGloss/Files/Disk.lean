import CodeGloss.Files.Tree
import CodeGloss.Path

/-!
# Files by path

A disk is a file tree seen from a working directory.  Paths are followed step by step: every step
but the last has to be a directory, a double dot goes up, and a slash at the end asks for a
directory.  A path that leads nowhere, or to the wrong sort of thing, is a fault.
-/

namespace CodeGloss

/-- Why a path could not be used. -/
inductive Fault where
  /-- There is nothing there. -/
  | notFound
  /-- There is something there already. -/
  | occupied
  /-- Something that is no directory is used as one. -/
  | notDirectory
  /-- A directory is used as a file. -/
  | isDirectory
  /-- The bytes of a file are not text. -/
  | notText
deriving DecidableEq, Repr

/-- The report of a fault. -/
def Fault.message : Fault → String
  | notFound => "No such file or directory (os error 2)"
  | occupied => "File exists (os error 17)"
  | notDirectory => "Not a directory (os error 20)"
  | isDirectory => "Is a directory (os error 21)"
  | notText => "stream did not contain valid UTF-8"

/-- A file tree and the directory from which relative paths are followed. -/
structure Disk where
  /-- The tree. -/
  tree : FileTree
  /-- The place of the working directory. -/
  here : List String
deriving Inhabited

namespace Disk

/-- The path of a place. -/
def pathOf (place : List String) : String :=
  "/" ++ "/".intercalate place

variable (disk : Disk)

/-! ## Following paths -/

/-- Whether there is a directory at a place. -/
def holdsDirectory (place : List String) : Bool :=
  (disk.tree.find? place).any (·.isDirectory)

/-- Follows the steps of a path from a place. -/
def follow (place : List String) : List String → Except Fault (List String)
  | [] => .ok place
  | step :: rest =>
    match disk.tree.find? place with
    | none => .error .notFound
    | some (.file _) => .error .notDirectory
    | some (.directory entries) =>
      if step == "" || step == "." then follow place rest
      else if step == ".." then follow place.dropLast rest
      else if (entries.lookup step).isSome then follow (place ++ [step]) rest
      else .error .notFound

/-- Where a path starts. -/
def origin (path : String) : List String :=
  if Path.isAbsolute path then [] else disk.here

/-- The place that a path leads to, where there is something. -/
def resolve (path : String) : Except Fault (List String) :=
  if path.isEmpty then .error .notFound
  else disk.follow (disk.origin path) (Path.pieces path)

/-- What a path leads to. -/
def open? (path : String) : Except Fault FileTree := do
  let place ← disk.resolve path
  match disk.tree.find? place with
  | some tree => .ok tree
  | none => .error .notFound

/-- Whether a path leads to anything. -/
def has (path : String) : Bool :=
  (disk.open? path).isOk

/-- Whether a path leads to a file. -/
def isFile (path : String) : Bool :=
  match disk.open? path with
  | .ok tree => tree.isFile
  | .error _ => false

/-- Whether a path leads to a directory. -/
def isDirectory (path : String) : Bool :=
  match disk.open? path with
  | .ok tree => tree.isDirectory
  | .error _ => false

/-- The one absolute path to what a path leads to. -/
def canonical (path : String) : Except Fault String :=
  (disk.resolve path).map pathOf

/-! ## Reading -/

/-- The bytes of a file. -/
def readBytes (path : String) : Except Fault ByteArray := do
  match ← disk.open? path with
  | .file content => .ok content
  | .directory _ => .error .isDirectory

/-- The text of a file. -/
def readText (path : String) : Except Fault String := do
  let bytes ← disk.readBytes path
  match String.fromUTF8? bytes with
  | some text => .ok text
  | none => .error .notText

/-- The first line of a file with the line feed that ends it, if the file can be read and the line is
text.  What comes after it may be anything. -/
def firstLine? (path : String) : Option (List Char) :=
  match disk.readBytes path with
  | .error _ => none
  | .ok bytes =>
    let line := bytes.toList.takeWhile (· != 0x0A)
    let line := line ++ (bytes.toList.drop line.length).take 1
    (String.fromUTF8? ⟨line.toArray⟩).map String.toList

/-! ## Writing -/

/-- The place that a path is to lead to: the directory above it has to be there. -/
def resolveNew (path : String) : Except Fault (List String) := do
  if path.isEmpty then throw .notFound
  let steps := (Path.pieces path).reverse
  match steps.dropWhile fun s => s == "" || s == "." with
  | [] => disk.follow (disk.origin path) []
  | last :: above =>
    let place ← disk.follow (disk.origin path) above.reverse
    if !disk.holdsDirectory place then throw .notDirectory
    else if last == ".." then return place.dropLast
    else return place ++ [last]

/-- The disk with a tree put at a place. -/
def put (place : List String) (tree : FileTree) : Except Fault Disk :=
  match disk.tree.put? place tree with
  | some whole => .ok { disk with tree := whole }
  | none => .error .notFound

/-- The disk with bytes written to a file. -/
def writeBytes (path : String) (content : ByteArray) : Except Fault Disk := do
  let place ← disk.resolveNew path
  if disk.holdsDirectory place then throw .isDirectory
  else if path.toList.getLast? == some '/' then throw .isDirectory
  else disk.put place (.file content)

/-- The disk with a text written to a file. -/
def writeText (path text : String) : Except Fault Disk :=
  disk.writeBytes path text.toUTF8

/-- The disk with one more directory, in a directory that is there. -/
def makeDirectory (path : String) : Except Fault Disk := do
  let place ← disk.resolveNew path
  if (disk.tree.find? place).isSome then throw .occupied
  else disk.put place .empty

/-- The disk with the directories that the steps lead through from a place, made where they are
missing. -/
def makeSteps (disk : Disk) (place : List String) : List String → Except Fault Disk
  | [] => .ok disk
  | step :: rest =>
    if step == "" || step == "." then makeSteps disk place rest
    else if step == ".." then makeSteps disk place.dropLast rest
    else
      let next := place ++ [step]
      match disk.tree.find? next with
      | some (.directory _) => makeSteps disk next rest
      | some (.file _) => .error (if rest.isEmpty then .occupied else .notDirectory)
      | none => do makeSteps (← disk.put next .empty) next rest

/-- The disk with a directory and all directories above it, made where they are missing. -/
def makeDirectories (path : String) : Except Fault Disk :=
  makeSteps disk (disk.origin path) (Path.pieces path)

/-- The disk without what a path leads to. -/
def remove (path : String) : Except Fault Disk :=
  (disk.resolve path).map fun place => { disk with tree := disk.tree.remove place }

/-- The disk with a file moved from one path to another. -/
def rename (source target : String) : Except Fault Disk := do
  let old ← disk.resolve source
  let new ← disk.resolveNew target
  match disk.tree.find? old with
  | none => throw .notFound
  | some tree =>
    if tree.isFile && disk.holdsDirectory new then throw .isDirectory
    else ({ disk with tree := disk.tree.remove old } : Disk).put new tree

end Disk
end CodeGloss
