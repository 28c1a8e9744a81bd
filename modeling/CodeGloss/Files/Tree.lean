/-!
# File trees

A file tree is a file with its bytes or a directory with its entries.  Places in a tree are lists of
names, read from the top.  There are no links, so a place has one such list.

* `find?`: what is at a place.
* `put?`: a tree with a file or directory put at a place, where the directory above it exists.
* `remove`: a tree without what is at a place.
-/

namespace CodeGloss

/-- A file, or a directory of named trees. -/
inductive FileTree where
  /-- A file and its bytes. -/
  | file (content : ByteArray)
  /-- A directory and its entries. -/
  | directory (entries : List (String × FileTree))
deriving Inhabited

namespace FileTree

/-- The directory without entries. -/
def empty : FileTree := directory []

/-- Whether this is a file. -/
def isFile : FileTree → Bool
  | file _ => true
  | directory _ => false

/-- Whether this is a directory. -/
def isDirectory : FileTree → Bool
  | file _ => false
  | directory _ => true

/-- The entries of a directory; a file has none. -/
def entries : FileTree → List (String × FileTree)
  | file _ => []
  | directory es => es

/-- Entries with the one called `name` replaced, or added at the end. -/
def setEntry (name : String) (tree : FileTree) :
    List (String × FileTree) → List (String × FileTree)
  | [] => [(name, tree)]
  | e :: es => if e.1 == name then (name, tree) :: es else e :: setEntry name tree es

/-- What is at a place. -/
def find? : FileTree → List String → Option FileTree
  | tree, [] => some tree
  | file _, _ :: _ => none
  | directory es, name :: rest =>
    match es.lookup name with
    | some tree => tree.find? rest
    | none => none

/-- The tree with `tree` put at a place.  What was there is replaced; the directory above has to be
there. -/
def put? : FileTree → List String → FileTree → Option FileTree
  | _, [], tree => some tree
  | file _, _ :: _, _ => none
  | directory es, [name], tree => some (directory (setEntry name tree es))
  | directory es, name :: rest, tree =>
    match es.lookup name with
    | some below => (below.put? rest tree).map fun below => directory (setEntry name below es)
    | none => none

/-- The tree without what is at a place. -/
def remove : FileTree → List String → FileTree
  | tree, [] => tree
  | file content, _ :: _ => file content
  | directory es, [name] => directory (es.filter fun e => e.1 != name)
  | directory es, name :: rest =>
    match es.lookup name with
    | some below => directory (setEntry name (below.remove rest) es)
    | none => directory es

end FileTree
end CodeGloss
