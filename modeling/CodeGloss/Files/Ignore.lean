import CodeGloss.Files.Disk
import CodeGloss.Glob
import CodeGloss.Text.Lines

/-!
# Ignored files

Directories may hold files that say which of the files below them are to be left out of a walk.
Every line of such a file is a rule: a pattern, possibly for directories only (a slash at its end),
and possibly taking back what earlier rules left out (an exclamation mark in front).  A pattern with a
slash in it has to fit the path from the directory of the file, and one without fits names at any
depth.

The last rule of a file that fits decides for that file, and the file in the deepest directory
decides against those above it.  Files called `.ignore` count everywhere and before all others.
Files called `.gitignore`, and the `exclude` file inside `.git`, count only below a directory with a
`.git`, and not beyond the innermost such directory.

Git knows one more such file, which belongs to the user and counts in all repositories (the setting
`core.excludesFile`, or `git/ignore` among the settings of the user).  It lies outside the tree, and
its rules are left out here, as if the user had no such file.
-/

namespace CodeGloss
namespace Ignore

/-! ## Rules -/

/-- A line of an ignore file. -/
structure Rule where
  /-- What the rule is about. -/
  pattern : Glob
  /-- Whether it takes files back in. -/
  restores : Bool
  /-- Whether it is about directories only. -/
  onlyDirectories : Bool

/-- What the rules say about a path: whether it is left out. -/
abbrev Verdict := Option Bool

/-- The text of a rule without the mark in front, whether the rule restores, and whether it is tied
to the directory of its file by a leading slash. -/
def unmark (line : List Char) : List Char × Bool × Bool :=
  match line with
  | '\\' :: '!' :: rest => ('!' :: rest, false, false)
  | '\\' :: '#' :: rest => ('#' :: rest, false, false)
  | '!' :: '/' :: rest => (rest, true, true)
  | '!' :: rest => (rest, true, false)
  | '/' :: rest => (rest, false, true)
  | line => (line, false, false)

/-- The text of a rule without a slash at its end, and whether there was one. -/
def unslash (line : List Char) : List Char × Bool :=
  match line.reverse with
  | '/' :: '\\' :: rest => (rest.reverse, true)
  | '/' :: rest => (rest.reverse, true)
  | _ => (line, false)

/-- Whether a pattern already fits at any depth. -/
def fitsAnywhere (pattern : List Char) : Bool :=
  pattern == "**".toList || "**/".toList.isPrefixOf pattern

/-- The pattern to be matched against whole paths.  One without a slash fits at any depth, and one
that ends in a double star fits what is below a directory but not the directory. -/
def wholePattern (pattern : List Char) (tied : Bool) : List Char :=
  let pattern :=
    if tied || pattern.contains '/' || fitsAnywhere pattern then pattern
    else "**/".toList ++ pattern
  if "/**".toList.isSuffixOf pattern then pattern ++ "/*".toList else pattern

/-- The rule on a line, if there is one.  Blank lines and lines that start with a number sign hold
none, nor do lines whose pattern cannot be read. -/
def Rule.ofLine? (line : Line) : Option Rule :=
  if line.head? == some '#' then none
  else
    let line := if "\\ ".toList.isSuffixOf line then line else Text.trimEnd line
    if line.isEmpty then none
    else
      let (pattern, restores, tied) := unmark line
      let (pattern, onlyDirectories) := unslash pattern
      (Glob.read? (String.ofList (wholePattern pattern tied))).map
        fun glob => ⟨glob, restores, onlyDirectories⟩

/-- Whether a rule is about a path. -/
def Rule.concerns (r : Rule) (path : String) (isDirectory : Bool) : Bool :=
  (isDirectory || !r.onlyDirectories) && r.pattern.isMatch true path

/-- What some rules say about a path: the last one about it decides. -/
def verdict (rules : List Rule) (path : String) (isDirectory : Bool) : Verdict :=
  (rules.reverse.find? fun r => r.concerns path isDirectory).map fun r => !r.restores

/-! ## Files -/

/-- The lines of a file that are text, up to the first one that is not. -/
def textLines (content : ByteArray) : List Line :=
  go (pieces content.toList)
where
  /-- The bytes between line feeds. -/
  pieces (bytes : List UInt8) : List (List UInt8) :=
    bytes.foldr
      (fun b acc =>
        if b == 0x0A then [] :: acc
        else
          match acc with
          | [] => [[b]]
          | p :: ps => (b :: p) :: ps)
      [[]]
  /-- The texts of the pieces. -/
  go : List (List UInt8) → List Line
    | [] => []
    | piece :: rest =>
      match String.fromUTF8? piece.toByteArray with
      | some text => Line.withoutReturn text.toList :: go rest
      | none => []

/-- The rules of a file. -/
def rulesOf (content : ByteArray) : List Rule :=
  match textLines content with
  | [] => []
  | first :: rest => (first.dropWhile (· == '\uFEFF') :: rest).filterMap Rule.ofLine?

/-- The rules in a file below a directory, if it is there. -/
def rulesAt (directory : FileTree) (place : List String) : List Rule :=
  match directory.find? place with
  | some (.file content) => rulesOf content
  | _ => []

/-! ## Directories -/

/-- What a directory says about the files below it. -/
structure Level where
  /-- The place of the directory. -/
  place : List String
  /-- The rules that always count. -/
  always : List Rule
  /-- The rules that count below a `.git`. -/
  tracked : List Rule
  /-- The rules inside its `.git`. -/
  excluded : List Rule
  /-- Whether it has a `.git`. -/
  hasGit : Bool

/-- What a directory says. -/
def Level.ofDirectory (place : List String) (directory : FileTree) : Level where
  place := place
  always := rulesAt directory [".ignore"]
  tracked := rulesAt directory [".gitignore"]
  excluded := rulesAt directory [".git", "info", "exclude"]
  hasGit := (directory.find? [".git"]).isSome

/-- The directories above a place, the innermost first. -/
def levelsAbove (tree : FileTree) (place : List String) : List Level :=
  ((List.range place.length).map fun n =>
    let above := place.take n
    Level.ofDirectory above ((tree.find? above).getD .empty)).reverse

/-- The levels up to and with the innermost one that has a `.git`. -/
def upToGit : List Level → List Level
  | [] => []
  | l :: ls => if l.hasGit then [l] else l :: upToGit ls

/-- What the directories around a place say about it, the innermost of them first. -/
def decideAt (levels : List Level) (place : List String) (isDirectory : Bool) : Verdict :=
  let ask := fun (rules : Level → List Rule) (l : Level) =>
    verdict (rules l) ("/".intercalate (place.drop l.place.length)) isDirectory
  let within := if levels.any (·.hasGit) then upToGit levels else []
  levels.findSome? (ask Level.always) <|> within.findSome? (ask Level.tracked) <|>
    within.findSome? (ask Level.excluded)

/-- Whether a walk passes over an entry: it is left out by a rule, or it is hidden and no rule takes
it back in. -/
def skips (levels : List Level) (showHidden : Bool) (place : List String) (name : String)
    (isDirectory : Bool) : Bool :=
  match decideAt levels (place ++ [name]) isDirectory with
  | some leftOut => leftOut
  | none => !showHidden && name.toList.head? == some '.'

/-! ## Walks -/

mutual

/-- The files in a tree at a place, under the directories around it. -/
def walk (levels : List Level) (showHidden : Bool) (place : List String) :
    FileTree → List (List String)
  | .file _ => [place]
  | .directory entries =>
    walkEntries (Level.ofDirectory place (.directory entries) :: levels) showHidden place entries

/-- The files in some entries of the directory at a place. -/
def walkEntries (levels : List Level) (showHidden : Bool) (place : List String) :
    List (String × FileTree) → List (List String)
  | [] => []
  | (name, tree) :: rest =>
    if skips levels showHidden place name tree.isDirectory then
      walkEntries levels showHidden place rest
    else
      walk levels showHidden (place ++ [name]) tree ++ walkEntries levels showHidden place rest

end

/-- The places of the files below the directory at a place that are not passed over. -/
def filesBelow (tree : FileTree) (showHidden : Bool) (place : List String) : List (List String) :=
  match tree.find? place with
  | some directory => walk (levelsAbove tree place) showHidden place directory
  | none => []

end Ignore
end CodeGloss
