import CodeGloss.Path

/-!
# Globs

Patterns for paths.  A question mark stands for one byte, a star for any bytes, brackets for one byte
of a class, and braces for one of several patterns.  A double star between slashes stands for any
number of directories, none included.  A backslash takes the character after it literally.

Patterns work on the bytes of a path, and a pattern has to fit the whole path.  Whether question
marks and stars may stand for slashes is up to the user of the pattern (`strict`).

A pattern is read into pieces (`Glob.read?`), its braces are written out (`Glob.expand`), and each of
the resulting sequences of pieces is matched against a path (`Glob.fits`).
-/

namespace CodeGloss
namespace Glob

/-- A piece of a pattern without braces. -/
inductive Atom where
  /-- A byte. -/
  | byte (value : UInt8)
  /-- Any one byte. -/
  | one
  /-- Any bytes. -/
  | many
  /-- Nothing, or any directories and the slash behind them: a double star at the start. -/
  | leading
  /-- A slash and anything below it: a double star at the end. -/
  | trailing
  /-- A slash, or any directories between two slashes: a double star in the middle. -/
  | between
  /-- A byte in one of some ranges, or in none of them. -/
  | oneOf (negated : Bool) (ranges : List (UInt8 × UInt8))
deriving DecidableEq, Repr

/-- A piece of a pattern. -/
inductive Piece where
  /-- A piece without braces. -/
  | atom (atom : Atom)
  /-- One of several patterns. -/
  | choice (branches : List (List Piece))
deriving Inhabited

/-! ## Matching -/

/-- A slash. -/
def slash : UInt8 := 0x2F

/-- What is left of a path after each of its slashes. -/
def afterSlashes : List UInt8 → List (List UInt8)
  | [] => []
  | b :: rest => if b == slash then rest :: afterSlashes rest else afterSlashes rest

/-- Every end of a path, itself and the empty one included. -/
def ends : List UInt8 → List (List UInt8)
  | [] => [[]]
  | b :: rest => (b :: rest) :: ends rest

/-- Every end of a path before which there is no slash. -/
def nearEnds : List UInt8 → List (List UInt8)
  | [] => [[]]
  | b :: rest => if b == slash then [b :: rest] else (b :: rest) :: nearEnds rest

/-- Whether a sequence of pieces fits a path.  In a `strict` pattern question marks and stars stand
for no slashes. -/
def fits (strict : Bool) : List Atom → List UInt8 → Bool
  | [], path => path.isEmpty
  | .byte value :: atoms, path =>
    match path with
    | b :: rest => b == value && fits strict atoms rest
    | [] => false
  | .one :: atoms, path =>
    match path with
    | b :: rest => !(strict && b == slash) && fits strict atoms rest
    | [] => false
  | .many :: atoms, path => (if strict then nearEnds path else ends path).any (fits strict atoms)
  | .leading :: atoms, path => fits strict atoms path || (afterSlashes path).any (fits strict atoms)
  | .trailing :: atoms, path =>
    match path with
    | b :: rest => b == slash && (ends rest).any (fits strict atoms)
    | [] => false
  | .between :: atoms, path =>
    match path with
    | b :: rest =>
      b == slash && (fits strict atoms rest || (afterSlashes rest).any (fits strict atoms))
    | [] => false
  | .oneOf negated ranges :: atoms, path =>
    match path with
    | b :: rest =>
      (negated != ranges.any fun r => r.1 ≤ b && b ≤ r.2) && fits strict atoms rest
    | [] => false

/-! ## Braces -/

mutual

/-- The sequences of pieces that a pattern stands for.  Empty branches of braces do not count, and
braces without another branch stand for nothing. -/
def expand : List Piece → List (List Atom)
  | [] => [[]]
  | p :: rest => (expandPiece p).flatMap fun head => (expand rest).map (head ++ ·)
termination_by structural pieces => pieces

/-- The sequences of pieces that a piece stands for. -/
def expandPiece : Piece → List (List Atom)
  | .atom a => [[a]]
  | .choice branches =>
    let heads := (expandBranches branches).filter fun h => !h.isEmpty
    if heads.isEmpty then [[]] else heads
termination_by structural piece => piece

/-- The sequences of pieces that some branches stand for. -/
def expandBranches : List (List Piece) → List (List Atom)
  | [] => []
  | b :: bs => expand b ++ expandBranches bs
termination_by structural branches => branches

end

/-! ## Reading -/

/-- A group of braces that is being read: the branches before the current one, and the pieces before
the group, all in reverse. -/
structure Group where
  /-- The branches that are complete, the last one first. -/
  branches : List (List Piece)
  /-- The pieces of the pattern around the group, the last one first. -/
  around : List Piece

/-- A pattern that is being read. -/
structure Draft where
  /-- The pieces of the current branch, the last one first. -/
  pieces : List Piece := []
  /-- The open groups, the innermost one first. -/
  groups : List Group := []

namespace Draft

/-- One more piece. -/
def push (d : Draft) (a : Atom) : Draft :=
  { d with pieces := .atom a :: d.pieces }

/-- One more literal character. -/
def pushChar (d : Draft) (c : Char) : Draft :=
  (String.utf8EncodeChar c).foldl (fun d b => d.push (.byte b)) d

/-- The start of a group. -/
def openGroup (d : Draft) : Draft :=
  ⟨[], ⟨[], d.pieces⟩ :: d.groups⟩

/-- The next branch of the innermost group; a comma outside groups is a comma. -/
def nextBranch (d : Draft) : Draft :=
  match d.groups with
  | [] => d.pushChar ','
  | g :: gs => ⟨[], ⟨d.pieces.reverse :: g.branches, g.around⟩ :: gs⟩

/-- The end of the innermost group. -/
def closeGroup? (d : Draft) : Option Draft :=
  match d.groups with
  | [] => none
  | g :: gs => some ⟨.choice (d.pieces.reverse :: g.branches).reverse :: g.around, gs⟩

/-- A double star after `before`, with `rest` following, and what is left to read.  Only between the
ends of the pattern, slashes and the edges of a group does it stand for directories. -/
def doubleStar (d : Draft) (before : Option Char) (rest : List Char) : Draft × List Char :=
  let plain := ((d.push .many).push .many, rest)
  let inGroup := !d.groups.isEmpty
  if d.pieces.isEmpty then
    match rest with
    | [] => (d.push .leading, [])
    | '/' :: rest => (d.push .leading, rest)
    | _ => plain
  else if before != some '/' && !(inGroup && (before == some ',' || before == some '{')) then plain
  else
    let replace := fun last : Atom =>
      match d.pieces with
      | .atom .leading :: _ => d
      | .atom .trailing :: _ => d
      | _ :: others => ({ d with pieces := .atom last :: others } : Draft)
      | [] => d
    match rest with
    | [] => (replace .trailing, [])
    | '/' :: rest => (replace .between, rest)
    | c :: _ => if inGroup && (c == ',' || c == '}') then (replace .trailing, rest) else plain

end Draft

/-- A class of bytes that is being read. -/
structure ClassDraft where
  /-- The ranges, the last one first. -/
  ranges : List (Char × Char) := []
  /-- Whether a dash has been read that may make a range with the next character. -/
  dash : Bool := false

/-- Reads a class after its bracket and its negation, up to and with its closing bracket. -/
def class? (first : Bool) (d : ClassDraft) : List Char → Option (List (Char × Char) × List Char)
  | [] => none
  | c :: rest =>
    if c == ']' && !first then
      some ((if d.dash then ('-', '-') :: d.ranges else d.ranges).reverse, rest)
    else if c == '-' && !first && !d.dash then class? false { d with dash := true } rest
    else if d.dash then
      match d.ranges with
      | (low, _) :: others =>
        if c < low then none else class? false ⟨(low, c) :: others, false⟩ rest
      | [] => none
    else class? false { d with ranges := (c, c) :: d.ranges } rest

/-- The ranges of bytes that ranges of characters stand for.  A character of several bytes stands for
each of them, and a range between two such for the bytes between the last of the one and the first of
the other. -/
def byteRanges (ranges : List (Char × Char)) : List (UInt8 × UInt8) :=
  ranges.flatMap fun r =>
    let low := String.utf8EncodeChar r.1
    let high := String.utf8EncodeChar r.2
    if r.1 == r.2 then low.map fun b => (b, b)
    else
      low.dropLast.map (fun b => (b, b)) ++ [(low.getLastD 0, high.headD 0)] ++
        high.tail.map fun b => (b, b)

/-- Reads a class after its opening bracket. -/
def bracket? (s : List Char) : Option (Atom × List Char) :=
  let (negated, s) := match s with
    | '!' :: rest => (true, rest)
    | '^' :: rest => (true, rest)
    | s => (false, s)
  (class? true {} s).map fun r => (.oneOf negated (byteRanges r.1), r.2)

/-- Reads the rest of a pattern after the character `before`. -/
def pieces? : Nat → Draft → Option Char → List Char → Option (List Piece)
  | 0, _, _, _ => none
  | _ + 1, d, _, [] => if d.groups.isEmpty then some d.pieces.reverse else none
  | fuel + 1, d, before, c :: rest =>
    match c with
    | '?' => pieces? fuel (d.push .one) (some c) rest
    | '*' =>
      match rest with
      | '*' :: rest =>
        let (d, rest') := d.doubleStar before rest
        pieces? fuel d (if rest'.length < rest.length then some '/' else some '*') rest'
      | _ => pieces? fuel (d.push .many) (some c) rest
    | '[' => (bracket? rest).bind fun r => pieces? fuel (d.push r.1) (some ']') r.2
    | '{' => pieces? fuel d.openGroup (some c) rest
    | '}' => d.closeGroup?.bind fun d => pieces? fuel d (some c) rest
    | ',' => pieces? fuel d.nextBranch (some c) rest
    | '\\' =>
      match rest with
      | [] => none
      | e :: rest => pieces? fuel (d.pushChar e) (some e) rest
    | c => pieces? fuel (d.pushChar c) (some c) rest

end Glob

/-- A pattern for paths, as the sequences of pieces that it stands for. -/
structure Glob where
  /-- The sequences of pieces, any of which may fit. -/
  alternatives : List (List Glob.Atom)
deriving Repr

namespace Glob

/-- What a sequence of pieces stands for.  Directories alone, with nothing said of what is in them,
stand for everything. -/
def whole : List Piece → List (List Atom)
  | [.atom .leading] => [[.leading, .many]]
  | pieces => expand pieces

/-- The pattern that a text spells, if it is one. -/
def read? (pattern : String) : Option Glob :=
  let s := pattern.toList
  (pieces? (s.length + 1) {} none s).map fun pieces => ⟨whole pieces⟩

/-- Whether a pattern fits a path.  In a `strict` pattern question marks and stars stand for no
slashes. -/
def isMatch (g : Glob) (strict : Bool) (path : String) : Bool :=
  g.alternatives.any fun atoms => fits strict atoms (Path.bytes path)

end Glob
end CodeGloss
