import CodeGloss.Text.Blank
import CodeGloss.Text.Search
import CodeGloss.Text.Word
import CodeGloss.View.Grammar.Names

/-!
# First lines

Some texts say in their first line what they are: scripts name the program that runs them, documents
their format, and editors leave notes to themselves.  Each grammar that can be asked for in this way
has a test, and the first one in `signs` that is passed decides.

A program is named by a word, and words are told apart by the letters, marks, digits and connectors
around them, so `#!/bin/sh` asks for a shell and `#!/bin/sh4` for nothing.

A line may come with the line feed that ends it or without it.
-/

namespace CodeGloss
namespace Grammar

/-! ## Parts of a line -/

/-- Whether some end of a text passes a test, the whole text and the empty end included. -/
def anyEnd (test : List Char → Bool) : List Char → Bool
  | [] => test []
  | c :: rest => test (c :: rest) || anyEnd test rest

/-- What follows some letters at the start of a text. -/
def afterLetters? (letters : String) (s : List Char) : Option (List Char) :=
  if letters.toList.isPrefixOf s then some (s.drop letters.length) else none

/-- Whether a text begins with some letters. -/
def begins (letters : String) (s : List Char) : Bool :=
  letters.toList.isPrefixOf s

/-- Whether some letters stand anywhere in a text. -/
def mentions (letters : String) (s : List Char) : Bool :=
  Text.occurs letters.toList s

/-- A text without the blanks at its start. -/
def unindented (s : List Char) : List Char :=
  s.dropWhile Text.isBlank

/-- A text in small letters. -/
def small (s : List Char) : List Char :=
  s.map Char.toLower

/-- Whether a character belongs to a word.  The two joining controls do not. -/
def isWordPart (c : Char) : Bool :=
  Text.isWord c && c != '\u200C' && c != '\u200D'

/-- Whether a word that has just been read is complete. -/
def endsWord (rest : List Char) : Bool :=
  !(rest.head?.any isWordPart)

/-- A text without the digit at its start. -/
def withoutDigit (s : List Char) : List Char :=
  match s with
  | c :: rest => if Text.isDigit c then rest else s
  | [] => []

/-- Whether a word begins somewhere in a text that follows the character `before`, such that what
comes after its letters passes a test. -/
def hasWord (letters : String) (test : List Char → Bool) : Option Char → List Char → Bool
  | _, [] => false
  | before, c :: rest =>
    (!before.any isWordPart && (afterLetters? letters (c :: rest)).any test) ||
      hasWord letters test (some c) rest

/-- Whether nothing is left of a line but the line feed that may end it. -/
def isOver : List Char → Bool
  | [] | ['\n'] => true
  | _ => false

/-! ## Scripts -/

/-- What follows the two characters that introduce the program of a script. -/
def program? (line : List Char) : Option (List Char) :=
  afterLetters? "#!" line

/-- What follows the first slash of the program of a script, if the program begins with it. -/
def programPath? (line : List Char) : Option (List Char) :=
  (program? line).bind fun rest => afterLetters? "/" (unindented rest)

/-- Whether the program of a script is named by one of some words. -/
def runs (words : List String) (line : List Char) : Bool :=
  (program? line).any fun rest => words.any fun word => hasWord word endsWord none rest

/-- Whether the program of a script is given by a path in which one of some words stands. -/
def runsPath (words : List String) (test : List Char → Bool) (line : List Char) : Bool :=
  (programPath? line).any fun rest => words.any fun word => hasWord word test none rest

/-- Whether a text mentions PHP, with or without a version, and not as the end of a name with a
hyphen. -/
def mentionsPhp : Option Char → List Char → Bool
  | _, [] => false
  | before, c :: rest =>
    (before != some '-' &&
      (afterLetters? "php" (c :: rest)).any fun after =>
        endsWord after || endsWord (withoutDigit after)) ||
      mentionsPhp (some c) rest

/-! ## Notes and formats -/

/-- Whether an editor is told that the text is a shell script. -/
def isShellNote (line : List Char) : Bool :=
  match (afterLetters? "#" line).bind fun rest => afterLetters? "-*-" (unindented rest) with
  | none => false
  | some rest =>
    let note := rest.takeWhile (· != '*')
    note.getLast? == some '-' && begins "*-" (rest.drop note.length) &&
      anyEnd (fun s => (afterLetters? "mode:" s).any fun mode =>
        begins "shell-script" (unindented mode)) note

/-- Whether an editor is told that the text is in the language of the given name. -/
def isModeNote (name : String) (line : List Char) : Bool :=
  mentions ("-*- " ++ name ++ " -*-") line || mentions ("-*- Mode: " ++ name ++ " -*-") line

/-- Whether the text is a document with a head of its own. -/
def isCompleteFormat (line : List Char) : Bool :=
  ((afterLetters? "format:" (small line)).bind fun rest =>
    afterLetters? "complete" (unindented rest)).any fun rest => rest.all Text.isBlank

/-- Whether the text is a document of the web. -/
def isWebPage (line : List Char) : Bool :=
  anyEnd (fun s =>
      begins "<html" s ||
        (afterLetters? "<!doctype" s).any fun rest => begins "html" (unindented rest))
    (small line)

/-! ## Differences -/

/-- What is left of a text behind the numbers at its start, which are separated by commas. -/
def afterNumbers? (s : List Char) : Option (List Char) :=
  match s with
  | [] => none
  | c :: rest => if Text.isDigit c then some (go rest) else none
where
  /-- The rest behind further digits and numbers. -/
  go : List Char → List Char
    | [] => []
    | [c] => if Text.isDigit c then [] else [c]
    | c :: d :: rest =>
      if Text.isDigit c || (c == ',' && Text.isDigit d) then go (d :: rest) else c :: d :: rest

/-- Whether a line tells which lines were added, deleted or changed. -/
def isLineChange (line : List Char) : Bool :=
  match afterNumbers? line with
  | some (c :: rest) => ['a', 'd', 'c'].contains c && (afterNumbers? rest).any isOver
  | _ => false

/-- Whether a line ends in a year. -/
def isDated (line : List Char) : Bool :=
  let year := ((line.reverse.dropWhile Text.isBlank).takeWhile Text.isDigit).take 4
  begins "***" line && year.length == 4

/-- Whether a line names two versions of a file in a depot. -/
def isDepotDifference (line : List Char) : Bool :=
  ((afterLetters? "====" line).bind fun rest => afterLetters? "//" (unindented rest)).any fun rest =>
    anyEnd (fun s =>
      match s with
      | b :: '-' :: d :: second =>
        Text.isBlank b && Text.isBlank d &&
          anyEnd (fun t => t.head?.any Text.isBlank && begins "====" (t.drop 1)) (second.drop 1)
      | _ => false) (rest.drop 1)

/-- Whether a line names a commit. -/
def isCommit (line : List Char) : Bool :=
  (afterLetters? "commit " line).any fun rest =>
    let name := rest.take 40
    name.length == 40 && isOver (rest.drop 40) &&
      name.all fun c => Text.isDigit c || ('a' ≤ c && c ≤ 'f')

/-- Whether a line begins the differences between two texts. -/
def isDifference (line : List Char) : Bool :=
  begins "=== modified file" line || isDepotDifference line || begins "Index: " line ||
    (afterLetters? "--- " line).any (fun rest => !isOver rest && rest.head? != some '%') ||
    isDated line ||
    isLineChange line || begins "diff --git " line || isCommit line

/-! ## Signs -/

/-- The grammars that a first line may ask for, each with its test. -/
def signs : List (String × (List Char → Bool)) :=
  [("YAML", begins "%YAML"),
    ("XML", fun line => (afterLetters? "<?xml" line).any fun rest => rest.head?.any Text.isBlank),
    ("Textile", mentions "textile"),
    (shell, fun line => runs ["bash", "zsh", "sh", "tcsh"] line || isShellNote line),
    ("Ruby", runsPath ["ruby"] endsWord),
    ("Python", runsPath ["python"] fun rest => endsWord rest || endsWord (withoutDigit rest)),
    ("Perl", runs ["perl"]),
    ("PHP", fun line => (program? line).any (mentionsPhp none) || begins "<?php" line),
    ("MultiMarkdown", isCompleteFormat),
    ("Makefile", runs ["make"]),
    ("Lua", runs ["lua"]),
    ("LaTeX", fun line =>
      (afterLetters? "\\documentclass" line).any fun rest => !mentions "\x7bbeamer\x7d" rest),
    ("JavaScript", runsPath ["node", "js"] endsWord),
    ("HTML", isWebPage),
    ("Diff", isDifference),
    ("D", fun line => (program? line).any fun rest =>
      ["gdmd", "dmd"].any fun word =>
        hasWord word (fun after => !isOver after && endsWord after) none rest),
    ("C", isModeNote "C"),
    ("C++", isModeNote "C++"),
    ("AppleScript", fun line => (program? line).any (mentions "osascript"))]

/-- The grammar that the first line of a text asks for.  A byte order mark in front of it does not
count. -/
def ofFirstLine? (line : List Char) : Option String :=
  let line := if line.head? == some '\uFEFF' then line.drop 1 else line
  (signs.find? fun sign => sign.2 line).map (·.1)

end Grammar
end CodeGloss
