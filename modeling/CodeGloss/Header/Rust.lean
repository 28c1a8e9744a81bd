import CodeGloss.Header.Rule
import CodeGloss.Header.Scanner

/-!
# Headers of Rust items

Functions, type definitions and `impl` blocks.  An `impl` block is named by its subject, the text
between the optional generic parameters and the brace, a `where` clause or the end of the line.
-/

namespace CodeGloss
namespace Header

open Scanner Text

/-- What follows `pub`, with its restriction in parentheses if it has one, and its blanks. -/
def skipVisibility (s : List Char) : List Char :=
  (do
    let rest ← after? "pub" s
    let rest ← skipGroup? '(' ')' rest
    afterBlanks? rest).getD s

/-- The visibility of an item, and blanks. -/
def visibility : Pattern :=
  .all [.text "pub", .optional (.group '(' ')'), .gap]

/-! ## Functions -/

/-- What follows `extern` with its quoted name, and its blanks. -/
def skipExtern (s : List Char) : List Char :=
  (do
    let rest ← afterWord? "extern" s
    let rest ← after? "\"" rest
    let rest ← afterFirst? '"' rest
    afterBlanks? rest).getD s

/-- The calling convention of a function, and blanks. -/
def convention : Pattern :=
  .all [.apart "extern", .char '"', .upTo '"', .gap]

/-- Reads qualifiers, `fn` and a name. -/
def scanFn (line : Line) : Option Capture := do
  let s := skipVisibility (trimStart line)
  let s := skipExtern (skipWords ["default", "const", "async", "unsafe"] s)
  let s ← afterWord? "fn" s
  let (name, _) ← plainName? s
  some ⟨name, []⟩

/-- Functions. -/
def rustFn : Rule where
  label := "rust-fn"
  kind := .function
  style := .brace
  languages := [.rust]
  guarded := false
  pattern := .all [.blanks, .optional visibility, .optional (.apart "default"),
    .optional (.apart "const"), .optional (.apart "async"), .optional (.apart "unsafe"),
    .optional convention, .apart "fn", .name (.word isNameStart isWord)]
  scan := scanFn

/-! ## Types -/

/-- Reads qualifiers, the word for a type definition and a name. -/
def scanType (line : Line) : Option Capture := do
  let s := skipWord "unsafe" (skipVisibility (trimStart line))
  let s ← afterAnyWord? ["struct", "enum", "union", "trait"] s
  let (name, _) ← plainName? s
  some ⟨name, []⟩

/-- Structures, enumerations, unions and traits. -/
def rustType : Rule where
  label := "rust-type"
  kind := .classLike
  style := .brace
  languages := [.rust]
  guarded := false
  pattern := .all [.blanks, .optional visibility, .optional (.apart "unsafe"),
    .anyApart ["struct", "enum", "union", "trait"], .name (.word isNameStart isWord)]
  scan := scanType

/-! ## Implementations -/

/-- The text between the generic parameters and what ends it. -/
def subject : Pattern :=
  .seq (.one (· != '{')) (.few (.one (· != '{')))

/-- A brace, the word `where` or the end of the line. -/
def subjectEnd : Pattern :=
  .anyOf [.char '{', .all [.edge, .text "where", .edge], .ending]

/-- Whether the subject of an `impl` may end before `s`, where `last` is its last character. -/
def endsSubject (last : Char) (s : List Char) : Bool :=
  let t := trimStart s
  match t with
  | [] => true
  | '{' :: _ => true
  | _ => startsWord "where" t && (t.length < s.length || !isWord last)

/-- The rest of the shortest subject whose last character so far is `last`. -/
def subjectTail (last : Char) : List Char → List Char
  | [] => []
  | c :: rest => if endsSubject last (c :: rest) then [] else c :: subjectTail c rest

/-- The subject that starts after at least one blank.  Where a brace or the end of the line follows
the blanks, the last of two or more blanks has to stand for the subject. -/
def subject? (s : List Char) : Option (List Char) := do
  let rest ← afterBlanks? s
  let blank := (s.takeWhile isBlank).tail.getLast?.map ([·])
  match rest with
  | [] => blank
  | '{' :: _ => blank
  | c :: rest => some (c :: subjectTail c rest)

/-- Reads `impl`, generic parameters up to the first closing angle bracket, and a subject. -/
def scanImpl (line : Line) : Option Capture := do
  let s ← after? "impl" (skipWord "unsafe" (trimStart line))
  let s ← skipGroup? '<' '>' s
  let name ← subject? s
  some ⟨name, []⟩

/-- Implementations. -/
def rustImpl : Rule where
  label := "rust-impl"
  kind := .classLike
  style := .brace
  languages := [.rust]
  guarded := false
  pattern := .all [.blanks, .optional (.apart "unsafe"), .text "impl",
    .optional (.group '<' '>'), .gap, .name subject, .blanks, subjectEnd]
  scan := scanImpl

end Header
end CodeGloss
