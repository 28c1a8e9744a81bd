import CodeGloss.Language
import CodeGloss.View.Grammar.FirstLine

/-!
# Grammars

Which grammar a source text is coloured with.  Its file decides first, then the language, then the
first line of the text; and the file once more if all it says is that the text is plain.  Of the file
it is the name that counts.  Extensions are compared without regard to the case of ASCII letters, and
a whole file name may stand where an extension does.

If the name says nothing the file is opened and its first line is read, as it is on the disk by then.
So the grammar of a text may depend on more than the text.
-/

namespace CodeGloss
namespace Grammar

/-- The first lines of the files on a disk, by path, each with the line feed that ends it.  A file has
none if it cannot be read, or if the line is not text. -/
abbrev FirstLines := String → Option (List Char)

/-- The first lines where there are no files. -/
def FirstLines.nowhere : FirstLines := fun _ => none

/-- The grammar for the name of a file. -/
def ofName? (path : String) : Option String :=
  match (Path.fileName? path).bind ofExtension? with
  | some grammar => some grammar
  | none => (Path.extension? path).bind ofExtension?

/-- The grammar for a file.  Its first line is read only if its name says nothing. -/
def ofPath? (firsts : FirstLines) (path : String) : Option String :=
  match ofName? path with
  | some grammar => some grammar
  | none => (firsts path).bind ofFirstLine?

/-- The grammar for a text of which the path, the language and the lines are given as far as they are
known. -/
def choose (path : Option String) (hint : Hint) (lines : List (List Char))
    (firsts : FirstLines) : Option String :=
  let byPath := path.bind (ofPath? firsts)
  (byPath.filter (· != plainText)) <|>
    ((hint.map Language.grammarToken).bind ofExtension?) <|>
    (lines.head?.bind ofFirstLine?) <|>
    byPath

end Grammar
end CodeGloss
