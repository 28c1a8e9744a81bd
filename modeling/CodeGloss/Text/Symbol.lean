import CodeGloss.Text.Blank
import CodeGloss.Text.SymbolRanges
import CodeGloss.Text.Word

/-!
# Symbols

The symbols that a text is made of.  A symbol is what a reader takes for one sign: a character with
the marks that extend it, a syllable, consonants that a linker joins, pictures that are joined into
one, the two letters of a flag, or a carriage return with its line feed.

* `joins`: whether a character belongs to the symbol before it.
* `symbols`: the symbols of a text.  Put together they are the text again.
-/

namespace CodeGloss
namespace Text

/-! ## Kinds of characters -/

/-- A joiner of pictures. -/
def joiner : Char := '\u200D'

/-- Whether a character always stands alone. -/
def standsAlone (c : Char) : Bool :=
  c == '\n' || c == '\r' || inRanges controlRanges c.toNat

/-- Whether a character is a picture. -/
def isPicture (c : Char) : Bool :=
  inRanges pictographRanges c.toNat

/-- Whether a character is a letter of a flag. -/
def isFlagLetter (c : Char) : Bool :=
  0x1F1E6 ≤ c.toNat && c.toNat ≤ 0x1F1FF

/-- Whether a character is a mark that extends the one before it. -/
def isExtending (c : Char) : Bool :=
  inRanges extendingRanges c.toNat

/-- Whether a character joins two consonants. -/
def isLinker (c : Char) : Bool :=
  inRanges linkerRanges c.toNat

/-- Whether a character may stand between a linker and the consonants that it joins. -/
def isWithinConjunct (c : Char) : Bool :=
  c == joiner || (isExtending c && c != '\u200C')

/-! ## Syllables -/

/-- Whether a character is a consonant at the start of a syllable. -/
def isInitial (c : Char) : Bool :=
  inRanges [(0x1100, 0x115F), (0xA960, 0xA97C)] c.toNat

/-- Whether a character is a vowel inside a syllable. -/
def isVowel (c : Char) : Bool :=
  inRanges [(0x1160, 0x11A7), (0xD7B0, 0xD7C6), (0x16D63, 0x16D63), (0x16D67, 0x16D6A)] c.toNat

/-- Whether a character is a consonant at the end of a syllable. -/
def isFinal (c : Char) : Bool :=
  inRanges [(0x11A8, 0x11FF), (0xD7CB, 0xD7FB)] c.toNat

/-- Whether a character is a whole syllable. -/
def isSyllable (c : Char) : Bool :=
  0xAC00 ≤ c.toNat && c.toNat ≤ 0xD7A3

/-- Whether a character is a whole syllable that has no consonant at its end. -/
def isOpenSyllable (c : Char) : Bool :=
  isSyllable c && (c.toNat - 0xAC00) % 28 == 0

/-- Whether a character belongs to the syllable that ends in `p`. -/
def joinsSyllable (p c : Char) : Bool :=
  (isInitial p && (isInitial c || isVowel c || isSyllable c)) ||
    ((isVowel p || isOpenSyllable p) && (isVowel c || isFinal c)) ||
    ((isFinal p || (isSyllable p && !isOpenSyllable p)) && isFinal c)

/-! ## What belongs together -/

/-- Whether a character is joined by a linker to a consonant of the symbol whose characters so far are
given in reverse. -/
def joinsConsonant (last : List Char) (c : Char) : Bool :=
  inRanges conjunctRanges c.toNat && (last.takeWhile isWithinConjunct).any isLinker &&
    (last.dropWhile isWithinConjunct).head?.any fun p => inRanges conjunctRanges p.toNat

/-- Whether a character is joined to a picture of the symbol whose characters so far are given in
reverse. -/
def joinsPicture (last : List Char) (c : Char) : Bool :=
  match last with
  | [] => false
  | p :: before =>
    p == joiner && isPicture c && (before.dropWhile isExtending).head?.any isPicture

/-- Whether a character completes a flag of the symbol whose characters so far are given in reverse. -/
def joinsFlag (last : List Char) (c : Char) : Bool :=
  isFlagLetter c && (last.takeWhile isFlagLetter).length % 2 == 1

/-- Whether a character belongs to the symbol whose characters so far are given in reverse. -/
def joins (last : List Char) (c : Char) : Bool :=
  match last with
  | [] => false
  | p :: _ =>
    if p == '\r' && c == '\n' then true
    else if standsAlone p || standsAlone c then false
    else
      c == joiner || isExtending c || inRanges spacingRanges c.toNat ||
        inRanges leadingRanges p.toNat || joinsSyllable p c || joinsConsonant last c ||
        joinsPicture last c || joinsFlag last c

/-! ## Symbols -/

/-- What is shown in one place: a character and those bound to it. -/
structure Symbol where
  /-- The characters. -/
  chars : List Char
deriving DecidableEq, Repr, Inhabited

namespace Symbol

/-- The symbol of one character. -/
def ofChar (c : Char) : Symbol :=
  ⟨[c]⟩

/-- Whether a line may be broken at the symbol.  A no-break space is not blank. -/
def isBlank (s : Symbol) : Bool :=
  s.chars == ['\u200B'] || (s.chars.all Text.isBlank && s.chars != ['\u00A0'])

end Symbol

/-- The symbols of a text, when the characters of the last one so far are given in reverse. -/
def symbolsFrom (last : List Char) : List Char → List Symbol
  | [] => if last.isEmpty then [] else [⟨last.reverse⟩]
  | c :: rest =>
    if last.isEmpty || joins last c then symbolsFrom (c :: last) rest
    else ⟨last.reverse⟩ :: symbolsFrom [c] rest

/-- The symbols of a text. -/
def symbols (s : List Char) : List Symbol :=
  symbolsFrom [] s

/-- The symbols of a text, without the line feeds. -/
def shownSymbols (s : List Char) : List Symbol :=
  (symbols s).filter fun symbol => symbol != .ofChar '\n'

end Text
end CodeGloss
