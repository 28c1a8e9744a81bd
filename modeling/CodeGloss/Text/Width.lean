import CodeGloss.Text.PictureRanges
import CodeGloss.Text.Symbol
import CodeGloss.Text.WidthRanges

/-!
# Widths

How many cells of a terminal a text takes up.  Most characters take up as many wherever they stand,
but some are written as one sign with what follows them: letters form ligatures, pictures that are
joined are one picture, a picture with a shade of skin is as wide as without it, and a mark behind a
character may ask for its plain or its coloured form.  So a text is measured from its end, and what
has been read is remembered as far as it matters to the character in front of it.

* `baseWidth`: the cells of a character that stands alone.
* `Sequel`: what follows a character.
* `measure`: the cells that a character adds, given what follows it.
* `width`: the cells of a text.
-/

namespace CodeGloss
namespace Text

/-! ## Characters that stand alone -/

/-- The number of cells that a character takes up by itself.  Control characters have one. -/
def baseWidth (c : Char) : Nat :=
  if c.toNat ≤ 0xA0 then 1
  else if inRanges zeroWidthRanges c.toNat then 0
  else if inRanges doubleWidthRanges c.toNat then 2
  else if c == '\u17D8' then 3
  else 1

/-- The mark that asks for the coloured form of the character before it. -/
def colouredForm : Char := '\uFE0F'

/-- The mark that asks for the plain form of the character before it. -/
def plainForm : Char := '\uFE0E'

/-- Whether a character has a plain and a coloured form. -/
def hasTwoForms (c : Char) : Bool :=
  inRanges twoFormRanges c.toNat

/-- Whether a character is shown in colour where nothing else is asked for. -/
def isColoured (c : Char) : Bool :=
  inRanges colouredPictureRanges c.toNat

/-- Whether the plain form of a character is narrower than the coloured one.  That of an enclosed
ideograph is not. -/
def narrowsWhenPlain (c : Char) : Bool :=
  hasTwoForms c && isColoured c && !(0x1F200 ≤ c.toNat && c.toNat ≤ 0x1F2FF)

/-- Whether a character is a shade of skin. -/
def isShade (c : Char) : Bool :=
  0x1F3FB ≤ c.toNat && c.toNat ≤ 0x1F3FF

/-- Whether a character may stand within a ligature without being seen. -/
def isUnseen (c : Char) : Bool :=
  inRanges [(0x34F, 0x34F), (0x17B4, 0x17B5), (0x180B, 0x180D), (0x180F, 0x180F), (0xFE00, 0xFE0F),
    (0xE0100, 0xE01EF)] c.toNat

/-! ## Letters of ligatures -/

/-- A letter that may be written as one sign with those in front of it. -/
inductive LigatureEnd where
  /-- A Hebrew lamed, which a joiner binds to an alef. -/
  | lamed
  /-- A Buginese ya, which a joiner binds to a vowel sign. -/
  | ya
  /-- A Buginese vowel sign with the ya that is bound to it, which a letter a may precede. -/
  | vowelAndYa
  /-- A Tifinagh consonant, which is bound to another one. -/
  | consonant
  /-- A Tifinagh consonant with the sign that binds it. -/
  | boundConsonant
  /-- A Lisu tone letter, which may be the second of two. -/
  | tone
  /-- An Old Turkic i, which a joiner binds to another letter. -/
  | orkhonI
  /-- A Khmer letter, which may be written below another one. -/
  | subscribed
deriving DecidableEq, Repr

/-- Whether a character is a Tifinagh consonant. -/
def isTifinaghConsonant (c : Char) : Bool :=
  (0x2D31 ≤ c.toNat && c.toNat ≤ 0x2D65) || c == '\u2D6F'

/-- Whether a character is a Khmer letter that may be written below another one. -/
def isSubscribable (c : Char) : Bool :=
  inRanges [(0x1780, 0x1782), (0x1784, 0x1787), (0x1789, 0x178C), (0x178E, 0x1793),
    (0x1795, 0x1798), (0x179B, 0x179D), (0x17A0, 0x17A0), (0x17A2, 0x17A2), (0x17A7, 0x17A7),
    (0x17AB, 0x17AC), (0x17AF, 0x17AF)] c.toNat

/-- Whether a character is an Arabic alef of some form. -/
def isAlef (c : Char) : Bool :=
  inRanges [(0x622, 0x623), (0x625, 0x625), (0x627, 0x627), (0x671, 0x673), (0x675, 0x675),
    (0x773, 0x774), (0x870, 0x882)] c.toNat

/-- Whether a character is an Arabic lam of some form. -/
def isLam (c : Char) : Bool :=
  inRanges [(0x644, 0x644), (0x6B5, 0x6B8), (0x76A, 0x76A), (0x8A6, 0x8A6), (0x8C7, 0x8C7)] c.toNat

namespace LigatureEnd

/-- The end of a ligature that a character may be. -/
def ofChar? (c : Char) : Option LigatureEnd :=
  if c == '\u05DC' then some lamed
  else if c == '\u1A10' then some ya
  else if isTifinaghConsonant c then some consonant
  else if c == '\uA4FC' || c == '\uA4FD' then some tone
  else if c.toNat == 0x10C03 then some orkhonI
  else if isSubscribable c then some subscribed
  else none

end LigatureEnd

/-! ## What follows a character -/

/-- What follows a character, as far as it matters to the width of that character. -/
inductive Sequel where
  /-- Nothing that matters. -/
  | ordinary
  /-- A line feed. -/
  | lineFeed
  /-- A shade of skin. -/
  | shade
  /-- One letter of a flag. -/
  | flagLetter
  /-- Several letters of flags. -/
  | flagLetters
  /-- A picture in colour. -/
  | picture
  /-- A joiner and a picture. -/
  | joinedPicture
  /-- The frame of a key, joined to a picture. -/
  | joinedKey
  /-- One letter of a flag, joined to a picture. -/
  | joinedFlagLetter
  /-- An even number of letters of flags, joined to a picture. -/
  | joinedFlags
  /-- An odd number of letters of flags, three or more, joined to a picture. -/
  | joinedFlagsAndLetter
  /-- The end of the name of a region, joined to a picture. -/
  | regionName (letters digits : Nat)
  /-- An Arabic alef, which forms a ligature with a lam. -/
  | alef
  /-- The end of a ligature; `joined` if a joiner stands in front of it. -/
  | ligature (letter : LigatureEnd) (joined : Bool)
deriving DecidableEq, Repr

namespace Sequel

/-- What is left of a sequel when a form was asked for in vain in front of it. -/
def past : Sequel → Sequel
  | alef => alef
  | ligature letter joined => ligature letter joined
  | _ => ordinary

/-- What is left of a sequel when the coloured form is asked for in front of it. -/
def beforeColour : Sequel → Sequel
  | joinedPicture => joinedPicture
  | joinedKey => joinedKey
  | s => s.past

/-- The cells that a character adds and the sequel that it begins when it stands alone. -/
def alone (c : Char) : Int × Sequel :=
  let follows :=
    if isFlagLetter c then flagLetter
    else if isShade c then shade
    else if isColoured c then picture
    else if isAlef c then alef
    else match LigatureEnd.ofChar? c with
      | some letter => ligature letter false
      | none => ordinary
  (baseWidth c, follows)

/-- The same for a character in front of the end of a ligature, if it belongs to the ligature. -/
def beforeLigature? (letter : LigatureEnd) (joined : Bool) (c : Char) : Option (Int × Sequel) :=
  if c == joiner then some (0, ligature letter true)
  else if isUnseen c then some (0, ligature letter joined)
  else match letter with
    | .lamed => if joined && c == '\u05D0' then some (0, ordinary) else none
    | .ya => if joined && c == '\u1A17' then some (0, ligature .vowelAndYa false) else none
    | .vowelAndYa => if c == '\u1A15' then some (0, ordinary) else none
    | .consonant =>
      if c == '\u2D7F' then some (1, ligature .boundConsonant false)
      else if joined && isTifinaghConsonant c then some (0, ordinary)
      else none
    | .boundConsonant => if isTifinaghConsonant c then some (-1, ordinary) else none
    | .tone => if 0xA4F8 ≤ c.toNat && c.toNat ≤ 0xA4FB then some (0, ordinary) else none
    | .orkhonI => if joined && c.toNat == 0x10C32 then some (0, ordinary) else none
    | .subscribed => if c == '\u17D2' then some (-1, ordinary) else none

/-- The same for a character in front of the end of the name of a region. -/
def beforeRegionName? (letters digits : Nat) (c : Char) : Option (Int × Sequel) :=
  if 0xE0061 ≤ c.toNat && c.toNat ≤ 0xE007A && digits = 0 && letters < 6 then
    some (0, regionName (letters + 1) 0)
  else if 0xE0030 ≤ c.toNat && c.toNat ≤ 0xE0039 && (digits = 1 || digits = 2 ||
      (digits = 0 && letters ≤ 4)) then
    some (0, regionName letters (digits + 1))
  else if c.toNat == 0x1F3F4 && (digits = 3 || (digits = 0 && 3 ≤ letters)) then
    some (0, picture)
  else none

/-- The same for a character in front of something that is joined to a picture. -/
def beforeJoined? (c : Char) : Option (Int × Sequel) :=
  if c == '\u20E3' then some (0, joinedKey)
  else if isFlagLetter c then some (1, joinedFlagLetter)
  else if isShade c then some (0, shade)
  else if c.toNat == 0xE007F then some (0, regionName 0 0)
  else if isColoured c then some (0, picture)
  else none

/-- The same for a character in front of any sequel, if it is bound to it. -/
def before? (s : Sequel) (c : Char) : Option (Int × Sequel) :=
  match s with
  | ordinary | lineFeed | joinedKey => none
  | shade =>
    if inRanges shadedPictureRanges c.toNat then some (0, picture)
    else if c == joiner then some (0, joinedPicture)
    else none
  | flagLetter => if isFlagLetter c then some (1, flagLetters) else none
  | flagLetters =>
    if isFlagLetter c then some (1, flagLetters)
    else if c == joiner then some (0, joinedPicture)
    else none
  | picture => if c == joiner then some (0, joinedPicture) else none
  | joinedPicture => beforeJoined? c
  | joinedFlagLetter => if isFlagLetter c then some (-1, joinedFlags) else none
  | joinedFlags =>
    if isFlagLetter c then some (3, joinedFlagsAndLetter)
    else if c == joiner then some (0, joinedPicture)
    else none
  | joinedFlagsAndLetter =>
    if isFlagLetter c then some (-1, joinedFlags)
    else if c == joiner then some (0, joinedPicture)
    else none
  | regionName letters digits => beforeRegionName? letters digits c
  | alef =>
    if isLam c then some (0, ordinary)
    else if inRanges joiningTransparentRanges c.toNat then some (0, alef)
    else none
  | ligature letter joined => beforeLigature? letter joined c

end Sequel

/-- A form in which a character may be shown. -/
inductive Form where
  /-- Without colours. -/
  | plain
  /-- In colour. -/
  | coloured
deriving DecidableEq, Repr

/-- What is known at some place of a text about the text behind it. -/
structure Behind where
  /-- What follows. -/
  sequel : Sequel := .ordinary
  /-- The form that is asked for at the place. -/
  form : Option Form := none
deriving DecidableEq, Repr

/-! ## Texts -/

/-- The cells that a character adds to what is behind it, and what is behind the place in front of
the character. -/
def measure (c : Char) (behind : Behind) : Int × Behind :=
  if behind.form = some .coloured && hasTwoForms c then
    let joined := behind.sequel = .joinedPicture || behind.sequel = .joinedKey
    (if joined then 0 else 2, { sequel := .picture })
  else
    let sequel := if behind.form.isSome then behind.sequel.past else behind.sequel
    if c == '\n' then (1, { sequel := .lineFeed })
    else if c == '\r' && sequel = .lineFeed then (0, {})
    else if c.toNat ≤ 0xA0 then (1, {})
    else if c == colouredForm then (0, { sequel := sequel.beforeColour, form := some .coloured })
    else if c == plainForm then (0, { sequel := sequel.past, form := some .plain })
    else if behind.form = some .plain && narrowsWhenPlain c then (1, {})
    else
      let (cells, sequel) := (sequel.before? c).getD (Sequel.alone c)
      (cells, { sequel })

/-- The number of cells that a text takes up. -/
def width (s : List Char) : Nat :=
  (s.foldr (fun c (total, behind) =>
    let (cells, behind) := measure c behind
    (total + cells, behind)) ((0 : Int), ({} : Behind))).1.toNat

/-- The number of cells that a symbol takes up. -/
def Symbol.width (s : Symbol) : Nat :=
  Text.width s.chars

end Text
end CodeGloss
