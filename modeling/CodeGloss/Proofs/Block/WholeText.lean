import CodeGloss.Proofs.Block.Replaced
import CodeGloss.Proofs.Text.Gap

/-!
# Reading lines and reading a text

The lexer is fed with the characters of one line after the other and is told where a line ends
(`Lexer.byLines`).  A text can as well be read in one go, with the line feed as one more of its
characters.  The scanner that does this here (`scan`) has no pending slash, star or backslash to
carry along.  It reads such a character together with the next one (`Mode.pair?`), if these two mean
something together, and by itself otherwise (`Mode.single`).  A line feed ends comments and ordinary
strings by itself.  It goes together with a backslash in a template literal, which it follows, and
with nothing else.

Both read the same, except that the end of a line does not come between a star and a slash in a
block comment, and that it does not use up a backslash in a template literal: the lexer still waits
for the next character when the next line begins.  It is only there that they part ways
(`read_as_text_iff`).
-/

namespace CodeGloss
namespace Block

/-! ## What is read -/

/-- What was made of some characters: which of them are code, and where the lexer is after them.
Line feeds are left out, as no line holds one. -/
structure Reading where
  /-- The characters, each with whether it is code. -/
  marks : List (Char × Bool)
  /-- Where the lexer is in the end. -/
  final : Lexer
deriving DecidableEq, Repr

namespace Reading

/-- The reading with one more character before it. -/
def cons (c : Char) (isCode : Bool) (r : Reading) : Reading :=
  if c = '\n' then r else { r with marks := (c, isCode) :: r.marks }

/-- A reading followed by another one. -/
def append (r r' : Reading) : Reading :=
  ⟨r.marks ++ r'.marks, r'.final⟩

@[simp] theorem final_cons (c : Char) (isCode : Bool) (r : Reading) :
    (r.cons c isCode).final = r.final := by
  unfold cons
  split <;> rfl

@[simp] theorem final_append (r r' : Reading) : (r.append r').final = r'.final := rfl

theorem append_cons (c : Char) (isCode : Bool) (r r' : Reading) :
    (r.cons c isCode).append r' = (r.append r').cons c isCode := by
  unfold cons
  split <;> rfl

theorem append_nil (l : Lexer) (r : Reading) : append ⟨[], l⟩ r = r := rfl

end Reading

/-! ## Line by line -/

namespace Lexer

/-- Reads the characters of a line. -/
def reading : Lexer → Line → Reading
  | l, [] => ⟨[], l⟩
  | l, c :: rest =>
    ((l.read .literalAware c rest).1.reading rest).cons c (l.read .literalAware c rest).2

/-- Reads the characters of some lines, and the ends of lines between them. -/
def byLines : Lexer → List Line → Reading
  | l, [] => ⟨[], l⟩
  | l, [line] => l.reading line
  | l, line :: next :: rest =>
    (l.reading line).append ((l.reading line).final.endLine.byLines (next :: rest))

/-- Whether the last character may mean something together with the next one. -/
def isWaiting : Lexer → Bool
  | code slash => slash
  | lineComment => false
  | blockComment star => star
  | quoted _ escaped => escaped

theorem endLine_final_reading (l : Lexer) (line : Line) :
    (l.reading line).final.endLine = l.afterLine .literalAware line := by
  induction line generalizing l with
  | nil => rfl
  | cons c rest ih =>
    rw [reading, Reading.final_cons, ih]
    rfl

theorem final_byLines_concat (l : Lexer) (front : List Line) (part : Line) :
    (l.byLines (front ++ [part])).final =
      ((l.afterLines .literalAware front).reading part).final := by
  induction front generalizing l with
  | nil => rfl
  | cons line front ih =>
    obtain ⟨next, rest, eq⟩ : ∃ next rest, front ++ [part] = next :: rest :=
      List.exists_cons_of_ne_nil (by simp)
    rw [List.cons_append, eq, byLines, Reading.final_append, ← eq, ih, endLine_final_reading]
    rfl

end Lexer

/-! ## In one go -/

open Lexer (templateQuote opensLiteral)

/-- What a text is read in. -/
inductive Mode where
  /-- In code. -/
  | code
  /-- In a comment that ends with the line. -/
  | lineComment
  /-- In a comment that ends with a star and a slash. -/
  | blockComment
  /-- In a literal that ends with `quote`. -/
  | literal (quote : Char)
deriving DecidableEq, Repr

namespace Mode

/-- The place of the lexer; `waiting` says that the last character may go with the next one. -/
def lexer (waiting : Bool) : Mode → Lexer
  | code => .code waiting
  | lineComment => .lineComment
  | blockComment => .blockComment waiting
  | literal quote => .quoted quote waiting

/-- Whether a character may mean something together with the next one. -/
def waits : Mode → Char → Bool
  | code, c => c == '/'
  | lineComment, _ => false
  | blockComment, c => c == '*'
  | literal _, c => c == '\\'

/-- What follows is read in when such a character goes together with the next one, which is `c`. -/
def pair? : Mode → Char → Option Mode
  | code, c => if c = '/' then some lineComment else if c = '*' then some blockComment else none
  | lineComment, _ => none
  | blockComment, c => if c = '/' then some code else none
  | literal quote, c => if c = '\n' ∧ quote ≠ templateQuote then none else some (literal quote)

/-- Whether a character by itself is code, and what follows is read in.  `rest` is what follows on
its line. -/
def single : Mode → Char → List Char → Bool × Mode
  | code, c, rest =>
    if c = '"' ∨ c = templateQuote ∨ c = '\'' ∧ opensLiteral rest = true then (false, literal c)
    else (true, code)
  | lineComment, c, _ => (false, if c = '\n' then code else lineComment)
  | blockComment, _, _ => (false, blockComment)
  | literal quote, c, _ =>
    (false, if c = quote ∨ c = '\n' ∧ quote ≠ templateQuote then code else literal quote)

end Mode

/-- What is left of the line at the start of a text. -/
def restOfLine (text : List Char) : Line :=
  text.takeWhile (· != '\n')

/-- Reads a text in which line feeds are characters like others. -/
def scan : Mode → List Char → Reading
  | mode, [] => ⟨[], mode.lexer false⟩
  | mode, [c] =>
    if mode.waits c then Reading.cons c false ⟨[], mode.lexer true⟩
    else Reading.cons c (mode.single c []).1 ⟨[], (mode.single c []).2.lexer false⟩
  | mode, c :: d :: rest =>
    if mode.waits c then
      match mode.pair? d with
      | some mode' => ((scan mode' rest).cons d false).cons c false
      | none => (scan mode (d :: rest)).cons c false
    else
      (scan (mode.single c (restOfLine (d :: rest))).2 (d :: rest)).cons c
        (mode.single c (restOfLine (d :: rest))).1

namespace Mode

theorem isWaiting_lexer (mode : Mode) : (mode.lexer false).isWaiting = false := by
  cases mode <;> rfl

/-- A line feed does not wait. -/
theorem ne_feed_of_waits {mode : Mode} {c : Char} (waits : mode.waits c = true) : c ≠ '\n' := by
  rintro rfl
  cases mode <;> cases waits

end Mode

/-- Where a line feed was the last character, nothing waits. -/
theorem isWaiting_scan {mode : Mode} {text : List Char}
    (ended : ∀ c, text.getLast? = some c → c = '\n') :
    (scan mode text).final.isWaiting = false := by
  induction mode, text using scan.induct with
  | case1 mode => exact mode.isWaiting_lexer
  | case2 mode c waits =>
    exact absurd (ended c rfl) (Mode.ne_feed_of_waits waits)
  | case3 mode c alone =>
    rw [scan, if_neg alone, Reading.final_cons]
    exact Mode.isWaiting_lexer _
  | case4 mode c d rest waits mode' pair ih =>
    rw [scan, if_pos waits, pair]
    simp only [Reading.final_cons]
    refine ih fun e last => ended e ?_
    rw [List.getLast?_cons_cons, List.getLast?_cons, last]
    rfl
  | case5 mode c d rest waits pair ih =>
    rw [scan, if_pos waits, pair, Reading.final_cons]
    exact ih fun e last => ended e (List.getLast?_cons_cons.trans last)
  | case6 mode c d rest alone ih =>
    rw [scan, if_neg alone, Reading.final_cons]
    exact ih fun e last => ended e (List.getLast?_cons_cons.trans last)

/-! ## The lexer on a text -/

namespace Lexer

/-- Feeds the lexer with a text, and tells it where lines end. -/
def onText : Lexer → List Char → Reading
  | l, [] => ⟨[], l⟩
  | l, c :: rest =>
    if c = '\n' then l.endLine.onText rest
    else
      ((l.read .literalAware c (restOfLine rest)).1.onText rest).cons c
        (l.read .literalAware c (restOfLine rest)).2

/-- Whether the lexer never waits for the next character when a line begins, but for the first. -/
def BeginsAfresh : Lexer → List Char → Prop
  | _, [] => True
  | l, c :: rest =>
    if c = '\n' then l.endLine.isWaiting = false ∧ l.endLine.BeginsAfresh rest
    else (l.read .literalAware c (restOfLine rest)).1.BeginsAfresh rest

theorem restOfLine_append {line : Line} (solid : '\n' ∉ line) {text : List Char}
    (ended : ∀ c, text.head? = some c → c = '\n') : restOfLine (line ++ text) = line := by
  induction line with
  | nil =>
    cases text with
    | nil => rfl
    | cons c text =>
      obtain rfl := ended c rfl
      rfl
  | cons c line ih =>
    rw [List.mem_cons, not_or] at solid
    rw [List.cons_append, restOfLine, List.takeWhile_cons_of_pos (by simpa using Ne.symm solid.1)]
    exact congrArg (c :: ·) (ih solid.2)

/-- A line at the start of a text is read as it is by itself. -/
theorem onText_append {l : Lexer} {line : Line} (solid : '\n' ∉ line) {text : List Char}
    (ended : ∀ c, text.head? = some c → c = '\n') :
    l.onText (line ++ text) = (l.reading line).append ((l.reading line).final.onText text) := by
  induction line generalizing l with
  | nil => rfl
  | cons c line ih =>
    rw [List.mem_cons, not_or] at solid
    rw [List.cons_append, onText, if_neg (Ne.symm solid.1), restOfLine_append solid.2 ended,
      ih solid.2, reading, Reading.append_cons, Reading.final_cons]

theorem beginsAfresh_append {l : Lexer} {line : Line} (solid : '\n' ∉ line) {text : List Char}
    (ended : ∀ c, text.head? = some c → c = '\n') :
    l.BeginsAfresh (line ++ text) ↔ (l.reading line).final.BeginsAfresh text := by
  induction line generalizing l with
  | nil => rfl
  | cons c line ih =>
    rw [List.mem_cons, not_or] at solid
    rw [List.cons_append, BeginsAfresh, if_neg (Ne.symm solid.1), restOfLine_append solid.2 ended,
      ih solid.2, reading, Reading.final_cons]

/-- Line by line the lexer reads what it reads on the lines put together. -/
theorem byLines_eq {l : Lexer} {lines : List Line} (solid : ∀ line ∈ lines, '\n' ∉ line) :
    l.byLines lines = l.onText (Line.joined lines) := by
  induction l, lines using byLines.induct with
  | case1 l => rfl
  | case2 l line =>
    have alone : l.onText (line ++ []) =
        (l.reading line).append ((l.reading line).final.onText []) :=
      onText_append (solid line List.mem_cons_self) nofun
    rw [List.append_nil] at alone
    rw [byLines, Line.joined, List.intercalate_singleton, alone, onText, Reading.append,
      List.append_nil]
  | case3 l line next rest ih =>
    have feed : ∀ c, ('\n' :: Line.joined (next :: rest)).head? = some c → c = '\n' :=
      fun c first => (Option.some.inj first).symm
    rw [byLines, ih fun line' mem => solid line' (List.mem_cons_of_mem line mem),
      Line.joined_cons line (List.cons_ne_nil next rest),
      onText_append (solid line List.mem_cons_self) feed, onText, if_pos rfl]

theorem beginsAfresh_joined {l : Lexer} {lines : List Line}
    (solid : ∀ line ∈ lines, '\n' ∉ line) :
    l.BeginsAfresh (Line.joined lines) ↔ ∀ n, n + 1 < lines.length →
      (l.afterLines .literalAware (lines.take (n + 1))).isWaiting = false := by
  induction l, lines using byLines.induct with
  | case1 l => exact iff_of_true trivial nofun
  | case2 l line =>
    have alone : l.BeginsAfresh (line ++ []) ↔ (l.reading line).final.BeginsAfresh [] :=
      beginsAfresh_append (solid line List.mem_cons_self) nofun
    rw [List.append_nil] at alone
    rw [Line.joined, List.intercalate_singleton, alone]
    refine iff_of_true trivial fun n lt => ?_
    rw [List.length_singleton] at lt
    omega
  | case3 l line next rest ih =>
    have feed : ∀ c, ('\n' :: Line.joined (next :: rest)).head? = some c → c = '\n' :=
      fun c first => (Option.some.inj first).symm
    rw [Line.joined_cons line (List.cons_ne_nil next rest),
      beginsAfresh_append (solid line List.mem_cons_self) feed, BeginsAfresh, if_pos rfl,
      ih fun line' mem => solid line' (List.mem_cons_of_mem line mem), endLine_final_reading]
    constructor
    · rintro ⟨here, later⟩ (_ | n) lt
      · exact here
      · exact later n (Nat.lt_of_succ_lt_succ lt)
    · exact fun all => ⟨all 0 (by simp), fun n lt => all (n + 1) (Nat.succ_lt_succ lt)⟩

end Lexer

/-! ## Both -/

namespace Mode

variable {mode mode' : Mode} {c : Char}

/-- A character that waits is read and not code. -/
theorem read_of_waits (waits : mode.waits c = true) (rest : List Char) :
    (mode.lexer false).read .literalAware c rest = (mode.lexer true, false) := by
  cases mode with
  | code =>
    obtain rfl : c = '/' := by simpa [Mode.waits] using waits
    rfl
  | lineComment => cases waits
  | blockComment =>
    obtain rfl : c = '*' := by simpa [Mode.waits] using waits
    rfl
  | literal quote =>
    obtain rfl : c = '\\' := by simpa [Mode.waits] using waits
    rfl

/-- A character that does not wait is read as it is by itself. -/
theorem read_of_not_waits (alone : ¬mode.waits c = true) (other : c ≠ '\n') (rest : List Char) :
    (mode.lexer false).read .literalAware c rest =
      ((mode.single c rest).2.lexer false, (mode.single c rest).1) := by
  cases mode with
  | code =>
    have divides : c ≠ '/' := by simpa [Mode.waits] using alone
    by_cases opens : c = '"' ∨ c = templateQuote
    · rcases opens with rfl | rfl <;> rfl
    · obtain ⟨quote, template⟩ := not_or.mp opens
      by_cases literal : c = '\'' ∧ opensLiteral rest = true
      · simp [lexer, single, Lexer.read, Lexer.step, Lexer.stepCode, literal, templateQuote]
      · have code : single code c rest = (true, code) := by
          simp only [single, quote, template, literal, or_false, if_false]
        rw [code]
        simpa [lexer, Lexer.read, Lexer.step, Lexer.stepCode, divides, quote, template]
          using fun quote => by simpa [quote] using literal
  | lineComment => simp [lexer, single, Lexer.read, Lexer.step, other]
  | blockComment =>
    have star : c ≠ '*' := by simpa [Mode.waits] using alone
    simp [lexer, single, Lexer.read, Lexer.step, star]
  | literal quote =>
    have escape : c ≠ '\\' := by simpa [Mode.waits] using alone
    by_cases closes : c = quote
    · subst closes
      simp [lexer, single, Lexer.read, Lexer.step, Lexer.stepQuoted, escape]
    · simp [lexer, single, Lexer.read, Lexer.step, Lexer.stepQuoted, escape, other, closes]

/-- The end of a line is read as a line feed by itself. -/
theorem endLine_lexer (mode : Mode) (rest : List Char) :
    (mode.lexer false).endLine = (mode.single '\n' rest).2.lexer false := by
  cases mode with
  | literal quote =>
    by_cases template : quote = templateQuote
    · subst template
      rfl
    · simp [lexer, single, Lexer.endLine, template]
  | _ => rfl

/-- What goes together with a character that waits is read and not code. -/
theorem read_of_pair (pair : mode.pair? c = some mode') (rest : List Char) :
    (mode.lexer true).read .literalAware c rest = (mode'.lexer false, false) := by
  cases mode with
  | code =>
    rw [pair?] at pair
    split at pair
    next slash =>
      cases pair
      rw [slash]
      rfl
    next =>
      split at pair
      next star =>
        cases pair
        rw [star]
        rfl
      next => cases pair
  | lineComment => cases pair
  | blockComment =>
    rw [pair?] at pair
    split at pair
    next slash =>
      cases pair
      rw [slash]
      rfl
    next => cases pair
  | literal quote =>
    rw [pair?] at pair
    split at pair
    next => cases pair
    next =>
      cases pair
      rfl

/-- What does not go together with a character that waits is read as if none did. -/
theorem read_of_no_pair (pair : mode.pair? c = none) (other : c ≠ '\n') (rest : List Char) :
    (mode.lexer true).read .literalAware c rest = (mode.lexer false).read .literalAware c rest := by
  cases mode with
  | code =>
    have apart : c ≠ '/' ∧ c ≠ '*' := by
      constructor <;> rintro rfl <;> cases pair
    simp [lexer, Lexer.read, Lexer.step, Lexer.stepCode, apart]
  | lineComment => rfl
  | blockComment =>
    have apart : c ≠ '/' := by
      rintro rfl
      cases pair
    simp [lexer, Lexer.read, Lexer.step, apart]
  | literal quote => simp [pair?, other] at pair

/-- The end of a line goes together with a backslash of a template literal only, and then the lexer
still waits.  Otherwise it is read as if nothing had waited, but for a star in a comment. -/
theorem endLine_lexer_waiting (fresh : (mode.lexer true).endLine.isWaiting = false) :
    mode.pair? '\n' = none ∧ (mode.lexer true).endLine = (mode.lexer false).endLine := by
  cases mode with
  | code => exact ⟨rfl, rfl⟩
  | lineComment => exact ⟨rfl, rfl⟩
  | blockComment => cases fresh
  | literal quote =>
    have ordinary : quote ≠ templateQuote := by
      rintro rfl
      cases fresh
    simp [pair?, lexer, Lexer.endLine, ordinary]

end Mode

/-- A character that waits is passed over if the next one does not go together with it. -/
theorem onText_of_no_pair {mode : Mode} {c : Char} {rest : List Char} (pair : mode.pair? c = none)
    (afresh : (mode.lexer true).BeginsAfresh (c :: rest)) :
    (mode.lexer true).onText (c :: rest) = (mode.lexer false).onText (c :: rest) ∧
      (mode.lexer false).BeginsAfresh (c :: rest) := by
  rw [Lexer.BeginsAfresh] at afresh
  by_cases feed : c = '\n'
  · rw [if_pos feed] at afresh
    have same := (Mode.endLine_lexer_waiting afresh.1).2
    rw [Lexer.onText, Lexer.onText, Lexer.BeginsAfresh, if_pos feed, if_pos feed, if_pos feed,
      ← same]
    exact ⟨rfl, afresh⟩
  · rw [if_neg feed, Mode.read_of_no_pair pair feed] at afresh
    rw [Lexer.onText, Lexer.onText, Lexer.BeginsAfresh, if_neg feed, if_neg feed, if_neg feed,
      Mode.read_of_no_pair pair feed]
    exact ⟨rfl, afresh⟩

/-- **The lexer reads a text as the scanner does** as long as it waits for nothing when a line
begins. -/
theorem scan_eq_onText {mode : Mode} {text : List Char}
    (afresh : (mode.lexer false).BeginsAfresh text) :
    scan mode text = (mode.lexer false).onText text := by
  induction mode, text using scan.induct with
  | case1 mode => rfl
  | case2 mode c waits =>
    rw [scan, if_pos waits, Lexer.onText, if_neg (Mode.ne_feed_of_waits waits),
      Mode.read_of_waits waits]
    rfl
  | case3 mode c alone =>
    rw [scan, if_neg alone, Lexer.onText]
    by_cases feed : c = '\n'
    · subst feed
      rw [if_pos rfl, mode.endLine_lexer []]
      rfl
    · rw [if_neg feed, Mode.read_of_not_waits alone feed]
      rfl
  | case4 mode c d rest waits mode' pair ih =>
    have other := Mode.ne_feed_of_waits waits
    rw [Lexer.BeginsAfresh, if_neg other, Mode.read_of_waits waits, Lexer.BeginsAfresh] at afresh
    -- No pair has a line feed, unless the lexer would still wait after it.
    have other' : d ≠ '\n' := by
      rintro rfl
      rw [if_pos rfl] at afresh
      rw [(Mode.endLine_lexer_waiting afresh.1).1] at pair
      cases pair
    rw [if_neg other', Mode.read_of_pair pair] at afresh
    rw [scan, if_pos waits, pair, Lexer.onText, if_neg other, Mode.read_of_waits waits,
      Lexer.onText, if_neg other', Mode.read_of_pair pair]
    simp only [ih afresh]
  | case5 mode c d rest waits pair ih =>
    have other := Mode.ne_feed_of_waits waits
    rw [Lexer.BeginsAfresh, if_neg other, Mode.read_of_waits waits] at afresh
    obtain ⟨same, afresh⟩ := onText_of_no_pair pair afresh
    rw [scan, if_pos waits, pair, Lexer.onText, if_neg other, Mode.read_of_waits waits, same]
    simp only [ih afresh]
  | case6 mode c d rest alone ih =>
    rw [scan, if_neg alone, Lexer.onText]
    rw [Lexer.BeginsAfresh] at afresh
    by_cases feed : c = '\n'
    · subst feed
      rw [if_pos rfl, mode.endLine_lexer (restOfLine (d :: rest))] at afresh ⊢
      rw [ih afresh.2]
      rfl
    · rw [if_neg feed, Mode.read_of_not_waits alone feed] at afresh ⊢
      rw [ih afresh]

/-! ## Lines and texts -/

/-- The text of some lines of which the last one is empty ends with a line feed, if it is not empty.
-/
theorem getLast?_joined_concat_nil {front : List Line} {c : Char}
    (last : (Line.joined (front ++ [[]])).getLast? = some c) : c = '\n' := by
  induction front with
  | nil => cases last
  | cons line front ih =>
    have more : front ++ [[]] ≠ [] := by simp
    rw [List.cons_append, Line.joined_cons line more, List.getLast?_append, List.getLast?_cons,
      Option.some_or] at last
    cases later : (Line.joined (front ++ [[]])).getLast? with
    | none =>
      rw [later] at last
      exact (Option.some.inj last).symm
    | some d =>
      rw [later] at last
      cases last
      exact ih later

/-- Whether some lines are others up to some position: some of these and a part of the next one. -/
def IsBeginning (beginning lines : List Line) : Prop :=
  ∃ front part back more, beginning = front ++ [part] ∧ lines = front ++ (part ++ back) :: more

theorem isBeginning_self {lines : List Line} (some_ : lines ≠ []) : IsBeginning lines lines := by
  refine ⟨lines.dropLast, lines.getLast some_, [], [], ?_, ?_⟩
  · exact (List.dropLast_append_getLast some_).symm
  · rw [List.append_nil, List.dropLast_append_getLast some_]

/-- **Reading line by line and reading in one go** come to the same on every beginning of some lines
if and only if none of the lines begins while the lexer waits for the next character: after a line
that ended with a star in a block comment, or with a backslash in a template literal. -/
theorem read_as_text_iff {lines : List Line} (solid : ∀ line ∈ lines, '\n' ∉ line) :
    (∀ beginning, IsBeginning beginning lines →
      Lexer.start.byLines beginning = scan .code (Line.joined beginning)) ↔
    ∀ n < lines.length,
      (Lexer.start.afterLines .literalAware (lines.take n)).isWaiting = false := by
  constructor
  · intro agree n lt
    have whole : lines = lines.take n ++ ([] ++ lines[n]) :: lines.drop (n + 1) := by
      rw [List.nil_append, ← List.drop_eq_getElem_cons lt, List.take_append_drop]
    have final : Lexer.start.afterLines .literalAware (lines.take n) =
        (scan .code (Line.joined (lines.take n ++ [[]]))).final := by
      rw [← agree _ ⟨_, _, _, _, rfl, whole⟩, Lexer.final_byLines_concat]
      rfl
    rw [final]
    exact isWaiting_scan fun c last => getLast?_joined_concat_nil last
  · rintro afresh _ ⟨front, part, back, more, rfl, rfl⟩
    have solid' : ∀ line ∈ front ++ [part], '\n' ∉ line := by
      intro line mem feed
      rw [List.mem_append, List.mem_singleton] at mem
      rcases mem with mem | rfl
      · exact solid line (List.mem_append_left _ mem) feed
      · refine solid (line ++ back) ?_ (List.mem_append_left back feed)
        exact List.mem_append_right _ List.mem_cons_self
    rw [Lexer.byLines_eq solid']
    symm
    apply scan_eq_onText
    refine (Lexer.beginsAfresh_joined solid').mpr fun n lt => ?_
    rw [List.length_append, List.length_singleton, Nat.succ_lt_succ_iff] at lt
    have here := afresh (n + 1) (by simp; omega)
    rw [List.take_append_of_le_length lt] at here ⊢
    exact here

/-- Slashes on both sides of the end of a line, a backslash that ends a line in a string, and a star
that has a blank after it. -/
theorem lines_read_as_text :
    let lines := ["a /".toList, "/ b /* \" * ".toList, "/ */ \"c\\".toList, "\x7d `".toList]
    (∀ line ∈ lines, '\n' ∉ line) ∧
      (∀ n < lines.length,
        (Lexer.start.afterLines .literalAware (lines.take n)).isWaiting = false) ∧
      Lexer.start.byLines lines = scan .code (Line.joined lines) ∧
      (scan .code (Line.joined lines)).final = .quoted Lexer.templateQuote false := by
  intro lines
  have solid : ∀ line ∈ lines, '\n' ∉ line := by decide
  have afresh : ∀ n < lines.length,
      (Lexer.start.afterLines .literalAware (lines.take n)).isWaiting = false := by
    decide
  have same := (read_as_text_iff solid).mpr afresh lines (isBeginning_self nofun)
  exact ⟨solid, afresh, same, by decide⟩

/-- After the end of a line a backslash of a template literal keeps the quote from closing it, and a
star of a comment goes together with a slash.  So of the last brace each time only one reading says
that it is code. -/
theorem lines_read_otherwise_than_text :
    let escaped := ["`\\".toList, "`\x7d".toList]
    let starred := ["/* *".toList, "/\x7d".toList]
    (Lexer.start.byLines escaped).marks.getLast? = some ('}', false) ∧
      (scan .code (Line.joined escaped)).marks.getLast? = some ('}', true) ∧
      (Lexer.start.byLines starred).marks.getLast? = some ('}', true) ∧
      (scan .code (Line.joined starred)).marks.getLast? = some ('}', false) := by
  decide

end Block
end CodeGloss
