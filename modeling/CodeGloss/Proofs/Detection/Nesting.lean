import CodeGloss.Proofs.Block.Nesting
import CodeGloss.Proofs.Detection.Found
import CodeGloss.Proofs.Outline.Innermost

/-!
# Definitions in definitions

A language marks all its blocks in one style (`Header.style_of_recognize`), so that the definitions
of a text are nested where blocks of this style are.

By indentation they are nested whatever the text (`indented_definitions_nest`), and the shortest
definition that covers a line is the innermost one.  By braces they are nested in a text that has its
brackets well nested, if all brackets count (`brace_definitions_nest`).
-/

namespace CodeGloss

/-- Blocks are marked by indentation in Python and by braces elsewhere. -/
theorem Header.style_of_recognize {language : Language} {line : Line} {h : Header}
    (recognized : recognize (some language) line = some h) :
    h.style = if language = .python then .indent else .brace := by
  have styles : ∀ language, ∀ rule ∈ rules, rule.languages.contains language = true →
      rule.style = if language = .python then .indent else .brace := by
    intro language
    cases language <;> decide
  obtain ⟨rule, mem, found⟩ := List.exists_of_findSome?_eq_some recognized
  obtain ⟨mem, applies⟩ := List.mem_filter.mp mem
  rw [← styles language rule mem applies]
  unfold Rule.header? at found
  split at found
  next => cases found
  next =>
    split at found
    next => cases found
    next =>
      cases found
      rfl

namespace Detection

/-! ## From blocks to definitions -/

/-- Of the blocks of headers among some lines, one that starts in another one ends in it. -/
def BlocksNest (options : Block.Options) (hint : Hint) (lines : List Line) : Prop :=
  ∀ ⦃front between rest : List Line⦄ ⦃header header' : Line⦄ ⦃h h' : Header⦄
    ⦃extent extent' : Nat⦄,
    lines = front ++ header :: (between ++ header' :: rest) →
    Header.recognize hint header = some h → Header.recognize hint header' = some h' →
    Block.extent? options h.style header (between ++ header' :: rest) = some extent →
    Block.extent? options h'.style header' rest = some extent' →
    between.length < extent → between.length + 1 + extent' ≤ extent

section Outline

variable {options : Block.Options} {hint : Hint} {text : String} {a b : Definition}

/-- A line starts one definition at most. -/
theorem eq_of_same_line (mem_a : a ∈ (Outline.ofText options hint text).definitions)
    (mem_b : b ∈ (Outline.ofText options hint text).definitions)
    (eq : a.firstLine = b.firstLine) : a = b := by
  rw [definitions_ofText] at mem_a mem_b
  exact eq_of_firstLine_eq mem_a mem_b eq

/-- A definition that starts in another one ends in it, if this is so for blocks. -/
theorem lastLine_le_of_blocksNest (nest : BlocksNest options hint (Line.ofText text.toList))
    (mem_a : a ∈ (Outline.ofText options hint text).definitions)
    (mem_b : b ∈ (Outline.ofText options hint text).definitions)
    (lt : a.firstLine < b.firstLine) (starts : b.firstLine ≤ a.lastLine) :
    b.lastLine ≤ a.lastLine := by
  rw [definitions_ofText] at mem_a mem_b
  obtain ⟨front, header, between, header', rest, split_, found, found'⟩ :=
    exists_between mem_a mem_b lt
  obtain ⟨h, extent, recognized, within, rfl⟩ := definitionAt?_eq_some_iff.mp found
  obtain ⟨h', extent', recognized', within', rfl⟩ := definitionAt?_eq_some_iff.mp found'
  simp only at starts ⊢
  have le := nest split_ recognized recognized' within within' (by omega)
  omega

theorem nested_of_blocksNest (nest : BlocksNest options hint (Line.ofText text.toList)) :
    Definition.Nested (Outline.ofText options hint text).definitions :=
  Definition.nested_of_ends (fun _ mem_a _ mem_b => eq_of_same_line mem_a mem_b)
    fun _ mem_a _ mem_b => lastLine_le_of_blocksNest nest mem_a mem_b

end Outline

/-! ## By braces -/

/-- Blocks in braces are nested where brackets are. -/
theorem blocksNest_of_wellNested (tabWidth : Nat) {language : Language} (other : language ≠ .python)
    {text : String} (wellNested : Block.WellNested (Block.marks text.toList)) :
    BlocksNest ⟨tabWidth, .naive⟩ (some language) (Line.ofText text.toList) := by
  have reads : (Block.openAfter? [] (Block.marks (Line.ofText text.toList).flatten)).isSome =
      true := by
    rw [Block.marks_flatten_ofText, Block.openAfter?_of_wellNested wellNested, Option.isSome_some]
  intro front between rest header header' h h' extent extent' split_ recognized recognized' within
    within' inside
  rw [Header.style_of_recognize recognized, if_neg other] at within
  rw [Header.style_of_recognize recognized', if_neg other] at within'
  rw [split_] at reads
  exact Block.Brace.extent?_nested reads within within' inside

/-- **Definitions in braces are nested where brackets are.**  If all brackets count, whether they
stand in code or in a literal, and those of the text are well nested, then any two definitions are
clear of each other or one inside the other: one that starts in another one ends in it. -/
theorem brace_definitions_nest (tabWidth : Nat) {hint : Hint} (given : hint ≠ none)
    (other : hint ≠ some .python) {text : String}
    (wellNested : Block.WellNested (Block.marks text.toList)) :
    let found := (Outline.ofText ⟨tabWidth, .naive⟩ hint text).definitions
    Definition.Nested found ∧
      ∀ a ∈ found, ∀ b ∈ found, a.firstLine < b.firstLine → b.firstLine ≤ a.lastLine →
        b.lastLine ≤ a.lastLine := by
  intro found
  obtain ⟨language, rfl⟩ := Option.ne_none_iff_exists'.mp given
  have not_python : language ≠ .python := fun eq => other (congrArg some eq)
  have nest := blocksNest_of_wellNested tabWidth not_python wellNested
  exact ⟨nested_of_blocksNest nest, fun a mem_a b mem_b => lastLine_le_of_blocksNest nest mem_a mem_b⟩

/-- A function in the parameters of another one ends before that one has come to its body. -/
theorem definitions_nest_in_parameters :
    let text := "fn f(\n  x: [u8; \x7b\n    fn n() -> usize \x7b\n      2\n    \x7d\n    n()\n  \x7d],\n" ++
      ") \x7b\n  x\n\x7d"
    let found := (Outline.ofText ⟨4, .naive⟩ (some .rust) text).definitions
    Block.WellNested (Block.marks text.toList) ∧
      found.map Definition.key = [⟨.function, "f", 1, 10⟩, ⟨.function, "n", 3, 5⟩] ∧
      Definition.Nested found := by
  intro text found
  -- The characters are written out, so that they are not read off the bytes of the text each time.
  have spelled : text.toList = _ ++ _ :=
    String.toList_append.trans (congrArg₂ _ String.toList_ofList String.toList_ofList)
  have wellNested : Block.WellNested (Block.marks text.toList) := by
    rw [spelled]
    decide
  refine ⟨wellNested, ?_, (brace_definitions_nest 4 (by decide) (by decide) wellNested).1⟩
  show List.map Definition.key (Outline.ofText _ _ text).definitions = _
  rw [definitions_ofText, spelled]
  decide

/-! ## By indentation -/

/-- Blocks by indentation are nested.  A header is not blank, so the inner one is indented deeper. -/
theorem blocksNest_of_python (options : Block.Options) (lines : List Line) :
    BlocksNest options (some .python) lines := by
  intro front between rest header header' h h' extent extent' split_ recognized recognized' within
    within' inside
  rw [Header.style_of_recognize recognized, if_pos rfl] at within
  rw [Header.style_of_recognize recognized', if_pos rfl] at within'
  have solid : Text.isAllBlank header' = false := by
    rw [Bool.eq_false_iff]
    intro blank
    rw [Header.recognize_of_isAllBlank _ blank] at recognized'
    cases recognized'
  cases within
  cases within'
  exact Block.Indent.extent_nested solid inside

/-- **Definitions by indentation are nested.**  The innermost definition on a line is therefore the
one of those that cover the line that starts last, and it lies inside all others of them. -/
theorem indented_definitions_nest (options : Block.Options) (text : String) :
    let outline := Outline.ofText options (some .python) text
    Definition.Nested outline.definitions ∧
      ∀ line, (∃ d ∈ outline.definitions, d.covers line = true) →
        ∃ m, outline.innermost? line = some m ∧ m ∈ outline.definitions ∧ m.covers line = true ∧
          ∀ d ∈ outline.definitions, d.covers line = true → d ≠ m →
            d.firstLine < m.firstLine ∧ d.Encloses m := by
  intro outline
  have nested : Definition.Nested outline.definitions :=
    nested_of_blocksNest (blocksNest_of_python options (Line.ofText text.toList))
  have alone : ∀ a ∈ outline.definitions, ∀ b ∈ outline.definitions,
      a.firstLine = b.firstLine → a = b := fun a mem_a b mem_b => eq_of_same_line mem_a mem_b
  exact ⟨nested, fun line covered => Outline.innermost?_of_nested alone nested covered⟩

/-- The innermost definition on a blank line between the statements of a method is the method. -/
theorem method_innermost_on_blank_line :
    let text := "class C:\n    def f(self):\n\treturn 1\n\n    def g(self):\n        x = 1\n\n        return x"
    let outline := Outline.ofText ⟨8, .literalAware⟩ (some .python) text
    outline.definitions.map Definition.key =
        [⟨.classLike, "C", 1, 8⟩, ⟨.function, "f", 2, 3⟩, ⟨.function, "g", 5, 8⟩] ∧
      ∃ m, outline.innermost? 7 = some m ∧
        ∀ d ∈ outline.definitions, d.covers 7 = true → d ≠ m →
          d.firstLine < m.firstLine ∧ d.Encloses m := by
  intro text outline
  have keys : outline.definitions.map Definition.key =
      [⟨.classLike, "C", 1, 8⟩, ⟨.function, "f", 2, 3⟩, ⟨.function, "g", 5, 8⟩] := by
    show List.map Definition.key (Outline.ofText _ _ text).definitions = _
    rw [definitions_ofText, (String.toList_ofList : text.toList = _)]
    decide
  have covered : outline.definitions.any (·.covers 7) = true := by
    have among := congrArg (List.any · fun k => k.firstLine ≤ 7 && 7 ≤ k.lastLine) keys
    rwa [List.any_map] at among
  obtain ⟨m, innermost, -, -, inside⟩ :=
    (indented_definitions_nest ⟨8, .literalAware⟩ text).2 7 (List.any_eq_true.mp covered)
  exact ⟨keys, m, innermost, inside⟩

end Detection
end CodeGloss
