import CodeGloss.Proofs.Block.Plain
import CodeGloss.Proofs.Detection.Found

/-!
# Where both policies agree

The two counting policies differ in what they take for code, and only literals and comments make a
difference to that.  Of a text without them both find the same definitions
(`policies_agree_without_literals`), under every hint: blocks by indentation are not counted at all,
and those in braces have the same extents.
-/

namespace CodeGloss
namespace Detection

open Block.Lexer (IsPlain)

theorem candidates_of_isPlain (tabWidth : Nat) (hint : Hint) (number : Nat) {lines : List Line}
    (plain : ∀ line ∈ lines, IsPlain line) :
    candidates ⟨tabWidth, .literalAware⟩ hint number lines =
      candidates ⟨tabWidth, .naive⟩ hint number lines := by
  induction lines generalizing number with
  | nil => rfl
  | cons header rest ih =>
    have extent : ∀ style, Block.extent? ⟨tabWidth, .literalAware⟩ style header rest =
        Block.extent? ⟨tabWidth, .naive⟩ style header rest := by
      intro style
      cases style with
      | indent => rfl
      | brace => exact Block.Brace.extent?_of_isPlain tabWidth plain
    have here : definitionAt? ⟨tabWidth, .literalAware⟩ hint number header rest =
        definitionAt? ⟨tabWidth, .naive⟩ hint number header rest := by
      simp only [definitionAt?, extent]
    rw [candidates, candidates, here,
      ih (number + 1) fun line mem => plain line (List.mem_cons_of_mem header mem)]

/-- **Both policies agree where there are no literals.**  If nothing opens a literal or a comment on
the lines from `start` on, a block in braces that starts there ends on the same line whether
literals are looked out for or not.  If nothing does so in a text, its outline is the same under any
hint. -/
theorem policies_agree_without_literals (tabWidth : Nat) :
    (∀ (lines : List Line) (start : Nat), (∀ line ∈ lines.drop start, IsPlain line) →
      Block.endOf? ⟨tabWidth, .literalAware⟩ .brace lines start =
        Block.endOf? ⟨tabWidth, .naive⟩ .brace lines start) ∧
    ∀ (hint : Hint) (text : String), (∀ line ∈ Line.ofText text.toList, IsPlain line) →
      Outline.ofText ⟨tabWidth, .literalAware⟩ hint text =
        Outline.ofText ⟨tabWidth, .naive⟩ hint text := by
  constructor
  · intro lines start plain
    rw [Block.endOf?, Block.endOf?]
    cases below : lines.drop start with
    | nil => rfl
    | cons header rest =>
      rw [below] at plain
      exact congrArg (Option.map (start + ·)) (Block.Brace.extent?_of_isPlain tabWidth plain)
  · intro hint text plain
    rw [Outline.ofText, Outline.ofText, candidates_of_isPlain tabWidth hint 1 plain]

/-- Lifetimes and lone slashes open nothing.  The first line, above the start, does. -/
theorem policies_agree_on_lifetimes :
    let text := "impl<'a> R<'a> \x7b\n  fn half(&'a self) -> u8 \x7b self.n / 2 / 1 \x7d\n\x7d"
    let lines := "\"\x7b".toList :: Line.ofText text.toList
    (∀ line ∈ lines.drop 1, IsPlain line) ∧ (∀ line ∈ Line.ofText text.toList, IsPlain line) ∧
      Block.endOf? ⟨4, .literalAware⟩ .brace lines 1 = some 3 ∧
      Block.endOf? ⟨4, .naive⟩ .brace lines 1 = some 3 ∧
      Outline.ofText ⟨4, .literalAware⟩ none text = Outline.ofText ⟨4, .naive⟩ none text := by
  intro text lines
  -- The characters are written out, so that they are not read off the bytes of the text each time.
  have spelled : text.toList = _ := String.toList_ofList
  have plain : ∀ line ∈ Line.ofText text.toList, IsPlain line := by
    rw [spelled]
    decide
  have ends : Block.endOf? ⟨4, .literalAware⟩ .brace lines 1 = some 3 := by
    show Block.endOf? _ _ (_ :: Line.ofText text.toList) 1 = _
    rw [spelled]
    decide
  obtain ⟨blocks, outlines⟩ := policies_agree_without_literals 4
  exact ⟨plain, plain, ends, (blocks lines 1 plain).symm.trans ends, outlines none text plain⟩

end Detection
end CodeGloss
