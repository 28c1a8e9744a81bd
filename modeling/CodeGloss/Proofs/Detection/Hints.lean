import CodeGloss.Proofs.Detection.Nesting

/-!
# Detection without a hint

Without a hint every rule is tried, in the same order.  So a line that holds a header under a hint
holds one without it as well, but a rule of another language may have come first, and it may say
something else about the line: that it is a class of Python, say, and that its block is marked by
indentation.

Nothing is missed for that (`no_hint_misses_nothing`).  A block by indentation always has an extent,
and a block by braces has the one that it has under the hint, as the search for it looks at the lines
only.  The rules for Python come first of all, so that nothing can get before them.
-/

namespace CodeGloss

/-! ## Headers -/

namespace Header

variable {language : Language} {line : Line} {h : Header}

/-- A line with a header under a hint has one without a hint. -/
theorem exists_recognize_none (recognized : recognize (some language) line = some h) :
    ∃ h', recognize none line = some h' := by
  obtain ⟨rule, mem, accepts⟩ := List.exists_of_findSome?_eq_some recognized
  rw [← Option.isSome_iff_exists, recognize, List.findSome?_isSome_iff]
  refine ⟨rule, List.mem_filter.mpr ⟨(List.mem_filter.mp mem).1, rfl⟩, ?_⟩
  rw [accepts, Option.isSome_some]

/-- The rules for Python are tried first. -/
theorem recognize_none_of_python (recognized : recognize (some .python) line = some h) :
    recognize none line = some h := by
  have first : rulesFor none = rulesFor (some .python) ++ rules.drop 2 := rfl
  rw [recognize] at recognized
  rw [recognize, first, List.findSome?_append, recognized, Option.some_or]

end Header

namespace Detection

/-! ## Definitions -/

/-- The header from which a definition of a text was made. -/
def headerOf? (hint : Hint) (text : String) (d : Definition) : Option Header :=
  (Line.ofText text.toList)[d.firstLine - 1]?.bind (Header.recognize hint)

/-- Behind every definition there is the header of its line. -/
theorem headerOf?_eq {hint : Hint} {text : String} {front rest : List Line} {header : Line}
    (lines : Line.ofText text.toList = front ++ header :: rest) {d : Definition}
    (first : d.firstLine = 1 + front.length) :
    headerOf? hint text d = Header.recognize hint header := by
  rw [headerOf?, lines, first, Nat.add_sub_cancel_left, List.getElem?_append_right (Nat.le_refl _),
    Nat.sub_self, List.getElem?_cons_zero, Option.bind_some]

/-- The block that is found under a hint is there without it, or the one of another style is. -/
theorem exists_extent? {options : Block.Options} {language : Language} {header : Line}
    {rest : List Line} {h h' : Header} {extent : Nat}
    (recognized : Header.recognize (some language) header = some h)
    (recognized' : Header.recognize none header = some h')
    (within : Block.extent? options h.style header rest = some extent) :
    ∃ extent', Block.extent? options h'.style header rest = some extent' ∧
      (h.style = h'.style → extent' = extent) := by
  by_cases same : h.style = h'.style
  · rw [← same]
    exact ⟨extent, within, fun _ => rfl⟩
  · -- The rule that came first marks blocks by indentation: the hint does not.
    have indented : h'.style = .indent := by
      cases style : h'.style with
      | indent => rfl
      | brace =>
        have marked := Header.style_of_recognize recognized
        split at marked
        next python =>
          rw [python] at recognized
          obtain rfl := Option.some.inj ((Header.recognize_none_of_python recognized).symm.trans
            recognized')
          exact absurd rfl same
        next => exact absurd (marked.trans style.symm) same
    rw [indented]
    exact ⟨_, rfl, fun eq => absurd (eq.trans indented.symm) same⟩

/-- **Without a hint nothing is missed.**  To each definition that is found under a hint there is one
that starts on the same line and is found without it.  Under the hint for Python it is the same one.
If the headers of both are those of blocks in braces, both have the same lines. -/
theorem no_hint_misses_nothing (options : Block.Options) (language : Language) (text : String) :
    ∀ d ∈ (Outline.ofText options (some language) text).definitions,
      ∃ d' ∈ (Outline.ofText options none text).definitions,
        d'.firstLine = d.firstLine ∧ (language = .python → d' = d) ∧
          ∃ h h', headerOf? (some language) text d = some h ∧ headerOf? none text d' = some h' ∧
            (h.style = .brace → h'.style = .brace →
              d'.lastLine = d.lastLine ∧ d'.text = d.text) := by
  intro d mem
  rw [definitions_ofText] at mem
  obtain ⟨front, header, rest, lines, found⟩ := mem_candidates_iff.mp mem
  obtain ⟨h, extent, recognized, within, rfl⟩ := definitionAt?_eq_some_iff.mp found
  obtain ⟨h', recognized'⟩ := Header.exists_recognize_none recognized
  obtain ⟨extent', within', same⟩ := exists_extent? recognized recognized' within
  have mem' : ⟨h'.kind, h'.name, 1 + front.length, 1 + front.length + extent',
      String.ofList (Line.joined (header :: rest.take extent'))⟩ ∈
        candidates options none 1 (Line.ofText text.toList) :=
    mem_candidates_iff.mpr ⟨front, header, rest, lines,
      definitionAt?_eq_some_iff.mpr ⟨h', extent', recognized', within', rfl⟩⟩
  rw [← definitions_ofText] at mem'
  refine ⟨_, mem', rfl, ?_, h, h', ?_, ?_, ?_⟩
  · rintro rfl
    obtain rfl := Option.some.inj ((Header.recognize_none_of_python recognized).symm.trans
      recognized')
    rw [same rfl]
  · rw [headerOf?_eq lines rfl, recognized]
  · rw [headerOf?_eq lines rfl, recognized']
  · intro brace brace'
    rw [same (brace.trans brace'.symm)]
    exact ⟨rfl, rfl⟩

/-- A class of C++ with a base looks like one of Python, and then ends where its indented lines do.
For its method it is the same rule that comes first. -/
theorem method_found_without_hint :
    let text := "class A : public B \x7b\n int x;\nprivate:\n void f() \x7b\n \x7d\n\x7d;\n"
    let found := (Outline.ofText {} (some .cpp) text).definitions
    let found' := (Outline.ofText {} none text).definitions
    let f : Definition := ⟨.function, "f", 4, 5, " void f() \x7b\n \x7d"⟩
    found.map Definition.key = [⟨.classLike, "A", 1, 6⟩, f.key] ∧
      found'.map Definition.key = [⟨.classLike, "A", 1, 2⟩, f.key] ∧ f ∈ found ∧
      ∃ f' ∈ found', f'.firstLine = f.firstLine ∧ (Language.cpp = .python → f' = f) ∧
        ∃ h h', headerOf? (some .cpp) text f = some h ∧ headerOf? none text f' = some h' ∧
          (h.style = .brace → h'.style = .brace →
            f'.lastLine = f.lastLine ∧ f'.text = f.text) := by
  intro text found found' f
  have whole : found = [⟨.classLike, "A", 1, 6,
      "class A : public B \x7b\n int x;\nprivate:\n void f() \x7b\n \x7d\n\x7d;"⟩, f] := by
    show (Outline.ofText _ _ text).definitions = _
    rw [definitions_ofText, (String.toList_ofList : text.toList = _)]
    decide +kernel
  have keys : found.map Definition.key = [⟨.classLike, "A", 1, 6⟩, f.key] := by
    rw [whole]
    rfl
  have keys' : found'.map Definition.key = [⟨.classLike, "A", 1, 2⟩, f.key] := by
    show List.map Definition.key (Outline.ofText _ _ text).definitions = _
    rw [definitions_ofText, (String.toList_ofList : text.toList = _)]
    decide +kernel
  have mem : f ∈ found := by
    rw [whole]
    exact List.mem_cons_of_mem _ List.mem_cons_self
  exact ⟨keys, keys', mem, no_hint_misses_nothing {} .cpp text f mem⟩

end Detection
end CodeGloss
