import CodeGloss.Header.Recognition
import CodeGloss.Proofs.Header.Steps
import Mathlib.Data.List.TakeWhile

/-!
# Blank lines hold no header

Every header rule skips the blanks at the start of a line and then asks for a word or a name, so
none of them accepts a line of blanks only (`Header.recognize_of_isAllBlank`).  The steps that a
rule may leave out read nothing where nothing is left (`skipWords_nil`, `afterModifiers_nil`), and
the steps that it may not leave out fail (`afterWord?_nil`, `afterAnyWord?_nil`).

The exception is the rule for typed methods, which reads a line backwards from a parenthesis.  A
parenthesis is not blank.
-/

namespace CodeGloss

/-! ## Steps where nothing is left -/

theorem Text.trimStart_of_isAllBlank {s : List Char} (blank : isAllBlank s = true) :
    trimStart s = [] := by
  rw [trimStart, List.dropWhile_eq_nil_iff]
  exact List.all_eq_true.mp blank

namespace Header
namespace Scanner

theorem after?_nil {word : String} (some_ : word.toList ≠ []) : after? word [] = none := by
  rw [after?, if_neg]
  simpa using some_

@[simp] theorem afterWord?_nil (word : String) : afterWord? word [] = none := by
  unfold afterWord? after?
  split <;> simp [afterBlanks?]

@[simp] theorem skipWord_nil (word : String) : skipWord word [] = [] := by
  rw [skipWord, afterWord?_nil, Option.getD_none]

@[simp] theorem skipWords_nil (words : List String) : skipWords words [] = [] := by
  induction words with
  | nil => rfl
  | cons word rest ih => rw [skipWords, List.foldl_cons, skipWord_nil]; exact ih

@[simp] theorem afterAnyWord?_nil (words : List String) : afterAnyWord? words [] = none := by
  rw [afterAnyWord?, List.findSome?_eq_none_iff]
  exact fun word _ => afterWord?_nil word

theorem afterModifiers_nil (words : List String) (fewer : List (List Char)) :
    afterModifiers words [] fewer = [] :: fewer :=
  afterModifiers_of_none (afterAnyWord?_nil words) fewer

end Scanner

open Scanner Text

/-! ## Every rule -/

section

variable {line : Line} (blank : isAllBlank line = true)
include blank

theorem scanDef_of_isAllBlank : scanDef line = none := by
  simp [scanDef, trimStart_of_isAllBlank blank]

theorem scanIndentedClass_of_isAllBlank : scanIndentedClass line = none := by
  simp [scanIndentedClass, trimStart_of_isAllBlank blank]

theorem scanFunction_of_isAllBlank : scanFunction line = none := by
  have stuck : after? "function" [] = none := after?_nil (by decide)
  rw [scanFunction, trimStart_of_isAllBlank blank, skipWords_nil, stuck]
  rfl

theorem scanClass_of_isAllBlank : scanClass line = none := by
  have skipped : skipClassModifiers [] = [] := by
    rw [skipClassModifiers, afterModifiers_nil, List.headD_cons]
  have stuck : after? "class" [] = none := after?_nil (by decide)
  rw [scanClass, trimStart_of_isAllBlank blank, skipWords_nil, skipped, stuck]
  rfl

theorem scanBinding_of_isAllBlank : scanBinding line = none := by
  simp [scanBinding, trimStart_of_isAllBlank blank]

theorem scanFn_of_isAllBlank : scanFn line = none := by
  simp [scanFn, skipVisibility, skipExtern, trimStart_of_isAllBlank blank, after?_nil]

theorem scanType_of_isAllBlank : scanType line = none := by
  simp [scanType, skipVisibility, trimStart_of_isAllBlank blank, after?_nil]

theorem scanImpl_of_isAllBlank : scanImpl line = none := by
  have stuck : after? "impl" [] = none := after?_nil (by decide)
  rw [scanImpl, trimStart_of_isAllBlank blank, skipWord_nil, stuck]
  rfl

theorem scanFunc_of_isAllBlank : scanFunc line = none := by
  have stuck : after? "func" [] = none := after?_nil (by decide)
  rw [scanFunc, trimStart_of_isAllBlank blank, stuck]
  rfl

/-- A parenthesis is not blank. -/
theorem scanTyped_of_isAllBlank : scanTyped line = none := by
  have without : '(' ∉ line := by
    intro mem
    have parenthesis := List.all_eq_true.mp blank '(' mem
    revert parenthesis
    decide
  rw [scanTyped, if_pos]
  simpa using without

theorem scanMethod_of_isAllBlank : scanMethod line = none := by
  simp [scanMethod, scanMethodName, trimStart_of_isAllBlank blank, afterModifiers_nil, after?_nil,
    scriptName?, name?]

end

/-- **Blank lines hold no header.** -/
theorem recognize_of_isAllBlank (hint : Hint) {line : Line} (blank : isAllBlank line = true) :
    recognize hint line = none := by
  have refused : ∀ rule ∈ rules, rule.scan line = none := by
    intro rule mem
    simp only [rules, List.mem_cons, List.not_mem_nil, or_false] at mem
    rcases mem with rfl | rfl | rfl | rfl | rfl | rfl | rfl | rfl | rfl | rfl | rfl
    · exact scanDef_of_isAllBlank blank
    · exact scanIndentedClass_of_isAllBlank blank
    · exact scanFunction_of_isAllBlank blank
    · exact scanClass_of_isAllBlank blank
    · exact scanBinding_of_isAllBlank blank
    · exact scanFn_of_isAllBlank blank
    · exact scanType_of_isAllBlank blank
    · exact scanImpl_of_isAllBlank blank
    · exact scanFunc_of_isAllBlank blank
    · exact scanTyped_of_isAllBlank blank
    · exact scanMethod_of_isAllBlank blank
  rw [recognize, List.findSome?_eq_none_iff]
  intro rule mem
  rw [Rule.header?, refused rule (List.mem_filter.mp mem).1]

end Header
end CodeGloss
