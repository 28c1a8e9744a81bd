import CodeGloss.Proofs.Json.RoundTrip

/-!
# The grammar of JSON

Which texts are JSON, said without a reader: values, with white space only where it may stand, single
commas between items and members, numbers without leading zeros, and strings in which control
characters, quotes and backslashes are escaped.

Every value whose numbers are natural ones is written as such a text (`Grammar.isValue_value`), and
white space may be put behind it (`isText_write_append`).
-/

namespace CodeGloss
namespace Json

namespace Grammar

/-- White space, perhaps none. -/
def IsSpace (s : List Char) : Prop :=
  ∀ c ∈ s, c ∈ [' ', '\t', '\n', '\r']

/-! ## Numbers -/

/-- Decimal digits, at least one. -/
def IsDigits (s : List Char) : Prop :=
  s ≠ [] ∧ ∀ c ∈ s, c.isDigit = true

/-- Decimal digits that start with no zero unless this is the only one. -/
def IsWhole (s : List Char) : Prop :=
  IsDigits s ∧ (s.head? = some '0' → s = ['0'])

/-- The point of a fraction and its digits, or nothing. -/
def IsFraction (s : List Char) : Prop :=
  s = [] ∨ ∃ digits, s = '.' :: digits ∧ IsDigits digits

/-- An exponent, or nothing. -/
def IsExponent (s : List Char) : Prop :=
  s = [] ∨ ∃ e sign digits, s = e :: (sign ++ digits) ∧ e ∈ ['e', 'E'] ∧
    sign ∈ [[], ['+'], ['-']] ∧ IsDigits digits

/-- A number. -/
def IsNumber (s : List Char) : Prop :=
  ∃ sign whole fraction exponent, s = sign ++ (whole ++ (fraction ++ exponent)) ∧
    sign ∈ [[], ['-']] ∧ IsWhole whole ∧ IsFraction fraction ∧ IsExponent exponent

/-! ## Strings -/

/-- The hexadecimal digits. -/
def hexDigits : List Char :=
  "0123456789abcdefABCDEF".toList

/-- What stands for one character, or for half of one, between quotes. -/
inductive IsUnit : List Char → Prop where
  | plain (c : Char) (printable : 0x20 ≤ c.toNat) (other : c ≠ '"' ∧ c ≠ '\\') : IsUnit [c]
  | letter {e : Char} (mem : e ∈ ['"', '\\', '/', 'b', 'f', 'n', 'r', 't']) : IsUnit ['\\', e]
  | code {digits : List Char} (four : digits.length = 4) (hex : ∀ d ∈ digits, d ∈ hexDigits) :
    IsUnit ('\\' :: 'u' :: digits)

/-- A string with its quotes. -/
def IsString (s : List Char) : Prop :=
  ∃ units : List (List Char), (∀ u ∈ units, IsUnit u) ∧ s = '"' :: (units.flatten ++ ['"'])

/-! ## Values -/

mutual

/-- A value. -/
inductive IsValue : List Char → Prop where
  | null : IsValue "null".toList
  | true_ : IsValue "true".toList
  | false_ : IsValue "false".toList
  | number {s : List Char} (is : IsNumber s) : IsValue s
  | string {s : List Char} (is : IsString s) : IsValue s
  | noItems (gap : List Char) (space : IsSpace gap) : IsValue ('[' :: (gap ++ [']']))
  | array {s : List Char} (is : IsItems s) : IsValue ('[' :: (s ++ [']']))
  | noMembers (gap : List Char) (space : IsSpace gap) : IsValue ('{' :: (gap ++ ['}']))
  | object {s : List Char} (is : IsMembers s) : IsValue ('{' :: (s ++ ['}']))

/-- Values with commas between them and white space around them. -/
inductive IsItems : List Char → Prop where
  | last {before v behind : List Char} (is : IsValue v) (space : IsSpace before)
    (space' : IsSpace behind) : IsItems (before ++ (v ++ behind))
  | next {before v behind rest : List Char} (is : IsValue v) (space : IsSpace before)
    (space' : IsSpace behind) (more : IsItems rest) :
    IsItems (before ++ (v ++ (behind ++ ',' :: rest)))

/-- Keys and values with colons and commas between them and white space around them. -/
inductive IsMembers : List Char → Prop where
  | last {before key gap gap' v behind : List Char} (is_key : IsString key) (is : IsValue v)
    (space : IsSpace before) (around : IsSpace gap ∧ IsSpace gap') (space' : IsSpace behind) :
    IsMembers (before ++ (key ++ (gap ++ ':' :: (gap' ++ (v ++ behind)))))
  | next {before key gap gap' v behind rest : List Char} (is_key : IsString key) (is : IsValue v)
    (space : IsSpace before) (around : IsSpace gap ∧ IsSpace gap') (space' : IsSpace behind)
    (more : IsMembers rest) :
    IsMembers (before ++ (key ++ (gap ++ ':' :: (gap' ++ (v ++ (behind ++ ',' :: rest))))))

end

/-! ## What is written -/

theorem isSpace_newLine (depth : Nat) : IsSpace (Writer.newLine depth) := by
  refine List.forall_mem_cons.mpr ⟨by decide, fun c mem => ?_⟩
  rw [List.eq_of_mem_replicate mem]
  decide

theorem isWhole_toDigits (n : Nat) : IsWhole (Nat.toDigits 10 n) := by
  refine ⟨⟨Nat.toDigits_ne_nil, fun c mem => ?_⟩, fun zero => ?_⟩
  · exact Nat.isDigit_of_mem_toDigits (by decide) (by decide) mem
  · rcases Nat.eq_zero_or_pos n with rfl | pos
    · rfl
    · exact absurd zero (Reader.head?_toDigits pos)

theorem hexDigit_mem : ∀ n < 16, Writer.hexDigit n ∈ hexDigits := by
  decide

/-- A control character is escaped by its letter or by its code, and there are only two other
characters that are escaped. -/
theorem isUnit_escape (c : Char) : IsUnit (Writer.escape c) := by
  unfold Writer.escape
  split
  case h_8 quote backslash _ _ _ _ _ =>
    split
    next control =>
      refine .code rfl ?_
      have high := hexDigit_mem (c.toNat / 16) (by omega)
      have low := hexDigit_mem (c.toNat % 16) (by omega)
      simp only [List.forall_mem_cons, List.not_mem_nil, false_implies, implies_true, and_true]
      exact ⟨by decide, by decide, high, low⟩
    next printable => exact .plain c (Nat.le_of_not_lt printable) ⟨quote, backslash⟩
  all_goals exact .letter (by decide)

theorem isString_quote (text : Option String) : IsString (Writer.quote text) := by
  cases text with
  | none =>
    have hex : ∀ d ∈ ['d', '8', '0', '0'], d ∈ hexDigits := by
      simp only [List.forall_mem_cons, List.not_mem_nil, false_implies, implies_true, and_true]
      decide
    have half : IsUnit ['\\', 'u', 'd', '8', '0', '0'] := .code rfl hex
    exact ⟨[['\\', 'u', 'd', '8', '0', '0']], List.forall_mem_singleton.mpr half, rfl⟩
  | some text =>
    refine ⟨text.toList.map Writer.escape, ?_, rfl⟩
    intro u mem
    obtain ⟨c, -, rfl⟩ := List.mem_map.mp mem
    exact isUnit_escape c

section Written

variable {depth : Nat} (outer : Nat)

/-- The items of a list are in the grammar if each of them is. -/
theorem isItems_items {v : Value} {vs : List Value}
    (each : ∀ w ∈ v :: vs, IsValue (Writer.value depth w)) :
    IsItems (Writer.newLine depth ++
      (Writer.value depth v ++ (Writer.items depth vs ++ Writer.newLine outer))) := by
  have before := isSpace_newLine depth
  have behind : IsSpace [] := nofun
  induction vs generalizing v with
  | nil => exact .last (each v List.mem_cons_self) before (isSpace_newLine outer)
  | cons w vs ih =>
    obtain ⟨first, others⟩ := List.forall_mem_cons.mp each
    have is := IsItems.next first before behind (ih others)
    simpa only [Writer.items, List.nil_append, List.cons_append, List.append_assoc] using is

/-- The members of an object are in the grammar if each of their values is. -/
theorem isMembers_members {key : Option String} {v : Value} {ms : List (Option String × Value)}
    (each : ∀ m ∈ (key, v) :: ms, IsValue (Writer.value depth m.2)) :
    IsMembers (Writer.newLine depth ++ (Writer.quote key ++ ':' :: ' ' ::
      (Writer.value depth v ++ (Writer.members depth ms ++ Writer.newLine outer)))) := by
  have before := isSpace_newLine depth
  have around : IsSpace [] ∧ IsSpace [' '] := ⟨nofun, by simp [IsSpace]⟩
  induction ms generalizing key v with
  | nil =>
    exact .last (isString_quote key) (each _ List.mem_cons_self) before around
      (isSpace_newLine outer)
  | cons m ms ih =>
    obtain ⟨key', w⟩ := m
    obtain ⟨first, others⟩ := List.forall_mem_cons.mp each
    have is := IsMembers.next (isString_quote key) first before around around.1 (ih others)
    simpa only [Writer.members, List.nil_append, List.cons_append, List.append_assoc] using is

end Written

/-- **A plain value is written as the grammar has it.** -/
theorem isValue_value {v : Value} (plain : v.Plain) (depth : Nat) :
    IsValue (Writer.value depth v) := by
  induction plain generalizing depth with
  | null => exact .null
  | bool b =>
    cases b with
    | false => exact .false_
    | true => exact .true_
  | natural n =>
    refine .number ⟨[], Nat.toDigits 10 n, [], [], ?_, by decide, isWhole_toDigits n, .inl rfl,
      .inl rfl⟩
    rw [List.nil_append, List.append_nil, List.append_nil]
    exact Nat.toList_repr
  | string text => exact .string (isString_quote text)
  | @array items each ih =>
    cases items with
    | nil => exact .noItems [] nofun
    | cons v vs =>
      have is := IsValue.array (isItems_items depth fun w mem => ih w mem (depth + 1))
      simpa only [Writer.value_array_cons, List.cons_append, List.append_assoc] using is
  | @object members each ih =>
    rcases members with _ | ⟨⟨key, v⟩, ms⟩
    · exact .noMembers [] nofun
    · have is := IsValue.object (isMembers_members depth fun m mem => ih m mem (depth + 1))
      simpa only [Writer.value_object_cons, List.nil_append, List.cons_append, List.append_assoc] using is

end Grammar

/-- Whether a text is JSON: a value with white space around it. -/
def IsText (text : String) : Prop :=
  ∃ before v behind, text.toList = before ++ (v ++ behind) ∧ Grammar.IsValue v ∧
    Grammar.IsSpace before ∧ Grammar.IsSpace behind

/-- What is written is JSON, also with white space behind it. -/
theorem isText_write_append {v : Value} (plain : v.Plain) {behind : String}
    (space : Grammar.IsSpace behind.toList) : IsText (write v ++ behind) := by
  refine ⟨[], Writer.value 0 v, behind.toList, ?_, Grammar.isValue_value plain 0, nofun, space⟩
  rw [String.toList_append, write, String.toList_ofList, List.nil_append]

end Json
end CodeGloss
