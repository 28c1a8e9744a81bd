import CodeGloss.Json.Reader
import CodeGloss.Json.Writer

/-!
# What is written is read back

Every value whose numbers are natural ones is written as a text that spells it (`Json.read?_write`).
Any other number is written as it is spelled, so nothing can be said of it.

The text of a value is followed by the end of the text, by a comma, or by a line break
(`Reader.Ended`), and none of these can be taken for more of a number.  The reader needs no more fuel
than there are characters, as it spends one unit on each value, item or member, and every one of them
has a character of its own.
-/

namespace CodeGloss
namespace Json

/-- Whether all numbers in a value are natural ones. -/
inductive Value.Plain : Value → Prop where
  | null : Plain .null
  | bool (b : Bool) : Plain (.bool b)
  | natural (n : Nat) : Plain (.natural n)
  | string (text : Option String) : Plain (.string text)
  | array {items : List Value} (each : ∀ v ∈ items, Plain v) : Plain (.array items)
  | object {members : List (Option String × Value)} (each : ∀ m ∈ members, Plain m.2) :
    Plain (.object members)

namespace Writer

/-! ## How values are written -/

theorem value_string (depth : Nat) (text : Option String) :
    value depth (.string text) = quote text :=
  rfl

theorem value_array_cons (depth : Nat) (v : Value) (vs : List Value) :
    value depth (.array (v :: vs)) =
      '[' :: newLine (depth + 1) ++ value (depth + 1) v ++ items (depth + 1) vs ++
        newLine depth ++ [']'] :=
  rfl

theorem value_object_cons (depth : Nat) (key : Option String) (v : Value)
    (ms : List (Option String × Value)) :
    value depth (.object ((key, v) :: ms)) =
      '\x7b' :: newLine (depth + 1) ++ quote key ++ [':', ' '] ++ value (depth + 1) v ++
        members (depth + 1) ms ++ newLine depth ++ ['\x7d'] :=
  rfl

end Writer

namespace Reader

/-! ## Strings -/

theorem hexDigit?_hexDigit : ∀ n < 16, hexDigit? (Writer.hexDigit n) = some n := by
  decide

/-- The code unit of a control character is spelled by two digits. -/
theorem codeUnit?_hexDigit {n : Nat} (small : n < 0x20) :
    codeUnit? '0' '0' (Writer.hexDigit (n / 16)) (Writer.hexDigit (n % 16)) = some n := by
  have high := hexDigit?_hexDigit (n / 16) (by omega)
  have low := hexDigit?_hexDigit (n % 16) (by omega)
  have zero : hexDigit? '0' = some 0 := rfl
  simp only [codeUnit?, high, low, zero, bind, Option.bind_some]
  congr 1
  omega

theorem pushUnit_of_control {p : Unfinished} {c : Char} (control : c.toNat < 0x20) :
    p.pushUnit c.toNat = p.push c := by
  rw [Unfinished.pushUnit, if_neg (by simp; omega), if_neg (by simp; omega), Char.ofNat_toNat]

/-- A character is read back as it was escaped. -/
theorem string?_escape (p : Unfinished) (c : Char) (rest : List Char) :
    string? p (Writer.escape c ++ rest) = string? (p.push c) rest := by
  unfold Writer.escape
  split
  case h_8 quote backslash _ _ _ _ _ =>
    split
    next control =>
      simp only [List.cons_append, List.nil_append, string?, codeUnit?_hexDigit control,
        pushUnit_of_control control]
    next plain =>
      rw [List.singleton_append, string?.eq_def]
      split
      case h_4 heads =>
        cases heads
        rw [if_neg]
        simpa using ⟨backslash, Nat.le_of_not_lt plain⟩
      all_goals simp_all
  all_goals rfl

/-- The rest of a string is read back together with what was read of it before. -/
theorem string?_flatMap_escape (text before rest : List Char) :
    string? ⟨some before, none⟩ (text.flatMap Writer.escape ++ '"' :: rest) =
      some (some (String.ofList (before.reverse ++ text)), rest) := by
  induction text generalizing before with
  | nil => simp [string?, Unfinished.text?]
  | cons c text ih =>
    rw [List.flatMap_cons, List.append_assoc, string?_escape]
    show string? ⟨some (c :: before), none⟩ _ = _
    rw [ih]
    simp

/-- A string is read back, and so is the absence of its text. -/
theorem string?_quote (text : Option String) (rest : List Char) :
    ∃ tail, Writer.quote text ++ rest = '"' :: tail ∧ string? {} tail = some (text, rest) := by
  cases text with
  | none =>
    have written : Writer.quote none = ['"', '\\', 'u', 'd', '8', '0', '0', '"'] := by decide
    refine ⟨['\\', 'u', 'd', '8', '0', '0', '"'] ++ rest, by rw [written]; rfl, ?_⟩
    have half : codeUnit? 'd' '8' '0' '0' = some 0xD800 := by decide
    simp only [List.cons_append, List.nil_append, string?, half]
    rfl
  | some text =>
    have written : Writer.quote (some text) ++ rest =
        '"' :: (text.toList.flatMap Writer.escape ++ ['"']) ++ rest := rfl
    refine ⟨text.toList.flatMap Writer.escape ++ '"' :: rest, by simp [written], ?_⟩
    show string? ⟨some [], none⟩ _ = _
    rw [string?_flatMap_escape]
    simp

/-! ## Numbers -/

/-- Whether what follows a value is none of its business: it is the end of the text, a comma, or a
line break. -/
def Ended (rest : List Char) : Prop :=
  ∀ c ∈ rest.head?, c = ',' ∨ c = '\n'

theorem isDigit_of_mem_toDigits {n : Nat} {c : Char} (mem : c ∈ Nat.toDigits 10 n) :
    isDigit c = true := by
  have digit := Nat.isDigit_of_mem_toDigits (by decide) (by decide) mem
  simpa [Char.isDigit, isDigit, Char.le_def, UInt32.le_iff_toNat_le] using digit

/-- The digits of a number other than zero start with no zero. -/
theorem head?_toDigits {n : Nat} (pos : 0 < n) : (Nat.toDigits 10 n).head? ≠ some '0' := by
  induction n using Nat.strongRecOn with
  | ind n ih =>
    by_cases small : n < 10
    · rw [Nat.toDigits_of_lt_base small]
      have all : ∀ n < 10, 0 < n → [n.digitChar].head? ≠ some '0' := by decide
      exact all n small pos
    · rw [Nat.toDigits_of_base_le (by decide) (Nat.le_of_not_lt small)]
      have front := ih (n / 10) (by omega) (by omega)
      rcases eq : Nat.toDigits 10 (n / 10) with _ | ⟨d, ds⟩
      · exact absurd eq Nat.toDigits_ne_nil
      · rw [eq] at front
        simpa using front

theorem numeral_toDigits (n : Nat) : numeral (Nat.toDigits 10 n) = n := by
  have value := @Nat.ofDigitChars_ten_toDigits n
  rw [Nat.ofDigitChars_eq_foldl] at value
  simpa only [numeral, Nat.mul_comm] using value

section Digits

variable {rest : List Char}

theorem takeWhile_isDigit (n : Nat) (ended : Ended rest) :
    (Nat.toDigits 10 n ++ rest).takeWhile isDigit = Nat.toDigits 10 n ∧
      (Nat.toDigits 10 n ++ rest).dropWhile isDigit = rest := by
  have digits : ∀ c ∈ Nat.toDigits 10 n, isDigit c = true := fun c => isDigit_of_mem_toDigits
  have stop : rest.takeWhile isDigit = [] ∧ rest.dropWhile isDigit = rest := by
    cases rest with
    | nil => exact ⟨rfl, rfl⟩
    | cons c tail =>
      have other : isDigit c = false := by
        rcases ended c rfl with rfl | rfl <;> rfl
      simp [other]
  rw [List.takeWhile_append_of_pos digits, List.dropWhile_append_of_pos digits, stop.1, stop.2]
  exact ⟨List.append_nil _, rfl⟩

theorem whole?_toDigits (n : Nat) (ended : Ended rest) :
    whole? (Nat.toDigits 10 n ++ rest) = some (Nat.toDigits 10 n, rest) := by
  rcases Nat.eq_zero_or_pos n with rfl | pos
  · rfl
  · obtain ⟨taken, dropped⟩ := takeWhile_isDigit n ended
    have digits : digits? (Nat.toDigits 10 n ++ rest) = some (Nat.toDigits 10 n, rest) := by
      rw [digits?, taken, dropped]
      split
      next none_ => exact absurd none_ Nat.toDigits_ne_nil
      next => rfl
    rw [← digits, whole?.eq_def]
    split
    next tail zero =>
      have head := head?_toDigits pos
      rcases eq : Nat.toDigits 10 n with _ | ⟨d, ds⟩
      · exact absurd eq Nat.toDigits_ne_nil
      · rw [eq, List.cons_append, List.cons.injEq] at zero
        rw [eq, zero.1] at head
        exact absurd rfl head
    next => rfl

theorem fraction?_of_ended (ended : Ended rest) : fraction? rest = some ([], rest) := by
  cases rest with
  | nil => rfl
  | cons c tail => rcases ended c rfl with rfl | rfl <;> rfl

theorem exponent?_of_ended (ended : Ended rest) : exponent? rest = some ([], rest) := by
  cases rest with
  | nil => rfl
  | cons c tail => rcases ended c rfl with rfl | rfl <;> rfl

/-- A number is read back. -/
theorem number?_toDigits (n : Nat) (ended : Ended rest) :
    number? (Nat.toDigits 10 n ++ rest) = some (.natural n, rest) := by
  have whole := whole?_toDigits n ended
  unfold number?
  rcases eq : Nat.toDigits 10 n with _ | ⟨d, ds⟩
  · exact absurd eq Nat.toDigits_ne_nil
  · have unsigned : d ≠ '-' := by
      rintro rfl
      have digit := isDigit_of_mem_toDigits (n := n) (c := '-') (by rw [eq]; exact List.mem_cons_self)
      exact absurd digit (by decide)
    split
    next sign s signed =>
      split at signed
      next heads =>
        cases heads
        exact absurd rfl unsigned
      next =>
        cases signed
        rw [← eq, whole]
        simp [fraction?_of_ended ended, exponent?_of_ended ended, numeral_toDigits]

end Digits

/-! ## White space -/

theorem skipSpace_newLine (depth : Nat) (s : List Char) :
    skipSpace (Writer.newLine depth ++ s) = skipSpace s := by
  have spaces : ∀ c ∈ Writer.newLine depth, isSpace c = true := by
    intro c mem
    rcases List.mem_cons.mp mem with rfl | mem
    · rfl
    · rw [List.eq_of_mem_replicate mem]
      rfl
  exact List.dropWhile_append_of_pos spaces

theorem skipSpace_of_solid {c : Char} (solid : isSpace c = false) (s : List Char) :
    skipSpace (c :: s) = c :: s := by
  rw [skipSpace, List.dropWhile_cons, solid]
  rfl

theorem value?_newLine (fuel depth : Nat) (s : List Char) :
    value? fuel (Writer.newLine depth ++ s) = value? fuel s := by
  cases fuel with
  | zero => simp only [value?]
  | succ fuel => simp only [value?, skipSpace_newLine]

theorem value?_blank (fuel : Nat) (s : List Char) : value? fuel (' ' :: s) = value? fuel s := by
  cases fuel with
  | zero => simp only [value?]
  | succ fuel => simp only [value?, skipSpace, List.dropWhile_cons, isSpace, beq_self_eq_true,
      Bool.true_or, if_true]

theorem items?_newLine (fuel depth : Nat) (s : List Char) :
    items? fuel (Writer.newLine depth ++ s) = items? fuel s := by
  cases fuel with
  | zero => simp only [items?]
  | succ fuel => simp only [items?, value?_newLine]

theorem members?_newLine (fuel depth : Nat) (s : List Char) :
    members? fuel (Writer.newLine depth ++ s) = members? fuel s := by
  cases fuel with
  | zero => simp only [members?]
  | succ fuel => simp only [members?, skipSpace_newLine]

/-! ## Values -/

/-- The text of a value starts with a character that is neither white space nor closes a list. -/
theorem exists_head_value {v : Value} (plain : v.Plain) (depth : Nat) :
    ∃ c tail, Writer.value depth v = c :: tail ∧ isSpace c = false ∧ c ≠ ']' := by
  cases plain with
  | null => exact ⟨'n', _, rfl, rfl, by decide⟩
  | bool b => cases b <;> exact ⟨_, _, rfl, rfl, by decide⟩
  | natural n =>
    rcases eq : Nat.toDigits 10 n with _ | ⟨d, ds⟩
    · exact absurd eq Nat.toDigits_ne_nil
    · have digit : isDigit d = true :=
        isDigit_of_mem_toDigits (n := n) (by rw [eq]; exact List.mem_cons_self)
      refine ⟨d, ds, ?_, ?_, ?_⟩
      · rw [← eq]
        exact Nat.toList_repr
      · refine Bool.eq_false_iff.mpr fun space => ?_
        simp only [isSpace, Bool.or_eq_true, beq_iff_eq] at space
        rcases space with ((rfl | rfl) | rfl) | rfl <;> exact absurd digit (by decide)
      · rintro rfl
        exact absurd digit (by decide)
  | string text => cases text <;> exact ⟨'"', _, rfl, rfl, by decide⟩
  | @array items each => cases items <;> exact ⟨'[', _, rfl, rfl, by decide⟩
  | @object members each =>
    rcases members with _ | ⟨⟨key, v⟩, rest⟩ <;> exact ⟨'\x7b', _, rfl, rfl, by decide⟩

/-- Whether a value is read back wherever it is written, by a reader with fuel for every character. -/
def ReadsBack (v : Value) : Prop :=
  ∀ (depth fuel : Nat) (rest : List Char), (Writer.value depth v).length < fuel → Ended rest →
    value? fuel (Writer.value depth v ++ rest) = some (v, rest)

theorem ended_items (depth outer : Nat) (vs : List Value) (rest : List Char) :
    Ended (Writer.items depth vs ++ (Writer.newLine outer ++ rest)) := by
  intro c mem
  cases vs with
  | nil => exact .inr (Option.some.inj mem).symm
  | cons v vs => exact .inl (Option.some.inj mem).symm

theorem ended_members (depth outer : Nat) (ms : List (Option String × Value)) (rest : List Char) :
    Ended (Writer.members depth ms ++ (Writer.newLine outer ++ rest)) := by
  intro c mem
  rcases ms with _ | ⟨⟨key, v⟩, ms⟩
  · exact .inr (Option.some.inj mem).symm
  · exact .inl (Option.some.inj mem).symm

/-- The items of a list are read back. -/
theorem items?_items (depth outer : Nat) {fuel : Nat} {vs : List Value} {v : Value}
    (each : ∀ w ∈ v :: vs, ReadsBack w) (rest : List Char)
    (enough : (Writer.value depth v).length + (Writer.items depth vs).length + 1 < fuel) :
    items? fuel (Writer.value depth v ++
        (Writer.items depth vs ++ (Writer.newLine outer ++ ']' :: rest))) =
      some (v :: vs, rest) := by
  induction vs generalizing v fuel with
  | nil =>
    obtain ⟨fuel, rfl⟩ : ∃ n, fuel = n + 1 := ⟨fuel - 1, by omega⟩
    have first := each v List.mem_cons_self depth fuel _ (by omega)
      (ended_items depth outer [] (']' :: rest))
    rw [items?, first]
    simp only [Writer.items, List.nil_append, skipSpace_newLine, skipSpace_of_solid (c := ']') rfl]
  | cons w vs ih =>
    obtain ⟨fuel, rfl⟩ : ∃ n, fuel = n + 1 := ⟨fuel - 1, by omega⟩
    have first := each v List.mem_cons_self depth fuel _ (by omega)
      (ended_items depth outer (w :: vs) (']' :: rest))
    simp only [Writer.items, List.length_cons, List.length_append] at enough
    have others := ih (v := w) (fun u mem => each u (List.mem_cons_of_mem v mem))
      (show _ < fuel by omega)
    rw [items?, first]
    simp only [Writer.items, List.cons_append, List.append_assoc,
      skipSpace_of_solid (c := ',') rfl, items?_newLine, others, Option.map_some]

section Member

variable {fuel : Nat} {s t rest : List Char} {v : Value}
  (key : Option String) (first : value? fuel s = some (v, t))
include first

/-- A member with a brace behind it is the last one. -/
theorem members?_last (ends : skipSpace t = '}' :: rest) :
    members? (fuel + 1) (Writer.quote key ++ ':' :: ' ' :: s) = some ([(key, v)], rest) := by
  obtain ⟨tail, written, reads⟩ := string?_quote key (':' :: ' ' :: s)
  rw [written, members?, skipSpace_of_solid rfl]
  simp only [reads, skipSpace_of_solid (c := ':') rfl, value?_blank, first, ends]

/-- Behind a member with a comma the others are read. -/
theorem members?_more (goes_on : skipSpace t = ',' :: rest) :
    members? (fuel + 1) (Writer.quote key ++ ':' :: ' ' :: s) =
      (members? fuel rest).map fun r => ((key, v) :: r.1, r.2) := by
  obtain ⟨tail, written, reads⟩ := string?_quote key (':' :: ' ' :: s)
  rw [written, members?, skipSpace_of_solid rfl]
  simp only [reads, skipSpace_of_solid (c := ':') rfl, value?_blank, first, goes_on]

end Member

/-- The members of an object are read back. -/
theorem members?_members (depth outer : Nat) {fuel : Nat}
    {ms : List (Option String × Value)} {key : Option String} {v : Value}
    (each : ∀ m ∈ (key, v) :: ms, ReadsBack m.2) (rest : List Char)
    (enough : (Writer.value depth v).length + (Writer.members depth ms).length + 1 < fuel) :
    members? fuel (Writer.quote key ++ ':' :: ' ' :: (Writer.value depth v ++
        (Writer.members depth ms ++ (Writer.newLine outer ++ '}' :: rest)))) =
      some ((key, v) :: ms, rest) := by
  induction ms generalizing key v fuel with
  | nil =>
    obtain ⟨fuel, rfl⟩ : ∃ n, fuel = n + 1 := ⟨fuel - 1, by omega⟩
    have first := each (key, v) List.mem_cons_self depth fuel _
      (show (Writer.value depth v).length < fuel by omega)
      (ended_members depth outer [] ('}' :: rest))
    refine members?_last key first ?_
    rw [Writer.members, List.nil_append, skipSpace_newLine, skipSpace_of_solid rfl]
  | cons m ms ih =>
    obtain ⟨key', w⟩ := m
    obtain ⟨fuel, rfl⟩ : ∃ n, fuel = n + 1 := ⟨fuel - 1, by omega⟩
    have first := each (key, v) List.mem_cons_self depth fuel _
      (show (Writer.value depth v).length < fuel by omega)
      (ended_members depth outer ((key', w) :: ms) ('}' :: rest))
    simp only [Writer.members, List.length_cons, List.length_append] at enough
    have others := ih (v := w) (fun m mem => each m (List.mem_cons_of_mem _ mem))
      (show _ < fuel by omega)
    have comma : skipSpace (Writer.members depth ((key', w) :: ms) ++
        (Writer.newLine outer ++ '}' :: rest)) =
          ',' :: (Writer.newLine depth ++ (Writer.quote key' ++ ':' :: ' ' ::
            (Writer.value depth w ++ (Writer.members depth ms ++
              (Writer.newLine outer ++ '}' :: rest))))) := by
      simp only [Writer.members, List.cons_append, List.append_assoc, List.nil_append,
        skipSpace_of_solid (c := ',') rfl]
    rw [members?_more key first comma, members?_newLine, others, Option.map_some]

theorem isSpace_of_isDigit {c : Char} (digit : isDigit c = true) : isSpace c = false := by
  refine Bool.eq_false_iff.mpr fun space => ?_
  simp only [isSpace, Bool.or_eq_true, beq_iff_eq] at space
  rcases space with ((rfl | rfl) | rfl) | rfl <;> exact absurd digit (by decide)

/-- What starts with a digit is read as a number. -/
theorem value?_of_isDigit {c : Char} (digit : isDigit c = true) (fuel : Nat) (s : List Char) :
    value? (fuel + 1) (c :: s) = number? (c :: s) := by
  rw [value?, skipSpace_of_solid (isSpace_of_isDigit digit)]
  split
  case h_7 => rfl
  all_goals
    next heads =>
      cases heads
      exact absurd digit (by decide)

/-- A reader with fuel for every character has some. -/
theorem ReadsBack.intro {v : Value}
    (reads : ∀ (depth fuel : Nat) (rest : List Char), (Writer.value depth v).length < fuel + 1 →
      Ended rest → value? (fuel + 1) (Writer.value depth v ++ rest) = some (v, rest)) :
    ReadsBack v := by
  intro depth fuel rest enough ended
  cases fuel with
  | zero => exact absurd enough (Nat.not_lt_zero _)
  | succ fuel => exact reads depth fuel rest enough ended

theorem readsBack_natural (n : Nat) : ReadsBack (.natural n) := by
  refine .intro fun depth fuel rest enough ended => ?_
  have reads := number?_toDigits n ended
  rw [show Writer.value depth (.natural n) = Nat.toDigits 10 n from Nat.toList_repr]
  rcases eq : Nat.toDigits 10 n with _ | ⟨d, ds⟩
  · exact absurd eq Nat.toDigits_ne_nil
  · have digit : isDigit d = true :=
      isDigit_of_mem_toDigits (n := n) (by rw [eq]; exact List.mem_cons_self)
    rw [eq] at reads
    rw [List.cons_append, value?_of_isDigit digit, ← List.cons_append, reads]

theorem readsBack_string (text : Option String) : ReadsBack (.string text) := by
  refine .intro fun depth fuel rest enough ended => ?_
  obtain ⟨tail, written, reads⟩ := string?_quote text rest
  rw [Writer.value_string, written, value?, skipSpace_of_solid rfl]
  simp only [reads, Option.map_some]

theorem readsBack_array {items : List Value} (plain : ∀ v ∈ items, v.Plain)
    (each : ∀ v ∈ items, ReadsBack v) : ReadsBack (.array items) := by
  refine .intro fun depth fuel rest enough ended => ?_
  cases items with
  | nil => rfl
  | cons v vs =>
    simp only [Writer.value_array_cons, List.length_cons, List.length_append] at enough
    have reads := items?_items (depth + 1) depth each rest (show _ < fuel by omega)
    obtain ⟨c, tail, starts, solid, opens⟩ :=
      exists_head_value (plain v List.mem_cons_self) (depth + 1)
    simp only [Writer.value_array_cons, List.cons_append, List.append_assoc, List.nil_append]
    rw [value?, skipSpace_of_solid rfl]
    simp only [skipSpace_newLine]
    -- The first item does not start with the bracket that would end the list.
    rw [starts, List.cons_append, skipSpace_of_solid solid]
    split
    next heads =>
      cases heads
      exact absurd rfl opens
    next =>
      rw [← List.cons_append, ← starts, reads]
      rfl

theorem readsBack_object {members : List (Option String × Value)}
    (each : ∀ m ∈ members, ReadsBack m.2) : ReadsBack (.object members) := by
  refine .intro fun depth fuel rest enough ended => ?_
  rcases members with _ | ⟨⟨key, v⟩, ms⟩
  · rfl
  · simp only [Writer.value_object_cons, List.length_cons, List.length_append] at enough
    have reads := members?_members (depth + 1) depth each rest (show _ < fuel by omega)
    obtain ⟨tail, starts, -⟩ := string?_quote key (':' :: ' ' :: (Writer.value (depth + 1) v ++
      (Writer.members (depth + 1) ms ++ (Writer.newLine depth ++ '}' :: rest))))
    simp only [Writer.value_object_cons, List.cons_append, List.append_assoc, List.nil_append]
    rw [value?, skipSpace_of_solid rfl]
    simp only [skipSpace_newLine]
    rw [starts, skipSpace_of_solid rfl]
    split
    next heads => cases heads
    next =>
      rw [← starts, reads]
      rfl

/-- A plain value is read back. -/
theorem readsBack_of_plain {v : Value} (plain : v.Plain) : ReadsBack v := by
  induction plain with
  | null => exact .intro fun _ _ _ _ _ => rfl
  | bool b => exact .intro fun _ _ _ _ _ => by cases b <;> rfl
  | natural n => exact readsBack_natural n
  | string text => exact readsBack_string text
  | array each ih => exact readsBack_array each ih
  | object each ih => exact readsBack_object ih

end Reader

/-- What is written is read back, also with white space behind it that starts with a line break. -/
theorem read?_write_append {v : Value} (plain : v.Plain) {behind : String}
    (ended : Reader.Ended behind.toList) (space : Reader.skipSpace behind.toList = []) :
    read? (write v ++ behind) = some v := by
  have whole : (write v ++ behind).toList = Writer.value 0 v ++ behind.toList := by
    rw [String.toList_append, write, String.toList_ofList]
  have enough : (Writer.value 0 v).length <
      2 * (Writer.value 0 v ++ behind.toList).length + 2 := by
    rw [List.length_append]
    omega
  rw [read?, whole]
  simp only [Reader.readsBack_of_plain plain 0 _ behind.toList enough ended, space,
    List.isEmpty_nil, if_true]

/-- **What is written is read back.** -/
theorem read?_write {v : Value} (plain : v.Plain) : read? (write v) = some v := by
  have ended : Reader.Ended "".toList := nofun
  have reads := read?_write_append plain ended rfl
  rwa [String.append_empty] at reads

end Json
end CodeGloss
