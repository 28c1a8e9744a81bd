import CodeGloss.Header.Pattern
import Mathlib.Data.List.Basic

/-!
# The first way that leads on

Of all the ways to read a line along a pattern, the first one that leads to something counts.  What
leads on is a function of the place that was come to, so a pattern takes what is to follow it, and
gives what comes of a line (`Pattern.first`).  There is one equation for each form of a pattern, and
the lists of ways are not needed any more.

A repetition is where an order of the ways matters.  It does not if what follows refuses every text
that the repetition could have read on from.

* `first_seq`, `first_either`, `first_name`, …: the equations.
* `first_many`: a repetition reads once more, or else is left.  How often it might go on was only
  bounded by what is left of the line (`repeated_eq`).
* `refuses_one`, `refuses_optional`, …: which characters nothing comes of (`Pattern.Refuses`).
* `first_many_one`: all characters of a class are read, if what follows refuses them.
-/

namespace CodeGloss
namespace Header
namespace Pattern

/-! ## Cursors -/

namespace Cursor

/-- The cursor that has come to where `rest` is left. -/
def leaving (s : Cursor) (rest : List Char) : Cursor :=
  { s with rest }

variable (s : Cursor) (t u : List Char)

@[simp] theorem rest_leaving : (s.leaving t).rest = t := rfl

@[simp] theorem capture_leaving : (s.leaving t).capture = s.capture := rfl

@[simp] theorem leaving_leaving : (s.leaving t).leaving u = s.leaving u := rfl

@[simp] theorem leaving_rest : s.leaving s.rest = s := rfl

end Cursor

variable {β : Type} {line : List Char} {p q : Pattern} {s s' : Cursor} {k : Cursor → Option β}

/-- What comes of the first way to read a pattern that leads on. -/
def first (p : Pattern) (line : List Char) (s : Cursor) (k : Cursor → Option β) : Option β :=
  (p.runs line s).findSome? k

theorem find?_eq_first (p : Pattern) (line : List Char) :
    p.find? line = p.first line { rest := line } fun s => some s.capture := by
  rw [find?, first]
  cases p.runs line { rest := line } with
  | nil => rfl
  | cons s others => rfl

theorem findSome?_flatMap {α : Type} (f : α → List Cursor) (k : Cursor → Option β) (l : List α) :
    (l.flatMap f).findSome? k = l.findSome? fun a => (f a).findSome? k := by
  induction l with
  | nil => rfl
  | cons a l ih =>
    rw [List.flatMap_cons, List.findSome?_append, ih, List.findSome?_cons]
    cases (f a).findSome? k with
    | none => rfl
    | some b => rfl

/-! ## One step -/

theorem first_nothing : nothing.first line s k = k s :=
  List.findSome?_singleton

theorem runs_one_nil {f : Char → Bool} (none_ : s.rest = []) : (one f).runs line s = [] := by
  rw [runs, none_]

theorem runs_one_cons {f : Char → Bool} {c : Char} {rest : List Char} (some_ : s.rest = c :: rest) :
    (one f).runs line s = if f c then [s.leaving rest] else [] := by
  rw [runs, some_]
  rfl

theorem first_one_nil {f : Char → Bool} (none_ : s.rest = []) :
    (one f).first line s k = none := by
  rw [first, runs_one_nil none_]
  rfl

theorem first_one_cons {f : Char → Bool} {c : Char} {rest : List Char} (some_ : s.rest = c :: rest) :
    (one f).first line s k = if f c then k (s.leaving rest) else none := by
  rw [first, runs_one_cons some_]
  split
  · exact List.findSome?_singleton
  · rfl

theorem first_none : (one fun _ => false).first line s k = none := by
  cases rest_eq : s.rest with
  | nil => exact first_one_nil rest_eq
  | cons c rest => exact (first_one_cons rest_eq).trans rfl

theorem first_edge : edge.first line s k = if isEdge line s.rest then k s else none := by
  rw [first, runs]
  split
  · exact List.findSome?_singleton
  · rfl

theorem first_ending : ending.first line s k = if s.rest.isEmpty then k s else none := by
  rw [first, runs]
  split
  · exact List.findSome?_singleton
  · rfl

theorem first_seq (p q : Pattern) :
    (seq p q).first line s k = p.first line s fun s' => q.first line s' k :=
  findSome?_flatMap _ _ _

theorem first_either (p q : Pattern) :
    (either p q).first line s k = (p.first line s k).or (q.first line s k) :=
  List.findSome?_append

theorem first_name (p : Pattern) :
    (name p).first line s k =
      p.first line s fun s' =>
        k { s' with capture := { s'.capture with name := s.between s' } } :=
  List.findSome?_map

theorem first_returns (p : Pattern) :
    (returns p).first line s k =
      p.first line s fun s' =>
        k { s' with capture := { s'.capture with returns := s.between s' } } :=
  List.findSome?_map

theorem first_optional (p : Pattern) :
    (optional p).first line s k = (p.first line s k).or (k s) := by
  rw [optional, first_either, first_nothing]

/-- Of two ways that lead to the same, either will do. -/
theorem ite_or_ite (a b : Bool) (found : β) :
    (if a then some found else none).or (if b then some found else none) =
      if a || b then some found else none := by
  cases a with
  | true => rfl
  | false => rfl

theorem bind_some_eq_ite {α : Type} (step : Option α) (found : β) :
    (step.bind fun _ => some found) = if step.isSome then some found else none := by
  cases step with
  | none => rfl
  | some a => rfl

/-- What leads on only matters where it is asked. -/
theorem findSome?_congr {α : Type} {f g : α → Option β} {l : List α}
    (same : ∀ a ∈ l, f a = g a) : l.findSome? f = l.findSome? g := by
  induction l with
  | nil => rfl
  | cons a l ih =>
    obtain ⟨here, others⟩ := List.forall_mem_cons.mp same
    rw [List.findSome?_cons, List.findSome?_cons, here, ih others]

/-! ## Repetitions -/

section Repeated

variable {step : Cursor → List Cursor} {short : Bool}

/-- A bound on the number of repetitions does not matter as long as the text could not last longer. -/
theorem repeated_of_le {n m : Nat} (enough : s.rest.length ≤ n) (enough' : s.rest.length ≤ m) :
    repeated step short n s = repeated step short m s := by
  have none_ : ∀ s : Cursor, s.rest.length = 0 →
      (step s).filter (fun s' => s'.rest.length < s.rest.length) = [] := by
    intro s none_
    refine List.filter_eq_nil_iff.mpr fun s' _ => ?_
    rw [none_, decide_eq_true_eq]
    exact Nat.not_lt_zero _
  induction n generalizing m s with
  | zero =>
    cases m with
    | zero => rfl
    | succ m =>
      simp only [repeated, none_ s (Nat.le_zero.mp enough), List.flatMap_nil, List.nil_append,
        ite_self]
  | succ n ih =>
    cases m with
    | zero =>
      simp only [repeated, none_ s (Nat.le_zero.mp enough'), List.flatMap_nil, List.nil_append,
        ite_self]
    | succ m =>
      have more : ∀ s' ∈ (step s).filter (fun s' => s'.rest.length < s.rest.length),
          repeated step short n s' = repeated step short m s' := by
        intro s' mem
        have shorter := of_decide_eq_true (List.mem_filter.mp mem).2
        exact ih (by omega) (by omega)
      simp only [repeated, List.flatMap_congr more]

/-- A repetition goes on from every place that one more of its steps leads to, or else it is left. -/
theorem repeated_eq (reads : ∀ s' ∈ step s, s'.rest.length < s.rest.length) :
    repeated step short s.rest.length s =
      if short then s :: (step s).flatMap fun s' => repeated step short s'.rest.length s'
      else (step s).flatMap (fun s' => repeated step short s'.rest.length s') ++ [s] := by
  rw [repeated_of_le (Nat.le_refl _) (Nat.le_succ _), repeated,
    List.filter_eq_self.mpr fun s' mem => decide_eq_true (reads s' mem)]
  have more : ∀ s' ∈ step s,
      repeated step short s.rest.length s' = repeated step short s'.rest.length s' :=
    fun s' mem => repeated_of_le (Nat.le_of_lt (reads s' mem)) (Nat.le_refl _)
  rw [List.flatMap_congr more]

theorem mem_repeated_succ {n : Nat} (mem : s' ∈ repeated step short (n + 1) s) :
    s' = s ∨ ∃ m ∈ step s, m.rest.length < s.rest.length ∧ s' ∈ repeated step short n m := by
  have cases_ : s' = s ∨ s' ∈ ((step s).filter fun s' => s'.rest.length < s.rest.length).flatMap
      (repeated step short n) := by
    simp only [repeated] at mem
    split at mem
    · exact List.mem_cons.mp mem
    · rw [List.mem_append, List.mem_singleton] at mem
      exact mem.symm
  refine cases_.imp_right fun more => ?_
  obtain ⟨m, mem, more⟩ := List.mem_flatMap.mp more
  obtain ⟨mem, shorter⟩ := List.mem_filter.mp mem
  exact ⟨m, mem, of_decide_eq_true shorter, more⟩

theorem suffix_of_mem_repeated (left : ∀ s, ∀ s' ∈ step s, s'.rest <:+ s.rest) {n : Nat}
    (mem : s' ∈ repeated step short n s) : s'.rest <:+ s.rest := by
  induction n generalizing s with
  | zero =>
    obtain rfl := List.mem_singleton.mp mem
    exact List.suffix_rfl
  | succ n ih =>
    rcases mem_repeated_succ mem with rfl | ⟨m, step, -, more⟩
    · exact List.suffix_rfl
    · exact (ih more).trans (left s m step)

end Repeated

theorem first_many (reads : ∀ s' ∈ p.runs line s, s'.rest.length < s.rest.length) :
    (many p).first line s k = (p.first line s fun s' => (many p).first line s' k).or (k s) := by
  rw [first, runs, repeated_eq reads, if_neg Bool.false_ne_true, List.findSome?_append,
    findSome?_flatMap, List.findSome?_singleton]
  rfl

theorem first_few (reads : ∀ s' ∈ p.runs line s, s'.rest.length < s.rest.length) :
    (few p).first line s k = (k s).or (p.first line s fun s' => (few p).first line s' k) := by
  rw [first, runs, repeated_eq reads, if_pos rfl, List.findSome?_cons, findSome?_flatMap]
  cases k s with
  | none => rfl
  | some b => rfl

/-- A pattern leaves an end of what is left of the line. -/
theorem suffix_of_mem_runs (mem : s' ∈ p.runs line s) : s'.rest <:+ s.rest := by
  induction p generalizing s s' with
  | nothing =>
    obtain rfl := List.mem_singleton.mp mem
    exact List.suffix_rfl
  | one f =>
    rw [runs] at mem
    split at mem
    next c rest rest_eq =>
      split at mem
      · rw [List.mem_singleton.mp mem, rest_eq]
        exact List.suffix_cons c rest
      · cases mem
    next => cases mem
  | edge =>
    rw [runs] at mem
    split at mem
    · obtain rfl := List.mem_singleton.mp mem
      exact List.suffix_rfl
    · cases mem
  | ending =>
    rw [runs] at mem
    split at mem
    · obtain rfl := List.mem_singleton.mp mem
      exact List.suffix_rfl
    · cases mem
  | seq p q ihp ihq =>
    obtain ⟨m, mem, more⟩ := List.mem_flatMap.mp mem
    exact (ihq more).trans (ihp mem)
  | either p q ihp ihq =>
    rcases List.mem_append.mp mem with mem | mem
    · exact ihp mem
    · exact ihq mem
  | many p ih => exact suffix_of_mem_repeated (fun _ _ mem => ih mem) mem
  | few p ih => exact suffix_of_mem_repeated (fun _ _ mem => ih mem) mem
  | name p ih =>
    obtain ⟨m, read, rfl⟩ := List.mem_map.mp mem
    have suffix : m.rest <:+ s.rest := ih read
    exact suffix
  | returns p ih =>
    obtain ⟨m, read, rfl⟩ := List.mem_map.mp mem
    have suffix : m.rest <:+ s.rest := ih read
    exact suffix

/-! ## What is refused -/

section Refuses

variable {f g : Char → Bool}

/-- Whether nothing comes of a text that starts with a character of a class. -/
def Refuses (k : Cursor → Option β) (f : Char → Bool) : Prop :=
  ∀ s, ∀ c ∈ s.rest.head?, f c = true → k s = none

theorem refuses_one (other : ∀ c, g c = true → f c = false) :
    Refuses (fun s => (one g).first line s k) f := by
  intro s c first inside
  obtain ⟨rest, some_⟩ := List.head?_eq_some_iff.mp first
  refine (first_one_cons some_).trans (if_neg fun read => ?_)
  rw [other c read] at inside
  cases inside

theorem refuses_either (left : Refuses (fun s => p.first line s k) f)
    (right : Refuses (fun s => q.first line s k) f) :
    Refuses (fun s => (either p q).first line s k) f := by
  intro s c first inside
  exact (first_either p q).trans
    (Option.or_eq_none_iff.mpr ⟨left s c first inside, right s c first inside⟩)

theorem refuses_optional (here : Refuses (fun s => p.first line s k) f) (behind : Refuses k f) :
    Refuses (fun s => (optional p).first line s k) f := by
  intro s c first inside
  exact (first_optional p).trans
    (Option.or_eq_none_iff.mpr ⟨here s c first inside, behind s c first inside⟩)

theorem refuses_edge (behind : Refuses k f) : Refuses (fun s => edge.first line s k) f := by
  intro s c first inside
  refine first_edge.trans ?_
  rw [behind s c first inside, ite_self]

theorem refuses_ending : Refuses (fun s => ending.first line s k) f := by
  intro s c first _
  obtain ⟨rest, some_⟩ := List.head?_eq_some_iff.mp first
  refine first_ending.trans (if_neg ?_)
  rw [some_]
  exact Bool.false_ne_true

end Refuses

/-! ## Repetitions of characters -/

section Classes

variable {f : Char → Bool}

theorem length_lt_of_mem_runs_one (mem : s' ∈ (one f).runs line s) :
    s'.rest.length < s.rest.length := by
  cases rest_eq : s.rest with
  | nil =>
    rw [runs_one_nil rest_eq] at mem
    cases mem
  | cons c t =>
    rw [runs_one_cons rest_eq] at mem
    split at mem
    · rw [List.mem_singleton.mp mem]
      exact Nat.lt_succ_self _
    · cases mem

theorem first_many_one_nil (none_ : s.rest = []) : (many (one f)).first line s k = k s := by
  have no_run : (one f).runs line s = [] := runs_one_nil none_
  rw [first_many (by rw [no_run]; nofun), first_one_nil none_, Option.none_or]

theorem first_many_one_cons {c : Char} {rest : List Char} (some_ : s.rest = c :: rest) :
    (many (one f)).first line s k =
      if f c then ((many (one f)).first line (s.leaving rest) k).or (k s) else k s := by
  rw [first_many fun s' mem => length_lt_of_mem_runs_one mem, first_one_cons some_]
  split
  · rfl
  · rfl

/-- Characters of a class are read as far as they go, if nothing better comes of fewer of them. -/
theorem first_many_one_of_best
    (best : ∀ c t, f c = true → k (s.leaving (c :: t)) = none ∨
      k (s.leaving (c :: t)) = k (s.leaving (t.dropWhile f))) :
    (many (one f)).first line s k = k (s.leaving (s.rest.dropWhile f)) := by
  generalize rest_eq : s.rest = t
  induction t generalizing s with
  | nil => rw [first_many_one_nil rest_eq, List.dropWhile_nil, ← rest_eq, Cursor.leaving_rest]
  | cons c t ih =>
    have here := best c t
    rw [← rest_eq, Cursor.leaving_rest] at here
    rw [first_many_one_cons rest_eq, ih (s := s.leaving t) best rfl, List.dropWhile_cons]
    split
    next inside =>
      rcases here inside with none_ | same
      · rw [none_, Option.or_none, Cursor.leaving_leaving]
      · rw [same, Cursor.leaving_leaving, Option.or_self]
    next => rw [← rest_eq, Cursor.leaving_rest]

theorem refuses_many_one {g : Char → Bool} (other : ∀ c, g c = true → f c = false)
    (behind : Refuses k f) : Refuses (fun s => (many (one g)).first line s k) f := by
  intro s c first inside
  obtain ⟨rest, some_⟩ := List.head?_eq_some_iff.mp first
  refine (first_many_one_cons some_).trans ?_
  rw [if_neg fun read => ?_]
  · exact behind s c first inside
  · rw [other c read] at inside
    cases inside

theorem first_many_one (refuses : Refuses k f) :
    (many (one f)).first line s k = k (s.leaving (s.rest.dropWhile f)) :=
  first_many_one_of_best fun c _ inside => .inl (refuses _ c rfl inside)

/-- Nor does it matter what fewer of them would lead to, if the longest way leads on. -/
theorem first_many_one_of_some {b : β} (found : k (s.leaving (s.rest.dropWhile f)) = some b) :
    (many (one f)).first line s k = some b := by
  generalize rest_eq : s.rest = t at found
  induction t generalizing s with
  | nil =>
    rw [first_many_one_nil rest_eq]
    rwa [List.dropWhile_nil, ← rest_eq, Cursor.leaving_rest] at found
  | cons c t ih =>
    rw [first_many_one_cons rest_eq]
    rw [List.dropWhile_cons] at found
    split
    next inside =>
      rw [if_pos inside] at found
      rw [ih (s := s.leaving t) rfl found, Option.some_or]
    next outside => rwa [if_neg outside, ← rest_eq, Cursor.leaving_rest] at found

/-- Characters may as well be left unread, if nothing comes of the text behind them that does not
come of the text with them. -/
theorem first_many_one_of_same
    (same : ∀ c t, f c = true → k (s.leaving t) = none ∨ k (s.leaving t) = k (s.leaving (c :: t))) :
    (many (one f)).first line s k = k s := by
  generalize rest_eq : s.rest = t
  induction t generalizing s with
  | nil => exact first_many_one_nil rest_eq
  | cons c t ih =>
    have here := same c t
    have stay : s.leaving (c :: t) = s := congrArg s.leaving rest_eq.symm
    rw [first_many_one_cons rest_eq, ih (s := s.leaving t) same rfl]
    split
    next inside =>
      rcases here inside with none_ | same
      · rw [none_, Option.none_or]
      · rw [same, stay, Option.or_self]
    next => rfl

/-- If nothing comes of the longest way, the one with one character less is the next. -/
theorem first_many_one_of_none {front t : List Char} {c : Char} {b : β}
    (whole : s.rest = front ++ c :: t) (inside : ∀ d ∈ front ++ [c], f d = true)
    (stop : ∀ d ∈ t.head?, f d = false) (none_ : k (s.leaving t) = none)
    (found : k (s.leaving (c :: t)) = some b) : (many (one f)).first line s k = some b := by
  induction front generalizing s with
  | nil =>
    have last : (many (one f)).first line (s.leaving t) k = none := by
      cases t with
      | nil => rw [first_many_one_nil rfl, none_]
      | cons d t =>
        rw [first_many_one_cons rfl, stop d rfl, if_neg Bool.false_ne_true, none_]
    have here : s.leaving (c :: t) = s := congrArg s.leaving whole.symm
    rw [here] at found
    rw [first_many_one_cons whole, if_pos (inside c List.mem_cons_self), last, Option.none_or,
      found]
  | cons d front ih =>
    obtain ⟨first, others⟩ := List.forall_mem_cons.mp inside
    have rest_ := ih (s := s.leaving (front ++ c :: t)) rfl others none_ found
    rw [first_many_one_cons whole, if_pos first]
    exact (congrArg (fun found => found.or (k s)) rest_).trans Option.some_or

theorem first_few_one_nil (none_ : s.rest = []) : (few (one f)).first line s k = k s := by
  have no_run : (one f).runs line s = [] := runs_one_nil none_
  rw [first_few (by rw [no_run]; nofun), first_one_nil none_, Option.or_none]

theorem first_few_one_cons {c : Char} {rest : List Char} (some_ : s.rest = c :: rest) :
    (few (one f)).first line s k =
      (k s).or (if f c then (few (one f)).first line (s.leaving rest) k else none) := by
  rw [first_few fun s' mem => length_lt_of_mem_runs_one mem, first_one_cons some_]

theorem exists_of_first_few_one {b : β} (found : (few (one f)).first line s k = some b) :
    ∃ front t, s.rest = front ++ t ∧ (∀ c ∈ front, f c = true) ∧ k (s.leaving t) = some b := by
  generalize rest_eq : s.rest = t
  induction t generalizing s with
  | nil =>
    rw [first_few_one_nil rest_eq] at found
    exact ⟨[], [], rfl, nofun, (congrArg (k <| s.leaving ·) rest_eq.symm).trans found⟩
  | cons c t ih =>
    rw [first_few_one_cons rest_eq, Option.or_eq_some_iff] at found
    rcases found with here | ⟨-, more⟩
    · exact ⟨[], c :: t, rfl, nofun, (congrArg (k <| s.leaving ·) rest_eq.symm).trans here⟩
    · split at more
      next inside =>
        obtain ⟨front, u, whole, others, leads⟩ := ih (s := s.leaving t) more rfl
        refine ⟨c :: front, u, congrArg _ whole, ?_, leads⟩
        exact List.forall_mem_cons.mpr ⟨inside, others⟩
      next => cases more

/-- The shortest way that leads on counts. -/
theorem first_few_one_of_shortest {front t : List Char} {b : β} (whole : s.rest = front ++ t)
    (inside : ∀ c ∈ front, f c = true) (leads : k (s.leaving t) = some b)
    (shorter : ∀ u, u <:+ front → u ≠ [] → k (s.leaving (u ++ t)) = none) :
    (few (one f)).first line s k = some b := by
  induction front generalizing s with
  | nil =>
    have here : s.leaving t = s := congrArg s.leaving whole.symm
    rw [here] at leads
    cases rest_eq : s.rest with
    | nil => rw [first_few_one_nil rest_eq, leads]
    | cons c t => rw [first_few_one_cons rest_eq, leads, Option.some_or]
  | cons c front ih =>
    have here : s.leaving (c :: front ++ t) = s := congrArg s.leaving whole.symm
    have none_ := shorter (c :: front) List.suffix_rfl (List.cons_ne_nil c front)
    rw [here] at none_
    obtain ⟨first, others⟩ := List.forall_mem_cons.mp inside
    rw [first_few_one_cons whole, none_, Option.none_or, if_pos first]
    exact ih (s := s.leaving (front ++ t)) rfl others leads fun u suffix =>
      shorter u (suffix.trans (List.suffix_cons c front))

end Classes

end Pattern
end Header
end CodeGloss
