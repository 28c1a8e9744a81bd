import CodeGloss.Proofs.Text.Lines

/-!
# Gaps

A gap is an empty line that is put into a text, after so many of its lines (`Text.gapped`).  The
lines of the text with the gap are its lines, with an empty one after the first so many
(`Line.ofText_gapped`), and the line that had the number `m` has the number `Line.renumbered above m`
then.  A piece of the text that is made of some of its lines has the gap where the text has it
(`Line.gapped_joined`).
-/

namespace CodeGloss
namespace Text

/-- The text with an empty line put in after the first `above` lines.  A text that ends before stays
as it is. -/
def gapped : Nat → List Char → List Char
  | 0, s => '\n' :: s
  | _ + 1, [] => []
  | above + 1, c :: s => c :: gapped (if c = '\n' then above else above + 1) s

theorem gapped_zero (s : List Char) : gapped 0 s = '\n' :: s := by
  rw [gapped]

/-- A gap below the first line is one in what follows that line. -/
theorem gapped_append {line : Line} (solid : '\n' ∉ line) (above : Nat) (s : List Char) :
    gapped (above + 1) (line ++ '\n' :: s) = line ++ '\n' :: gapped above s := by
  induction line with
  | nil => rfl
  | cons c line ih =>
    rw [List.mem_cons, not_or] at solid
    rw [List.cons_append, gapped, if_neg (Ne.symm solid.1), ih solid.2]
    rfl

/-- The pieces between line feeds after a gap was put in. -/
theorem splitOn_gapped {above : Nat} {s : List Char}
    (within : above < (splitOn (· == '\n') s).length) :
    splitOn (· == '\n') (gapped above s) =
      (splitOn (· == '\n') s).take above ++ [] :: (splitOn (· == '\n') s).drop above := by
  induction s generalizing above with
  | nil =>
    rw [splitOn_nil, List.length_singleton] at within
    obtain rfl : above = 0 := by omega
    rfl
  | cons c s ih =>
    cases above with
    | zero => rfl
    | succ above =>
      rw [gapped, splitOn_cons, splitOn_cons]
      rw [splitOn_cons] at within
      by_cases feed : c = '\n'
      · have separates : (c == '\n') = true := beq_iff_eq.mpr feed
        rw [separates, if_pos rfl, List.length_cons] at within
        rw [separates, if_pos rfl, if_pos rfl, if_pos feed, ih (Nat.lt_of_succ_lt_succ within),
          List.take_succ_cons, List.drop_succ_cons, List.cons_append]
      · -- The character belongs to the first piece, which is above the gap.
        have joins : (c == '\n') = false := beq_eq_false_iff_ne.mpr feed
        obtain ⟨first, others, pieces⟩ := List.exists_cons_of_ne_nil (splitOn_ne_nil (· == '\n') s)
        rw [joins, if_neg Bool.false_ne_true, pieces, List.tail_cons, List.length_cons] at within
        rw [joins, if_neg Bool.false_ne_true, if_neg Bool.false_ne_true, if_neg feed,
          ih (by rw [pieces, List.length_cons]; exact within), pieces]
        rfl

end Text

namespace Line

/-- The number of the line `m` when a gap was put in after the first `above` lines. -/
def renumbered (above m : Nat) : Nat :=
  if m ≤ above then m else m + 1

theorem renumbered_of_le {above m : Nat} (le : m ≤ above) : renumbered above m = m :=
  if_pos le

theorem renumbered_of_lt {above m : Nat} (lt : above < m) : renumbered above m = m + 1 :=
  if_neg (Nat.not_le.mpr lt)

/-- Numbers that are counted from another line are shifted in the same way. -/
theorem renumbered_add (n above m : Nat) :
    renumbered (n + above) (n + m) = n + renumbered above m := by
  unfold renumbered
  split <;> split <;> omega

/-- The lines of a text with a gap. -/
theorem ofText_gapped {above : Nat} {text : List Char} (within : above < (ofText text).length) :
    ofText (Text.gapped above text) =
      (ofText text).take above ++ [] :: (ofText text).drop above := by
  rw [ofText, List.length_map] at within
  rw [ofText, ofText, Text.splitOn_gapped within, List.map_append, List.map_cons, List.map_take,
    List.map_drop]
  rfl

/-- No line holds a line feed. -/
theorem feed_not_mem_of_mem_ofText {text : List Char} {line : Line} (mem : line ∈ ofText text) :
    '\n' ∉ line := by
  obtain ⟨piece, inside, rfl⟩ := List.mem_map.mp mem
  intro feed
  have kept := (withoutReturn_sublist piece).subset feed
  exact absurd (Text.not_of_mem_splitOn inside _ kept) (by decide)

theorem joined_cons {lines : List Line} (line : Line) (more : lines ≠ []) :
    joined (line :: lines) = line ++ '\n' :: joined lines := by
  obtain ⟨next, rest, rfl⟩ := List.exists_cons_of_ne_nil more
  simp [joined]

/-- A gap in lines that are put together is one between the lines. -/
theorem gapped_joined {front back : List Line} (solid : ∀ line ∈ front, '\n' ∉ line)
    (more : back ≠ []) :
    Text.gapped front.length (joined (front ++ back)) = joined (front ++ [] :: back) := by
  induction front with
  | nil =>
    rw [List.length_nil, Text.gapped_zero, List.nil_append, List.nil_append, joined_cons [] more,
      List.nil_append]
  | cons line front ih =>
    have ih := ih fun l mem => solid l (List.mem_cons_of_mem _ mem)
    have more' : front ++ back ≠ [] := List.append_ne_nil_of_right_ne_nil front more
    rw [List.cons_append, List.cons_append, joined_cons line more', joined_cons line (by simp),
      List.length_cons, Text.gapped_append (solid line List.mem_cons_self), ih]

end Line
end CodeGloss
