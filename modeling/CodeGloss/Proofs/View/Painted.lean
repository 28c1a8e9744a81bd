import CodeGloss.View.Painter
import Mathlib.Data.List.Infix

/-!
# Painted lines

A painter that leaves out nothing and adds nothing (`Painter.Exact`) divides each line, with the line
feed behind it, into pieces that make it up.  What the pieces are does not matter then.  Without the
line feed they make up the line (`Painter.joined_segments`), because there is no other one to be
taken off: a line holds none.  So painted or not, the segments of each line are the line
(`Painting.joined_paintBy`).
-/

namespace CodeGloss

namespace Painter

/-- Whether a painter divides each line into pieces that make up the line. -/
def Exact (painter : Painter) : Prop :=
  ∀ state line state' pieces, painter.divide? state line = some (state', pieces) →
    pieces.flatMap Piece.text = line

theorem exact_uniform (paint : Paint) : (uniform paint).Exact := by
  rintro state line state' pieces divided
  obtain ⟨-, rfl⟩ := Prod.mk.inj (Option.some.inj divided)
  exact List.append_nil line

/-- A piece of a line with a line feed behind it has at most this one. -/
theorem withoutFeed_eq_filter {line piece : List Char} (solid : '\n' ∉ line)
    (stands : piece <:+: line ++ ['\n']) : withoutFeed piece = piece.filter (· != '\n') := by
  rcases List.eq_nil_or_concat piece with rfl | ⟨front, c, rfl⟩
  · rfl
  · rw [List.concat_eq_append] at stands ⊢
    obtain ⟨before, after, eq⟩ := stands
    have inside : front ⊆ line := by
      have dropped := congrArg List.dropLast eq
      rw [List.dropLast_concat, List.append_assoc, List.append_assoc, ← List.append_assoc before,
        List.dropLast_append_of_ne_nil (by simp)] at dropped
      rw [← dropped]
      exact fun d mem => by simp [mem]
    have kept : front.filter (· != '\n') = front := by
      rw [List.filter_eq_self]
      intro d mem
      rw [bne_iff_ne]
      rintro rfl
      exact solid (inside mem)
    rw [List.filter_append, kept, withoutFeed, List.getLast?_concat, List.dropLast_concat]
    by_cases feed : c = '\n'
    · subst feed
      simp
    · simp [feed]

/-- **The segments of a line make it up**, if the pieces made up the line and its line feed. -/
theorem joined_segments {line : Line} {pieces : List Piece} (solid : '\n' ∉ line)
    (all : pieces.flatMap Piece.text = line ++ ['\n']) :
    Segment.joined (pieces.filterMap Piece.segment?) = line := by
  -- Taking the line feeds off the pieces takes them off the line.
  have joined : ∀ some_ : List Piece, (∀ piece ∈ some_, piece.text <:+: line ++ ['\n']) →
      Segment.joined (some_.filterMap Piece.segment?) =
        (some_.flatMap Piece.text).filter (· != '\n') := by
    intro some_ stands
    induction some_ with
    | nil => rfl
    | cons piece rest ih =>
      have here := withoutFeed_eq_filter solid (stands piece List.mem_cons_self)
      have later := ih fun other mem => stands other (List.mem_cons_of_mem piece mem)
      rw [List.filterMap_cons, List.flatMap_cons, List.filter_append, ← here, ← later,
        Piece.segment?]
      cases text : withoutFeed piece.text with
      | nil => rfl
      | cons c text => rfl
  rw [joined pieces fun piece mem => ?_, all, List.filter_append]
  · rw [List.filter_eq_self.mpr fun d mem => ?_]
    · exact List.append_nil line
    · rw [bne_iff_ne]
      rintro rfl
      exact solid mem
  · rw [← all, List.flatMap_def]
    exact List.infix_of_mem_flatten (List.mem_map_of_mem mem)

theorem joined_segmentsFrom? {painter : Painter} (exact : painter.Exact) {lines : List Line}
    (solid : ∀ line ∈ lines, '\n' ∉ line) {state : painter.State}
    {segments : List (List Segment)} (painted : painter.segmentsFrom? state lines = some segments) :
    segments.map Segment.joined = lines := by
  induction lines generalizing state segments with
  | nil =>
    cases painted
    rfl
  | cons line rest ih =>
    simp only [segmentsFrom?, Option.bind_eq_bind, Option.bind_eq_some_iff] at painted
    obtain ⟨⟨state', pieces⟩, divided, others, later, eq⟩ := painted
    cases eq
    rw [List.map_cons, joined_segments (solid line List.mem_cons_self) (exact _ _ _ _ divided),
      ih (fun line' mem => solid line' (List.mem_cons_of_mem line mem)) later]

end Painter

/-- Painted or not, the segments of each line make up the line. -/
theorem Painting.joined_paintBy {painter : Painter} (exact : painter.Exact) (path : Option String)
    (hint : Hint) (theme : String) (firsts : Grammar.FirstLines) {lines : List Line}
    (solid : ∀ line ∈ lines, '\n' ∉ line) :
    (paintBy painter path hint theme lines firsts).lines.map Segment.joined = lines := by
  have unpainted : (plain lines (Theme.choose theme)).lines.map Segment.joined = lines := by
    simp [plain, Segment.joined, Function.comp_def]
  unfold paintBy
  cases Grammar.choose path hint lines firsts with
  | none => exact unpainted
  | some grammar =>
    dsimp only
    cases painted : painter.segmentsFrom? (painter.start grammar (Theme.choose theme)) lines with
    | none => exact unpainted
    | some segments => exact Painter.joined_segmentsFrom? exact solid painted

end CodeGloss
