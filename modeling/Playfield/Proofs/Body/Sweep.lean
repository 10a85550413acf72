import Playfield.Body.Travel
import Playfield.Proofs.Body.Cells

/-!
# The first wall on the way

A sweep moves the leading face of a box along an axis, up to the first wall that is ahead of it.

* `along` counts coordinates in the direction of travel, so that both directions are told at once.
* `Entered` and `Trailed` say how a line lies to the faces of a box: a box is blocked just if its
  leading face has entered a wall that the other has not left (`footprintBlocked_iff_faces`).
* `not_entered_of_sweep_none`, `first_of_sweep`: a sweep finds the first wall ahead that its face
  enters.
* `not_entered_edge`: where the face stops it has entered neither this wall nor one beyond it. To
  get there it goes back by the gap and the inset at most (`along_edge_le`).
-/

namespace Playfield

section Directions

variable {K : Type} [Scalar K]

/-- A coordinate, counted in the direction of travel. -/
def along (delta x : K) : K := if 0.0 < delta then x else -x

/-- A line comes before another on the way. -/
def Sooner (delta : K) (line other : Int) : Prop :=
  if 0.0 < delta then line < other else other < line

theorem Sooner.asymm {delta : K} {line other : Int} (sooner : Sooner delta line other) :
    ¬Sooner delta other line := by
  unfold Sooner at *
  split at sooner <;> simp only [*, if_true, if_false] <;> omega

namespace TileMap

/-- The face of a box at the other end. -/
def trailing (axis : Axis) (min max : Vec K) (delta : K) : K :=
  if 0.0 < delta then axis.of min else axis.of max

/-- A leading face has come into a line, or past it. -/
def Entered (m : TileMap K) (delta face : K) (line : Int) : Prop :=
  if 0.0 < delta then line ≤ m.cell (face - cellInset) else m.cell (face + cellInset) ≤ line

/-- A trailing face has not yet left a line. -/
def Trailed (m : TileMap K) (delta face : K) (line : Int) : Prop :=
  if 0.0 < delta then m.cell (face + cellInset) ≤ line else line ≤ m.cell (face - cellInset)

theorem mem_linesAhead {m : TileMap K} {axis : Axis} {min max : Vec K} {delta : K} {line : Int} :
    line ∈ m.linesAhead axis min max delta ↔
      (0 ≤ line ∧ line ≤ m.lastCell axis) ∧ ¬m.Entered delta (leading axis min max delta) line ∧
        m.Entered delta (leading axis min max delta + delta) line := by
  unfold linesAhead nextCell faceCell Entered
  split
  · rw [mem_cells, max_le_iff, le_min_iff, not_le, Int.add_one_le_iff]
    tauto
  · rw [List.mem_reverse, mem_cells, max_le_iff, le_min_iff, not_le, Int.le_sub_one_iff]
    tauto

/-- A box is blocked just if its leading face has entered a wall that the other has not left. -/
theorem footprintBlocked_iff_faces (axis : Axis) (delta : K) (m : TileMap K) (mask : Option Int)
    (min max : Vec K) :
    m.footprintBlocked mask min max = true ↔
      ∃ line, m.Wall mask axis (m.spanAcross axis min max) line ∧
        m.Entered delta (leading axis min max delta) line ∧
        m.Trailed delta (trailing axis min max delta) line := by
  rw [footprintBlocked_iff axis]
  unfold Entered Trailed leading trailing
  split
  · exact exists_congr fun _ => and_congr_right fun _ => and_comm
  · exact Iff.rfl

end TileMap

end Directions

theorem tileGap_pos : (0 : Rat) < tileGap := by norm_num [tileGap]

theorem cellInset_pos : (0 : Rat) < cellInset := by norm_num [cellInset]

/-- Of a sorted list, a search finds the first element that passes. -/
theorem eq_or_rel_of_find? {α : Type} {R : α → α → Prop} {p : α → Bool} {l : List α} {a b : α}
    (sorted : l.Pairwise R) (found : l.find? p = some b) (mem : a ∈ l) (passes : p a = true) :
    a = b ∨ R b a := by
  obtain ⟨_, before, after, rfl, fail⟩ := List.find?_eq_some_iff_append.1 found
  rcases List.mem_append.1 mem with mem | mem
  · have := fail a mem
    rw [passes] at this
    cases this
  · rcases List.mem_cons.1 mem with rfl | mem
    · exact .inl rfl
    · exact .inr (List.rel_of_pairwise_cons (List.pairwise_append.1 sorted).2.1 mem)

namespace TileMap

variable {m : TileMap Rat} {mask : Option Int} {axis : Axis} {across : List Int}
  {line other : Int} {delta lead face edge : Rat} {min max : Vec Rat}

/-! ### Lines on the way -/

theorem Entered.mono (pos : 0 < m.tileSize) (entered : m.Entered delta lead line)
    (le : along delta lead ≤ along delta face) : m.Entered delta face line := by
  unfold Entered along at *
  split at entered
  · simp only [*, if_true] at le ⊢
    exact entered.trans (cell_mono pos (by linarith))
  · simp only [*, if_false] at le ⊢
    exact (cell_mono pos (by linarith)).trans entered

theorem Trailed.mono (pos : 0 < m.tileSize) (trailed : m.Trailed delta face line)
    (le : along delta lead ≤ along delta face) : m.Trailed delta lead line := by
  unfold Trailed along at *
  split at trailed
  · simp only [*, if_true] at le ⊢
    exact (cell_mono pos (by linarith)).trans trailed
  · simp only [*, if_false] at le ⊢
    exact trailed.trans (cell_mono pos (by linarith))

/-- On the way to a line a face enters every sooner one. -/
theorem Entered.of_sooner (entered : m.Entered delta face line) (sooner : Sooner delta other line) :
    m.Entered delta face other := by
  unfold Entered Sooner at *
  split at entered
  · simp only [*, if_true] at sooner ⊢
    omega
  · simp only [*, if_false] at sooner ⊢
    omega

/-! ### The first wall on the way -/

theorem pairwise_cells (first last : Int) : (cells first last).Pairwise (· < ·) := by
  refine List.pairwise_map.2 (List.pairwise_lt_range.imp ?_)
  intro a b lt
  omega

theorem pairwise_linesAhead : (m.linesAhead axis min max delta).Pairwise (Sooner delta) := by
  unfold linesAhead
  split
  · refine (pairwise_cells _ _).imp fun lt => ?_
    simp only [Sooner, *, if_true]
  · refine List.pairwise_reverse.2 ((pairwise_cells _ _).imp fun lt => ?_)
    simp only [Sooner, *, if_false]

/-- Where a sweep finds nothing, its face enters no wall that is ahead. -/
theorem not_entered_of_sweep_none (moves : ¬(delta == 0.0) = true)
    (wall : m.Wall mask axis (m.spanAcross axis min max) line)
    (ahead : ¬m.Entered delta (leading axis min max delta) line)
    (free : m.sweep mask axis min max delta = none) :
    ¬m.Entered delta (leading axis min max delta + delta) line := by
  intro entered
  have masked := Option.isNone_eq_false_iff.2
    (Option.isSome_iff_ne_none.2 (maskAcross_of_lineBlocks wall.blocks).1)
  rw [sweep, masked, Bool.false_or, if_neg moves, Option.map_eq_none_iff] at free
  have := List.find?_eq_none.1 free line
    (mem_linesAhead.2 ⟨⟨wall.first, wall.last⟩, ahead, entered⟩)
  exact this wall.blocks

/-- What a sweep finds is the first wall ahead. -/
theorem first_of_sweep (found : m.sweep mask axis min max delta = some edge) :
    ∃ line, m.Wall mask axis (m.spanAcross axis min max) line ∧
      ¬m.Entered delta (leading axis min max delta) line ∧
      m.Entered delta (leading axis min max delta + delta) line ∧ edge = m.edgeOf delta line ∧
      ∀ other, m.Wall mask axis (m.spanAcross axis min max) other →
        ¬m.Entered delta (leading axis min max delta) other → ¬Sooner delta other line := by
  unfold sweep at found
  split at found
  · cases found
  · obtain ⟨line, first, rfl⟩ := Option.map_eq_some_iff.1 found
    obtain ⟨inGrid, ahead, entered⟩ := mem_linesAhead.1 (List.mem_of_find?_eq_some first)
    refine ⟨line, ⟨inGrid.1, inGrid.2, List.find?_some first⟩, ahead, entered, rfl, ?_⟩
    intro other wall ahead' sooner
    by_cases entered' : m.Entered delta (leading axis min max delta + delta) other
    · have mem := mem_linesAhead.2 ⟨⟨wall.first, wall.last⟩, ahead', entered'⟩
      rcases eq_or_rel_of_find? pairwise_linesAhead first mem wall.blocks with rfl | later
      · exact sooner.asymm sooner
      · exact sooner.asymm later
    · exact entered' (entered.of_sooner sooner)

/-- A face in front of a wall has entered neither it nor what is beyond. -/
theorem not_entered_edge (pos : 0 < m.tileSize) (addressable : m.Addressable)
    (wall : m.Wall mask axis across line) (beyond : ¬Sooner delta other line) :
    ¬m.Entered delta (m.edgeOf delta line) other := by
  have gap := tileGap_pos
  have inset := cellInset_pos
  have least : Word.least < line := Int.lt_of_lt_of_le (by decide) wall.first
  intro entered
  unfold Entered edgeOf Sooner at *
  split at entered
  · simp only [*, if_true] at beyond
    have := mul_le_of_le_cell pos least ((not_lt.1 beyond).trans entered)
    change (line : Rat) * m.tileSize ≤ line * m.tileSize - tileGap - cellInset at this
    linarith
  · simp only [*, if_false] at beyond
    have le : ((line + 1 : Int) : Rat) * m.tileSize ≤
        Scalar.ofInt (line + 1) * m.tileSize + tileGap + cellInset := by
      change ((line + 1 : Int) : Rat) * m.tileSize ≤
        ((line + 1 : Int) : Rat) * m.tileSize + tileGap + cellInset
      linarith
    have := le_cell_of_mul_le pos (wall_lt addressable wall) le
    omega

/-- To stop in front of a wall ahead, a face goes back by no more than the gap and the inset. -/
theorem along_edge_le (pos : 0 < m.tileSize) (addressable : m.Addressable)
    (wall : m.Wall mask axis across line) (ahead : ¬m.Entered delta lead line) :
    along delta lead - (tileGap + cellInset) ≤ along delta (m.edgeOf delta line) := by
  have last := wall_lt addressable wall
  have first := wall.first
  unfold Entered at ahead
  unfold along edgeOf
  split at ahead
  · simp only [*, if_true]
    by_contra lt
    have le : (line : Rat) * m.tileSize ≤ lead - cellInset := by
      change ¬_ ≤ (line : Rat) * m.tileSize - tileGap at lt
      linarith
    have := le_cell_of_mul_le pos last.le le
    omega
  · simp only [*, if_false]
    have le : line + 1 ≤ m.cell (lead + cellInset) := by omega
    have least : Word.least < line + 1 := by
      rw [Word.least]
      omega
    have := mul_le_of_le_cell pos least le
    change -lead - (tileGap + cellInset) ≤ -(((line + 1 : Int) : Rat) * m.tileSize + tileGap)
    linarith

end TileMap

end Playfield
