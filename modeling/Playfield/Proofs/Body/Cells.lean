import Mathlib
import Playfield.Body.Tiles
import Playfield.Proofs.Scalar
import Playfield.Scene.Validation

/-!
# Cells and walls

Over exact rationals, the cell of a coordinate is its quotient by the length of a tile, rounded down
and held in the range of words.

* `cell_mono`, `le_cell_of_mul_le`, `mul_le_of_le_cell`: which cells lie before a coordinate.
* `Addressable`: rows and columns are counted by signed words.
* `Wall`: a line of the grid that holds a tile that blocks. It is a cell before the one of the
  greatest word (`wall_lt`).
* `footprintBlocked_iff`: a box is blocked just if it covers a wall, along either axis.
-/

namespace Playfield

namespace TileMap

/-! ### The cell of a coordinate -/

theorem not_flat {K : Type} [Scalar K] {m : TileMap K} (valid : Scene.validateMap m = .ok ()) :
    ¬m.tileSize ≤ 0.0 := by
  intro flat
  rw [Scene.validateMap, decide_eq_true flat] at valid
  cases valid

section Cells

variable {m : TileMap Rat} {a b v : Rat} {n : Int}

/-- The length of a tile is positive. -/
theorem tileSize_pos (valid : Scene.validateMap m = .ok ()) : 0 < m.tileSize := by
  have := not_le.1 (not_flat valid)
  norm_num at this
  exact this

theorem cell_eq (m : TileMap Rat) (v : Rat) : m.cell v = Word.clamp ⌊v / m.tileSize⌋ :=
  Scalar.trunc_intCast Word.least Word.greatest _

theorem cell_mono (pos : 0 < m.tileSize) (le : a ≤ b) : m.cell a ≤ m.cell b := by
  rw [cell_eq, cell_eq]
  have := Int.floor_le_floor ((div_le_div_iff_of_pos_right pos).2 le)
  exact max_le_max le_rfl (min_le_min le_rfl this)

theorem le_cell_of_mul_le (pos : 0 < m.tileSize) (bound : n ≤ Word.greatest)
    (le : n * m.tileSize ≤ v) : n ≤ m.cell v := by
  rw [cell_eq]
  exact le_max_of_le_right (le_min bound (Int.le_floor.2 ((le_div_iff₀ pos).2 le)))

theorem mul_le_of_le_cell (pos : 0 < m.tileSize) (bound : Word.least < n) (le : n ≤ m.cell v) :
    n * m.tileSize ≤ v := by
  rw [cell_eq, Word.clamp, le_max_iff, le_min_iff] at le
  rcases le with low | ⟨_, le⟩
  · exact absurd bound low.not_gt
  · exact (le_div_iff₀ pos).1 (Int.le_floor.1 le)

end Cells

/-! ### Walls -/

section Walls

variable {K : Type} {m : TileMap K} {mask : Option Int} {axis : Axis} {across : List Int}
  {line : Int}

/-- Rows and columns are counted by signed words. -/
structure Addressable (m : TileMap K) : Prop where
  rows : m.tiles.size ≤ Word.greatest
  columns : ∀ row ∈ m.tiles, row.size ≤ Word.greatest

/-- A line of the grid holds a tile that blocks. -/
structure Wall (m : TileMap K) (mask : Option Int) (axis : Axis) (across : List Int) (line : Int) :
    Prop where
  first : 0 ≤ line
  last : line ≤ m.lastCell axis
  blocks : m.lineBlocks mask axis across line = true

theorem tileAt_lt (addressable : m.Addressable) {col row : Int} (tile : m.tileAt col row ≠ 0) :
    col < Word.greatest ∧ row < Word.greatest := by
  unfold tileAt at tile
  split at tile
  · exact absurd rfl tile
  · cases found : m.tiles[row.toNat]? with
    | none => simp [found] at tile
    | some ids =>
      cases id : ids[col.toNat]? with
      | none => simp [found, id] at tile
      | some _ =>
        obtain ⟨below, rfl⟩ := Array.getElem?_eq_some_iff.1 found
        obtain ⟨within, _⟩ := Array.getElem?_eq_some_iff.1 id
        have rows := addressable.rows
        have columns := addressable.columns _ (Array.getElem_mem below)
        omega

theorem tileAt_of_maskAt {col row : Int} (mask : m.maskAt col row ≠ none) :
    m.tileAt col row ≠ 0 := by
  intro none
  rw [maskAt, none] at mask
  exact mask rfl

theorem maskAcross_of_lineBlocks (blocks : m.lineBlocks mask axis across line = true) :
    mask ≠ none ∧ ∃ c, m.maskAcross axis line c ≠ none := by
  obtain ⟨c, _, blocked⟩ := List.any_eq_true.1 blocks
  unfold tileBlocks at blocked
  split at blocked
  · rename_i tile
    exact ⟨Option.some_ne_none _, c, tile ▸ Option.some_ne_none _⟩
  · cases blocked

/-- No wall is the line of the greatest word. -/
theorem wall_lt (addressable : m.Addressable) (wall : m.Wall mask axis across line) :
    line < Word.greatest := by
  obtain ⟨-, c, tile⟩ := maskAcross_of_lineBlocks wall.blocks
  cases axis with
  | x => exact (tileAt_lt addressable (tileAt_of_maskAt tile)).1
  | y => exact (tileAt_lt addressable (tileAt_of_maskAt tile)).2

end Walls

/-! ### Footprints -/

section Footprints

variable {K : Type} [Scalar K] {m : TileMap K} {mask : Option Int} {axis : Axis}
  {across : List Int} {line first last : Int} {lo hi : K}

theorem mem_cells : line ∈ cells first last ↔ first ≤ line ∧ line ≤ last := by
  simp only [cells, List.mem_map, List.mem_range]
  constructor
  · rintro ⟨n, below, rfl⟩
    omega
  · intro between
    exact ⟨(line - first).toNat, by omega, by omega⟩

theorem mem_span : line ∈ m.span axis lo hi ↔
    (0 ≤ line ∧ line ≤ m.lastCell axis) ∧
      m.cell (lo + cellInset) ≤ line ∧ line ≤ m.cell (hi - cellInset) := by
  rw [span, mem_cells, spanFirst, spanLast, max_le_iff, le_min_iff]
  tauto

/-- The cells that a box covers across an axis. -/
def spanAcross (m : TileMap K) (axis : Axis) (min max : Vec K) : List Int :=
  m.span axis.other (axis.other.of min) (axis.other.of max)

/-- A box is blocked just if it covers a wall, along either axis. -/
theorem footprintBlocked_iff (axis : Axis) (m : TileMap K) (mask : Option Int) (min max : Vec K) :
    m.footprintBlocked mask min max = true ↔
      ∃ line, m.Wall mask axis (m.spanAcross axis min max) line ∧
        m.cell (axis.of min + cellInset) ≤ line ∧ line ≤ m.cell (axis.of max - cellInset) := by
  have lines : m.footprintBlocked mask min max = true ↔
      ∃ line ∈ m.span axis (axis.of min) (axis.of max),
        m.lineBlocks mask axis (m.spanAcross axis min max) line = true := by
    rw [footprintBlocked, Bool.and_eq_true]
    constructor
    · rintro ⟨-, blocked⟩
      obtain ⟨row, inRows, blocked⟩ := List.any_eq_true.1 blocked
      obtain ⟨col, inCols, blocked⟩ := List.any_eq_true.1 blocked
      cases axis with
      | x => exact ⟨col, inCols, List.any_eq_true.2 ⟨row, inRows, blocked⟩⟩
      | y => exact ⟨row, inRows, List.any_eq_true.2 ⟨col, inCols, blocked⟩⟩
    · rintro ⟨line, inLines, blocks⟩
      refine ⟨Option.isSome_iff_ne_none.2 (maskAcross_of_lineBlocks blocks).1, ?_⟩
      obtain ⟨c, inAcross, blocked⟩ := List.any_eq_true.1 blocks
      cases axis with
      | x => exact List.any_eq_true.2 ⟨c, inAcross, List.any_eq_true.2 ⟨line, inLines, blocked⟩⟩
      | y => exact List.any_eq_true.2 ⟨line, inLines, List.any_eq_true.2 ⟨c, inAcross, blocked⟩⟩
  rw [lines]
  constructor
  · rintro ⟨line, inLines, blocks⟩
    obtain ⟨⟨first, last⟩, covered⟩ := mem_span.1 inLines
    exact ⟨line, ⟨first, last, blocks⟩, covered⟩
  · rintro ⟨line, wall, covered⟩
    exact ⟨line, mem_span.2 ⟨⟨wall.first, wall.last⟩, covered⟩, wall.blocks⟩

end Footprints

end TileMap

end Playfield
