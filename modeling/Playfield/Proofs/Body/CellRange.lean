import Playfield.Proofs.Body.Sweep
import Playfield.Proofs.Roster
import Playfield.Proofs.Simulation.Start

/-!
# The range of cell numbers

The cell of a coordinate is held in the range of words. The next cell is not: a face in the cell of
the greatest word, or of the least one, has no next cell, and a sweep panics.

* `Scalar.Saturating`: integer parts are held between their bounds.
* `TileMap.spanCounts`, `sweepCounts`: the integers that are formed where cells are counted.
* `IsVast` and `Overruns` say when one of them is no word: `fit_spanCounts_iff`,
  `fit_sweepCounts_iff`. `sweepOverflows_iff` says when a sweep panics.
* `Past`: a face lies at the last cell of a way, or beyond it. `sweep_of_past`: nothing stops it
  there. `past_of_le` says so of coordinates.
* `cells_are_words` puts it together. `a_box_runs_out_of_cells`: far from the grid, the sweep of a
  box that moves away panics.
-/

namespace Playfield

theorem Word.fits_wrap (n : Int) : Word.Fits (Word.wrap n) := by
  have low := Int.le_bmod (x := n) (m := 0x10000000000000000) (by decide)
  have high := Int.bmod_lt (x := n) (m := 0x10000000000000000) (by decide)
  unfold Word.Fits Word.least Word.greatest Word.wrap
  omega

/-- Integer parts are held between their bounds. -/
class Scalar.Saturating (K : Type) [Scalar K] : Prop where
  trunc_mem : ∀ {lo hi : Int} (x : K), lo ≤ hi → lo ≤ trunc lo hi x ∧ trunc lo hi x ≤ hi

instance : Scalar.Saturating Float where
  trunc_mem {lo hi} x le := by
    show lo ≤ Binary.trunc lo hi x ∧ Binary.trunc lo hi x ≤ hi
    unfold Binary.trunc
    split
    · dsimp only
      omega
    · split
      · omega
      · split <;> omega

instance : Scalar.Saturating Rat where
  trunc_mem {lo hi} x le := by
    show lo ≤ max lo (min hi _) ∧ max lo (min hi _) ≤ hi
    omega

namespace TileMap

variable {K : Type} [Scalar K] {m : TileMap K} {mask : Option Int} {axis : Axis} {min max : Vec K}
  {lo hi delta : K}

/-! ### The shape of a grid -/

theorem rows_of_valid (valid : Scene.validateMap m = .ok ()) : m.tiles.size = m.height := by
  obtain ⟨-, valid⟩ := Scene.bind_ok valid
  simpa using Scene.unless_ok (Scene.bind_ok valid).1

theorem columns_of_valid (valid : Scene.validateMap m = .ok ()) {row : Array Nat}
    (mem : row ∈ m.tiles) : row.size = m.width := by
  obtain ⟨-, valid⟩ := Scene.bind_ok valid
  obtain ⟨-, valid⟩ := Scene.bind_ok valid
  obtain ⟨i, at'⟩ := List.mem_iff_getElem?.1 (Array.mem_toList_iff.2 mem)
  have indexed : (row, i) ∈ m.tiles.toList.zipIdx := List.mk_mem_zipIdx_iff_getElem?.2 at'
  have valid := Scene.bind_ok (Roster.forM_eq_ok_iff.1 valid _ indexed)
  simpa using Scene.unless_ok valid.1

/-- A grid without rows has more columns than there are signed words. -/
def IsVast (m : TileMap K) : Prop := m.height = 0 ∧ Word.greatest < m.width

theorem extent_le (valid : Scene.validateMap m = .ok ()) (addressable : m.Addressable)
    (small : ¬m.IsVast) (axis : Axis) : m.extent axis ≤ Word.greatest := by
  have rows := addressable.rows
  rw [rows_of_valid valid] at rows
  cases axis with
  | y => exact rows
  | x =>
    by_cases none : m.height = 0
    · exact not_lt.1 fun vast => small ⟨none, vast⟩
    · have some : 0 < m.tiles.size := by
        rw [rows_of_valid valid]
        exact Nat.pos_of_ne_zero none
      have mem := Array.getElem_mem some
      have columns := addressable.columns _ mem
      rwa [columns_of_valid valid mem] at columns

theorem extents_le_iff (valid : Scene.validateMap m = .ok ()) (addressable : m.Addressable) :
    (∀ axis, m.extent axis ≤ Word.greatest) ↔ ¬m.IsVast :=
  ⟨fun le vast => absurd (le .x) (not_le.2 vast.2), extent_le valid addressable⟩

omit [Scalar K] in
theorem extent_nonneg (m : TileMap K) (axis : Axis) : 0 ≤ m.extent axis := by
  cases axis <;> exact Int.natCast_nonneg _

omit [Scalar K] in
theorem lastCell_eq (le : m.extent axis ≤ Word.greatest) :
    m.lastCell axis = m.extent axis - 1 := by
  have nonneg := m.extent_nonneg axis
  have least : Word.least ≤ 0 := by decide
  rw [lastCell, Word.wrap_eq_self (by omega) le]

/-! ### What is counted -/

/-- The integers that are formed where the cells of an interval are counted. -/
def spanCounts (m : TileMap K) (axis : Axis) (lo hi : K) : List Int :=
  [m.cell (lo + cellInset), m.cell (hi - cellInset), m.extent axis, m.extent axis - 1] ++
    m.span axis lo hi

/-- The integers that are formed where a box is swept. -/
def sweepCounts (m : TileMap K) (axis : Axis) (min max : Vec K) (delta : K) : List Int :=
  let face := leading axis min max delta
  let lines := m.linesAhead axis min max delta
  m.spanCounts axis.other (axis.other.of min) (axis.other.of max) ++
    [m.faceCell delta face, m.nextCell delta face, m.faceCell delta (face + delta),
      m.extent axis, m.extent axis - 1] ++
    (if 0.0 < delta then lines else lines.flatMap fun line => [line, line + 1])

/-- The leading face of a box has no next cell: its cell is the last that words count. -/
def Overruns (m : TileMap K) (delta face : K) : Prop :=
  m.faceCell delta face = if 0.0 < delta then Word.greatest else Word.least

/-- The leading face of a box lies in the last cell on its way, or beyond it. -/
def Past (m : TileMap K) (axis : Axis) (delta face : K) : Prop :=
  if 0.0 < delta then m.lastCell axis ≤ m.faceCell delta face else m.faceCell delta face ≤ 0

variable [Scalar.Saturating K]

theorem fits_cell (m : TileMap K) (v : K) : Word.Fits (m.cell v) :=
  Scalar.Saturating.trunc_mem _ (by decide)

theorem fits_faceCell (m : TileMap K) (delta face : K) : Word.Fits (m.faceCell delta face) := by
  unfold faceCell
  split <;> exact m.fits_cell _

theorem fits_nextCell_iff {face : K} :
    Word.Fits (m.nextCell delta face) ↔ ¬m.Overruns delta face := by
  have fits := m.fits_faceCell delta face
  unfold nextCell Overruns Word.Fits at *
  split <;> omega

theorem fit_spanCounts_iff :
    (∀ n ∈ m.spanCounts axis lo hi, Word.Fits n) ↔ m.extent axis ≤ Word.greatest := by
  have nonneg := m.extent_nonneg axis
  have least : Word.least ≤ -1 := by decide
  constructor
  · intro fit
    exact (fit (m.extent axis) (by simp [spanCounts])).2
  · intro le
    simp only [spanCounts, List.forall_mem_append, List.forall_mem_cons]
    refine ⟨⟨m.fits_cell _, m.fits_cell _, ⟨by omega, le⟩, ⟨by omega, by omega⟩, nofun⟩, ?_⟩
    intro line covered
    obtain ⟨⟨first, last⟩, -⟩ := mem_span.1 covered
    rw [lastCell_eq le] at last
    exact ⟨by omega, by omega⟩

theorem fit_sweepCounts_iff : (∀ n ∈ m.sweepCounts axis min max delta, Word.Fits n) ↔
    (∀ axis, m.extent axis ≤ Word.greatest) ∧
      ¬m.Overruns delta (leading axis min max delta) := by
  have least : Word.least ≤ -1 := by decide
  rw [← fits_nextCell_iff]
  simp only [sweepCounts, List.forall_mem_append, fit_spanCounts_iff, List.forall_mem_cons]
  constructor
  · rintro ⟨⟨across, -, next, -, here, -⟩, -⟩
    refine ⟨fun other => ?_, next⟩
    cases axis <;> cases other
    exacts [here.2, across, across, here.2]
  · rintro ⟨le, next⟩
    have here := le axis
    have nonneg := m.extent_nonneg axis
    have line {n : Int} (mem : n ∈ m.linesAhead axis min max delta) :
        Word.Fits n ∧ Word.Fits (n + 1) := by
      obtain ⟨⟨first, last⟩, -⟩ := mem_linesAhead.1 mem
      rw [lastCell_eq here] at last
      exact ⟨⟨by omega, by omega⟩, by omega, by omega⟩
    refine ⟨⟨le _, m.fits_faceCell _ _, next, m.fits_faceCell _ _, ⟨by omega, here⟩,
      ⟨by omega, by omega⟩, nofun⟩, ?_⟩
    split
    · exact fun n mem => (line mem).1
    · rw [List.forall_mem_flatMap]
      intro n mem
      exact List.forall_mem_cons.2 ⟨(line mem).1, List.forall_mem_singleton.2 (line mem).2⟩

/-! ### When a count panics -/

omit [Scalar.Saturating K] [Scalar K] in
/-- Only of as many cells as there are negative words the last one is no word. -/
theorem fits_lastCell_iff :
    Word.Fits (m.lastCell axis) ↔ Word.wrap (m.extent axis) ≠ Word.least := by
  have fits := Word.fits_wrap (m.extent axis)
  unfold lastCell Word.Fits at *
  omega

omit [Scalar.Saturating K] [Scalar K] in
theorem fits_lastCell (le : m.extent axis ≤ Word.greatest) : Word.Fits (m.lastCell axis) := by
  have nonneg := m.extent_nonneg axis
  have least : Word.least ≤ -1 := by decide
  rw [lastCell_eq le]
  exact ⟨by omega, by omega⟩

omit [Scalar.Saturating K] in
theorem fits_rows (valid : Scene.validateMap m = .ok ()) (addressable : m.Addressable) :
    Word.Fits (m.lastCell .y) := by
  have rows := addressable.rows
  rw [rows_of_valid valid] at rows
  exact fits_lastCell rows

/-- A sweep panics just if it looks for tiles, and there is no last column or no next cell. -/
theorem sweepOverflows_iff (valid : Scene.validateMap m = .ok ()) (addressable : m.Addressable) :
    m.sweepOverflows mask axis min max delta = true ↔
      mask ≠ none ∧ (delta == 0.0) = false ∧
        (Word.wrap m.width = Word.least ∨ m.Overruns delta (leading axis min max delta)) := by
  have rows := fits_rows valid addressable
  have columns : ¬Word.Fits (m.lastCell .x) ↔ Word.wrap m.width = Word.least := by
    rw [fits_lastCell_iff, not_not]
    rfl
  simp only [sweepOverflows, Bool.and_eq_true, Bool.not_eq_true', Bool.or_eq_false_iff,
    Option.isNone_eq_false_iff, Option.isSome_iff_ne_none, List.any_cons, List.any_nil,
    Bool.or_false, Bool.or_eq_true, decide_eq_false_iff_not, columns, fits_nextCell_iff, not_not,
    rows, not_true, false_or, and_assoc]

omit [Scalar.Saturating K] in
/-- The cells in a box are counted without a panic. -/
theorem boxOverflows_eq_false (valid : Scene.validateMap m = .ok ())
    (addressable : m.Addressable) : m.boxOverflows min max = false := by
  have rows := fits_rows valid addressable
  by_cases fits : Word.Fits (m.lastCell .x)
  · simp [boxOverflows, rows, fits]
  · -- Then the grid has no rows.
    have vast : m.IsVast := by
      by_contra small
      exact fits (fits_lastCell (extent_le valid addressable small .x))
    have none : m.span .y min.y max.y = [] := by
      refine List.eq_nil_iff_forall_not_mem.2 fun row mem => ?_
      obtain ⟨⟨first, last⟩, -⟩ := mem_span.1 mem
      have no : m.extent .y = 0 := congrArg Nat.cast vast.1
      rw [lastCell_eq (by rw [no]; decide), no] at last
      omega
    simp [boxOverflows, rows, none]

/-! ### Beyond the last cell -/

omit [Scalar.Saturating K] in
/-- There are no lines ahead of a face in the last cell on its way. -/
theorem sweep_of_past (past : m.Past axis delta (leading axis min max delta)) :
    m.sweep mask axis min max delta = none := by
  have none : m.linesAhead axis min max delta = [] := by
    refine List.eq_nil_iff_forall_not_mem.2 fun line mem => ?_
    obtain ⟨⟨first, last⟩, ahead, -⟩ := mem_linesAhead.1 mem
    unfold Past faceCell at past
    unfold Entered at ahead
    split at past
    · simp only [*, if_true] at ahead
      omega
    · simp only [*, if_false] at ahead
      omega
  unfold sweep
  rw [none]
  split <;> rfl

theorem past_of_le {m : TileMap Rat} {axis : Axis} {delta face : Rat}
    (inset : cellInset < m.tileSize) (le : m.extent axis ≤ Word.greatest)
    (beyond : if 0.0 < delta then m.extent axis * m.tileSize ≤ face else face ≤ 0) :
    m.Past axis delta face := by
  have pos : 0 < m.tileSize := cellInset_pos.trans inset
  unfold Past faceCell
  split
  · simp only [*, if_true] at beyond ⊢
    rw [lastCell_eq le]
    refine le_cell_of_mul_le pos (by omega) ?_
    push_cast
    linarith
  · simp only [*, if_false] at beyond ⊢
    by_contra next
    have first : 1 ≤ m.cell (face + cellInset) := by omega
    have reached := mul_le_of_le_cell pos (by decide) first
    push_cast at reached
    linarith

/-- The integers that are formed where cells are counted are words, unless the grid is vast and has
no rows, or a leading face has no next cell. A sweep that looks for tiles panics in the second case,
and in the first one if there are as many columns as negative words. A count of the cells in a box
never panics. A box whose leading face has passed the last cell on its way is not stopped. -/
theorem cells_are_words (valid : Scene.validateMap m = .ok ()) (addressable : m.Addressable)
    (mask : Option Int) (axis : Axis) (min max : Vec K) (delta : K) :
    ((∀ axis lo hi, ∀ n ∈ m.spanCounts axis lo hi, Word.Fits n) ↔ ¬m.IsVast) ∧
      ((∀ n ∈ m.sweepCounts axis min max delta, Word.Fits n) ↔
        ¬m.IsVast ∧ ¬m.Overruns delta (leading axis min max delta)) ∧
      (m.sweepOverflows mask axis min max delta = true ↔
        mask ≠ none ∧ (delta == 0.0) = false ∧
          (Word.wrap m.width = Word.least ∨ m.Overruns delta (leading axis min max delta))) ∧
      m.boxOverflows min max = false ∧
      (m.Past axis delta (leading axis min max delta) →
        m.sweep mask axis min max delta = none) := by
  have small := extents_le_iff valid addressable
  refine ⟨?_, ?_, sweepOverflows_iff valid addressable, boxOverflows_eq_false valid addressable,
    sweep_of_past⟩
  · rw [← small]
    simp only [fit_spanCounts_iff]
    exact forall_congr' fun axis => ⟨fun fit => fit 0.0 0.0, fun fit _ _ => fit⟩
  · rw [fit_sweepCounts_iff, small]

namespace Far

/-- A row of three cells, the first of which holds a tile that blocks. -/
def cairn : TileMap Rat :=
  { width := 3, height := 1, tileSize := 10, tiles := #[#[1, 0, 0]]
    defs := Table.ofList [(1, { blockMask := some 5 })] }

end Far

open Far in
/-- A box that has passed the grid goes on its way. -/
theorem a_box_goes_on : Scene.validateMap cairn = .ok () ∧ cairn.Addressable ∧
    (∀ n ∈ cairn.sweepCounts .x ⟨40, 0⟩ ⟨50, 10⟩ 100, Word.Fits n) ∧
    cairn.sweepOverflows (some 1) .x ⟨40, 0⟩ ⟨50, 10⟩ 100 = false ∧
    cairn.sweep (some 1) .x ⟨40, 0⟩ ⟨50, 10⟩ 100 = none := by
  have valid : Scene.validateMap cairn = .ok () := by cbv
  have addressable : cairn.Addressable := ⟨by decide, by decide⟩
  have face : leading .x ⟨40, 0⟩ ⟨50, 10⟩ (100 : Rat) = 50 := by cbv
  have counted : ¬cairn.Overruns 100 50 := by
    rw [← fits_nextCell_iff, show cairn.nextCell 100 50 = 5 by cbv]
    decide
  have beyond : cairn.Past .x 100 50 :=
    past_of_le (by norm_num [cairn, cellInset]) (by decide) (by norm_num [cairn, extent])
  obtain ⟨-, fit, panics, -, free⟩ :=
    cells_are_words valid addressable (some 1) .x ⟨40, 0⟩ ⟨50, 10⟩ (100 : Rat)
  rw [face] at fit panics free
  refine ⟨valid, addressable, fit.2 ⟨fun vast => absurd vast.1 Nat.one_ne_zero, counted⟩, ?_,
    free beyond⟩
  rw [← Bool.not_eq_true, panics]
  rintro ⟨-, -, vast | overruns⟩
  · exact absurd vast (by decide)
  · exact counted overruns

open Far in
/-- Far beyond the grid, at either side of it, the number of the next cell is no word, and the sweep
of a box that moves on panics. -/
theorem a_box_runs_out_of_cells : Scene.validateMap cairn = .ok () ∧ cairn.Addressable ∧
    (¬(∀ n ∈ cairn.sweepCounts .x ⟨10 ^ 20 - 5, 0⟩ ⟨10 ^ 20 + 5, 10⟩ (10 ^ 20), Word.Fits n) ∧
      cairn.sweepOverflows (some 1) .x ⟨10 ^ 20 - 5, 0⟩ ⟨10 ^ 20 + 5, 10⟩ (10 ^ 20) = true) ∧
    ¬(∀ n ∈ cairn.sweepCounts .x ⟨-10 ^ 20 - 5, 0⟩ ⟨-10 ^ 20 + 5, 10⟩ (-10 ^ 20), Word.Fits n) ∧
      cairn.sweepOverflows (some 1) .x ⟨-10 ^ 20 - 5, 0⟩ ⟨-10 ^ 20 + 5, 10⟩ (-10 ^ 20) = true := by
  have overruns : cairn.Overruns (10 ^ 20)
      (leading .x ⟨10 ^ 20 - 5, 0⟩ ⟨10 ^ 20 + 5, 10⟩ (10 ^ 20)) := by cbv
  have overruns' : cairn.Overruns (-10 ^ 20)
      (leading .x ⟨-10 ^ 20 - 5, 0⟩ ⟨-10 ^ 20 + 5, 10⟩ (-10 ^ 20)) := by cbv
  refine ⟨by cbv, ⟨by decide, by decide⟩, ⟨fun fit => ?_, by cbv⟩, fun fit => ?_, by cbv⟩
  · exact (fit_sweepCounts_iff.1 fit).2 overruns
  · exact (fit_sweepCounts_iff.1 fit).2 overruns'

end TileMap

end Playfield
