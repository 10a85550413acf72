import Playfield.Body.Basic

/-!
# Boxes and tiles

Which cells of the map a box covers and which tiles stop it. Ranges of cells are taken with a small
inset, so that a box that rests on the border of a cell does not cover the next one.

* `span` is the range of cells that an interval covers, `footprintBlocked` says whether a tile in
  the box of a body blocks it, `maskedTiles` lists the tiles there.
* `sweep` finds the first line of cells that stops a box on its way along an axis.

Cell numbers are signed words. Where one is counted that is no word, the program panics instead of
giving what is counted here: `sweepOverflows` and `boxOverflows` say when.
-/

namespace Playfield

/-- The gap left between a swept box and the tile that stopped it. -/
def tileGap {K : Type} [Scalar K] : K := 1e-6

/-- The inset with which covered cells are counted. -/
def cellInset {K : Type} [Scalar K] : K := 1e-9

namespace TileMap

variable {K : Type} [Scalar K]

/-- The cell that holds a coordinate. -/
def cell (m : TileMap K) (v : K) : Int :=
  Scalar.trunc Word.least Word.greatest (Scalar.floor (v / m.tileSize))

omit [Scalar K] in
/-- The number of cells along an axis. -/
def extent (m : TileMap K) : Axis → Int
  | .x => m.width
  | .y => m.height

omit [Scalar K] in
/-- The last cell along an axis. -/
def lastCell (m : TileMap K) (axis : Axis) : Int := Word.wrap (m.extent axis) - 1

/-- The integers from one to another, both included. -/
def cells (first last : Int) : List Int :=
  (List.range (last - first + 1).toNat).map fun (n : Nat) => first + (n : Int)

/-- The first cell of the grid that an interval covers. -/
def spanFirst (m : TileMap K) (lo : K) : Int := max (m.cell (lo + cellInset)) 0

/-- The last cell of the grid that an interval covers. -/
def spanLast (m : TileMap K) (axis : Axis) (hi : K) : Int :=
  min (m.cell (hi - cellInset)) (m.lastCell axis)

/-- The cells of the grid that an interval covers along an axis. -/
def span (m : TileMap K) (axis : Axis) (lo hi : K) : List Int :=
  cells (m.spanFirst lo) (m.spanLast axis hi)

omit [Scalar K] in
/-- The mask of the tile at a place along an axis and across it. -/
def maskAcross (m : TileMap K) (axis : Axis) (line across : Int) : Option Int :=
  match axis with
  | .x => m.maskAt line across
  | .y => m.maskAt across line

omit [Scalar K] in
/-- A line of cells holds a tile that stops a mask. -/
def lineBlocks (m : TileMap K) (mask : Option Int) (axis : Axis) (across : List Int)
    (line : Int) : Bool :=
  across.any fun c => tileBlocks mask (m.maskAcross axis line c)

/-- The leading face of a box. -/
def leading (axis : Axis) (min max : Vec K) (delta : K) : K :=
  if 0.0 < delta then axis.of max else axis.of min

/-- The cell of a face on its way. -/
def faceCell (m : TileMap K) (delta face : K) : Int :=
  if 0.0 < delta then m.cell (face - cellInset) else m.cell (face + cellInset)

/-- The next cell on the way of a face. -/
def nextCell (m : TileMap K) (delta face : K) : Int :=
  if 0.0 < delta then m.faceCell delta face + 1 else m.faceCell delta face - 1

/-- The lines that the leading face of a box enters on its way, in the order of travel. -/
def linesAhead (m : TileMap K) (axis : Axis) (min max : Vec K) (delta : K) : List Int :=
  let face := leading axis min max delta
  if 0.0 < delta then
    cells (Max.max (m.nextCell delta face) 0)
      (Min.min (m.faceCell delta (face + delta)) (m.lastCell axis))
  else
    (cells (Max.max (m.faceCell delta (face + delta)) 0)
      (Min.min (m.nextCell delta face) (m.lastCell axis))).reverse

/-- Where the leading face stops in front of a line. -/
def edgeOf (m : TileMap K) (delta : K) (line : Int) : K :=
  if 0.0 < delta then Scalar.ofInt line * m.tileSize - tileGap
  else Scalar.ofInt (line + 1) * m.tileSize + tileGap

/-- Where the first line that blocks stops the leading face of a box on its way. -/
def sweep (m : TileMap K) (mask : Option Int) (axis : Axis) (min max : Vec K) (delta : K) :
    Option K :=
  if mask.isNone || delta == 0.0 then none
  else
    let across := m.span axis.other (axis.other.of min) (axis.other.of max)
    ((m.linesAhead axis min max delta).find? (m.lineBlocks mask axis across)).map (m.edgeOf delta)

/-- A tile in the box blocks the mask. -/
def footprintBlocked (m : TileMap K) (mask : Option Int) (min max : Vec K) : Bool :=
  mask.isSome && (m.span .y min.y max.y).any fun row =>
    (m.span .x min.x max.x).any fun col => tileBlocks mask (m.maskAt col row)

/-- The masked tiles in the box, row by row. -/
def maskedTiles (m : TileMap K) (min max : Vec K) : List TileHit :=
  (m.span .y min.y max.y).flatMap fun row =>
    (m.span .x min.x max.x).filterMap fun col =>
      if (m.maskAt col row).isSome then some ⟨col, row, m.tileAt col row⟩ else none

/-- A sweep of a box panics: the last cell of an axis or the next cell of its leading face is no
word. -/
def sweepOverflows (m : TileMap K) (mask : Option Int) (axis : Axis) (min max : Vec K)
    (delta : K) : Bool :=
  !(mask.isNone || delta == 0.0) &&
    [m.lastCell .x, m.lastCell .y, m.nextCell delta (leading axis min max delta)].any
      fun n => !decide (Word.Fits n)

/-- A count of the cells in a box panics. Columns are counted only where there are rows. -/
def boxOverflows (m : TileMap K) (min max : Vec K) : Bool :=
  !decide (Word.Fits (m.lastCell .y)) ||
    !(m.span .y min.y max.y).isEmpty && !decide (Word.Fits (m.lastCell .x))

end TileMap

end Playfield
