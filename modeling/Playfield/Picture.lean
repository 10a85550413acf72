import Playfield.Text.Letter
import Playfield.World.Basic

/-!
# Pictures in text

A `Picture` shows a part of the world as rows of characters, one for each cell, with a legend.

* `World.bounds` is the rectangle of cells there is to see, `World.view` the part a camera shows.
* Tiles are drawn first, then active actors by layer, each over what was there before.
* `Picture.ofMarks` paints; the legend names each symbol by what drew it first inside the view.

Cell numbers are signed words; sums stop at the ends of their range.
-/

namespace Playfield

/-- A rectangle of cells; it may be empty. -/
structure CellRect where
  col : Int
  row : Int
  cols : Nat
  rows : Nat
  deriving DecidableEq, Repr

namespace CellRect

/-- No cells. -/
def empty : CellRect := ⟨0, 0, 0, 0⟩

/-- The cell lies in the rectangle. -/
def contains (r : CellRect) (col row : Int) : Bool :=
  r.col ≤ col && r.row ≤ row && col < r.col + r.cols && row < r.row + r.rows

/-- The columns, in order. -/
def columns (r : CellRect) : List Int := (List.range r.cols).map fun (n : Nat) => r.col + (n : Int)

/-- The rows, in order. -/
def lines (r : CellRect) : List Int := (List.range r.rows).map fun (n : Nat) => r.row + (n : Int)

/-- The greatest extent along an axis, unless a map says otherwise. -/
def maxExtent : Nat := 512

/-- The number of cells from one to another, cut to the greatest extent. -/
def extent (first last : Int) : Nat := min (last - first + 1).toNat maxExtent

/-- The start of a window that lies within `span` cells from `lo` on, as near as can be to a wanted
start. -/
def fitStart (start : Int) (length : Nat) (lo : Int) (span : Nat) : Int :=
  let hi := Word.clamp (Word.clamp (lo + Word.signed span) - Word.signed length)
  max lo (min (max hi lo) start)

end CellRect

/-- A symbol drawn in a cell, and what it stands for. -/
structure Mark where
  col : Int
  row : Int
  symbol : Char
  label : String
  deriving DecidableEq, Repr

/-- A part of the world in text. -/
structure Picture (K : Type) where
  rows : List String := []
  /-- Symbols and what they stand for, in the order of first use. -/
  legend : List (Char × String) := []
  /-- The cells shown, and their size. -/
  view : Option (CellRect × K) := none

/-- The symbol of tiles that have only a colour. -/
def colorSymbol : Char := '#'

/-- What the tiles of an id are drawn as. Without symbol, sprite and colour they are not drawn. -/
def TileDef.mark? (d : TileDef) (id : Nat) (col row : Int) : Option Mark :=
  let symbol := d.symbol <|> d.sprite.bind Text.firstLetter? <|> d.color.map fun _ => colorSymbol
  let label := (d.sprite <|> d.color).getD s!"tile {id}"
  symbol.map fun symbol => ⟨col, row, symbol, label⟩

variable {K : Type}

namespace Scene

/-- The symbol of an actor: that of its template, else the first letter of its sprite or type. -/
def symbolOf (s : Scene K) (a : Actor K) : Option Char :=
  (s.template? a.type).bind (·.symbol) <|> a.sprite.bind Text.firstLetter? <|>
    Text.firstLetter? a.type

variable [Scalar K]

/-- The size of a cell: that of a tile, if there is a map. -/
def cellSize (s : Scene K) : K := s.map.elim 32.0 (·.tileSize)

/-- The cell that holds a coordinate. -/
def cellOf (s : Scene K) (v : K) : Int :=
  Scalar.trunc Word.least Word.greatest (Scalar.floor (v / s.cellSize))

/-- The last cell of a length. -/
def lastCellOf (s : Scene K) (v : K) : Int :=
  Word.clamp (Scalar.trunc Word.least Word.greatest (Scalar.ceil (v / s.cellSize)) - 1)

/-- The number of cells that begin within a length. -/
def cellsWithin (s : Scene K) (v : K) : Nat :=
  (Scalar.trunc 0 Word.greatestUnsigned (Scalar.ceil (v / s.cellSize))).toNat

/-- The number of whole cells within a length. -/
def wholeCells (s : Scene K) (v : K) : Nat :=
  (Scalar.trunc 0 Word.greatestUnsigned (Scalar.floor (v / s.cellSize))).toNat

end Scene

namespace World

/-- The active actors. -/
def shown (w : World K) : List (Actor K) := w.actors.filter (·.active)

/-- The tiles in a rectangle, row by row. -/
def tileMarks (w : World K) (view : CellRect) : List Mark :=
  match w.scene.map with
  | none => []
  | some m => view.lines.flatMap fun row => view.columns.filterMap fun col =>
      match m.tileAt col row with
      | 0 => none
      | id => (m.defs.get? id).bind fun d => d.mark? id col row

variable [Scalar K]

/-- The active actors, by layer. -/
def actorMarks (w : World K) : List Mark :=
  (w.shown.mergeSort fun a b => a.layer ≤ b.layer).filterMap fun a =>
    (w.scene.symbolOf a).map fun symbol => ⟨w.scene.cellOf a.x, w.scene.cellOf a.y, symbol, a.type⟩

/-- The cells from the least to the greatest of a list, cut to a length if there is one. -/
def spread (first : Int) (others : List Int) (last? : Option Int) : Int × Int :=
  let lo := others.foldl min first
  let hi := others.foldl max first
  match last? with
  | some last => (max lo 0, min hi last)
  | none => (lo, hi)

/-- The cells there are to see: the map, else those between the active actors, cut to the size of
the world. -/
def bounds (w : World K) : CellRect :=
  match w.scene.map with
  | some m => ⟨0, 0, m.width, m.height⟩
  | none =>
    match w.shown with
    | [] => .empty
    | first :: others =>
      let s := w.scene
      let size := s.worldSize
      let (left, right) := spread (s.cellOf first.x) (others.map fun a => s.cellOf a.x)
        (size.map fun wh => s.lastCellOf wh.1)
      let (top, bottom) := spread (s.cellOf first.y) (others.map fun a => s.cellOf a.y)
        (size.map fun wh => s.lastCellOf wh.2)
      if right < left ∨ bottom < top then .empty
      else ⟨left, top, CellRect.extent left right, CellRect.extent top bottom⟩

/-- The number of columns and rows that a camera asks for. -/
def viewSize (w : World K) (camera : Option (Camera K)) : Nat × Nat :=
  let s := w.scene
  let declared :=
    match s.symbolic.crop, s.world.surface with
    | some crop, _ => (crop.cols, crop.rows)
    | none, some surface => (s.wholeCells surface.width, s.wholeCells surface.height)
    | none, none => (w.bounds.cols, w.bounds.rows)
  match camera.bind fun c => c.width.bind fun width => c.height.map (width, ·) with
  | some (width, height) => (s.cellsWithin width, s.cellsWithin height)
  | none => declared

/-- The point that a camera is centred on: the actor it follows, else its own place. -/
def centre? (w : World K) (c : Camera K) : Option (K × K) :=
  (c.follow.bind w.actor?).map (fun a => (a.x, a.y)) <|>
    c.x.bind fun x => c.y.map (x, ·)

/-- The start of a window of some length around a coordinate. -/
def windowStart (s : Scene K) (v : K) (length : Nat) : Int :=
  Word.clamp (s.cellOf v - (length / 2 : Nat))

/-- The cells that a camera shows. -/
def view (w : World K) (camera : Option (Camera K)) : CellRect :=
  let b := w.bounds
  let size := w.viewSize camera
  let cols := min size.1 b.cols
  let rows := min size.2 b.rows
  let (col, row) := match camera.bind w.centre? with
    | some (x, y) => (windowStart w.scene x cols, windowStart w.scene y rows)
    | none => (b.col, b.row)
  ⟨CellRect.fitStart col cols b.col b.cols, CellRect.fitStart row rows b.row b.rows, cols, rows⟩

end World

namespace Picture

/-- The picture without cells. -/
def empty : Picture K := {}

/-- Draws a symbol over what is in its cell. -/
def paint (view : CellRect) (grid : Array (Array Char)) (m : Mark) : Array (Array Char) :=
  grid.modify (m.row - view.row).toNat (·.setIfInBounds (m.col - view.col).toNat m.symbol)

/-- Adds a symbol to a legend unless it is there. -/
def note (legend : List (Char × String)) (m : Mark) : List (Char × String) :=
  if legend.any (·.1 == m.symbol) then legend else legend ++ [(m.symbol, m.label)]

/-- The picture of marks, drawn in order on an empty ground. Those outside the view are not
drawn. -/
def ofMarks (view : CellRect) (cellSize : K) (ground : Char) (marks : List Mark) : Picture K :=
  let inside := marks.filter fun m => view.contains m.col m.row
  let blank := Array.replicate view.rows (Array.replicate view.cols ground)
  let grid := inside.foldl (paint view) blank
  { rows := grid.toList.map fun row => String.ofList row.toList
    legend := inside.foldl note []
    view := some (view, cellSize) }

variable [Scalar K]

/-- What a camera shows; without one, as much as there is to see. -/
def ofWorld (w : World K) (camera : Option (Camera K)) : Picture K :=
  let view := w.view camera
  ofMarks view w.scene.cellSize w.scene.symbolic.empty (w.tileMarks view ++ w.actorMarks)

/-- What a role sees: the view of its camera, else the whole. A role played by a program sees
nothing without a camera. -/
def forRole (w : World K) (r : Role K) : Picture K :=
  match r.camera.bind w.scene.camera? with
  | some camera => ofWorld w (some camera)
  | none => if r.kind = .ai then .empty else ofWorld w none

def toJson (p : Picture K) : Json K :=
  .obj ([("rows", .strings p.rows),
    ("legend", .list (fun e => .obj [("symbol", .str e.1.toString), ("label", .str e.2)])
      p.legend)] ++
    Json.optionalMember "viewport" (fun v => .obj [("col", .int v.1.col), ("row", .int v.1.row),
      ("cols", .nat v.1.cols), ("rows", .nat v.1.rows), ("cell_size", .scalar v.2)]) p.view)

end Picture

end Playfield
