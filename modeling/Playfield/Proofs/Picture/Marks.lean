import Mathlib.Data.List.Basic
import Mathlib.Data.List.Induction
import Playfield.Picture

/-!
# Painting marks

Marks are painted one over the other, and each new symbol is noted in the legend.

* `CellRect.contains_iff`, `mem_columns`, `mem_lines`: the cells of a rectangle.
* `Picture.charAt?_foldl`: after some marks a cell has the symbol of the last of them there.
* `Picture.Shaped`: a grid has so many rows and columns. It keeps its shape (`shaped_foldl`).
* `Picture.exists_firsts`: a legend has an entry for the first mark of each symbol, in their order.
* `Picture.shape_ofMarks`, `char?_ofMarks`: the rows of a picture, and their characters.
-/

namespace Playfield

namespace CellRect

variable {r : CellRect} {col row : Int}

theorem contains_iff : r.contains col row = true ↔
    r.col ≤ col ∧ r.row ≤ row ∧ col < r.col + r.cols ∧ row < r.row + r.rows := by
  simp [contains, and_assoc]

theorem mem_columns : col ∈ r.columns ↔ r.col ≤ col ∧ col < r.col + r.cols := by
  simp only [columns, List.mem_map, List.mem_range]
  constructor
  · rintro ⟨n, lt, rfl⟩
    omega
  · rintro ⟨le, lt⟩
    exact ⟨(col - r.col).toNat, by omega, by omega⟩

theorem mem_lines : row ∈ r.lines ↔ r.row ≤ row ∧ row < r.row + r.rows := by
  simp only [lines, List.mem_map, List.mem_range]
  constructor
  · rintro ⟨n, lt, rfl⟩
    omega
  · rintro ⟨le, lt⟩
    exact ⟨(row - r.row).toNat, by omega, by omega⟩

theorem pairwise_columns (r : CellRect) : r.columns.Pairwise (· < ·) :=
  List.pairwise_map.2 (List.pairwise_lt_range.imp (by omega))

theorem pairwise_lines (r : CellRect) : r.lines.Pairwise (· < ·) :=
  List.pairwise_map.2 (List.pairwise_lt_range.imp (by omega))

end CellRect

/-- The mark is in a cell. -/
def Mark.isAt (m : Mark) (col row : Int) : Bool := m.col == col && m.row == row

namespace Picture

variable {view : CellRect} {grid : Array (Array Char)} {m : Mark} {marks : List Mark} {r c : Nat}

/-! ### Cells -/

/-- The character of a grid in a row and a column. -/
def charAt? (grid : Array (Array Char)) (r c : Nat) : Option Char := grid[r]?.bind (·[c]?)

/-- The mark covers what is in its cell, and nothing else. -/
theorem charAt?_paint (inside : view.contains m.col m.row = true) (grid : Array (Array Char))
    (r c : Nat) : charAt? (paint view grid m) r c =
      (charAt? grid r c).map fun ground =>
        if m.isAt (view.col + c) (view.row + r) then m.symbol else ground := by
  obtain ⟨left, top, -, -⟩ := CellRect.contains_iff.1 inside
  have line : (m.row - view.row).toNat = r ↔ m.row = view.row + r := by omega
  have column : (m.col - view.col).toNat = c ↔ m.col = view.col + c := by omega
  simp only [charAt?, paint, Array.getElem?_modify, line]
  by_cases there : m.row = view.row + r
  · rw [if_pos there]
    cases grid[r]? with
    | none => rfl
    | some chars =>
      simp only [Option.map_some, Option.bind_some, Array.getElem?_setIfInBounds, column]
      by_cases here : m.col = view.col + c
      · have at' : m.isAt (view.col + c) (view.row + r) = true := by simp [Mark.isAt, here, there]
        rw [if_pos here, column.2 here, at']
        by_cases lt : c < chars.size
        · simp [lt]
        · simp [lt]
      · simp [Mark.isAt, here]
  · simp [Mark.isAt, there]

/-- After some marks a cell has the symbol of the last of them there, or else what it had before. -/
theorem charAt?_foldl (inside : ∀ m ∈ marks, view.contains m.col m.row = true)
    (grid : Array (Array Char)) (r c : Nat) : charAt? (marks.foldl (paint view) grid) r c =
      (charAt? grid r c).map fun ground =>
        ((marks.reverse.find? (·.isAt (view.col + c) (view.row + r))).map (·.symbol)).getD
          ground := by
  induction marks using List.reverseRecOn with
  | nil => simp
  | append_singleton marks m ih =>
    rw [List.forall_mem_append, List.forall_mem_singleton] at inside
    rw [List.foldl_concat, charAt?_paint inside.2, ih inside.1, List.reverse_concat,
      List.find?_cons, Option.map_map]
    refine congrArg (Option.map · _) (funext fun ground => ?_)
    cases m.isAt (view.col + c) (view.row + r) <;> rfl

/-- A grid has so many rows, of so many columns. -/
def Shaped (grid : Array (Array Char)) (rows cols : Nat) : Prop :=
  grid.size = rows ∧ ∀ row ∈ grid, row.size = cols

theorem shaped_paint {rows cols : Nat} (shaped : Shaped grid rows cols) (m : Mark) :
    Shaped (paint view grid m) rows cols := by
  refine ⟨(Array.size_modify ..).trans shaped.1, fun row mem => ?_⟩
  obtain ⟨i, lt, rfl⟩ := Array.mem_iff_getElem.1 mem
  have below : i < grid.size := Nat.lt_of_lt_of_eq lt (Array.size_modify ..)
  have same := shaped.2 grid[i] (Array.getElem_mem below)
  simp only [paint, Array.getElem_modify]
  split
  · simpa using same
  · exact same

theorem shaped_foldl {rows cols : Nat} (shaped : Shaped grid rows cols) (view : CellRect)
    (marks : List Mark) : Shaped (marks.foldl (paint view) grid) rows cols := by
  induction marks generalizing grid with
  | nil => exact shaped
  | cons m rest ih => exact ih (shaped_paint shaped m)

theorem shaped_blank (rows cols : Nat) (ground : Char) :
    Shaped (Array.replicate rows (Array.replicate cols ground)) rows cols := by
  refine ⟨Array.size_replicate, fun row mem => ?_⟩
  rw [(Array.mem_replicate.1 mem).2, Array.size_replicate]

variable {K : Type} {cellSize : K} {ground : Char}

/-- The character of a picture in a row and a column. -/
def char? (p : Picture K) (r c : Nat) : Option Char := p.rows[r]?.bind (·.toList[c]?)

/-- A picture has the rows and columns of its view. -/
theorem shape_ofMarks : (ofMarks view cellSize ground marks).rows.length = view.rows ∧
    ∀ line ∈ (ofMarks view cellSize ground marks).rows, line.length = view.cols := by
  obtain ⟨rows, cols⟩ := shaped_foldl (shaped_blank view.rows view.cols ground) view
    (marks.filter fun m => view.contains m.col m.row)
  refine ⟨(List.length_map _).trans rows, fun line mem => ?_⟩
  obtain ⟨row, there, rfl⟩ := List.mem_map.1 mem
  rw [String.length_ofList]
  exact cols row (Array.mem_toList_iff.1 there)

/-- A cell of a picture has the symbol of the last mark there. -/
theorem char?_ofMarks (line : r < view.rows) (column : c < view.cols) :
    (ofMarks view cellSize ground marks).char? r c =
      some ((((marks.filter fun m => view.contains m.col m.row).reverse.find?
        (·.isAt (view.col + c) (view.row + r))).map (·.symbol)).getD ground) := by
  have inside : ∀ m ∈ marks.filter (fun m => view.contains m.col m.row),
      view.contains m.col m.row = true := fun m mem => (List.mem_filter.1 mem).2
  have painted := charAt?_foldl inside
    (Array.replicate view.rows (Array.replicate view.cols ground)) r c
  have blank : charAt? (Array.replicate view.rows (Array.replicate view.cols ground)) r c =
      some ground := by
    simp [charAt?, line, column]
  rw [blank] at painted
  refine Eq.trans ?_ painted
  simp only [char?, ofMarks, charAt?, List.getElem?_map, Array.getElem?_toList, Option.bind_map]
  refine congrArg (Option.bind _) (funext fun row => ?_)
  rw [Function.comp_apply, String.toList_ofList, Array.getElem?_toList]

/-! ### The legend -/

/-- A legend has an entry for the first mark of each symbol, in the order of these marks. -/
theorem exists_firsts {α : Type} (mark : α → Mark) {R : α → α → Prop} {l : List α}
    (sorted : l.Pairwise R) : ∃ firsts : List α, firsts.Sublist l ∧
      (l.map mark).foldl note [] = firsts.map (fun a => ((mark a).symbol, (mark a).label)) ∧
      (firsts.map fun a => (mark a).symbol).Nodup ∧
      ∀ a ∈ l, ∃ b ∈ firsts, (mark b).symbol = (mark a).symbol ∧ (b = a ∨ R b a) := by
  induction l using List.reverseRecOn with
  | nil => exact ⟨[], .slnil, rfl, .nil, fun a mem => absurd mem List.not_mem_nil⟩
  | append_singleton l a ih =>
    obtain ⟨sorted, -, before⟩ := List.pairwise_append.1 sorted
    obtain ⟨firsts, sub, legend, distinct, first⟩ := ih sorted
    have known : ((l.map mark).foldl note []).any (·.1 == (mark a).symbol) = true ↔
        ∃ b ∈ firsts, (mark b).symbol = (mark a).symbol := by
      rw [legend]
      simp
    rw [List.map_append, List.map_singleton, List.foldl_concat, note]
    by_cases old : ∃ b ∈ firsts, (mark b).symbol = (mark a).symbol
    · rw [if_pos (known.2 old)]
      refine ⟨firsts, sub.trans (List.sublist_append_left ..), legend, distinct, ?_⟩
      rw [List.forall_mem_append, List.forall_mem_singleton]
      obtain ⟨b, mem, same⟩ := old
      exact ⟨first, b, mem, same, .inr (before b (sub.subset mem) a List.mem_cons_self)⟩
    · rw [if_neg (mt known.1 old)]
      refine ⟨firsts ++ [a], sub.append (.refl _), ?_, ?_, ?_⟩
      · rw [legend, List.map_append]
        rfl
      · rw [List.map_append, List.map_singleton]
        refine List.pairwise_append.2 ⟨distinct, List.pairwise_singleton _ _, ?_⟩
        rintro symbol there _ here rfl
        obtain ⟨b, mem, same⟩ := List.mem_map.1 there
        exact old ⟨b, mem, same.trans (List.mem_singleton.1 here)⟩
      · rw [List.forall_mem_append, List.forall_mem_singleton]
        refine ⟨fun a' mem => ?_, a, List.mem_append_right _ List.mem_cons_self, rfl, .inl rfl⟩
        obtain ⟨b, there, found⟩ := first a' mem
        exact ⟨b, List.mem_append_left _ there, found⟩

end Picture

end Playfield
