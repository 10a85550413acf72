import Mathlib.Data.List.Nodup
import Playfield.Proofs.Picture.Marks

/-!
# Who draws what

In a picture the topmost thing of each cell is seen, and the legend tells who was first to draw a
symbol. Both follow from one order of all that draws: tiles row by row, and then actors by layer and
by their place in the list of actors.

* `Drawer`: a tile, or an actor. `Drawer.Before`: the order in which they draw.
* `World.Draws`: what a drawer draws in a cell. `World.Shows`: what is seen of a cell.
* `World.DrawsIn`, `FirstIn`: who draws a symbol inside a view, and who is first to do so.
  `World.Explains`: a legend explains the symbols of a view.
* `World.drawn`: all marks of a picture with their drawers, in the order of drawing.
* `picture_shows_topmost` puts it together.
-/

namespace Playfield

/-- What draws a symbol: the tile of a cell, or an actor of a layer, by its place in the list. -/
inductive Drawer where
  | tile (col row : Int)
  | actor (layer : Int) (place : Nat)

/-- A drawer draws before another: tiles row by row, then actors by layer and by place. -/
def Drawer.Before : Drawer → Drawer → Prop
  | tile col row, tile col' row' => row < row' ∨ row = row' ∧ col < col'
  | tile _ _, actor _ _ => True
  | actor _ _, tile _ _ => False
  | actor layer place, actor layer' place' => layer < layer' ∨ layer = layer' ∧ place < place'

theorem Drawer.Before.asymm {d d' : Drawer} (before : d.Before d') : ¬d'.Before d := by
  cases d with
  | tile =>
    cases d' with
    | tile => simp only [Before] at before ⊢; omega
    | actor => exact id
  | actor =>
    cases d' with
    | tile => exact before.elim
    | actor => simp only [Before] at before ⊢; omega

variable {K : Type}

namespace TileMap

variable {map : TileMap K} {col row : Int} {m : Mark}

/-- What a map draws in a cell. -/
def mark? (map : TileMap K) (col row : Int) : Option Mark :=
  match map.tileAt col row with
  | 0 => none
  | id => (map.defs.get? id).bind fun d => d.mark? id col row

theorem mark?_eq_some_iff : map.mark? col row = some m ↔ map.tileAt col row ≠ 0 ∧
    ∃ def', map.defs.get? (map.tileAt col row) = some def' ∧
      def'.mark? (map.tileAt col row) col row = some m := by
  unfold mark?
  split
  · simp [*]
  · rename_i ne
    rw [Option.bind_eq_some_iff, and_iff_right ne]

/-- A tile is drawn in its cell. -/
theorem place_of_mark? (drawn : map.mark? col row = some m) : m.col = col ∧ m.row = row := by
  obtain ⟨-, def', -, drawn⟩ := mark?_eq_some_iff.1 drawn
  obtain ⟨symbol, -, rfl⟩ := Option.map_eq_some_iff.1 drawn
  exact ⟨rfl, rfl⟩

end TileMap

variable [Scalar K]

namespace World

variable {w : World K} {view : CellRect} {col row : Int} {d : Drawer} {symbol : Char}
  {label : String}

/-- In a cell, a drawer draws a symbol, which stands for a label. -/
inductive Draws (w : World K) (col row : Int) : Drawer → Char → String → Prop
  | tile {m : TileMap K} {def' : TileDef} {symbol : Char} {label : String}
    (map : w.scene.map = some m) (there : m.tileAt col row ≠ 0)
    (defined : m.defs.get? (m.tileAt col row) = some def')
    (drawn : def'.mark? (m.tileAt col row) col row = some ⟨col, row, symbol, label⟩) :
    Draws w col row (.tile col row) symbol label
  | actor {a : Actor K} {place : Nat} {symbol : Char} (stands : w.actors[place]? = some a)
    (active : a.active = true) (col_eq : w.scene.cellOf a.x = col)
    (row_eq : w.scene.cellOf a.y = row) (drawn : w.scene.symbolOf a = some symbol) :
    Draws w col row (.actor a.layer place) symbol a.type

/-- What is seen of a cell: of the actors that draw there the one with the greatest layer and place;
without one the tile, and without a tile the ground. -/
inductive Shows (w : World K) (col row : Int) : Char → Prop
  | actor {layer : Int} {place : Nat} {symbol : Char} {label : String}
    (draws : w.Draws col row (.actor layer place) symbol label)
    (top : ∀ layer' place' symbol' label',
      w.Draws col row (.actor layer' place') symbol' label' →
        layer' < layer ∨ layer' = layer ∧ place' ≤ place) : Shows w col row symbol
  | tile {symbol : Char} {label : String}
    (bare : ∀ layer place symbol' label', ¬w.Draws col row (.actor layer place) symbol' label')
    (draws : w.Draws col row (.tile col row) symbol label) : Shows w col row symbol
  | ground (bare : ∀ d symbol label, ¬w.Draws col row d symbol label) :
    Shows w col row w.scene.symbolic.empty

/-- A drawer draws a symbol in a cell of a view. -/
def DrawsIn (w : World K) (view : CellRect) (d : Drawer) (symbol : Char) (label : String) : Prop :=
  ∃ col row, view.contains col row = true ∧ w.Draws col row d symbol label

/-- A drawer is the first to draw a symbol in a view. -/
def FirstIn (w : World K) (view : CellRect) (d : Drawer) (symbol : Char) (label : String) : Prop :=
  w.DrawsIn view d symbol label ∧
    ∀ d' label', w.DrawsIn view d' symbol label' → d' = d ∨ d.Before d'

/-- A legend has one entry for each symbol that is drawn in a view, also where it is covered, in the
order in which they are first drawn. It labels each by its first drawer. -/
structure Explains (w : World K) (view : CellRect) (legend : List (Char × String)) : Prop where
  distinct : (legend.map Prod.fst).Nodup
  complete : ∀ symbol, symbol ∈ legend.map Prod.fst ↔ ∃ d label, w.DrawsIn view d symbol label
  first : ∀ entry ∈ legend, ∃ d, w.FirstIn view d entry.1 entry.2
  ordered : legend.Pairwise fun entry entry' =>
    ∀ d d', w.FirstIn view d entry.1 entry.2 → w.FirstIn view d' entry'.1 entry'.2 → d.Before d'

/-! ### The order of drawing -/

theorem pairwise_places {α : Type} (l : List α) : l.zipIdx.Pairwise fun a b => a.2 < b.2 := by
  refine List.pairwise_map.1 ?_
  rw [List.zipIdx_map_snd]
  exact List.pairwise_lt_range'

/-- Sorting keeps the order of what is alike. -/
theorem pairwise_sorted {α : Type} (key : α → Int) {l : List (α × Nat)}
    (places : l.Pairwise fun a b => a.2 < b.2) :
    (l.mergeSort fun a b => key a.1 ≤ key b.1).Pairwise fun a b =>
      key a.1 < key b.1 ∨ key a.1 = key b.1 ∧ a.2 < b.2 := by
  let le (a b : α × Nat) : Bool := key a.1 ≤ key b.1
  have trans : ∀ a b c, le a b → le b c → le a c := by
    simp only [le, decide_eq_true_eq]
    omega
  have total : ∀ a b, le a b || le b a := by
    simp only [le, Bool.or_eq_true, decide_eq_true_eq]
    omega
  have sorted := List.pairwise_mergeSort (List.zipIdxLE_trans trans) (List.zipIdxLE_total total)
    l.zipIdx
  have distinct : (l.zipIdx.mergeSort (List.zipIdxLE le)).Nodup :=
    (List.mergeSort_perm _ _).nodup_iff.2
      ((pairwise_places l).imp fun {a b} lt same => absurd (same ▸ lt) (Nat.lt_irrefl a.2))
  show (l.mergeSort le).Pairwise _
  rw [← List.mergeSort_zipIdx, List.pairwise_map]
  refine (sorted.and distinct).imp_of_mem ?_
  rintro ⟨a, i⟩ ⟨b, j⟩ mem mem' ⟨before, ne⟩
  obtain ⟨lt, rfl⟩ :=
    List.getElem?_eq_some_iff.1 (List.mk_mem_zipIdx_iff_getElem?.1 (List.mem_mergeSort.1 mem))
  obtain ⟨lt', rfl⟩ :=
    List.getElem?_eq_some_iff.1 (List.mk_mem_zipIdx_iff_getElem?.1 (List.mem_mergeSort.1 mem'))
  simp only [List.zipIdxLE, le, decide_eq_true_eq, Bool.if_false_right, Bool.and_eq_true,
    Bool.if_true_right, Bool.or_eq_true, Bool.not_eq_true', decide_eq_false_iff_not] at before
  dsimp only
  rcases before with ⟨first, above | place⟩
  · exact .inl (by omega)
  · by_cases same : i = j
    · subst same
      exact absurd rfl ne
    · have := List.pairwise_iff_getElem.1 places i j lt lt' (by omega)
      omega

/-- The tiles of a view with their marks. -/
def tileDrawings (w : World K) (view : CellRect) : List (Drawer × Mark) :=
  (w.tileMarks view).map fun m => (.tile m.col m.row, m)

/-- The active actors with their places, by layer. -/
def ranked (w : World K) : List (Actor K × Nat) :=
  (w.actors.zipIdx.filter (·.1.active)).mergeSort fun a b => a.1.layer ≤ b.1.layer

/-- The active actors with their marks. -/
def actorDrawings (w : World K) : List (Drawer × Mark) :=
  w.ranked.filterMap fun (a, place) => (w.scene.symbolOf a).map fun symbol =>
    (.actor a.layer place, ⟨w.scene.cellOf a.x, w.scene.cellOf a.y, symbol, a.type⟩)

omit [Scalar K] in
theorem map_ranked (w : World K) :
    w.ranked.map Prod.fst = w.shown.mergeSort fun a b => a.layer ≤ b.layer := by
  rw [ranked, List.map_mergeSort (s := fun a b : Actor K => decide (a.layer ≤ b.layer))
    fun _ _ _ _ => rfl, shown]
  congr 1
  conv_rhs => rw [← List.zipIdx_map_fst 0 w.actors, List.filter_map]
  rfl

omit [Scalar K] in
theorem tileMarks_eq (w : World K) (view : CellRect) : w.tileMarks view =
    w.scene.map.elim [] fun map => view.lines.flatMap fun row =>
      view.columns.filterMap fun col => map.mark? col row := by
  unfold tileMarks
  cases w.scene.map <;> rfl

omit [Scalar K] in
theorem mem_tileMarks {m : Mark} : m ∈ w.tileMarks view ↔ view.contains m.col m.row = true ∧
    ∃ map, w.scene.map = some map ∧ map.mark? m.col m.row = some m := by
  rw [tileMarks_eq]
  cases w.scene.map with
  | none => simp
  | some map =>
    simp only [Option.elim_some, List.mem_flatMap, List.mem_filterMap, CellRect.mem_lines,
      CellRect.mem_columns, CellRect.contains_iff, Option.some.injEq, exists_eq_left']
    constructor
    · rintro ⟨row, line, col, column, drawn⟩
      obtain ⟨rfl, rfl⟩ := TileMap.place_of_mark? drawn
      exact ⟨⟨column.1, line.1, column.2, line.2⟩, drawn⟩
    · rintro ⟨⟨left, top, right, bottom⟩, drawn⟩
      exact ⟨m.row, ⟨top, bottom⟩, m.col, ⟨left, right⟩, drawn⟩

/-- The tiles of a view draw their marks. -/
theorem mem_tileDrawings {m : Mark} : (d, m) ∈ w.tileDrawings view ↔
    view.contains m.col m.row = true ∧ (∃ col row, d = .tile col row) ∧
      w.Draws m.col m.row d m.symbol m.label := by
  simp only [tileDrawings, List.mem_map, Prod.mk.injEq, mem_tileMarks]
  constructor
  · rintro ⟨m, ⟨inside, map, found, drawn⟩, rfl, rfl⟩
    obtain ⟨there, def', defined, drawn⟩ := TileMap.mark?_eq_some_iff.1 drawn
    exact ⟨inside, ⟨_, _, rfl⟩, .tile found there defined drawn⟩
  · rintro ⟨inside, ⟨col, row, rfl⟩, draws⟩
    cases draws with
    | tile found there defined drawn =>
      have drawn := TileMap.mark?_eq_some_iff.2 ⟨there, _, defined, drawn⟩
      exact ⟨m, ⟨inside, _, found, drawn⟩, rfl, rfl⟩

theorem mem_actorDrawings {m : Mark} : (d, m) ∈ w.actorDrawings ↔
    (∃ layer place, d = .actor layer place) ∧ w.Draws m.col m.row d m.symbol m.label := by
  simp only [actorDrawings, ranked, List.mem_filterMap, List.mem_mergeSort, List.mem_filter,
    Prod.exists, List.mk_mem_zipIdx_iff_getElem?, Option.map_eq_some_iff]
  constructor
  · rintro ⟨a, place, ⟨stands, active⟩, symbol, drawn, same⟩
    cases same
    exact ⟨⟨_, _, rfl⟩, .actor stands active rfl rfl drawn⟩
  · rintro ⟨⟨layer, place, rfl⟩, draws⟩
    obtain ⟨col, row, symbol, label⟩ := m
    cases draws with
    | actor stands active col_eq row_eq drawn =>
      subst col_eq row_eq
      exact ⟨_, place, ⟨stands, active⟩, symbol, drawn, rfl⟩

omit [Scalar K] in
theorem pairwise_tileDrawings (w : World K) (view : CellRect) :
    (w.tileDrawings view).Pairwise fun e e' => e.1.Before e'.1 := by
  refine List.pairwise_map.2 ?_
  rw [tileMarks_eq]
  cases w.scene.map with
  | none => exact .nil
  | some map =>
    refine List.pairwise_flatMap.2 ⟨fun row _ => List.pairwise_filterMap.2 ?_, ?_⟩
    · refine view.pairwise_columns.imp fun {col col'} lt m drawn m' drawn' => ?_
      obtain ⟨rfl, same⟩ := TileMap.place_of_mark? drawn
      obtain ⟨rfl, same'⟩ := TileMap.place_of_mark? drawn'
      exact .inr ⟨same.trans same'.symm, lt⟩
    · refine view.pairwise_lines.imp fun {row row'} lt m mem m' mem' => ?_
      obtain ⟨col, -, drawn⟩ := List.mem_filterMap.1 mem
      obtain ⟨col', -, drawn'⟩ := List.mem_filterMap.1 mem'
      obtain ⟨-, rfl⟩ := TileMap.place_of_mark? drawn
      obtain ⟨-, rfl⟩ := TileMap.place_of_mark? drawn'
      exact .inl lt

theorem pairwise_actorDrawings (w : World K) :
    w.actorDrawings.Pairwise fun e e' => e.1.Before e'.1 := by
  refine List.pairwise_filterMap.2 ?_
  refine (pairwise_sorted Actor.layer ((pairwise_places w.actors).filter _)).imp ?_
  rintro ⟨a, place⟩ ⟨b, place'⟩ before e drawn e' drawn'
  obtain ⟨symbol, -, rfl⟩ := Option.map_eq_some_iff.1 drawn
  obtain ⟨symbol', -, rfl⟩ := Option.map_eq_some_iff.1 drawn'
  exact before

/-- All drawers inside a view with their marks, in the order of drawing. -/
def drawn (w : World K) (view : CellRect) : List (Drawer × Mark) :=
  (w.tileDrawings view ++ w.actorDrawings).filter fun e => view.contains e.2.col e.2.row

/-- Their marks are what is painted. -/
theorem map_drawn (w : World K) (view : CellRect) : (w.drawn view).map Prod.snd =
    (w.tileMarks view ++ w.actorMarks).filter fun m => view.contains m.col m.row := by
  have tiles : (w.tileDrawings view).map Prod.snd = w.tileMarks view := by
    rw [tileDrawings, List.map_map]
    exact List.map_id'' (fun _ => rfl) _
  have actors : w.actorDrawings.map Prod.snd = w.actorMarks := by
    rw [actorMarks, ← map_ranked, List.filterMap_map, actorDrawings, List.map_filterMap]
    simp only [Option.map_map]
    rfl
  rw [← tiles, ← actors, ← List.map_append, List.filter_map]
  rfl

theorem mem_drawn {m : Mark} : (d, m) ∈ w.drawn view ↔
    view.contains m.col m.row = true ∧ w.Draws m.col m.row d m.symbol m.label := by
  simp only [drawn, List.mem_filter, List.mem_append, mem_tileDrawings, mem_actorDrawings]
  cases d <;> simp [and_comm]

theorem pairwise_drawn (w : World K) (view : CellRect) :
    (w.drawn view).Pairwise fun e e' => e.1.Before e'.1 := by
  refine (List.pairwise_append.2
    ⟨pairwise_tileDrawings w view, pairwise_actorDrawings w, ?_⟩).filter _
  rintro ⟨d, m⟩ mem ⟨d', m'⟩ mem'
  obtain ⟨-, ⟨col, row, rfl⟩, -⟩ := mem_tileDrawings.1 mem
  obtain ⟨⟨layer, place, rfl⟩, -⟩ := mem_actorDrawings.1 mem'
  trivial

theorem drawsIn_iff : w.DrawsIn view d symbol label ↔
    ∃ m, (d, m) ∈ w.drawn view ∧ m.symbol = symbol ∧ m.label = label := by
  constructor
  · rintro ⟨col, row, inside, draws⟩
    exact ⟨⟨col, row, symbol, label⟩, mem_drawn.2 ⟨inside, draws⟩, rfl, rfl⟩
  · rintro ⟨m, mem, rfl, rfl⟩
    obtain ⟨inside, draws⟩ := mem_drawn.1 mem
    exact ⟨m.col, m.row, inside, draws⟩

/-! ### What is seen -/

/-- What a drawer draws in a cell is determined. -/
theorem Draws.unique {symbol' : Char} {label' : String} (draws : w.Draws col row d symbol label)
    (draws' : w.Draws col row d symbol' label') : symbol = symbol' := by
  cases draws with
  | tile map there defined drawn =>
    cases draws' with
    | tile map' there' defined' drawn' =>
      obtain rfl := Option.some.inj (map.symm.trans map')
      obtain rfl := Option.some.inj (defined.symm.trans defined')
      exact congrArg Mark.symbol (Option.some.inj (drawn.symm.trans drawn'))
  | actor stands active col_eq row_eq drawn =>
    generalize layer : Actor.layer _ = z at draws'
    cases draws' with
    | actor stands' active' col_eq' row_eq' drawn' =>
      obtain rfl := Option.some.inj (stands.symm.trans stands')
      exact Option.some.inj (drawn.symm.trans drawn')

/-- A cell shows one symbol only. -/
theorem Shows.unique {symbol' : Char} (seen : w.Shows col row symbol)
    (seen' : w.Shows col row symbol') : symbol = symbol' := by
  cases seen with
  | @actor layer place _ _ draws top =>
    cases seen' with
    | @actor layer' place' _ _ draws' top' =>
      have above := top _ _ _ _ draws'
      have below := top' _ _ _ _ draws
      obtain rfl : layer = layer' := by omega
      obtain rfl : place = place' := by omega
      exact draws.unique draws'
    | tile bare => exact absurd draws (bare _ _ _ _)
    | ground bare => exact absurd draws (bare _ _ _)
  | tile bare draws =>
    cases seen' with
    | actor draws' => exact absurd draws' (bare _ _ _ _)
    | tile _ draws' => exact draws.unique draws'
    | ground bare' => exact absurd draws (bare' _ _ _)
  | ground bare =>
    cases seen' with
    | actor draws' => exact absurd draws' (bare _ _ _)
    | tile _ draws' => exact absurd draws' (bare _ _ _)
    | ground => rfl

/-- The last element of an ordered list that passes a test comes after all others that do. -/
theorem last_of_pairwise {α : Type} {R : α → α → Prop} {l : List α} {p : α → Bool} {a : α}
    (sorted : l.Pairwise R) (found : l.reverse.find? p = some a) :
    a ∈ l ∧ p a = true ∧ ∀ b ∈ l, p b = true → b = a ∨ R b a := by
  obtain ⟨holds, after, before, split, none⟩ := List.find?_eq_some_iff_append.1 found
  rw [← List.pairwise_reverse, split, List.pairwise_append, List.pairwise_cons] at sorted
  refine ⟨List.mem_reverse.1 (List.mem_of_find?_eq_some found), holds, fun b mem passes => ?_⟩
  rw [← List.mem_reverse, split, List.mem_append, List.mem_cons] at mem
  rcases mem with later | rfl | earlier
  · have := none b later
    simp [passes] at this
  · exact .inl rfl
  · exact .inr (sorted.2.1.1 b earlier)

/-- The last mark in a cell shows there. -/
theorem shows_last (inside : view.contains col row = true) : w.Shows col row
    ((((w.drawn view).reverse.find? (·.2.isAt col row)).map (·.2.symbol)).getD
      w.scene.symbolic.empty) := by
  have here {d : Drawer} {symbol : Char} {label : String} (draws : w.Draws col row d symbol label) :
      (d, ⟨col, row, symbol, label⟩) ∈ w.drawn view := mem_drawn.2 ⟨inside, draws⟩
  have isAt (symbol : Char) (label : String) :
      Mark.isAt ⟨col, row, symbol, label⟩ col row = true := by
    simp [Mark.isAt]
  cases found : (w.drawn view).reverse.find? (·.2.isAt col row) with
  | none =>
    refine .ground fun d symbol label draws => ?_
    have := List.find?_eq_none.1 found _ (List.mem_reverse.2 (here draws))
    exact this (isAt symbol label)
  | some e =>
    obtain ⟨d, m⟩ := e
    obtain ⟨mem, at', last⟩ := last_of_pairwise (pairwise_drawn w view) found
    obtain ⟨-, draws⟩ := mem_drawn.1 mem
    simp only [Mark.isAt, Bool.and_eq_true, beq_iff_eq] at at'
    rw [at'.1, at'.2] at draws
    cases d with
    | tile col' row' =>
      cases draws with
      | tile map there defined drawn =>
        refine .tile (fun layer place symbol' label' draws' => ?_) (.tile map there defined drawn)
        rcases last _ (here draws') (isAt symbol' label') with same | before
        · cases same
        · exact before
    | actor layer place =>
      refine .actor draws fun layer' place' symbol' label' draws' => ?_
      rcases last _ (here draws') (isAt symbol' label') with same | before
      · cases same
        exact .inr ⟨rfl, Nat.le_refl _⟩
      · rcases before with lt | ⟨same, lt⟩
        · exact .inl lt
        · exact .inr ⟨same, Nat.le_of_lt lt⟩

/-! ### The legend -/

/-- There is one first drawer of a symbol. -/
theorem FirstIn.unique {d' : Drawer} {label' : String} (first : w.FirstIn view d symbol label)
    (first' : w.FirstIn view d' symbol label') : d = d' := by
  rcases first.2 d' label' first'.1 with same | before
  · exact same.symm
  · rcases first'.2 d label first.1 with same | before'
    · exact same
    · exact absurd before' before.asymm

/-- The legend of what is drawn explains it. -/
theorem explains_notes (w : World K) (view : CellRect) :
    w.Explains view (((w.drawn view).map Prod.snd).foldl Picture.note []) := by
  obtain ⟨firsts, sub, legend, distinct, first⟩ :=
    Picture.exists_firsts Prod.snd (pairwise_drawn w view)
  have firstIn : ∀ e ∈ firsts, w.FirstIn view e.1 e.2.symbol e.2.label := by
    intro e mem
    refine ⟨drawsIn_iff.2 ⟨e.2, sub.subset mem, rfl, rfl⟩, fun d' label' draws => ?_⟩
    obtain ⟨m, mem', same, -⟩ := drawsIn_iff.1 draws
    obtain ⟨b, there, same', before⟩ := first (d', m) mem'
    obtain rfl := List.inj_on_of_nodup_map distinct there mem (same'.trans same)
    rcases before with rfl | before
    · exact .inl rfl
    · exact .inr before
  rw [legend]
  constructor
  case distinct =>
    rw [List.map_map]
    exact distinct
  case complete =>
    intro symbol
    rw [List.map_map]
    constructor
    · intro mem
      obtain ⟨e, there, rfl⟩ := List.mem_map.1 mem
      exact ⟨e.1, e.2.label, (firstIn e there).1⟩
    · rintro ⟨d, label, draws⟩
      obtain ⟨m, mem, rfl, -⟩ := drawsIn_iff.1 draws
      obtain ⟨b, there, same, -⟩ := first (d, m) mem
      exact List.mem_map.2 ⟨b, there, same⟩
  case first =>
    intro entry mem
    obtain ⟨e, there, rfl⟩ := List.mem_map.1 mem
    exact ⟨e.1, firstIn e there⟩
  case ordered =>
    refine List.pairwise_map.2 (((pairwise_drawn w view).sublist sub).imp_of_mem ?_)
    intro e e' mem mem' before d d' first first'
    obtain rfl := first.unique (firstIn e mem)
    obtain rfl := first'.unique (firstIn e' mem')
    exact before

end World

end Playfield
