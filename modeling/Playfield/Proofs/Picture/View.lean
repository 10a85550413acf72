import Playfield.Proofs.Picture.Marks
import Playfield.Proofs.World.Index

/-!
# What a camera shows

A view is a window of the cells there are to see. It is moved as little as is needed to lie inside
them, so that it holds the cell that it was centred on.

* `CellRect.fitStart_mem`: a window starts and ends inside its range.
  `fitStart_holds`: it holds the cell it was put around.
* `World.Between`, `Covered`, `InBounds`: the cells there are to see. `contains_bounds_iff`: the
  bounds of a world have just these.
* `World.Central`: cell numbers are far from the ends of the range of words. `counted_bounds`: then
  so are the bounds.
* `view_within`: a view lies inside the bounds. `view_holds`: it holds the cell of an actor that is
  followed. `view_stays_and_follows` puts it together.
-/

namespace Playfield

namespace Word

theorem clamp_cases (n : Int) : n < least ∧ clamp n = least ∨
    (least ≤ n ∧ n ≤ greatest) ∧ clamp n = n ∨ greatest < n ∧ clamp n = greatest := by
  unfold clamp least greatest
  omega

theorem signed_cases (n : Nat) : n ≤ greatest ∧ signed n = n ∨
    greatest < n ∧ (n ≤ greatestUnsigned → signed n = n - 0x10000000000000000) := by
  unfold signed
  split <;> omega

theorem signed_eq_self {n : Nat} (few : n ≤ greatest) : signed n = n := if_neg (by omega)

/-- The number is far from the ends of the range of words. -/
def Central (n : Int) : Prop := -0x4000000000000000 ≤ n ∧ n ≤ 0x4000000000000000

end Word

namespace CellRect

/-- The rectangle lies inside another one. -/
def Within (r b : CellRect) : Prop :=
  (b.col ≤ r.col ∧ r.col + r.cols ≤ b.col + b.cols) ∧
    b.row ≤ r.row ∧ r.row + r.rows ≤ b.row + b.rows

variable {start lo cell : Int} {length span : Nat}

/-- The ends of a range are words, and so is its length. -/
def Counted (lo : Int) (span : Nat) : Prop :=
  Word.least ≤ lo ∧ span ≤ Word.greatest ∧ lo + span ≤ Word.greatest

/-- A window starts and ends inside its range, also inside that of a map with more columns or rows
than signed words. -/
theorem fitStart_mem (fits : length ≤ span)
    (counted : Counted lo span ∨ lo = 0 ∧ span ≤ Word.greatestUnsigned) :
    lo ≤ fitStart start length lo span ∧ fitStart start length lo span + length ≤ lo + span := by
  have span_signed := Word.signed_cases span
  have length_signed := Word.signed_cases length
  have last := Word.clamp_cases (lo + Word.signed span)
  have latest := Word.clamp_cases (Word.clamp (lo + Word.signed span) - Word.signed length)
  simp only [Counted, fitStart, Word.least, Word.greatest, Word.greatestUnsigned] at *
  omega

/-- A window that is put around a cell of its range holds it. -/
theorem fitStart_holds (fits : length ≤ span) (some : 0 < length) (counted : Counted lo span)
    (after : lo ≤ cell) (before : cell < lo + span) :
    let first := fitStart (Word.clamp (cell - (length / 2 : Nat))) length lo span
    first ≤ cell ∧ cell < first + length := by
  obtain ⟨low, few, high⟩ := counted
  have last : Word.clamp (lo + span) = lo + span := Word.clamp_eq_self (by omega) high
  have latest : Word.clamp (lo + span - length) = lo + span - length :=
    Word.clamp_eq_self (by omega) (by omega)
  have wanted := Word.clamp_cases (cell - (length / 2 : Nat))
  rw [fitStart, Word.signed_eq_self few, Word.signed_eq_self (by omega), last, latest]
  omega

end CellRect

namespace World

variable {K : Type}

/-! ### The cells there are to see -/

/-- Along an axis, a cell lies between those of two active actors, and in the world if that has a
last cell. -/
def Between (w : World K) (cellOf : Actor K → Int) (last? : Option Int) (n : Int) : Prop :=
  (∃ a ∈ w.shown, cellOf a ≤ n) ∧ (∃ b ∈ w.shown, n ≤ cellOf b) ∧
    ∀ last, last? = some last → 0 ≤ n ∧ n ≤ last

/-- A cell lies between actors, and so near to the first one that does as the greatest extent
allows. -/
def Covered (w : World K) (cellOf : Actor K → Int) (last? : Option Int) (n : Int) : Prop :=
  w.Between cellOf last? n ∧ ∀ m, w.Between cellOf last? m → n < m + CellRect.maxExtent

variable {w : World K} {cellOf : Actor K → Int} {last? : Option Int} {n first : Int}
  {others : List Int}

theorem foldl_min_le_iff : others.foldl min first ≤ n ↔ first ≤ n ∨ ∃ m ∈ others, m ≤ n := by
  induction others generalizing first with
  | nil => simp
  | cons m rest ih =>
    rw [List.foldl_cons, ih, List.exists_mem_cons_iff, ← or_assoc]
    exact or_congr_left (by omega)

theorem le_foldl_max_iff : n ≤ others.foldl max first ↔ n ≤ first ∨ ∃ m ∈ others, n ≤ m := by
  induction others generalizing first with
  | nil => simp
  | cons m rest ih =>
    rw [List.foldl_cons, ih, List.exists_mem_cons_iff, ← or_assoc]
    exact or_congr_left (by omega)

/-- The cells from the least to the greatest are those between two of them. -/
theorem mem_spread_iff : (spread first others last?).1 ≤ n ∧ n ≤ (spread first others last?).2 ↔
    (first ≤ n ∨ ∃ m ∈ others, m ≤ n) ∧ (n ≤ first ∨ ∃ m ∈ others, n ≤ m) ∧
      ∀ last, last? = some last → 0 ≤ n ∧ n ≤ last := by
  rw [← foldl_min_le_iff, ← le_foldl_max_iff]
  cases last? with
  | none => simp [spread]
  | some last =>
    simp only [spread, Option.some.injEq, forall_eq']
    omega

theorem Between.central (between : w.Between cellOf last? n)
    (central : ∀ a ∈ w.shown, Word.Central (cellOf a)) : Word.Central n := by
  obtain ⟨⟨a, mem, low⟩, ⟨b, mem', high⟩, -⟩ := between
  exact ⟨Int.le_trans (central a mem).1 low, Int.le_trans high (central b mem').2⟩

theorem between_iff {a : Actor K} {rest : List (Actor K)} (shown : w.shown = a :: rest) :
    w.Between cellOf last? n ↔ (spread (cellOf a) (rest.map cellOf) last?).1 ≤ n ∧
      n ≤ (spread (cellOf a) (rest.map cellOf) last?).2 := by
  rw [mem_spread_iff, Between, shown]
  simp

/-- What is covered is counted from the first cell on. -/
theorem covered_iff {lo hi : Int} (between : ∀ n, w.Between cellOf last? n ↔ lo ≤ n ∧ n ≤ hi) :
    w.Covered cellOf last? n ↔ lo ≤ n ∧ n < lo + CellRect.extent lo hi := by
  simp only [Covered, between, CellRect.extent, CellRect.maxExtent]
  constructor
  · rintro ⟨mem, near⟩
    have := near lo ⟨by omega, by omega⟩
    omega
  · intro mem
    exact ⟨by omega, fun m mem' => by omega⟩

variable [Scalar K]

/-- A cell is there to see: one of the map, or where there is no map, one that the active actors
cover. -/
def InBounds (w : World K) (col row : Int) : Prop :=
  match w.scene.map with
  | some m => (0 ≤ col ∧ col < m.width) ∧ 0 ≤ row ∧ row < m.height
  | none =>
    w.Covered (fun a => w.scene.cellOf a.x)
      (w.scene.worldSize.map fun size => w.scene.lastCellOf size.1) col ∧
    w.Covered (fun a => w.scene.cellOf a.y)
      (w.scene.worldSize.map fun size => w.scene.lastCellOf size.2) row

variable {col row : Int} {camera : Option (Camera K)}

/-- The bounds have the cells there are to see. -/
theorem contains_bounds_iff : w.bounds.contains col row = true ↔ w.InBounds col row := by
  rw [CellRect.contains_iff]
  unfold bounds InBounds
  cases w.scene.map with
  | some m =>
    dsimp only
    omega
  | none =>
    dsimp only
    cases shown : w.shown with
    | nil =>
      simp only [Covered, Between, shown, CellRect.empty, List.not_mem_nil, false_and, exists_false,
        iff_false]
      omega
    | cons a rest =>
      rw [covered_iff fun _ => between_iff shown, covered_iff fun _ => between_iff shown]
      dsimp only
      split
      · rename_i gap
        simp only [CellRect.empty, CellRect.extent]
        omega
      · dsimp only
        omega

/-! ### The view -/

/-- The cells of the active actors and of the map are far from the ends of the range of words. -/
structure Central (w : World K) : Prop where
  actors : ∀ a ∈ w.shown, Word.Central (w.scene.cellOf a.x) ∧ Word.Central (w.scene.cellOf a.y)
  grid : ∀ m, w.scene.map = some m → ∀ col row : Nat, col < m.width → row < m.height →
    Word.Central col ∧ Word.Central row
  counts : ∀ m, w.scene.map = some m →
    m.width ≤ Word.greatestUnsigned ∧ m.height ≤ Word.greatestUnsigned

theorem InBounds.central (central : w.Central) (inside : w.InBounds col row) :
    Word.Central col ∧ Word.Central row := by
  unfold InBounds at inside
  split at inside
  · rename_i m map
    obtain ⟨⟨left, right⟩, top, bottom⟩ := inside
    have near := central.grid m map col.toNat row.toNat (by omega) (by omega)
    rwa [Int.toNat_of_nonneg left, Int.toNat_of_nonneg top] at near
  · exact ⟨inside.1.1.central fun a mem => (central.actors a mem).1,
      inside.2.1.central fun a mem => (central.actors a mem).2⟩

/-- Along an axis the bounds start at zero, or do not go beyond the greatest extent. -/
theorem bounds_start (w : World K) :
    (w.bounds.col = 0 ∨ w.bounds.cols ≤ CellRect.maxExtent) ∧
      (w.bounds.row = 0 ∨ w.bounds.rows ≤ CellRect.maxExtent) := by
  unfold bounds
  split
  · exact ⟨.inl rfl, .inl rfl⟩
  · split
    · exact ⟨.inl rfl, .inl rfl⟩
    · dsimp only
      split
      · exact ⟨.inl rfl, .inl rfl⟩
      · exact ⟨.inr (Nat.min_le_right ..), .inr (Nat.min_le_right ..)⟩

/-- If there is a cell to see, the bounds are counted in words. -/
theorem counted_bounds (central : w.Central) (cols : 0 < w.bounds.cols) (rows : 0 < w.bounds.rows) :
    CellRect.Counted w.bounds.col w.bounds.cols ∧ CellRect.Counted w.bounds.row w.bounds.rows := by
  have inside {col row : Int} (mem : w.bounds.contains col row = true) :=
    (contains_bounds_iff.1 mem).central central
  have first := inside (CellRect.contains_iff.2 ⟨Int.le_refl w.bounds.col, Int.le_refl w.bounds.row,
    by omega, by omega⟩)
  have last := @inside (w.bounds.col + w.bounds.cols - 1) (w.bounds.row + w.bounds.rows - 1)
    (CellRect.contains_iff.2 (by omega))
  have start := bounds_start w
  simp only [Word.Central, CellRect.maxExtent, CellRect.Counted, Word.least, Word.greatest] at *
  omega

/-- If there is none, they start at zero. -/
theorem bounds_of_none (central : w.Central) (none : ¬(0 < w.bounds.cols ∧ 0 < w.bounds.rows)) :
    (w.bounds.col = 0 ∧ w.bounds.cols ≤ Word.greatestUnsigned) ∧
      w.bounds.row = 0 ∧ w.bounds.rows ≤ Word.greatestUnsigned := by
  revert none
  unfold bounds
  cases map : w.scene.map with
  | some m => exact fun _ => ⟨⟨rfl, (central.counts m map).1⟩, rfl, (central.counts m map).2⟩
  | none =>
    cases w.shown with
    | nil => exact fun _ => ⟨⟨rfl, Nat.zero_le _⟩, rfl, Nat.zero_le _⟩
    | cons a rest =>
      dsimp only
      split
      · exact fun _ => ⟨⟨rfl, Nat.zero_le _⟩, rfl, Nat.zero_le _⟩
      · simp only [CellRect.extent, CellRect.maxExtent]
        omega

theorem bounds_counted_or_zero (central : w.Central) :
    (CellRect.Counted w.bounds.col w.bounds.cols ∨
      w.bounds.col = 0 ∧ w.bounds.cols ≤ Word.greatestUnsigned) ∧
    (CellRect.Counted w.bounds.row w.bounds.rows ∨
      w.bounds.row = 0 ∧ w.bounds.rows ≤ Word.greatestUnsigned) := by
  by_cases some : 0 < w.bounds.cols ∧ 0 < w.bounds.rows
  · exact (counted_bounds central some.1 some.2).imp .inl .inl
  · exact (bounds_of_none central some).imp .inr .inr

/-- A view lies inside the bounds. -/
theorem view_within (central : w.Central) (camera : Option (Camera K)) :
    (w.view camera).Within w.bounds := by
  obtain ⟨columns, lines⟩ := bounds_counted_or_zero central
  exact ⟨CellRect.fitStart_mem (Nat.min_le_right ..) columns,
    CellRect.fitStart_mem (Nat.min_le_right ..) lines⟩

/-- A view that is not empty holds the cell of the actor that its camera follows, if that is in the
bounds. -/
theorem view_holds {c : Camera K} {uid : String} {a : Actor K} (central : w.Central)
    (follows : c.follow = some uid) (found : w.actor? uid = some a)
    (cols : 0 < (w.view (some c)).cols) (rows : 0 < (w.view (some c)).rows)
    (inside : w.bounds.contains (w.scene.cellOf a.x) (w.scene.cellOf a.y) = true) :
    (w.view (some c)).contains (w.scene.cellOf a.x) (w.scene.cellOf a.y) = true := by
  obtain ⟨left, top, right, bottom⟩ := CellRect.contains_iff.1 inside
  obtain ⟨columns, lines⟩ := counted_bounds central (by omega) (by omega)
  have centre : (some c).bind w.centre? = some (a.x, a.y) := by simp [centre?, follows, found]
  have across := CellRect.fitStart_holds (Nat.min_le_right ..) cols columns left right
  have down := CellRect.fitStart_holds (Nat.min_le_right ..) rows lines top bottom
  rw [CellRect.contains_iff]
  unfold view
  rw [centre]
  exact ⟨across.1, down.1, across.2, down.2⟩

end World

namespace Lookout

/-- An actor in the last column of a map. -/
def scout : Actor Rat :=
  { uid := "scout", type := "scout", x := 150, y := 20, width := 16, height := 16, layer := 0
    active := true, blockMask := none, vx := 0, vy := 0, parent := none, sprite := none
    physics := {}, fields := ∅ }

/-- A map of ten columns and eight rows, of which five and four are shown. -/
def world : World Rat :=
  { scene := { (.default : Scene Rat) with
      map := some {
        width := 10, height := 8, tileSize := 16, defs := ∅
        tiles := Array.replicate 8 (Array.replicate 10 0) }
      symbolic := { crop := some ⟨5, 4⟩ } }
    actors := [scout], index := positions ["scout"], globals := ∅, roles := ∅
    gravityEnabled := true }

/-- The camera that follows the actor. -/
def camera : Camera Rat :=
  { id := "main", follow := some "scout", x := none, y := none, width := none, height := none }

end Lookout

end Playfield
