import Playfield.Proofs.Body.Sweep

/-!
# Where a body stops

A step along an axis moves a body to its destination, which lies in front of the first wall and of
the first body that stands in the way.

* `exists_of_stationaryStop?`: a body is stopped by one that it meets.
* `destination_cases`, `reach_cases`: how far a body and its leading face come.
* `not_entered_reach`: the face enters no wall that was ahead of it. If it had entered a wall
  before, it goes back by the gap and the inset at most (`along_reach_le`).
* `clear_stepAxis`: a body that is clear of the tiles stays so, if it has room where it is set back.
  Without such room it may be set back into a tile (`crate_is_set_back`).
-/

namespace Playfield

namespace Body

/-! ### Stops at other bodies -/

section Stops

variable {K : Type} [Scalar K] {b : Body K} {others : List (Body K)} {axis : Axis} {delta c : K}

theorem earlier_eq (delta : K) (best : Option K) (c : K) :
    earlier delta best c = c ∨ best = some (earlier delta best c) := by
  unfold earlier
  split
  · split
    · exact .inr rfl
    · exact .inl rfl
  · exact .inl rfl

theorem exists_of_foldl_earlier {f : Body K → Option K} {l : List (Body K)} {best : Option K}
    (stop : l.foldl (fun best other =>
      match f other with
      | some c => some (earlier delta best c)
      | none => best) best = some c) :
    best = some c ∨ ∃ other ∈ l, f other = some c := by
  induction l generalizing best with
  | nil => exact .inl stop
  | cons o rest ih =>
    rw [List.foldl_cons] at stop
    rcases ih stop with kept | ⟨other, mem, met⟩
    · split at kept
      · rename_i c' met
        cases kept
        rcases earlier_eq delta best c' with new | old
        · exact .inr ⟨o, List.mem_cons_self, met.trans (congrArg some new.symm)⟩
        · exact .inl old
      · exact .inl kept
    · exact .inr ⟨other, List.mem_cons_of_mem o mem, met⟩

/-- A body is stopped by one that may stop it and that it meets. -/
theorem exists_of_stationaryStop? (stop : b.stationaryStop? others axis delta = some c) :
    ∃ other ∈ others, b.mayStop other axis = true ∧ b.meeting? other axis delta = some c := by
  unfold stationaryStop? at stop
  split at stop
  · cases stop
  · rcases exists_of_foldl_earlier stop with none | ⟨other, mem, met⟩
    · cases none
    · obtain ⟨mem, may⟩ := List.mem_filter.1 mem
      exact ⟨other, mem, may, met⟩

end Stops

/-! ### Destinations -/

section Destinations

variable {K : Type} [Scalar K]

/-- A coordinate comes before another on the way. -/
def Before (delta a b : K) : Prop := if 0.0 < delta then a < b else b < a

/-- The centre of a body whose leading face is at a place. -/
def centreAt (b : Body K) (axis : Axis) (delta face : K) : K :=
  if 0.0 < delta then face - axis.of b.half else face + axis.of b.half

/-- The leading face of a body that has its centre at a place. -/
def leadAt (b : Body K) (axis : Axis) (delta centre : K) : K :=
  if 0.0 < delta then centre + axis.of b.half else centre - axis.of b.half

theorem of_min (axis : Axis) (b : Body K) : axis.of b.min = axis.of b.pos - axis.of b.half := by
  cases axis <;> rfl

theorem of_max (axis : Axis) (b : Body K) : axis.of b.max = axis.of b.pos + axis.of b.half := by
  cases axis <;> rfl

theorem leadAt_pos (b : Body K) (axis : Axis) (delta : K) :
    b.leadAt axis delta (axis.of b.pos) = b.lead axis delta := by
  rw [leadAt, lead, of_min, of_max]

/-- Where the leading face of a body ends on its way along an axis. -/
def reach (b : Body K) (map : Option (TileMap K)) (others : List (Body K)) (axis : Axis)
    (delta : K) : K :=
  b.leadAt axis delta (b.destination map others axis delta).1

/-- A body goes its way to the end, or stops at the first wall, or before it at a body. -/
theorem destination_cases (b : Body K) (m : TileMap K) (others : List (Body K)) (axis : Axis)
    (delta : K) :
    (m.sweep b.blockMask axis b.min b.max delta = none ∧
      b.destination (some m) others axis delta = (axis.of b.pos + delta, false)) ∨
    (∃ edge, m.sweep b.blockMask axis b.min b.max delta = some edge ∧
      b.destination (some m) others axis delta = (b.centreAt axis delta edge, true)) ∨
    (∃ c, b.stationaryStop? others axis delta = some c ∧
      b.destination (some m) others axis delta = (c, true) ∧
      ∀ edge, m.sweep b.blockMask axis b.min b.max delta = some edge →
        Before delta c (b.centreAt axis delta edge)) := by
  cases swept : m.sweep b.blockMask axis b.min b.max delta with
  | none =>
    cases stopped : b.stationaryStop? others axis delta with
    | none =>
      refine .inl ⟨rfl, ?_⟩
      simp only [destination, Option.bind_some, swept, stopped]
    | some c =>
      refine .inr (.inr ⟨c, rfl, ?_, fun _ h => nomatch h⟩)
      simp only [destination, Option.bind_some, swept, stopped, Bool.not_false, Bool.or_true,
        if_true]
  | some edge =>
    cases stopped : b.stationaryStop? others axis delta with
    | none =>
      refine .inr (.inl ⟨edge, rfl, ?_⟩)
      simp only [destination, Option.bind_some, swept, stopped, centreAt]
    | some c =>
      by_cases before : Before delta c (b.centreAt axis delta edge)
      · refine .inr (.inr ⟨c, rfl, ?_, fun _ h => Option.some.inj h ▸ before⟩)
        unfold Before centreAt at before
        split at before
        all_goals simp [destination, *]
      · refine .inr (.inl ⟨edge, rfl, ?_⟩)
        unfold Before centreAt at before
        split at before
        all_goals simp [destination, centreAt, *]

end Destinations

/-! ### The leading face -/

section Faces

variable {m : TileMap Rat} {b other : Body Rat} {others : List (Body Rat)} {axis : Axis}
  {delta dt face centre c : Rat} {line : Int}

theorem leadAt_centreAt : b.leadAt axis delta (b.centreAt axis delta face) = face := by
  unfold leadAt centreAt
  split
  · exact sub_add_cancel _ _
  · exact add_sub_cancel_right _ _

theorem along_leadAt :
    along delta (b.leadAt axis delta centre) = along delta centre + axis.of b.half := by
  unfold leadAt along
  split
  · rfl
  · ring

theorem along_centreAt :
    along delta (b.centreAt axis delta face) = along delta face - axis.of b.half := by
  unfold centreAt along
  split
  · rfl
  · ring

theorem along_add : along delta (c + delta) = along delta c + along delta delta := by
  unfold along
  split
  · rfl
  · exact neg_add c delta

theorem along_self_nonneg (delta : Rat) : 0 ≤ along delta delta := by
  unfold along
  split
  · rename_i forth
    norm_num at forth
    exact forth.le
  · rename_i back
    norm_num at back
    exact neg_nonneg.2 back

theorem before_iff : Before delta centre c ↔ along delta centre < along delta c := by
  unfold Before along
  split
  · exact Iff.rfl
  · exact neg_lt_neg_iff.symm

theorem overlapSlack_le : (overlapSlack : Rat) ≤ tileGap + cellInset := by
  norm_num [overlapSlack, tileGap, cellInset]

/-- Where a body stops at another, its leading face goes back by the slack at most, and does not
reach as far as its way does. -/
theorem face_of_meeting? (met : b.meeting? other axis delta = some c) :
    ∃ face, c = b.centreAt axis delta face ∧
      along delta (b.lead axis delta) - overlapSlack ≤ along delta face ∧
      along delta face < along delta (b.lead axis delta + delta) := by
  unfold meeting? at met
  unfold centreAt along
  by_cases forth : 0.0 < delta
  · simp only [forth, if_true] at met ⊢
    split at met
    · rename_i within
      exact ⟨_, (Option.some.inj met).symm, within⟩
    · cases met
  · simp only [forth, if_false] at met ⊢
    split at met
    · rename_i within
      refine ⟨_, (Option.some.inj met).symm, ?_, neg_lt_neg within.2⟩
      have := within.1
      linarith
    · cases met

/-- The leading face of a body ends after all of its way, at an edge in front of the first wall, or
before any wall at the face of another body. -/
theorem reach_cases (b : Body Rat) (m : TileMap Rat) (others : List (Body Rat)) (axis : Axis)
    (delta : Rat) :
    (m.sweep b.blockMask axis b.min b.max delta = none ∧
      along delta (b.reach (some m) others axis delta) = along delta (b.lead axis delta + delta)) ∨
    m.sweep b.blockMask axis b.min b.max delta = some (b.reach (some m) others axis delta) ∨
    (along delta (b.lead axis delta) - overlapSlack ≤
        along delta (b.reach (some m) others axis delta) ∧
      along delta (b.reach (some m) others axis delta) < along delta (b.lead axis delta + delta) ∧
      ∀ edge, m.sweep b.blockMask axis b.min b.max delta = some edge →
        along delta (b.reach (some m) others axis delta) < along delta edge) := by
  unfold reach
  rcases b.destination_cases m others axis delta with
    ⟨free, goes⟩ | ⟨edge, found, goes⟩ | ⟨c, stop, goes, closer⟩
  · refine .inl ⟨free, ?_⟩
    rw [goes, along_leadAt, along_add, along_add, ← leadAt_pos, along_leadAt]
    ring
  · rw [goes, leadAt_centreAt]
    exact .inr (.inl found)
  · obtain ⟨_, -, -, met⟩ := exists_of_stationaryStop? stop
    obtain ⟨face, rfl, near, short⟩ := face_of_meeting? met
    rw [goes, leadAt_centreAt]
    refine .inr (.inr ⟨near, short, fun edge found => ?_⟩)
    have := before_iff.1 (closer edge found)
    rw [along_centreAt, along_centreAt] at this
    linarith

/-- The leading face of a body enters no wall that was ahead of it. -/
theorem not_entered_reach (pos : 0 < m.tileSize) (addressable : m.Addressable)
    (moves : ¬(delta == 0.0) = true)
    (wall : m.Wall b.blockMask axis (m.spanAcross axis b.min b.max) line)
    (ahead : ¬m.Entered delta (b.lead axis delta) line) :
    ¬m.Entered delta (b.reach (some m) others axis delta) line := by
  have unstopped := TileMap.not_entered_of_sweep_none moves wall ahead
  have stopped {edge : Rat} (found : m.sweep b.blockMask axis b.min b.max delta = some edge) :
      ¬m.Entered delta edge line := by
    obtain ⟨first, wall', -, -, rfl, soonest⟩ := TileMap.first_of_sweep found
    exact TileMap.not_entered_edge pos addressable wall' (soonest line wall ahead)
  rcases b.reach_cases m others axis delta with ⟨free, whole⟩ | found | ⟨-, short, closer⟩
  · exact fun entered => unstopped free (entered.mono pos whole.le)
  · exact stopped found
  · intro entered
    cases found : m.sweep b.blockMask axis b.min b.max delta with
    | none => exact unstopped found (entered.mono pos short.le)
    | some edge => exact stopped found (entered.mono pos (closer edge found).le)

/-- The leading face of a body goes back by the gap and the inset at most. -/
theorem along_reach_le (pos : 0 < m.tileSize) (addressable : m.Addressable) :
    along delta (b.lead axis delta) - (tileGap + cellInset) ≤
      along delta (b.reach (some m) others axis delta) := by
  rcases b.reach_cases m others axis delta with ⟨-, whole⟩ | found | ⟨near, -⟩
  · have gap := tileGap_pos
    have inset := cellInset_pos
    have := along_self_nonneg delta
    rw [along_add] at whole
    linarith
  · obtain ⟨first, wall', ahead, -, edge, -⟩ := TileMap.first_of_sweep found
    rw [edge]
    exact TileMap.along_edge_le pos addressable wall' ahead
  · have := overlapSlack_le
    linarith

end Faces

/-! ### A step along an axis -/

section Steps

variable {K : Type} [Scalar K]

/-- How far a step along an axis has brought a body back against its way. -/
def setback (b b' : Body K) (axis : Axis) (delta : K) : K :=
  along delta (axis.of b.pos) - along delta (axis.of b'.pos)

/-- The box of a body is blocked when it is drawn out behind by a length. -/
def blockedBehind (b : Body K) (m : TileMap K) (axis : Axis) (delta back : K) : Bool :=
  if 0.0 < delta then
    m.footprintBlocked b.blockMask (axis.set b.min (axis.of b.min - back)) b.max
  else m.footprintBlocked b.blockMask b.min (axis.set b.max (axis.of b.max + back))

/-- A step along an axis moves a body to its destination and leaves its size and mask. -/
theorem box_stepAxis {b : Body K} {map : Option (TileMap K)} {others : List (Body K)} {axis : Axis}
    {dt : K} (moves : ¬(axis.of b.vel * dt == 0.0) = true) :
    (b.stepAxis map others axis dt).pos =
        axis.set b.pos (b.destination map others axis (axis.of b.vel * dt)).1 ∧
      (b.stepAxis map others axis dt).half = b.half ∧
      (b.stepAxis map others axis dt).blockMask = b.blockMask := by
  unfold stepAxis
  simp only [if_neg moves]
  split <;> exact ⟨rfl, rfl, rfl⟩

variable {m : TileMap Rat} {b b' : Body Rat} {others : List (Body Rat)} {axis : Axis}
  {delta dt : Rat} {line : Int}

/-- A step keeps the place of a body across the axis. -/
theorem spanAcross_eq {K : Type} [Scalar K] {m : TileMap K} {b b' : Body K} {axis : Axis} {c : K}
    (place : b'.pos = axis.set b.pos c) (half : b'.half = b.half) :
    m.spanAcross axis b'.min b'.max = m.spanAcross axis b.min b.max := by
  simp only [TileMap.spanAcross, of_min, of_max, place, half, Axis.of_other_set]

theorem along_lead (b : Body Rat) (axis : Axis) (delta : Rat) :
    along delta (b.lead axis delta) = along delta (axis.of b.pos) + axis.of b.half := by
  rw [← leadAt_pos, along_leadAt]

theorem along_trailing (b : Body Rat) (axis : Axis) (delta : Rat) :
    along delta (TileMap.trailing axis b.min b.max delta) =
      along delta (axis.of b.pos) - axis.of b.half := by
  unfold TileMap.trailing along
  split <;> simp only [of_min, of_max]
  ring

theorem trailing_eq (half : b'.half = b.half) :
    TileMap.trailing axis b'.min b'.max delta =
      if 0.0 < delta then axis.of b.min - b.setback b' axis delta
      else axis.of b.max + b.setback b' axis delta := by
  unfold TileMap.trailing setback along
  split <;> simp only [of_min, of_max, half] <;> ring

/-- A wall that a body has entered blocks it when it is drawn out behind as far as the wall. -/
theorem blockedBehind_of_wall (wall : m.Wall b.blockMask axis (m.spanAcross axis b.min b.max) line)
    (entered : m.Entered delta (b.lead axis delta) line) (half : b'.half = b.half)
    (trailed : m.Trailed delta (TileMap.trailing axis b'.min b'.max delta) line) :
    b.blockedBehind m axis delta (b.setback b' axis delta) = true := by
  rw [trailing_eq half] at trailed
  unfold blockedBehind
  unfold TileMap.Entered lead at entered
  unfold TileMap.Trailed at trailed
  split
  · simp only [*, if_true] at entered trailed
    rw [TileMap.footprintBlocked_iff axis, Axis.of_set]
    refine ⟨line, ?_, trailed, entered⟩
    simpa only [TileMap.spanAcross, Axis.of_other_set] using wall
  · simp only [*, if_false] at entered trailed
    rw [TileMap.footprintBlocked_iff axis, Axis.of_set]
    refine ⟨line, ?_, entered, trailed⟩
    simpa only [TileMap.spanAcross, Axis.of_other_set] using wall

theorem leading_eq {map : Option (TileMap Rat)}
    (place : b'.pos = axis.set b.pos (b.destination map others axis delta).1)
    (half : b'.half = b.half) : b'.lead axis delta = b.reach map others axis delta := by
  rw [← leadAt_pos, place, Axis.of_set, reach, leadAt, leadAt, half]

/-- At its destination a body that was clear of the tiles is clear, if it has room behind. -/
theorem clear_at_destination (pos : 0 < m.tileSize) (addressable : m.Addressable)
    (moves : ¬(delta == 0.0) = true)
    (place : b'.pos = axis.set b.pos (b.destination (some m) others axis delta).1)
    (half : b'.half = b.half) (clear : m.footprintBlocked b.blockMask b.min b.max = false)
    (room : 0 < b.setback b' axis delta → b.setback b' axis delta ≤ tileGap + cellInset →
      b.blockedBehind m axis delta (b.setback b' axis delta) = false) :
    m.footprintBlocked b.blockMask b'.min b'.max = false := by
  by_contra blocked
  rw [Bool.not_eq_false, TileMap.footprintBlocked_iff_faces axis delta, spanAcross_eq place half]
    at blocked
  obtain ⟨line, wall, entered, trailed⟩ := blocked
  change m.Entered delta (b'.lead axis delta) line at entered
  -- The wall is not ahead, for then the face would have stopped in front of it.
  have before : m.Entered delta (b.lead axis delta) line := by
    by_contra ahead
    rw [leading_eq place half] at entered
    exact not_entered_reach pos addressable moves wall ahead entered
  have bound : _ ≤ along delta (b.reach (some m) others axis delta) :=
    along_reach_le pos addressable
  rw [← leading_eq place half, along_lead, along_lead, half] at bound
  rcases le_or_gt (b.setback b' axis delta) 0 with forth | back
  · -- Where it goes forth, it covered the wall at the start.
    have le : along delta (TileMap.trailing axis b.min b.max delta) ≤
        along delta (TileMap.trailing axis b'.min b'.max delta) := by
      rw [along_trailing, along_trailing, half]
      exact sub_le_sub_right (sub_nonpos.1 forth) _
    have met := (m.footprintBlocked_iff_faces axis delta b.blockMask b.min b.max).2
      ⟨line, wall, before, trailed.mono pos le⟩
    rw [clear] at met
    cases met
  · -- Where it is set back, the wall is in its room.
    have met := blockedBehind_of_wall wall before half trailed
    have short : b.setback b' axis delta ≤ tileGap + cellInset := by
      unfold setback
      linarith
    rw [room back short] at met
    cases met

/-- A body that is clear of the tiles stays clear in a step along an axis, unless it is set back, by
the gap and the inset at most, and has no room behind. -/
theorem clear_stepAxis (valid : Scene.validateMap m = .ok ()) (addressable : m.Addressable)
    (clear : m.footprintBlocked b.blockMask b.min b.max = false)
    (room : let back := b.setback (b.stepAxis (some m) others axis dt) axis (axis.of b.vel * dt)
      0 < back → back ≤ tileGap + cellInset →
        b.blockedBehind m axis (axis.of b.vel * dt) back = false) :
    let b' := b.stepAxis (some m) others axis dt
    m.footprintBlocked b'.blockMask b'.min b'.max = false := by
  intro b'
  by_cases moves : (axis.of b.vel * dt == 0.0) = true
  · rw [show b' = b from if_pos moves]
    exact clear
  · obtain ⟨place, half, mask⟩ : b'.pos = _ ∧ b'.half = b.half ∧ b'.blockMask = b.blockMask :=
      box_stepAxis moves
    rw [mask]
    exact clear_at_destination (TileMap.tileSize_pos valid) addressable moves place half clear room

end Steps

namespace Shaft

/-- A row of cells, of which some hold a tile that blocks. -/
def row (ids : Array Nat) : TileMap Rat :=
  { width := ids.size, height := 1, tileSize := 10, tiles := #[ids]
    defs := Table.ofList [(1, { blockMask := some 5 })] }

/-- A box of one cell, on its way along the row. -/
def crate (uid : String) (x vx : Rat) : Body Rat :=
  { uid, type := "crate", pos := ⟨x, 5⟩, vel := ⟨vx, 0⟩, prevPos := ⟨x, 5⟩, prevVel := ⟨vx, 0⟩
    half := ⟨5, 5⟩, flags := {}, active := true, blockMask := some 1, parent := none
    onGround := false }

end Shaft

open Shaft in
/-- A crate leaves the wall behind it and stops in front of one that stands still. -/
theorem crate_stops_clear :
    let b := crate "c" 15 30
    let b' := b.stepAxis (some (row #[1, 0, 0, 0, 0, 1])) [crate "d" 42 0] .x 1
    b'.pos.x = 32 ∧
      (row #[1, 0, 0, 0, 0, 1]).footprintBlocked b'.blockMask b'.min b'.max = false := by
  refine ⟨by cbv, clear_stepAxis (by cbv) ⟨by decide, by decide⟩ (by cbv) fun set => ?_⟩
  have forth : (crate "c" 15 30).setback ((crate "c" 15 30).stepAxis
      (some (row #[1, 0, 0, 0, 0, 1])) [crate "d" 42 0] .x 1) .x (30 * 1) = -17 := by cbv
  exact absurd (forth ▸ set) (by norm_num)

open Shaft in
/-- A crate that fits between two tiles is set back from the one ahead, into the one behind. -/
theorem crate_is_set_back :
    let b := crate "c" 15 5
    let b' := b.stepAxis (some (row #[1, 0, 1])) [] .x 1
    Scene.validateMap (row #[1, 0, 1]) = .ok () ∧ b.flags.enabled = true ∧ b.blockMask ≠ none ∧
      (row #[1, 0, 1]).footprintBlocked b.blockMask b.min b.max = false ∧
      (row #[1, 0, 1]).footprintBlocked b'.blockMask b'.min b'.max = true := by
  refine ⟨by cbv, rfl, Option.some_ne_none _, by cbv, by cbv⟩

end Body

end Playfield
