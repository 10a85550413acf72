import Mathlib.Algebra.Order.Ring.Rat
import Playfield.Proofs.Body.Travel

/-!
# The bounds of the world

The last thing that travel does to a body is to move it back between the bounds.

* `Axis.Between size half centre`: a box lies between the bounds along an axis.
* `between_clampAxis`: so does a body that fits, once it has been moved back along that axis;
  `of_pos_clampAxis`: along the other axis it stays where it is.
* `between_travel`: a body that travels ends between the bounds along each axis along which it fits.
-/

namespace Playfield

/-- A box lies between the bounds of a world along an axis. -/
def Axis.Between (axis : Axis) (size half centre : Vec Rat) : Prop :=
  axis.of half ≤ axis.of centre ∧ axis.of centre ≤ axis.of size - axis.of half

namespace Body

variable {b : Body Rat} {size : Vec Rat} {axis along : Axis}

/-- Moving back along one axis does not move along the other one. -/
theorem of_pos_clampAxis (ne : axis ≠ along) :
    axis.of (b.clampAxis size along).pos = axis.of b.pos := by
  unfold clampAxis
  simp only
  split
  · rfl
  · split
    · exact Axis.of_set_of_ne ne b.pos _
    · split
      · exact Axis.of_set_of_ne ne b.pos _
      · rfl

theorem between_clampAxis (fits : axis.of b.half ≤ axis.of size - axis.of b.half) :
    axis.Between size b.half (b.clampAxis size axis).pos := by
  unfold clampAxis
  simp only
  split
  · rename_i tight
    exact absurd fits (not_le.2 tight)
  · split
    · rw [Axis.Between, Axis.of_set]
      exact ⟨le_rfl, fits⟩
    · split
      · rw [Axis.Between, Axis.of_set]
        exact ⟨fits, le_rfl⟩
      · rename_i below above
        exact ⟨not_lt.1 below, not_lt.1 above⟩

theorem half_eq_of_start {K : Type} {b b' : Body K} (h : b'.start = b.start) : b'.half = b.half :=
  (congrArg Body.half h :)

end Body

/-- A body that travels ends between the bounds along each axis along which it fits. -/
theorem Physics.between_travel {p : Physics Rat} {size : Vec Rat} {dt : Rat} {on : Bool}
    {others : List (Body Rat)} {b : Body Rat} {axis : Axis} (bounded : p.bounds = some size)
    (moves : (b.active && b.flags.enabled) = true)
    (fits : axis.of b.half ≤ axis.of size - axis.of b.half) :
    axis.Between size b.half (p.travel dt on others b).pos := by
  unfold travel
  simp only [moves, if_true, bounded]
  generalize stepped : ((b.fall p.gravity dt on).stepAxis p.map others .x dt).stepAxis p.map others
    .y dt = c
  have half : c.half = b.half := by
    refine Body.half_eq_of_start ?_
    rw [← stepped, Body.start_stepAxis, Body.start_stepAxis, Body.start_fall]
  have half' : (c.clampAxis size .x).half = b.half :=
    (Body.half_eq_of_start Body.start_clampAxis).trans half
  cases axis with
  | x =>
    rw [Axis.Between, Body.of_pos_clampAxis (by decide), ← half]
    exact Body.between_clampAxis (half.symm ▸ fits)
  | y =>
    rw [← half']
    exact Body.between_clampAxis (half'.symm ▸ fits)

end Playfield
