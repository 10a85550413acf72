import Playfield.Body.Travel
import Playfield.Proofs.Body.System

/-!
# What travel changes

Travel moves a body, and changes its velocity and its ground, but nothing else.

* `start_travel`, `starts_integrate`: what a body was at the start of the tick stays.
* `integrate_forall₂`: after a tick of motion each body is the one that has travelled among some
  others.
* `travel_of_free`: where nothing stops it, a body that no force moves goes straight on.
-/

namespace Playfield

variable {K : Type} [Scalar K]

namespace Body

variable {b : Body K} {map : Option (TileMap K)} {others : List (Body K)} {axis : Axis}
  {gravity dt : K} {on : Bool} {bounds : Vec K}

theorem start_fall : (b.fall gravity dt on).start = b.start := by
  unfold fall
  split <;> rfl

theorem start_stepAxis : (b.stepAxis map others axis dt).start = b.start := by
  unfold stepAxis
  simp only
  split
  · rfl
  · split <;> rfl

theorem start_clampAxis : (b.clampAxis bounds axis).start = b.start := by
  unfold clampAxis
  simp only
  repeat' split
  all_goals rfl

/-- A body without a mask is stopped by no other body. -/
theorem stationaryStop?_of_maskless {delta : K} (maskless : b.blockMask = none) :
    b.stationaryStop? others axis delta = none := by
  rw [stationaryStop?, maskless]
  rfl

theorem stepAxis_of_free (maskless : b.blockMask = none) :
    b.stepAxis none others axis dt =
      if axis.of b.vel * dt == 0.0 then b
      else { b with pos := axis.set b.pos (axis.of b.pos + axis.of b.vel * dt) } := by
  unfold stepAxis destination
  simp only [Option.bind_none, stationaryStop?_of_maskless maskless]
  rfl

end Body

namespace Physics

variable {p : Physics K} {dt : K} {on : Bool} {others : List (Body K)} {b : Body K}

theorem start_travel (p : Physics K) (dt : K) (on : Bool) (others : List (Body K)) (b : Body K) :
    (p.travel dt on others b).start = b.start := by
  unfold travel
  simp only
  split
  · split <;> simp only [Body.start_clampAxis, Body.start_stepAxis, Body.start_fall]
  · rfl

/-- Where nothing stops it, a body that no force moves goes straight on. -/
theorem travel_of_free (unmapped : p.map = none) (unbounded : p.bounds = none)
    (inert : b.flags.dynamic = false) (moves : (b.active && b.flags.enabled) = true) :
    p.travel dt on others b =
      (b.stepAxis none others .x dt).stepAxis none others .y dt := by
  unfold travel
  simp only [moves, if_true, unmapped, unbounded, Body.fall, inert]
  rfl

theorem travelAll_forall₂ (p : Physics K) (dt : K) (on : Bool) (done bodies : List (Body K)) :
    ∃ moved, p.travelAll dt on done bodies = done ++ moved ∧
      List.Forall₂ (fun b b' => ∃ others, b' = p.travel dt on others b) bodies moved := by
  induction bodies generalizing done with
  | nil => exact ⟨[], (List.append_nil done).symm, .nil⟩
  | cons b rest ih =>
    obtain ⟨moved, eq, all⟩ := ih (done ++ [p.travel dt on (done ++ rest) b])
    refine ⟨p.travel dt on (done ++ rest) b :: moved, ?_, .cons ⟨_, rfl⟩ all⟩
    rw [travelAll, eq, List.append_assoc, List.singleton_append]

/-- After a tick of motion each body is the one that has travelled among some others. -/
theorem integrate_forall₂ (p : Physics K) (dt : K) (on : Bool) :
    List.Forall₂ (fun b b' => ∃ others, b' = p.travel dt on others b) p.bodies
      (p.integrate dt on).bodies := by
  obtain ⟨moved, eq, all⟩ := p.travelAll_forall₂ dt on [] p.bodies
  rw [integrate, eq]
  exact all

theorem starts_integrate :
    (p.integrate dt on).bodies.map Body.start = p.bodies.map Body.start := by
  have travelled := p.integrate_forall₂ dt on
  generalize p.bodies = bodies, (p.integrate dt on).bodies = moved at travelled ⊢
  induction travelled with
  | nil => rfl
  | cons travelled _ ih =>
    obtain ⟨others, rfl⟩ := travelled
    rw [List.map_cons, List.map_cons, start_travel, ih]

theorem body?_integrate (dt : K) (on : Bool) {uid : String} (found : p.body? uid = some b) :
    ∃ others, (p.integrate dt on).body? uid = some (p.travel dt on others b) := by
  have related : Option.Rel _ (p.body? uid) ((p.integrate dt on).body? uid) :=
    Roster.find?_of_forall₂ (fun b b' ⟨_, h⟩ => h ▸ Body.uid_eq_of_start (start_travel ..))
      (p.integrate_forall₂ dt on)
  rw [found] at related
  generalize (p.integrate dt on).body? uid = moved at related ⊢
  cases related with
  | some travelled =>
    obtain ⟨others, rfl⟩ := travelled
    exact ⟨others, rfl⟩

end Physics

end Playfield
