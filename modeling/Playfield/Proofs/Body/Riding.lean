import Mathlib.Algebra.Order.Ring.Rat
import Mathlib.Tactic.Ring
import Playfield.Proofs.Body.Separation

/-!
# Riding through a resolution

A body without a mask that is attached to a root without a mask keeps its place on it while other
bodies are pushed apart: every move takes both or neither.

* `Pushing.Rides` says what has happened to the two: they went back together, or they were shifted
  together and kept their velocities.
* `Rides.move` is the step, `rides_resolve` the result for a whole resolution.
-/

namespace Playfield

namespace Axis

theorem of_set_add (axis along : Axis) (v : Vec Rat) (amount : Rat) :
    axis.of (along.set v (along.of v + amount)) =
      axis.of v + if axis = along then amount else 0 := by
  cases axis <;> cases along <;> simp [of, set]

end Axis

namespace Pushing

variable {g : Attachments} {s s' : Pushing Rat} {root rider : String} {a b : Body Rat}

/-- What has happened to a root and to a body attached to it, which were once `a` and `b`. -/
structure Rides (s : Pushing Rat) (root rider : String) (a b a' b' : Body Rat) : Prop where
  lookRoot : s.look root = some a'
  lookRider : s.look rider = some b'
  startRoot : a'.start = a.start
  startRider : b'.start = b.start
  back : root ∈ s.rolledBack → a'.vel = .zero ∧ b'.vel = .zero ∧
    ∀ axis : Axis, axis.of b'.pos - axis.of a'.pos = axis.of b.prevPos - axis.of a.prevPos
  ahead : root ∉ s.rolledBack → a'.vel = a.vel ∧ b'.vel = b.vel ∧
    ∀ axis : Axis, axis.of b'.pos - axis.of a'.pos = axis.of b.pos - axis.of a.pos

/-- The two uids are a root and a uid attached to it. -/
structure Hitched (g : Attachments) (root rider : String) : Prop where
  distinct : g.uids.Nodup
  linkRoot : (root, none) ∈ g.links
  linkRider : (rider, some root) ∈ g.links

theorem Hitched.mem_subtree_iff (hitched : Hitched g root rider) {head : String}
    (ne : rider ≠ head) : rider ∈ g.subtree head ↔ root ∈ g.subtree head :=
  Attachments.mem_subtree_iff_of_link hitched.distinct hitched.linkRider
    (List.mem_map_of_mem hitched.linkRoot) ne

theorem Hitched.parent?_rider (hitched : Hitched g root rider) : g.parent? rider = some root := by
  have live := Attachments.isLive_iff.2 (List.mem_map_of_mem hitched.linkRoot)
  rw [Attachments.parent?_of_mem hitched.distinct hitched.linkRider, Option.filter_some,
    if_pos live]

/-- No tree is moved that starts at the rider. -/
theorem Hitched.ne_of_heads (hitched : Hitched g root rider)
    (distinct : (s.bodies.map Body.uid).Nodup) (found : s.look rider = some b)
    (maskless : b.blockMask = none) {head : String} (heads : Heads g s head) : rider ≠ head := by
  rintro rfl
  rcases heads with orphan | ⟨b', mem, carries, masked⟩
  · rw [hitched.parent?_rider] at orphan
    cases orphan
  · have := (Roster.find?_eq_some_iff distinct).2 ⟨mem, carries⟩
    rw [show Roster.find? Body.uid rider s.bodies = some b from found] at this
    cases this
    rw [maskless] at masked
    cases masked

/-- Both go back, or neither does. -/
theorem Rides.rollBackAll {a' b' : Body Rat} (rides : Rides s root rider a b a' b')
    {uids : List String} (together : rider ∈ uids ↔ root ∈ uids) :
    ∃ a'' b'', Rides (s.rollBackAll uids) root rider a b a'' b'' := by
  by_cases inside : root ∈ uids
  · refine ⟨a'.rollBack, b'.rollBack, ?_, ?_, rides.startRoot, rides.startRider,
      fun _ => ⟨rfl, rfl, fun axis => ?_⟩, fun ahead => ?_⟩
    · rw [look_rollBackAll, rides.lookRoot, Option.map_some, if_pos inside]
    · rw [look_rollBackAll, rides.lookRider, Option.map_some, if_pos (together.2 inside)]
    · have startA : a'.prevPos = a.prevPos := (congrArg Body.prevPos rides.startRoot :)
      have startB : b'.prevPos = b.prevPos := (congrArg Body.prevPos rides.startRider :)
      rw [← startA, ← startB]
      rfl
    · refine absurd ((mem_rolledBack_all s _).2 (.inr ⟨inside, ?_⟩)) ahead
      rw [rides.lookRoot]
      rfl
  · have same : root ∈ (s.rollBackAll uids).rolledBack ↔ root ∈ s.rolledBack := by
      rw [mem_rolledBack_all]
      exact ⟨fun h => h.resolve_right fun h => inside h.1, .inl⟩
    refine ⟨a', b', ?_, ?_, rides.startRoot, rides.startRider, fun back => rides.back (same.1 back),
      fun ahead => rides.ahead (mt same.2 ahead)⟩
    · rw [look_rollBackAll, rides.lookRoot, Option.map_some, if_neg inside]
    · rw [look_rollBackAll, rides.lookRider, Option.map_some, if_neg (mt together.1 inside)]

theorem offset_shift (along axis : Axis) (amount : Rat) (a b : Body Rat) :
    axis.of (shift along amount b).pos - axis.of (shift along amount a).pos =
      axis.of b.pos - axis.of a.pos := by
  simp only [shift, Axis.of_set_add]
  ring

/-- Both are shifted, or neither is. -/
theorem Rides.shiftAll {a' b' : Body Rat} (rides : Rides s root rider a b a' b')
    {uids : List String} (once : uids.Nodup) (together : rider ∈ uids ↔ root ∈ uids)
    (along : Axis) (amount : Rat) :
    ∃ a'' b'', Rides (s.shiftAll uids along amount) root rider a b a'' b'' := by
  by_cases inside : root ∈ uids
  · refine ⟨shift along amount a', shift along amount b', ?_, ?_, rides.startRoot,
      rides.startRider, fun back => ?_, fun ahead => ?_⟩
    · rw [look_shiftAll s once, rides.lookRoot, Option.map_some, if_pos inside]
    · rw [look_shiftAll s once, rides.lookRider, Option.map_some, if_pos (together.2 inside)]
    · obtain ⟨velA, velB, place⟩ := rides.back back
      exact ⟨velA, velB, fun axis => (offset_shift ..).trans (place axis)⟩
    · obtain ⟨velA, velB, place⟩ := rides.ahead ahead
      exact ⟨velA, velB, fun axis => (offset_shift ..).trans (place axis)⟩
  · refine ⟨a', b', ?_, ?_, rides.startRoot, rides.startRider, rides.back, rides.ahead⟩
    · rw [look_shiftAll s once, rides.lookRoot, Option.map_some, if_neg inside]
    · rw [look_shiftAll s once, rides.lookRider, Option.map_some, if_neg (mt together.1 inside)]

theorem Rides.move {a' b' : Body Rat} (rides : Rides s root rider a b a' b')
    (hitched : Hitched g root rider) (distinct : (s.bodies.map Body.uid).Nodup)
    (masklessA : a.blockMask = none) (masklessB : b.blockMask = none) (move : Move g s s') :
    ∃ a'' b'', Rides s' root rider a b a'' b'' := by
  have maskA : a'.blockMask = none :=
    (Body.blockMask_eq_of_start rides.startRoot).trans masklessA
  have maskB : b'.blockMask = none :=
    (Body.blockMask_eq_of_start rides.startRider).trans masklessB
  -- No tree that is moved starts at the rider, so each has both of them or neither.
  have together {head : String} (heads : Heads g s head) :
      rider ∈ g.subtree head ↔ root ∈ g.subtree head :=
    hitched.mem_subtree_iff (hitched.ne_of_heads distinct rides.lookRider maskB heads)
  cases move with
  | rollBack heads => exact rides.rollBackAll (together heads)
  | shift heads along amount =>
    exact rides.shiftAll Attachments.visited_nodup (together heads) along amount
  | halt masked along dir =>
    exact ⟨a', b', look_halt distinct masked rides.lookRoot maskA,
      look_halt distinct masked rides.lookRider maskB, rides.startRoot, rides.startRider,
      rides.back, rides.ahead⟩
  | hold held =>
    exact ⟨a', b', rides.lookRoot, rides.lookRider, rides.startRoot, rides.startRider, rides.back,
      rides.ahead⟩

theorem Rides.moves {a' b' : Body Rat} (rides : Rides s root rider a b a' b')
    (hitched : Hitched g root rider) (distinct : (s.bodies.map Body.uid).Nodup)
    (masklessA : a.blockMask = none) (masklessB : b.blockMask = none) (moves : Moves g s s') :
    ∃ a'' b'', Rides s' root rider a b a'' b'' := by
  induction moves with
  | refl => exact ⟨a', b', rides⟩
  | tail before move ih =>
    obtain ⟨a'', b'', rides⟩ := ih
    have distinct' := Body.uids_of_starts (starts_moves before) ▸ distinct
    exact rides.move hitched distinct' masklessA masklessB move

end Pushing

/-- A resolution takes a root without a mask back together with a maskless body attached to it, or
leaves their velocities and the one's place on the other. -/
theorem Physics.rides_resolve {p : Physics Rat} {root rider : String} {a b : Body Rat}
    (hitched : Pushing.Hitched p.attachments root rider) (foundA : p.body? root = some a)
    (foundB : p.body? rider = some b) (masklessA : a.blockMask = none)
    (masklessB : b.blockMask = none) :
    ∃ a' b', p.resolve.2.body? root = some a' ∧ p.resolve.2.body? rider = some b' ∧
      (root ∈ p.resolve.1.rolledBack → a'.vel = .zero ∧ b'.vel = .zero ∧
        ∀ axis : Axis, axis.of b'.pos - axis.of a'.pos = axis.of b.prevPos - axis.of a.prevPos) ∧
      (root ∉ p.resolve.1.rolledBack → a'.vel = a.vel ∧ b'.vel = b.vel ∧
        ∀ axis : Axis, axis.of b'.pos - axis.of a'.pos = axis.of b.pos - axis.of a.pos) := by
  obtain ⟨s, moves, bodies, rolledBack⟩ := Pushing.resolve_moves p
  have distinct : (p.bodies.map Body.uid).Nodup := by
    have := hitched.distinct
    rwa [Attachments.uids, Physics.attachments, List.map_map] at this
  have start : Pushing.Rides ⟨p.bodies, [], []⟩ root rider a b a b :=
    ⟨foundA, foundB, rfl, rfl, fun h => absurd h List.not_mem_nil,
      fun _ => ⟨rfl, rfl, fun _ => rfl⟩⟩
  obtain ⟨a', b', rides⟩ := start.moves hitched distinct masklessA masklessB moves
  rw [body?, body?, ← bodies, ← rolledBack]
  exact ⟨a', b', rides.lookRoot, rides.lookRider, rides.back, rides.ahead⟩

end Playfield
