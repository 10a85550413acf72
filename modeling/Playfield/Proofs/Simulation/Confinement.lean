import Playfield.Proofs.Body.Bounds
import Playfield.Proofs.Body.Shoves
import Playfield.Proofs.Simulation.Idle

/-!
# Staying in the world

Travel leaves bodies between the bounds of the world, but it is not the last thing that moves them:
attached actors are carried along, and a resolution pushes bodies apart or sends them back. Neither
looks at the bounds.

* `Actor.Fits`, `Actor.Inside`: the box of an actor fits the world, or lies in it, along an axis.
* `Undisturbed`: no ancestor hands an actor a motion along an axis, and no push shifts it along it.
* `Housed`: an active actor with physics lives in a world with bounds and without rules.
  `Housed.inside_moved`: after the motion of a tick it is inside if it fits. `Housed.inside_step`:
  if it is undisturbed it is inside at the end of the tick, unless it has gone back to a place
  outside.
* `World.Alone`: nothing is attached to an actor or blocks it. Then it is undisturbed in every tick
  (`Housed.undisturbed_of_alone`).
* `inside_after_ticks` is the result for runs over exact rationals, `not_always_inside` says what
  there is against a stronger one.
-/

namespace Playfield

namespace Actor

/-- Half the size. -/
def half {K : Type} [Scalar K] (a : Actor K) : Vec K :=
  ⟨Scalar.half a.width, Scalar.half a.height⟩

/-- The actor is not larger than a world along an axis. -/
def Fits (a : Actor Rat) (size : Vec Rat) (axis : Axis) : Prop :=
  axis.of a.half ≤ axis.of size - axis.of a.half

/-- The actor lies between the bounds of a world along an axis. -/
def Inside (a : Actor Rat) (size : Vec Rat) (axis : Axis) : Prop :=
  axis.Between size a.half a.place

instance (a : Actor Rat) (size : Vec Rat) (axis : Axis) : Decidable (a.Fits size axis) :=
  inferInstanceAs (Decidable (_ ≤ _))

instance (a : Actor Rat) (size : Vec Rat) (axis : Axis) : Decidable (a.Inside size axis) :=
  inferInstanceAs (Decidable (_ ∧ _))

end Actor

/-- A live actor of a uid lies between the bounds of a world along an axis. -/
def World.Holds (w : World Rat) (uid : String) (size : Vec Rat) (axis : Axis) : Prop :=
  ∃ a, w.actor? uid = some a ∧ a.Inside size axis

/-- Every active actor with physics that fits lies in the world. -/
def World.Contains (w : World Rat) (size : Vec Rat) : Prop :=
  ∀ uid a, w.actor? uid = some a → a.active = true → a.physics.enabled = true →
    (∀ axis, a.Fits size axis) → ∀ axis, a.Inside size axis

/-- Nothing is attached to the actor of a uid or blocks it, and it is not attached itself. -/
structure World.Alone {K : Type} (w : World K) (uid : String) : Prop where
  loose : ∀ b ∈ w.actors, b.uid = uid → b.parent = none
  bare : ∀ b ∈ w.actors, b.parent ≠ some uid
  apart : ∀ b ∈ w.actors, ∀ c ∈ w.actors, b.uid = uid → c.uid ≠ uid →
    b.blockMask = c.blockMask → b.blockMask = none

instance {K : Type} (w : World K) (uid : String) : Decidable (w.Alone uid) :=
  decidable_of_iff
    ((∀ b ∈ w.actors, b.uid = uid → b.parent = none) ∧ (∀ b ∈ w.actors, b.parent ≠ some uid) ∧
      ∀ b ∈ w.actors, ∀ c ∈ w.actors, b.uid = uid → c.uid ≠ uid →
        b.blockMask = c.blockMask → b.blockMask = none)
    ⟨fun ⟨loose, bare, apart⟩ => ⟨loose, bare, apart⟩,
      fun alone => ⟨alone.loose, alone.bare, alone.apart⟩⟩

namespace World

variable {K : Type} [Scalar K] {w w' : World K} {uid : String}

theorem Alone.of_figures (same : w'.figures = w.figures) (alone : w.Alone uid) : w'.Alone uid where
  loose b' mem' carries := by
    obtain ⟨b, mem, m, rfl⟩ := exists_of_figures same mem'
    exact alone.loose b mem carries
  bare b' mem' := by
    obtain ⟨b, mem, m, rfl⟩ := exists_of_figures same mem'
    exact alone.bare b mem
  apart b' mem' c' memC' carries ne like := by
    obtain ⟨b, mem, m, rfl⟩ := exists_of_figures same mem'
    obtain ⟨c, memC, m', rfl⟩ := exists_of_figures same memC'
    exact alone.apart b mem c memC carries ne like

omit [Scalar K] in
theorem Alone.childless (alone : w.Alone uid) (u : String) :
    w.attachments.parent? u ≠ some uid := by
  intro link
  obtain ⟨b, mem, same⟩ := List.mem_map.1 (Attachments.link_of_parent? link).1
  exact alone.bare b mem (congrArg Prod.snd same)

omit [Scalar K] in
theorem Alone.rootLink {a : Actor K} (alone : w.Alone uid) (indexed : w.Indexed)
    (found : w.actor? uid = some a) : (uid, none) ∈ w.attachments.links := by
  have link := indexed.link_of_actor? found
  obtain ⟨live, carries⟩ := indexed.mem_of_actor? found
  rwa [alone.loose a live carries] at link

/-- Bodies that block each other are those of actors with the same mask. -/
theorem masks_of_rivals (distinct : (w.actors.map Actor.uid).Nodup) {p : Physics K}
    {xy : String × String} (mem : xy ∈ (p.sync w).rivals) :
    ∃ b ∈ w.actors, ∃ c ∈ w.actors, b.uid = xy.1 ∧ c.uid = xy.2 ∧ b.uid ≠ c.uid ∧
      b.blockMask = c.blockMask ∧ b.blockMask ≠ none := by
  unfold Physics.rivals at mem
  obtain ⟨b', memB, mem⟩ := List.mem_flatMap.1 mem
  obtain ⟨c', rival, rfl⟩ := List.mem_map.1 mem
  obtain ⟨memC, block⟩ := List.mem_filter.1 rival
  have bodies : (p.sync w).bodies = w.actors.map (Physics.continued p.bodies) :=
    Physics.follow_eq_map distinct p.bodies
  obtain ⟨b, hb, rfl⟩ := List.mem_map.1 (bodies ▸ memB)
  obtain ⟨c, hc, rfl⟩ := List.mem_map.1 (bodies ▸ memC)
  have mirrorsB := Physics.continued_mirrors p.bodies b
  have mirrorsC := Physics.continued_mirrors p.bodies c
  simp only [Pushing.opposed, Body.masksBlock, Bool.and_eq_true, bne_iff_ne, beq_iff_eq,
    mirrorsB.uid, mirrorsC.uid, mirrorsB.blockMask, mirrorsC.blockMask] at block
  obtain ⟨ne, ⟨-, masked, same⟩, -⟩ := block
  exact ⟨b, hb, c, hc, mirrorsB.uid.symm, mirrorsC.uid.symm, ne, same,
    Option.isSome_iff_ne_none.1 masked⟩

/-- No push of bodies that follow a world shifts an actor that is alone. -/
theorem Alone.unshoved {a : Actor K} (alone : w.Alone uid) (found : w.actor? uid = some a)
    (indexed : w.Indexed) {p : Physics K} {m : Shove} {axis : Axis}
    (mem : m ∈ (p.sync w).shoves) : ¬m.Shifts (p.sync w).attachments axis uid := by
  have distinct := indexed.distinct
  have distinct' : ((p.sync w).bodies.map Body.uid).Nodup :=
    (Physics.uids_sync distinct).symm ▸ distinct
  obtain ⟨b, hb, c, hc, first, second, ne, same, masked⟩ :=
    masks_of_rivals distinct (Physics.mem_rivals_of_shove distinct' mem)
  have links : w.attachments.uids.Nodup := (uids_attachments w).symm ▸ distinct
  have orphan : w.attachments.parent? uid = none :=
    Attachments.parent?_of_mem links (alone.rootLink indexed found)
  have towed {head : String} (mem : uid ∈ w.attachments.towed head) : head = uid :=
    Attachments.eq_of_mem_towed links orphan alone.childless mem
  rw [Physics.attachments_sync distinct]
  rintro ⟨-, ⟨-, here⟩ | ⟨-, here⟩⟩
  · have mine := first.trans (towed here)
    exact masked (alone.apart b hb c hc mine (fun h => ne (mine.trans h.symm)) same)
  · have mine := second.trans (towed here)
    have free := alone.apart c hc b hb mine (fun h => ne (h.trans mine.symm)) same.symm
    exact masked (same.trans free)

end World

namespace Simulation

variable {τ : Type} {s s' : Simulation Rat τ} {input : InputFrame Rat} {report : TickReport Rat}
  {uid : String} {a : Actor Rat} {axis : Axis} {w h : Rat}

/-- The bodies that a tick resolves. -/
def resolving {K : Type} [Scalar K] (s : Simulation K τ) (input : InputFrame K) : Physics K :=
  s.moved.sync (s.carried input).world

/-- In a tick no ancestor hands an actor a motion along an axis, and no push shifts it along it. -/
structure Undisturbed (s : Simulation Rat τ) (input : InputFrame Rat) (uid : String) (axis : Axis) :
    Prop where
  still : ∀ m, (uid, m) ∈ (s.ruled input).2.world.inherited s.moved.motion →
    axis.of ⟨m.x, m.y⟩ = (0 : Rat)
  unshoved : ∀ m ∈ (s.resolving input).shoves, ¬m.Shifts (s.resolving input).attachments axis uid

/-- An active actor with physics lives in a world with bounds and without rules. -/
structure Housed (s : Simulation Rat τ) (w h : Rat) (uid : String) (a : Actor Rat) : Prop where
  idle : s.rules.Idle
  bounded : s.world.scene.worldSize = some (w, h)
  indexed : s.world.Indexed
  found : s.world.actor? uid = some a
  active : a.active = true
  enabled : a.physics.enabled = true

namespace Housed

variable (housed : Housed s w h uid a)
include housed

theorem of_figures (idle : s'.rules.Idle) (scene : s'.world.scene = s.world.scene)
    (figures : s'.world.figures = s.world.figures) : ∃ m, Housed s' w h uid (a.moveTo m) := by
  obtain ⟨m, found⟩ := World.actor?_of_figures figures housed.found
  exact ⟨m, idle, scene ▸ housed.bounded, World.indexed_of_figures figures housed.indexed, found,
    housed.active, housed.enabled⟩

/-- The body of an actor that fits has moved to a place between the bounds. -/
theorem moved_between (fits : a.Fits ⟨w, h⟩ axis) :
    ∃ b, s.moved.body? uid = some b ∧ b.startMotion = a.motion ∧
      axis.Between ⟨w, h⟩ a.half b.pos := by
  obtain ⟨b₀, found₀, mirrors, motion⟩ := started_body housed.indexed housed.found
  obtain ⟨others, moved⟩ := Physics.body?_integrate s.dt s.world.gravityEnabled found₀
  have bounds : s.started.bounds = some ⟨w, h⟩ := by
    show s.world.scene.worldSize.map _ = _
    rw [housed.bounded]
    rfl
  have half : b₀.half = a.half := mirrors.half
  have moves : (b₀.active && b₀.flags.enabled) = true := by
    rw [mirrors.active, mirrors.flags, housed.active, housed.enabled]
    rfl
  refine ⟨_, moved, (congrArg Body.startMotion (Physics.start_travel ..)).trans motion, ?_⟩
  rw [← half]
  refine Physics.between_travel bounds moves ?_
  rw [half]
  exact fits

/-- After the motion of a tick an actor that fits is inside, wherever it was before. -/
theorem inside_moved (fits : a.Fits ⟨w, h⟩ axis) : s.move.2.world.Holds uid ⟨w, h⟩ axis := by
  obtain ⟨b, body, -, between⟩ := housed.moved_between fits
  exact ⟨_, actor?_move housed.indexed housed.found body, between⟩

/-- An actor to which no motion is handed along an axis is not carried along it. -/
theorem carried_undisturbed {b : Body Rat} (body : s.moved.body? uid = some b)
    (undisturbed : Undisturbed s input uid axis) :
    ∃ m, (s.carried input).world.actor? uid = some (a.moveTo m) ∧
      axis.of (a.moveTo m).place = axis.of b.pos := by
  have first := actor?_move housed.indexed housed.found body
  have same : (s.ruled input).2.world = s.move.2.world := by
    rw [ruled_of_idle housed.idle]
    rfl
  have filed : (s.ruled input).2.world.Filed := same ▸ (move_indexed housed.indexed).filed
  rw [carried_world]
  by_cases visited : uid ∈ ((s.ruled input).2.world.inherited s.moved.motion).map Prod.fst
  · obtain ⟨⟨u, m⟩, mem, rfl⟩ := List.mem_map.1 visited
    have still := undisturbed.still m mem
    refine ⟨((Physics.place b a).shift m).motion, ?_, ?_⟩
    · rw [World.actor?_propagate filed mem, same, first, Option.map_some, carried_eq_shift]
      rfl
    · cases axis with
      | x => exact (congrArg (b.pos.x + ·) still).trans (add_zero _)
      | y => exact (congrArg (b.pos.y + ·) still).trans (add_zero _)
  · refine ⟨(Physics.place b a).motion, ?_, ?_⟩
    · rw [World.actor?_propagate_of_notMem filed visited, same, first]
      rfl
    · cases axis <;> rfl

/-- An undisturbed actor that fits is inside at the end of a tick, if it was inside at its start or
has not gone back there. -/
theorem inside_step (fits : a.Fits ⟨w, h⟩ axis) (ok : s.step input = (.ok report, s'))
    (undisturbed : Undisturbed s input uid axis)
    (inside : s.world.Holds uid ⟨w, h⟩ axis ∨ uid ∉ report.rolledBack) :
    s'.world.Holds uid ⟨w, h⟩ axis := by
  have passed := step_ok ok
  obtain ⟨b, body, start, between⟩ := housed.moved_between fits
  obtain ⟨m, second, place⟩ := housed.carried_undisturbed body undisturbed
  have indexed : (s.carried input).world.Indexed :=
    World.indexed_of_figures (figures_carried housed.idle input) housed.indexed
  have third : (s.resolving input).body? uid = some (b.refresh (a.moveTo m)) :=
    refreshed_body indexed second body
  obtain ⟨c, resolved, ends⟩ := Physics.body?_resolve_of_spared
    ((Physics.uids_sync indexed.distinct).symm ▸ indexed.distinct) third undisturbed.unshoved
  rw [resolving, ← passed.physics] at resolved
  rw [resolving, ← passed.rolledBack] at ends
  refine ⟨_, passed.actor? indexed second resolved, ?_⟩
  -- Its box is where the body is.
  suffices axis.Between ⟨w, h⟩ a.half c.pos from this
  rw [Axis.Between, ends]
  split
  · rename_i back
    have home : b.prevPos = a.place :=
      congrArg (fun m : Motion Rat => (⟨m.x, m.y⟩ : Vec Rat)) start
    obtain ⟨a', found', before⟩ := inside.resolve_right (not_not.2 back)
    obtain rfl := Option.some.inj (housed.found.symm.trans found')
    rw [Actor.Inside, ← home] at before
    exact before
  · rw [Axis.Between, ← place] at between
    exact between

theorem undisturbed_of_alone (alone : s.world.Alone uid) : Undisturbed s input uid axis := by
  constructor
  · intro m mem
    have same := figures_ruled housed.idle input
    obtain ⟨m', found⟩ := World.actor?_of_figures same housed.found
    have indexed := World.indexed_of_figures same housed.indexed
    have uids := indexed.distinct
    rw [← World.uids_attachments] at uids
    have link := (alone.of_figures same).rootLink indexed found
    obtain rfl : m = .zero := (World.inherited_values uids link _ mem).1 rfl
    cases axis <;> norm_num [Axis.of, Motion.zero]
  · intro m mem
    have same := figures_carried housed.idle input
    obtain ⟨m', found⟩ := World.actor?_of_figures same housed.found
    have indexed := World.indexed_of_figures same housed.indexed
    exact (alone.of_figures same).unshoved found indexed mem

end Housed

/-- In a run without rules an actor that fits along an axis is inside after the motion of every
tick. It is inside at the end of each tick in which it is undisturbed, if it was so at the start or
has not gone back there. So it always is if it starts inside and is never disturbed, which is so if
it is alone. -/
theorem inside_after_ticks {sc : Scene Rat} {roles : List (Role Rat)} {r : Registry Rat τ}
    {seed : UInt64} {t : ℕ → Simulation Rat τ} {inputs : ℕ → InputFrame Rat}
    {reports : ℕ → TickReport Rat} {n : ℕ}
    (valid : sc.validate = .ok ()) (bounded : sc.worldSize = some (w, h)) (unruled : sc.rules = [])
    (start : Simulation.new sc roles r seed = .ok (t 0))
    (ticks : ∀ i < n, (t i).step (inputs i) = (.ok (reports i), t (i + 1)))
    (found : (t 0).world.actor? uid = some a) (active : a.active = true)
    (enabled : a.physics.enabled = true) (fits : a.Fits ⟨w, h⟩ axis) :
    (∀ i < n, (t i).move.2.world.Holds uid ⟨w, h⟩ axis) ∧
    (∀ i < n, Undisturbed (t i) (inputs i) uid axis →
      (t i).world.Holds uid ⟨w, h⟩ axis ∨ uid ∉ (reports i).rolledBack →
        (t (i + 1)).world.Holds uid ⟨w, h⟩ axis) ∧
    ((t 0).world.Holds uid ⟨w, h⟩ axis → (∀ i < n, Undisturbed (t i) (inputs i) uid axis) →
      ∀ i ≤ n, (t i).world.Holds uid ⟨w, h⟩ axis) ∧
    ((t 0).world.Holds uid ⟨w, h⟩ axis → (t 0).world.Alone uid →
      ∀ i ≤ n, (t i).world.Holds uid ⟨w, h⟩ axis) := by
  have starts := new_ok start
  have first : Housed (t 0) w h uid a :=
    ⟨idle_of_new unruled start, starts.scene ▸ bounded, indexed_of_start valid start, found, active,
      enabled⟩
  have lives {i : ℕ} (le : i ≤ n) : ∃ m, Housed (t i) w h uid (a.moveTo m) := by
    obtain ⟨idle, scene, figures⟩ := idle_run first.idle ticks le
    exact first.of_figures idle scene figures
  have moved : ∀ i < n, (t i).move.2.world.Holds uid ⟨w, h⟩ axis := by
    intro i lt
    obtain ⟨m, housed⟩ := lives lt.le
    exact housed.inside_moved fits
  have tick : ∀ i < n, Undisturbed (t i) (inputs i) uid axis →
      (t i).world.Holds uid ⟨w, h⟩ axis ∨ uid ∉ (reports i).rolledBack →
        (t (i + 1)).world.Holds uid ⟨w, h⟩ axis := by
    intro i lt undisturbed inside
    obtain ⟨m, housed⟩ := lives lt.le
    exact housed.inside_step fits (ticks i lt) undisturbed inside
  have always (holds : (t 0).world.Holds uid ⟨w, h⟩ axis)
      (undisturbed : ∀ i < n, Undisturbed (t i) (inputs i) uid axis) :
      ∀ i ≤ n, (t i).world.Holds uid ⟨w, h⟩ axis := by
    intro i le
    induction i with
    | zero => exact holds
    | succ i ih => exact tick i le (undisturbed i le) (.inl (ih (Nat.le_of_succ_le le)))
  refine ⟨moved, tick, always, fun holds alone => always holds fun i lt => ?_⟩
  obtain ⟨m, housed⟩ := lives lt.le
  exact housed.undisturbed_of_alone (alone.of_figures (idle_run first.idle ticks lt.le).2.2)

/-! ### A walker at the wall -/

namespace Walk

/-- An actor of size 10 in a world of size 100. -/
def actor : Placement Rat :=
  { uid := "a", type := "t", x := 50, y := 50, width := some 10, height := some 10, layer := none
    blockMask := none, vx := 0, vy := 0, parent := none, sprite := none, active := true
    physics := none, fields := ∅ }

/-- The world with some actors. -/
def stage (actors : List (Placement Rat)) : Scene Rat :=
  { Scene.default with
    world := { WorldSettings.default with width := some 100, height := some 100 }
    templates := Table.ofList [("t", Template.default)]
    actors
    multiplayer := { Multiplayer.default with tickRate := 1 } }

/-- One actor walks to the wall, another one stands. -/
def scene : Scene Rat :=
  stage [{ actor with x := 90, vx := 10, blockMask := some 1 },
    { actor with uid := "b", blockMask := some 2 }]

/-- The walker is alone, and stops in front of the wall. -/
def works : Bool :=
  match Simulation.new scene [] Fall.registry 0 with
  | .error _ => false
  | .ok s => match s.step {} with
    | (.error _, _) => false
    | (.ok _, s') =>
      ((s.world.actor? "a").any fun a => a.active && a.physics.enabled &&
        decide (a.Fits ⟨100, 100⟩ .x) && decide (a.Inside ⟨100, 100⟩ .x)) &&
      decide (s.world.Alone "a") && (s'.world.placeOf "a").x == 95

end Walk

/-- A walker that is alone is still in the world after it has come to its end. -/
theorem walker_stops_at_the_wall : ∃ (t : ℕ → Simulation Rat Empty) (report : TickReport Rat),
    Simulation.new Walk.scene [] Fall.registry 0 = .ok (t 0) ∧
      (t 0).step {} = (.ok report, t 1) ∧ (t 0).world.Alone "a" ∧
      ((t 1).world.placeOf "a").x = 95 ∧ (t 1).world.Holds "a" ⟨100, 100⟩ .x := by
  have works : Walk.works = true := by cbv
  unfold Walk.works at works
  split at works
  · cases works
  rename_i s start
  split at works
  · cases works
  rename_i report s' step
  simp only [Bool.and_eq_true, Option.any_eq_true, decide_eq_true_eq, beq_iff_eq] at works
  obtain ⟨⟨⟨a, found, ⟨⟨active, enabled⟩, fits⟩, inside⟩, alone⟩, place⟩ := works
  let t (i : ℕ) : Simulation Rat Empty := [s].getD i s'
  let inputs (_ : ℕ) : InputFrame Rat := {}
  let reports (_ : ℕ) : TickReport Rat := report
  have ticks : ∀ i < 1, (t i).step (inputs i) = (.ok (reports i), t (i + 1)) := by
    intro i lt
    obtain rfl : i = 0 := by omega
    exact step
  have law := inside_after_ticks (by cbv) rfl rfl start ticks found active enabled fits
  exact ⟨t, report, start, step, alone, place, law.2.2.2 ⟨a, found, inside⟩ alone 1 le_rfl⟩

/-! ### Actors that leave the world -/

/-- In each run of a scene that starts with all actors in the world they stay there. -/
def Confined (sc : Scene Rat) : Prop :=
  ∀ (roles : List (Role Rat)) (r : Registry Rat Empty) (seed : UInt64)
    (t : ℕ → Simulation Rat Empty) (inputs : ℕ → InputFrame Rat) (reports : ℕ → TickReport Rat)
    (n : ℕ) (w h : Rat), sc.worldSize = some (w, h) →
    Simulation.new sc roles r seed = .ok (t 0) →
    (∀ i < n, (t i).step (inputs i) = (.ok (reports i), t (i + 1))) →
    (t 0).world.Contains ⟨w, h⟩ → ∀ i ≤ n, (t i).world.Contains ⟨w, h⟩

/-- An actor leaves the world in the first tick, and all were in it. -/
def leaves (sc : Scene Rat) (size : Vec Rat) (uid : String) : Bool :=
  match Simulation.new sc [] Fall.registry 0 with
  | .error _ => false
  | .ok s => match s.step {} with
    | (.error _, _) => false
    | (.ok _, s') =>
      (s.world.actors.all fun a => decide (a.Inside size .x) && decide (a.Inside size .y)) &&
      (s'.world.actor? uid).any fun a => a.active && a.physics.enabled &&
        decide (a.Fits size .x) && decide (a.Fits size .y) && !decide (a.Inside size .x)

theorem not_confined_of_leaves {sc : Scene Rat} (bounded : sc.worldSize = some (w, h))
    (works : leaves sc ⟨w, h⟩ uid = true) : ¬Confined sc := by
  intro confined
  unfold leaves at works
  split at works
  · cases works
  rename_i s start
  split at works
  · cases works
  rename_i report s' step
  simp only [Bool.and_eq_true, List.all_eq_true, Option.any_eq_true, Bool.not_eq_true',
    decide_eq_true_eq, decide_eq_false_iff_not] at works
  obtain ⟨before, a, found, ⟨⟨⟨active, enabled⟩, fitsX⟩, fitsY⟩, outside⟩ := works
  let t (i : ℕ) : Simulation Rat Empty := [s].getD i s'
  let inputs (_ : ℕ) : InputFrame Rat := {}
  let reports (_ : ℕ) : TickReport Rat := report
  have ticks : ∀ i < 1, (t i).step (inputs i) = (.ok (reports i), t (i + 1)) := by
    intro i lt
    obtain rfl : i = 0 := by omega
    exact step
  have contained : (t 0).world.Contains ⟨w, h⟩ := by
    intro u b foundB _ _ _ axis
    have inside := before b (World.live_of_actor? foundB)
    cases axis with
    | x => exact inside.1
    | y => exact inside.2
  have stays := confined [] Fall.registry 0 t inputs reports 1 w h bounded start ticks contained
  refine outside (stays 1 le_rfl uid a found active enabled (fun axis => ?_) .x)
  cases axis with
  | x => exact fitsX
  | y => exact fitsY

namespace Crowd

/-- Two actors that block each other, one on the other, at the left wall. -/
def scene : Scene Rat :=
  Walk.stage [{ Walk.actor with x := 5, blockMask := some 1 },
    { Walk.actor with uid := "b", x := 8, blockMask := some 1 }]

end Crowd

namespace Tow

/-- An actor that walks, and one at the right wall that is attached to it. -/
def scene : Scene Rat :=
  Walk.stage [{ Walk.actor with vx := 10 },
    { Walk.actor with uid := "b", x := 95, parent := some "a" }]

end Tow

/-- But a resolution may push an actor out of the world even where nothing is attached, and an actor
may be towed out of it even where nothing blocks. -/
theorem not_always_inside :
    (¬∀ sc : Scene Rat, sc.validate = .ok () → sc.rules = [] →
      (∀ p ∈ sc.actors, p.parent = none) → Confined sc) ∧
    ¬∀ sc : Scene Rat, sc.validate = .ok () → sc.rules = [] →
      (∀ p ∈ sc.actors, p.blockMask = none) → Confined sc := by
  constructor
  · intro all
    have works : leaves Crowd.scene ⟨100, 100⟩ "a" = true := by cbv
    exact not_confined_of_leaves rfl works (all Crowd.scene (by cbv) rfl (by decide))
  · intro all
    have works : leaves Tow.scene ⟨100, 100⟩ "b" = true := by cbv
    exact not_confined_of_leaves rfl works (all Tow.scene (by cbv) rfl (by decide))

end Simulation

end Playfield
