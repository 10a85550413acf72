import Playfield.Proofs.Body.Riding
import Playfield.Proofs.Simulation.Start
import Playfield.Proofs.Simulation.Tick

/-!
# How an attached actor drifts

An actor that is attached to a root inherits what the root moves, in place and in velocity. The
inherited velocity then moves it once more, by itself, in every later tick. So its place on the root
changes, at the velocity that the root has gained since the two last rested together.

* `World.Riding`: the carrier is a root, the rider is attached to it, and neither has a mask.
* `Act.Spares`: the operation leaves the rider alone and the carrier loose.
* `ride_tick`: the law of one tick, over exact rationals.
* `reference` is the velocity of the carrier at which nothing drifts. It changes only when the
  carrier is rolled back.
* `offset_after_ticks`: place and velocity of the rider on its carrier after any number of ticks,
  and when the place never changes.
-/

namespace Playfield

namespace Actor

variable {K : Type}

/-- The position. -/
def place (a : Actor K) : Vec K := ⟨a.x, a.y⟩

/-- The velocity. -/
def velocity (a : Actor K) : Vec K := ⟨a.vx, a.vy⟩

/-- The actor with another motion. -/
def moveTo (a : Actor K) (m : Motion K) : Actor K :=
  { a with x := m.x, y := m.y, vx := m.vx, vy := m.vy }

theorem moved_carried [Scalar K] (a : Actor K) (m : Motion K) :
    ∃ m', a.carried m = a.moveTo m' := by
  unfold carried
  split
  · exact ⟨a.motion, rfl⟩
  · exact ⟨(a.shift m).motion, rfl⟩

end Actor

namespace World

variable {K : Type}

/-- The position of a live actor. -/
def placeOf [Scalar K] (w : World K) (uid : String) : Vec K :=
  (w.actor? uid).elim .zero (·.place)

/-- The velocity of a live actor. -/
def velocityOf [Scalar K] (w : World K) (uid : String) : Vec K :=
  (w.actor? uid).elim .zero (·.velocity)

/-- The uid is that of an active actor. -/
def isActive (w : World K) (uid : String) : Bool := (w.actor? uid).any (·.active)

/-- The operation leaves the rider alone, and the carrier alive, without parent and without mask. -/
def Act.Spares (carrier rider : String) : Act K → Prop
  | .edit uid f => uid ≠ rider ∧ (∀ a, (f a).uid = a.uid) ∧
    (uid = carrier → ∀ a, (f a).parent = a.parent ∧ (f a).blockMask = a.blockMask)
  | .setField uid _ _ => uid ≠ rider
  | .destroy uid => uid ≠ rider ∧ uid ≠ carrier
  | _ => True

/-- The carrier is a root, the rider is attached to it, and neither has a mask. -/
structure Riding (w : World K) (carrier rider : String) (a b : Actor K) : Prop where
  indexed : w.Indexed
  carrier : w.actor? carrier = some a
  rider : w.actor? rider = some b
  loose : a.parent = none
  tied : b.parent = some a.uid
  carrierMask : a.blockMask = none
  riderMask : b.blockMask = none

variable {w w' : World K} {carrier rider : String} {a b : Actor K}

theorem Act.keepsUids_of_spares {act : Act K} (spares : act.Spares carrier rider) :
    act.KeepsUids := by
  cases act with
  | edit uid f => exact spares.2.1
  | _ => trivial

theorem Riding.parent_eq (riding : w.Riding carrier rider a b) : b.parent = some carrier := by
  rw [riding.tied, (riding.indexed.mem_of_actor? riding.carrier).2]

theorem Riding.ne (riding : w.Riding carrier rider a b) : carrier ≠ rider := by
  rintro rfl
  have : a = b := Option.some.inj (riding.carrier.symm.trans riding.rider)
  have := riding.tied
  rw [← ‹a = b›, riding.loose] at this
  cases this

/-- Bodies that follow the world are attached as its actors are. -/
theorem Riding.hitched [Scalar K] (riding : w.Riding carrier rider a b) (p : Physics K) :
    Pushing.Hitched (p.sync w).attachments carrier rider := by
  rw [Physics.attachments_sync riding.indexed.distinct]
  refine ⟨?_, ?_, ?_⟩
  · rw [uids_attachments]
    exact riding.indexed.distinct
  · exact riding.loose ▸ riding.indexed.link_of_actor? riding.carrier
  · exact riding.parent_eq ▸ riding.indexed.link_of_actor? riding.rider

/-- Where both are moved only, they still ride. -/
theorem Riding.of_moved {a' b' : Actor K} (riding : w.Riding carrier rider a b)
    (indexed : w'.Indexed)
    (foundA : w'.actor? carrier = some a') (foundB : w'.actor? rider = some b')
    (movedA : ∃ m, a' = a.moveTo m) (movedB : ∃ m, b' = b.moveTo m) :
    w'.Riding carrier rider a' b' := by
  obtain ⟨m, rfl⟩ := movedA
  obtain ⟨m', rfl⟩ := movedB
  exact ⟨indexed, foundA, foundB, riding.loose, riding.tied, riding.carrierMask, riding.riderMask⟩

/-- A sparing operation leaves a ride as it is, up to a new state of the carrier. -/
theorem Riding.effect {act : Act K} (riding : w.Riding carrier rider a b)
    (spares : act.Spares carrier rider) (effect : act.Effect w w') :
    ∃ a', w'.Riding carrier rider a' b := by
  have indexed := riding.indexed
  have indexed' := effect.indexed (Act.keepsUids_of_spares spares) indexed
  have ride {a' : Actor K} (foundA : w'.actor? carrier = some a')
      (foundB : w'.actor? rider = some b) (uid : a'.uid = a.uid) (parent : a'.parent = a.parent)
      (mask : a'.blockMask = a.blockMask) : ∃ a', w'.Riding carrier rider a' b :=
    ⟨a', indexed', foundA, foundB, parent.trans riding.loose, uid ▸ riding.tied,
      mask.trans riding.carrierMask, riding.riderMask⟩
  -- Where neither is edited, it is enough that both are still live.
  have stay (live : ∀ c ∈ w.actors, c.uid = carrier ∨ c.uid = rider → c ∈ w'.actors) :
      ∃ a', w'.Riding carrier rider a' b := by
    obtain ⟨liveA, uidA⟩ := indexed.mem_of_actor? riding.carrier
    obtain ⟨liveB, uidB⟩ := indexed.mem_of_actor? riding.rider
    exact ride (indexed'.actor?_eq_some_iff.2 ⟨live a liveA (.inl uidA), uidA⟩)
      (indexed'.actor?_eq_some_iff.2 ⟨live b liveB (.inr uidB), uidB⟩) rfl rfl rfl
  cases effect with
  | none _ actors _ => exact stay fun c live _ => actors ▸ live
  | edit uid f edited =>
    obtain ⟨other, keeps, loose⟩ := spares
    subst edited
    have foundA := indexed.filed.actor?_modifyActor uid f carrier
    have foundB := indexed.filed.actor?_modifyActor uid f rider
    rw [riding.rider, Option.map_some, if_neg other.symm] at foundB
    rw [riding.carrier, Option.map_some] at foundA
    by_cases hit : carrier = uid
    · rw [if_pos hit] at foundA
      obtain ⟨parent, mask⟩ := loose hit.symm a
      exact ride foundA foundB (keeps a) parent mask
    · rw [if_neg hit] at foundA
      exact ride foundA foundB rfl rfl rfl
  | setField uid name v v' edited =>
    subst edited
    have found := indexed.filed.actor?_modifyActor uid fun a =>
      { a with fields := a.fields.insert name v' }
    have foundA := found carrier
    have foundB := found rider
    rw [riding.rider, Option.map_some, if_neg (Ne.symm spares)] at foundB
    rw [riding.carrier, Option.map_some] at foundA
    refine ride foundA foundB ?_ ?_ ?_ <;> split <;> rfl
  | spawn r c free actors _ => exact stay fun c live _ => actors ▸ List.mem_append_left _ live
  | destroy found actors _ =>
    refine stay fun c live known => actors ▸ indexed.mem_eraseIdx found live ?_
    rcases known with same | same
    · exact same ▸ spares.2.symm
    · exact same ▸ spares.1.symm

theorem Riding.acted [Scalar K] (riding : w.Riding carrier rider a b)
    (acted : Acted (Act.Spares carrier rider) w w') : ∃ a', w'.Riding carrier rider a' b :=
  acted.induction (motive := fun v => ∃ a', v.Riding carrier rider a' b)
    (fun v act spares ⟨_, riding⟩ => riding.effect spares (act.effect v)) ⟨a, riding⟩

end World

/-! ### Free bodies -/

namespace Body

theorem stepAxis_place {b : Body Rat} {others : List (Body Rat)} {along : Axis} {dt : Rat}
    (maskless : b.blockMask = none) (axis : Axis) :
    axis.of (b.stepAxis none others along dt).pos =
      axis.of b.pos + if axis = along then along.of b.vel * dt else 0 := by
  rw [stepAxis_of_free maskless]
  split
  · rename_i still
    have : along.of b.vel * dt = 0 := by
      have := eq_of_beq still
      norm_num at this
      simpa using this
    simp [this]
  · exact Axis.of_set_add axis along b.pos _

theorem stepAxis_vel {b : Body Rat} {others : List (Body Rat)} {along : Axis} {dt : Rat}
    (maskless : b.blockMask = none) : (b.stepAxis none others along dt).vel = b.vel := by
  rw [stepAxis_of_free maskless]
  split <;> rfl

end Body

namespace Simulation

variable {τ : Type} {s s' : Simulation Rat τ} {carrier rider : String} {a b : Actor Rat}

section Start

variable {K : Type} [Scalar K] {t : Simulation K τ} {uid : String} {c : Actor K}

/-- At the start of a tick each body is where its actor is. -/
theorem started_body (indexed : t.world.Indexed)
    (found : t.world.actor? uid = some c) :
    ∃ b, t.started.body? uid = some b ∧ b.Mirrors c ∧ b.startMotion = c.motion := by
  refine ⟨(Physics.continued t.physics.bodies c).beginTick, ?_, ?_, ?_⟩
  · rw [started, Physics.body?_beginTick, Physics.body?_sync indexed, found]
    rfl
  · exact { Physics.continued_mirrors t.physics.bodies c with }
  · have mirrors := Physics.continued_mirrors t.physics.bodies c
    rw [Body.startMotion, Body.beginTick, mirrors.pos, mirrors.vel]
    rfl

/-- After its motion a body still knows where its actor was. -/
theorem moved_body (indexed : t.world.Indexed) (found : t.world.actor? uid = some c) :
    ∃ b, t.moved.body? uid = some b ∧ b.startMotion = c.motion := by
  obtain ⟨b, foundB, _, motion⟩ := started_body indexed found
  obtain ⟨others, moved⟩ := Physics.body?_integrate t.dt t.world.gravityEnabled foundB
  refine ⟨_, moved, ?_⟩
  exact (congrArg Body.startMotion (Physics.start_travel ..)).trans motion

/-- The body that is resolved is the one that has moved, where its actor has come to. -/
theorem refreshed_body {w : World K} {b : Body K} (indexed : w.Indexed)
    (found : w.actor? uid = some c) (body : t.moved.body? uid = some b) :
    (t.moved.sync w).body? uid = some (b.refresh c) := by
  have same := (indexed.mem_of_actor? found).2
  rw [Physics.body?_sync indexed, found, Option.map_some,
    Physics.continued_of_body (same.symm ▸ body)]

end Start

/-- Where nothing stops it, the rider first moves at its own velocity. -/
theorem moved_rider (boundless : s.world.scene.worldSize = none)
    (unmapped : s.world.scene.map = none) (riding : s.world.Riding carrier rider a b)
    (enabled : b.physics.enabled = true) (inert : b.physics.dynamic = false) :
    ∃ b', s.moved.body? rider = some b' ∧ b'.startMotion = b.motion ∧ b'.vel = b.velocity ∧
      ∀ axis : Axis, axis.of b'.pos =
        axis.of b.place + if b.active then axis.of b.velocity * s.dt else 0 := by
  obtain ⟨b₀, found, mirrors, motion⟩ := started_body riding.indexed riding.rider
  obtain ⟨others, moved⟩ := Physics.body?_integrate s.dt s.world.gravityEnabled found
  have noMap : s.started.map = none := unmapped
  have noBounds : s.started.bounds = none := by
    show s.world.scene.worldSize.map _ = none
    rw [boundless]
    rfl
  have mask : b₀.blockMask = none := mirrors.blockMask.trans riding.riderMask
  refine ⟨_, moved, (congrArg Body.startMotion (Physics.start_travel ..)).trans motion, ?_⟩
  cases active : b.active with
  | true =>
    have moves : (b₀.active && b₀.flags.enabled) = true := by
      rw [mirrors.active, mirrors.flags, active, enabled]
      rfl
    have mask' : (b₀.stepAxis none others .x s.dt).blockMask = none :=
      (Body.blockMask_eq_of_start Body.start_stepAxis).trans mask
    rw [Physics.travel_of_free noMap noBounds (mirrors.flags ▸ inert) moves]
    refine ⟨?_, fun axis => ?_⟩
    · rw [Body.stepAxis_vel mask', Body.stepAxis_vel mask, mirrors.vel]
      rfl
    · rw [Body.stepAxis_place mask', Body.stepAxis_place mask, Body.stepAxis_vel mask, mirrors.pos,
        mirrors.vel]
      cases axis <;> simp [Axis.of, Actor.place, Actor.velocity]
  | false =>
    have still : (b₀.active && b₀.flags.enabled) = false := by
      rw [mirrors.active, active]
      rfl
    rw [show s.started.travel s.dt s.world.gravityEnabled others b₀ = b₀ by
      simp [Physics.travel, still]]
    refine ⟨mirrors.vel, fun axis => ?_⟩
    rw [mirrors.pos]
    simp [Actor.place]

/-- Over the rationals being carried is being shifted. -/
theorem carried_eq_shift (a : Actor Rat) (m : Motion Rat) : a.carried m = a.shift m := by
  unfold Actor.carried
  split
  · rename_i zero
    simp only [Motion.isZero, Bool.and_eq_true] at zero
    obtain ⟨⟨⟨x, y⟩, vx⟩, vy⟩ := zero
    have x' := eq_of_beq x
    have y' := eq_of_beq y
    have vx' := eq_of_beq vx
    have vy' := eq_of_beq vy
    norm_num at x' y' vx' vy'
    simp [Actor.shift, x', y', vx', vy']
  · rfl

/-- Carried by what its carrier has moved, a rider keeps its place on it and the difference of their
velocities. -/
theorem offset_carried (a c d : Actor Rat) (axis : Axis) :
    let d' := d.carried ((c.motion.sub a.motion).add .zero)
    axis.of d'.place - axis.of (c.carried .zero).place = axis.of d.place - axis.of a.place ∧
      axis.of d'.velocity - axis.of (c.carried .zero).velocity =
        axis.of d.velocity - axis.of a.velocity := by
  dsimp only
  rw [carried_eq_shift, carried_eq_shift]
  cases axis <;>
    simp only [Axis.of, Actor.place, Actor.velocity, Actor.shift, Actor.motion, Motion.add,
      Motion.sub, Motion.zero] <;>
    norm_num <;> constructor <;> ring

/-- Along attachments the carrier is carried by nothing, and the rider by what the carrier has
moved. -/
theorem riding_carried {c d : Actor Rat} {m : Motion Rat} (input : InputFrame Rat)
    (riding : (s.ruled input).2.world.Riding carrier rider c d)
    (own : (s.ruled input).2.world.ownMotion s.moved.motion carrier = m) :
    (s.carried input).world.Riding carrier rider (c.carried .zero) (d.carried (m.add .zero)) := by
  have distinct := riding.indexed.distinct
  rw [← World.uids_attachments] at distinct
  have linkA := riding.indexed.link_of_actor? riding.carrier
  have linkB := riding.indexed.link_of_actor? riding.rider
  rw [riding.loose] at linkA
  rw [riding.parent_eq] at linkB
  have filed := riding.indexed.filed
  have foundA :=
    World.actor?_propagate filed (World.inherited_of_root s.moved.motion distinct linkA)
  have foundB :=
    World.actor?_propagate filed (World.inherited_of_child s.moved.motion distinct linkA linkB)
  rw [riding.carrier, Option.map_some] at foundA
  rw [riding.rider, Option.map_some, own] at foundB
  exact riding.of_moved (carried_indexed input riding.indexed) foundA foundB
    (Actor.moved_carried _ _) (Actor.moved_carried _ _)

/-- When attached actors have been carried along, the rider has moved on its carrier by itself, and
their velocities differ as before. -/
theorem carried_ride {input : InputFrame Rat} (boundless : s.world.scene.worldSize = none)
    (unmapped : s.world.scene.map = none) (riding : s.world.Riding carrier rider a b)
    (enabled : b.physics.enabled = true) (inert : b.physics.dynamic = false)
    (acted : World.Acted (World.Act.Spares carrier rider) s.move.2.world
      (s.ruled input).2.world) :
    ∃ a' b', (s.carried input).world.Riding carrier rider a' b' ∧ (∃ m, b' = b.moveTo m) ∧
      (∀ axis : Axis, axis.of b'.place - axis.of a'.place =
        axis.of b.place - axis.of a.place +
          if b.active then axis.of b.velocity * s.dt else 0) ∧
      ∀ axis : Axis, axis.of b'.velocity - axis.of a'.velocity =
        axis.of b.velocity - axis.of a.velocity := by
  obtain ⟨p, foundP, motionP⟩ := moved_body riding.indexed riding.carrier
  obtain ⟨c, foundC, motionC, velC, placeC⟩ :=
    moved_rider boundless unmapped riding enabled inert
  -- The motion of the bodies.
  have first : s.move.2.world.Riding carrier rider (Physics.place p a) (Physics.place c b) :=
    riding.of_moved (move_indexed riding.indexed)
      (actor?_move riding.indexed riding.carrier foundP)
      (actor?_move riding.indexed riding.rider foundC)
      ⟨⟨p.pos.x, p.pos.y, p.vel.x, p.vel.y⟩, rfl⟩ ⟨⟨c.pos.x, c.pos.y, c.vel.x, c.vel.y⟩, rfl⟩
  -- The calls of the rules.
  obtain ⟨a₂, second⟩ := first.acted acted
  -- The motion along attachments.
  have own : (s.ruled input).2.world.ownMotion s.moved.motion carrier = a₂.motion.sub a.motion := by
    rw [World.ownMotion, second.indexed.find?_eq, second.carrier, Physics.get?_motion, foundP,
      Option.map_some, motionP]
  obtain ⟨m, moved⟩ := Actor.moved_carried (Physics.place c b) ((a₂.motion.sub a.motion).add .zero)
  refine ⟨_, _, riding_carried input second own, ⟨m, moved⟩, fun axis => ?_, fun axis => ?_⟩
  · have place : (Physics.place c b).place = c.pos := rfl
    rw [(offset_carried a a₂ (Physics.place c b) axis).1, place, placeC]
    ring
  · have velocity : (Physics.place c b).velocity = c.vel := rfl
    rw [(offset_carried a a₂ (Physics.place c b) axis).2, velocity, velC]

theorem prevPos_of_motion {p : Body Rat} (motion : p.startMotion = a.motion) :
    p.prevPos = a.place :=
  congrArg (fun m : Motion Rat => Vec.mk m.x m.y) motion

/-- What a tick does to a ride. -/
structure RideTick (s s' : Simulation Rat τ) (report : TickReport Rat) (carrier : String)
    (a b a' b' : Actor Rat) : Prop where
  scene : s'.world.scene = s.world.scene
  dt : s'.dt = s.dt
  moved : ∃ m, b' = b.moveTo m
  back : carrier ∈ report.rolledBack → a'.velocity = .zero ∧ b'.velocity = .zero ∧
    ∀ axis : Axis, axis.of b'.place - axis.of a'.place = axis.of b.place - axis.of a.place
  ahead : carrier ∉ report.rolledBack → ∀ axis : Axis,
    axis.of b'.velocity - axis.of a'.velocity = axis.of b.velocity - axis.of a.velocity ∧
    axis.of b'.place - axis.of a'.place =
      axis.of b.place - axis.of a.place + if b.active then axis.of b.velocity * s.dt else 0

/-- A tick takes both back to where they were, at rest, or moves the rider on its carrier by its own
velocity and leaves the difference of their velocities. -/
theorem ride_tick {report : TickReport Rat} (boundless : s.world.scene.worldSize = none)
    (unmapped : s.world.scene.map = none) (riding : s.world.Riding carrier rider a b)
    (enabled : b.physics.enabled = true) (inert : b.physics.dynamic = false)
    (tick : Ticked (World.Act.Spares carrier rider) s report s') :
    ∃ a' b', s'.world.Riding carrier rider a' b' ∧ RideTick s s' report carrier a b a' b' := by
  have scene := tick.scene
  obtain ⟨input, ok, acted⟩ := tick
  have passed := step_ok ok
  obtain ⟨a₃, b₃, third, moved, place, velocity⟩ :=
    carried_ride boundless unmapped riding enabled inert acted
  obtain ⟨p, foundP, motionP⟩ := moved_body riding.indexed riding.carrier
  obtain ⟨c, foundC, motionC⟩ := moved_body riding.indexed riding.rider
  -- The bodies that are resolved, and what a resolution does to the two.
  obtain ⟨a₄, b₄, resolvedA, resolvedB, back, ahead⟩ :=
    Physics.rides_resolve (third.hitched s.moved)
      (refreshed_body third.indexed third.carrier foundP)
      (refreshed_body third.indexed third.rider foundC) third.carrierMask third.riderMask
  rw [← passed.physics] at resolvedA resolvedB
  rw [← passed.rolledBack] at back ahead
  have last : s'.world.Riding carrier rider (Physics.place a₄ a₃) (Physics.place b₄ b₃) :=
    third.of_moved (passed.indexed third.indexed)
      (passed.actor? third.indexed third.carrier resolvedA)
      (passed.actor? third.indexed third.rider resolvedB)
      ⟨⟨a₄.pos.x, a₄.pos.y, a₄.vel.x, a₄.vel.y⟩, rfl⟩
      ⟨⟨b₄.pos.x, b₄.pos.y, b₄.vel.x, b₄.vel.y⟩, rfl⟩
  refine ⟨_, _, last, scene, passed.keeps.dt, ?_, fun h => ?_, fun h axis => ?_⟩
  · obtain ⟨m, rfl⟩ := moved
    exact ⟨⟨b₄.pos.x, b₄.pos.y, b₄.vel.x, b₄.vel.y⟩, rfl⟩
  · obtain ⟨velA, velB, home⟩ := back h
    refine ⟨velA, velB, fun axis => (home axis).trans ?_⟩
    rw [← prevPos_of_motion motionP, ← prevPos_of_motion motionC]
    rfl
  · obtain ⟨velA, velB, far⟩ := ahead h
    refine ⟨?_, (far axis).trans (place axis)⟩
    rw [← velocity axis]
    show axis.of b₄.vel - axis.of a₄.vel = _
    rw [velA, velB]
    rfl

/-! ### A run -/

/-- Where the rider is, seen from its carrier. -/
def offset (w : World Rat) (carrier rider : String) (axis : Axis) : Rat :=
  axis.of (w.placeOf rider) - axis.of (w.placeOf carrier)

/-- The velocity of the carrier at which nothing drifts: that of the start, and none since it was
rolled back. -/
def reference (report : ℕ → TickReport Rat) (carrier : String) (start : Vec Rat) : ℕ → Vec Rat
  | 0 => start
  | i + 1 => if carrier ∈ (report i).rolledBack then .zero else reference report carrier start i

/-- How fast the rider drifts on its carrier in a tick of a run. -/
def drift (s : ℕ → Simulation Rat τ) (report : ℕ → TickReport Rat) (carrier rider : String)
    (i : ℕ) (axis : Axis) : Rat :=
  if carrier ∉ (report i).rolledBack ∧ (s 0).world.isActive rider then
    axis.of ((s i).world.velocityOf carrier) -
      axis.of (reference report carrier ((s 0).world.velocityOf carrier) i)
  else 0

section Run

variable {sc : Scene Rat} {t : ℕ → Simulation Rat τ} {report : ℕ → TickReport Rat} {n : ℕ}
  (boundless : sc.worldSize = none) (unmapped : sc.map = none)
  (scene : (t 0).world.scene = sc) (riding : (t 0).world.Riding carrier rider a b)
  (enabled : b.physics.enabled = true) (inert : b.physics.dynamic = false)
  (rest : b.velocity = .zero)
  (ticks : ∀ i < n, Ticked (World.Act.Spares carrier rider) (t i) (report i) (t (i + 1)))
include boundless unmapped scene riding enabled inert rest ticks

/-- At every time of a run the rider has the velocity of its carrier, less the reference. -/
theorem ride_run {i : ℕ} (le : i ≤ n) :
    (t i).world.scene = sc ∧ (t i).dt = (t 0).dt ∧ ∃ a' b',
      (t i).world.Riding carrier rider a' b' ∧ (∃ m, b' = b.moveTo m) ∧ ∀ axis : Axis,
        axis.of b'.velocity =
          axis.of a'.velocity - axis.of (reference report carrier a.velocity i) := by
  induction i with
  | zero =>
    refine ⟨scene, rfl, a, b, riding, ⟨b.motion, rfl⟩, fun axis => ?_⟩
    rw [rest, reference, sub_self]
    cases axis <;> simp [Axis.of, Vec.zero] <;> norm_num
  | succ i ih =>
    obtain ⟨scene', dt', a', b', riding', ⟨m, rfl⟩, velocity⟩ := ih (Nat.le_of_succ_le le)
    obtain ⟨a'', b'', riding'', tick⟩ := ride_tick (scene'.symm ▸ boundless)
      (scene'.symm ▸ unmapped) riding' enabled inert (ticks i le)
    obtain ⟨m', moved⟩ := tick.moved
    refine ⟨tick.scene.trans scene', tick.dt.trans dt', a'', b'', riding'', ⟨m', moved⟩,
      fun axis => ?_⟩
    by_cases back : carrier ∈ (report i).rolledBack
    · obtain ⟨velA, velB, _⟩ := tick.back back
      rw [reference, if_pos back, velA, velB]
      cases axis <;> simp [Axis.of, Vec.zero] <;> norm_num
    · have same := (tick.ahead back axis).1
      have before := velocity axis
      rw [reference, if_neg back]
      linear_combination same + before

/-- In one tick of a run the rider drifts for the length of the tick. -/
theorem offset_tick {i : ℕ} (lt : i < n) (axis : Axis) :
    offset (t (i + 1)).world carrier rider axis =
      offset (t i).world carrier rider axis + (t 0).dt * drift t report carrier rider i axis := by
  obtain ⟨scene', dt', a', b', riding', ⟨m, rfl⟩, velocity⟩ :=
    ride_run boundless unmapped scene riding enabled inert rest ticks lt.le
  obtain ⟨a'', b'', riding'', tick⟩ := ride_tick (scene'.symm ▸ boundless)
    (scene'.symm ▸ unmapped) riding' enabled inert (ticks i lt)
  have active : (t 0).world.isActive rider = b.active := by
    rw [World.isActive, riding.rider]
    rfl
  have start : (t 0).world.velocityOf carrier = a.velocity := by
    rw [World.velocityOf, riding.carrier]
    rfl
  rw [offset, offset, drift, World.placeOf, World.placeOf, World.placeOf, World.placeOf,
    World.velocityOf, riding'.carrier, riding'.rider, riding''.carrier, riding''.rider, active,
    start]
  simp only [Option.elim_some]
  by_cases back : carrier ∈ (report i).rolledBack
  · rw [if_neg (fun h => h.1 back), (tick.back back).2.2 axis, mul_zero, add_zero]
  · rw [(tick.ahead back axis).2, velocity axis, dt']
    have same : (b.moveTo m).active = b.active := rfl
    rw [same]
    by_cases on : b.active = true
    · rw [if_pos on, if_pos ⟨back, on⟩, mul_comm]
    · rw [if_neg on, if_neg (fun h => on h.2), mul_zero]

theorem offset_sum {i : ℕ} (le : i ≤ n) (axis : Axis) :
    offset (t i).world carrier rider axis = offset (t 0).world carrier rider axis +
      (t 0).dt * ∑ j ∈ Finset.range i, drift t report carrier rider j axis := by
  induction i with
  | zero => rw [Finset.sum_range_zero, mul_zero, add_zero]
  | succ i ih =>
    rw [offset_tick boundless unmapped scene riding enabled inert rest ticks le axis,
      ih (Nat.le_of_succ_le le), Finset.sum_range_succ, mul_add, add_assoc]

end Run

/-- In a scene without map and bounds, let an actor at rest be attached to a root, both without
mask, and let rules leave it alone. Then at every time it has the velocity of its carrier less the
reference, and its place on the carrier is the first one and what it has drifted since. That place
never changes just if nothing drifts in any tick: the carrier starts the tick at the reference
velocity or is rolled back in it, or the attached actor is inactive. -/
theorem offset_after_ticks {sc : Scene Rat} {roles : List (Role Rat)} {r : Registry Rat τ}
    {seed : UInt64} {t : ℕ → Simulation Rat τ} {report : ℕ → TickReport Rat} {n : ℕ}
    (valid : sc.validate = .ok ()) (unmapped : sc.map = none) (boundless : sc.worldSize = none)
    (start : Simulation.new sc roles r seed = .ok (t 0))
    (foundA : (t 0).world.actor? carrier = some a) (loose : a.parent = none)
    (carrierMask : a.blockMask = none)
    (foundB : (t 0).world.actor? rider = some b) (tied : b.parent = some carrier)
    (riderMask : b.blockMask = none) (enabled : b.physics.enabled = true)
    (inert : b.physics.dynamic = false) (rest : b.velocity = .zero)
    (ticks : ∀ i < n, Ticked (World.Act.Spares carrier rider) (t i) (report i) (t (i + 1))) :
    (∀ i ≤ n, ((t i).world.actor? carrier).isSome ∧ ((t i).world.actor? rider).isSome ∧
      ∀ axis : Axis, axis.of ((t i).world.velocityOf rider) =
          axis.of ((t i).world.velocityOf carrier) -
            axis.of (reference report carrier ((t 0).world.velocityOf carrier) i) ∧
        offset (t i).world carrier rider axis = offset (t 0).world carrier rider axis +
          (t 0).dt * ∑ j ∈ Finset.range i, drift t report carrier rider j axis) ∧
      ((∀ i ≤ n, ∀ axis : Axis,
          offset (t i).world carrier rider axis = offset (t 0).world carrier rider axis) ↔
        ∀ i < n, ∀ axis : Axis, drift t report carrier rider i axis = 0) := by
  have starts := new_ok start
  have indexed := indexed_of_start valid start
  have uidA := (indexed.mem_of_actor? foundA).2
  have riding : (t 0).world.Riding carrier rider a b :=
    ⟨indexed, foundA, foundB, loose, uidA ▸ tied, carrierMask, riderMask⟩
  have length : (t 0).dt ≠ 0 := by
    have rate := Scene.tickRate_ne_zero_of_validate valid
    rw [starts.dt]
    exact div_ne_zero (by norm_num) (Int.cast_ne_zero.2 (Int.natCast_ne_zero.2 rate))
  have sums : ∀ i ≤ n, ∀ axis : Axis, offset (t i).world carrier rider axis =
      offset (t 0).world carrier rider axis +
        (t 0).dt * ∑ j ∈ Finset.range i, drift t report carrier rider j axis :=
    fun i le => offset_sum boundless unmapped starts.scene riding enabled inert rest ticks le
  refine ⟨fun i le => ?_, fun rigid i lt axis => ?_, fun still i le axis => ?_⟩
  · obtain ⟨_, _, a', b', riding', _, velocity⟩ :=
      ride_run boundless unmapped starts.scene riding enabled inert rest ticks le
    refine ⟨?_, ?_, fun axis => ⟨?_, sums i le axis⟩⟩
    · rw [riding'.carrier]
      rfl
    · rw [riding'.rider]
      rfl
    · rw [World.velocityOf, World.velocityOf, World.velocityOf, foundA, riding'.carrier,
        riding'.rider]
      exact velocity axis
  · have moves :=
      offset_tick boundless unmapped starts.scene riding enabled inert rest ticks lt axis
    rw [rigid (i + 1) lt axis, rigid i lt.le axis] at moves
    have : (t 0).dt * drift t report carrier rider i axis = 0 := by linear_combination -moves
    exact (mul_eq_zero.1 this).resolve_left length
  · rw [sums i le axis, Finset.sum_eq_zero, mul_zero, add_zero]
    exact fun j mem => still j (lt_of_lt_of_le (Finset.mem_range.1 mem) le) axis

/-! ### A carrier that falls -/

namespace Fall

/-- A root that falls, and an actor attached to it. -/
def scene : Scene Rat :=
  let actor : Placement Rat :=
    { uid := "p", type := "t", x := 0, y := 0, width := none, height := none, layer := none
      blockMask := none, vx := 0, vy := 0, parent := none, sprite := none, active := true
      physics := some { dynamic := true }, fields := ∅ }
  { Scene.default with
    world := { WorldSettings.default with gravity := 1 }
    templates := Table.ofList [("t", Template.default)]
    actors := [actor, { actor with uid := "c", y := 50, parent := some "p", physics := none }]
    multiplayer := { Multiplayer.default with tickRate := 1 } }

/-- No functions. -/
def registry : Registry Rat Empty := { resume := fun t => nomatch t }

theorem registry_respects (R : World Rat → World Rat → Prop) : registry.Respects R where
  action _ _ found := by cases found
  resume t := nomatch t

theorem accepted : (Simulation.new scene [] registry 0).toOption.isSome = true := by cbv

/-- The simulation of the scene. -/
def start : Simulation Rat Empty := (Simulation.new scene [] registry 0).toOption.get accepted

/-- The simulation after some ticks. -/
def after : ℕ → Simulation Rat Empty
  | 0 => start
  | n + 1 => ((after n).step {}).2

theorem starts : Simulation.new scene [] registry 0 = .ok (after 0) :=
  eq_ok_of_toOption (Option.some_get accepted).symm

/-- What is seen of the scene and of two ticks. -/
structure Seen : Prop where
  valid : scene.validate = .ok ()
  carrier : ((after 0).world.actor? "p").map (fun a => (a.parent, a.blockMask)) = some (none, none)
  rider : ((after 0).world.actor? "c").map
    (fun b => (b.parent, b.blockMask, b.physics, b.active, b.velocity)) =
      some (some "p", none, {}, true, .zero)
  velocity_start : ((after 0).world.velocityOf "p").y = 0
  offset_start : offset (after 0).world "p" "c" .y = 50
  dt_start : (after 0).dt = 1
  ahead_first : ((after 0).step {}).1.toOption.map TickReport.rolledBack = some []
  velocity_first : ((after 1).world.velocityOf "p").y = 1
  ahead_second : ((after 1).step {}).1.toOption.map TickReport.rolledBack = some []
  offset_second : offset (after 2).world "p" "c" .y = 51

theorem seen : Seen where
  valid := by cbv
  carrier := by cbv
  rider := by cbv
  velocity_start := by cbv
  offset_start := by cbv
  dt_start := by cbv
  ahead_first := by cbv
  velocity_first := by cbv
  ahead_second := by cbv
  offset_second := by cbv

theorem exists_carrier :
    ∃ a, (after 0).world.actor? "p" = some a ∧ a.parent = none ∧ a.blockMask = none := by
  obtain ⟨a, found, facts⟩ := Option.map_eq_some_iff.1 seen.carrier
  rw [Prod.mk.injEq] at facts
  exact ⟨a, found, facts⟩

theorem exists_rider : ∃ b, (after 0).world.actor? "c" = some b ∧ b.parent = some "p" ∧
    b.blockMask = none ∧ b.physics = {} ∧ b.active = true ∧ b.velocity = .zero := by
  obtain ⟨b, found, facts⟩ := Option.map_eq_some_iff.1 seen.rider
  simp only [Prod.mk.injEq] at facts
  exact ⟨b, found, facts⟩

/-- The ticks succeed, and send nobody back. -/
theorem exists_report {i : ℕ} (lt : i < 2) :
    ∃ report, (after i).step {} = (.ok report, after (i + 1)) ∧ report.rolledBack = [] := by
  have ahead : ((after i).step {}).1.toOption.map TickReport.rolledBack = some [] := by
    obtain rfl | rfl : i = 0 ∨ i = 1 := by omega
    · exact seen.ahead_first
    · exact seen.ahead_second
  obtain ⟨report, ok, ahead⟩ := Option.map_eq_some_iff.1 ahead
  exact ⟨report, Prod.ext (eq_ok_of_toOption ok) rfl, ahead⟩

theorem exists_ticks : ∃ report : ℕ → TickReport Rat, ∀ i < 2,
    Ticked (World.Act.Spares "p" "c") (after i) (report i) (after (i + 1)) ∧
      (report i).rolledBack = [] := by
  obtain ⟨r₀, first, ahead₀⟩ := exists_report (i := 0) (by omega)
  obtain ⟨r₁, second, ahead₁⟩ := exists_report (i := 1) (by omega)
  have respects : (after 0).rules.registry.Respects _ := (new_ok starts).registry ▸
    registry_respects (World.Acted (World.Act.Spares "p" "c"))
  have respects' : (after 1).rules.registry.Respects _ :=
    (step_ok first).keeps.registry.symm ▸ respects
  refine ⟨fun i => [r₀].getD i r₁, fun i lt => ?_⟩
  obtain rfl | rfl : i = 0 ∨ i = 1 := by omega
  · exact ⟨ticked_of_respects respects first, ahead₀⟩
  · exact ⟨ticked_of_respects respects' second, ahead₁⟩

end Fall

/-- Two ticks of a falling root: the law gives how far the attached actor drifts. -/
theorem falling_root_is_overtaken : ∃ (t : ℕ → Simulation Rat Empty) (report : ℕ → TickReport Rat),
    Simulation.new Fall.scene [] Fall.registry 0 = .ok (t 0) ∧
      (∀ i < 2, Ticked (World.Act.Spares "p" "c") (t i) (report i) (t (i + 1))) ∧
      offset (t 0).world "p" "c" .y = 50 ∧ offset (t 2).world "p" "c" .y = 51 ∧
      ((t 2).world.velocityOf "c").y = ((t 2).world.velocityOf "p").y := by
  obtain ⟨a, foundA, loose, maskA⟩ := Fall.exists_carrier
  obtain ⟨b, foundB, tied, maskB, flags, on, rest⟩ := Fall.exists_rider
  obtain ⟨report, ticks⟩ := Fall.exists_ticks
  have active : (Fall.after 0).world.isActive "c" = true := by
    rw [World.isActive, foundB]
    exact on
  have seen := Fall.seen
  obtain ⟨-, -, law⟩ := (offset_after_ticks seen.valid rfl rfl Fall.starts foundA loose maskA foundB
    tied maskB (by rw [flags]) (by rw [flags]) rest fun i lt => (ticks i lt).1).1 2 le_rfl
  obtain ⟨velocity, place⟩ := law .y
  rw [Finset.sum_range_succ, Finset.sum_range_one, seen.offset_start, seen.dt_start] at place
  simp only [drift, reference, (ticks 0 Nat.two_pos).2, (ticks 1 Nat.one_lt_two).2, active,
    List.not_mem_nil, if_false, Axis.of, seen.velocity_start, seen.velocity_first]
    at place velocity
  refine ⟨Fall.after, report, Fall.starts, fun i lt => (ticks i lt).1, seen.offset_start, ?_, ?_⟩
  · norm_num at place
    exact place
  · rw [velocity, sub_zero]

/-- So places on a carrier are not kept, even where no rule acts. -/
theorem offset_not_kept :
    ¬∀ (sc : Scene Rat) (roles : List (Role Rat)) (r : Registry Rat Empty) (seed : UInt64)
      (t : ℕ → Simulation Rat Empty) (report : ℕ → TickReport Rat) (n : ℕ)
      (carrier rider : String) (a b : Actor Rat),
      sc.validate = .ok () → sc.map = none → sc.worldSize = none →
      Simulation.new sc roles r seed = .ok (t 0) →
      (t 0).world.actor? carrier = some a → a.parent = none → a.blockMask = none →
      (t 0).world.actor? rider = some b → b.parent = some carrier → b.blockMask = none →
      b.physics = {} → b.velocity = .zero →
      (∀ i < n, Ticked (World.Act.Spares carrier rider) (t i) (report i) (t (i + 1))) →
      ∀ i ≤ n, ∀ axis : Axis,
        offset (t i).world carrier rider axis = offset (t 0).world carrier rider axis := by
  intro kept
  obtain ⟨a, foundA, loose, maskA⟩ := Fall.exists_carrier
  obtain ⟨b, foundB, tied, maskB, flags, _, rest⟩ := Fall.exists_rider
  obtain ⟨report, ticks⟩ := Fall.exists_ticks
  have same := kept Fall.scene [] Fall.registry 0 Fall.after report 2 "p" "c" a b
    Fall.seen.valid rfl rfl Fall.starts foundA loose maskA foundB tied maskB flags rest
    (fun i lt => (ticks i lt).1) 2 le_rfl .y
  rw [Fall.seen.offset_second, Fall.seen.offset_start] at same
  norm_num at same

end Simulation

end Playfield
