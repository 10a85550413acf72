import Playfield.Proofs.Body.Travel
import Playfield.Proofs.Rule.Engine
import Playfield.Proofs.World.Act
import Playfield.Simulation

/-!
# The phases of a tick

A tick moves the bodies, lets the rules act, carries attached actors along and resolves what came
of it.

* `Simulation.moved` are the bodies after their motion, `ruled` the rules after their calls.
* `step_eq` puts a tick together from these; `step_ok` says what a successful one leaves.
* `ruled_respects`: what every function of the registry respects holds across the calls.
* `Simulation.Ticked allowed s report s'`: a successful tick in which the rules did nothing but
  operations of an allowed kind.
* `indexed_run`: uids stay distinct and find their actors across ticks that change none.
-/

namespace Playfield.Simulation

variable {K τ : Type} [Scalar K] {s s' : Simulation K τ} {input : InputFrame K}
  {report : TickReport K}

/-- The bodies at the start of a tick. -/
def started (s : Simulation K τ) : Physics K :=
  ((s.physics.configure s.world.scene).sync s.world).beginTick

/-- The bodies after their motion. -/
def moved (s : Simulation K τ) : Physics K := s.started.integrate s.dt s.world.gravityEnabled

theorem move_physics (s : Simulation K τ) : s.move.2.physics = s.moved := rfl

theorem move_world (s : Simulation K τ) : s.move.2.world = s.moved.writeBack s.world.beginTick :=
  rfl

theorem move_scene (s : Simulation K τ) : s.move.2.world.scene = s.world.scene := by
  rw [move_world, Physics.writeBack_eq]
  rfl

theorem uids_moved (distinct : (s.world.actors.map Actor.uid).Nodup) :
    s.moved.bodies.map Body.uid = s.world.actors.map Actor.uid := by
  rw [moved, Body.uids_of_starts Physics.starts_integrate, started, Physics.uids_beginTick,
    Physics.uids_sync distinct]

theorem move_keeps (s : Simulation K τ) : s.rules.Keeps s.move.2.rules := ⟨rfl, rfl⟩

/-- The rules after the calls of a tick, with what came of the calls. -/
def ruled (s : Simulation K τ) (input : InputFrame K) :
    Except RuleError RuleReport × RuleEngine K τ :=
  s.move.2.rules.act { input with collisions := input.collisions ++ s.move.1 }

/-- The simulation when all attached actors have been carried along. -/
def carried (s : Simulation K τ) (input : InputFrame K) : Simulation K τ :=
  { s.move.2 with rules := (s.ruled input).2.modifyWorld (·.propagate s.move.2.physics.motion) }

/-- A tick is its motion and its calls; the rest follows if all went well. -/
theorem step_eq (s : Simulation K τ) (input : InputFrame K) : s.step input =
    match s.ruled input with
    | (.error e, rules) => (.error e, { s.move.2 with rules })
    | (.ok report, _) =>
      let (resolution, t) := (s.carried input).finish
      (.ok {
        tick := t.world.tick
        turn := t.world.turn
        removed := t.world.removed
        collisions := s.move.1
        rolledBack := resolution.rolledBack
        fired := report.fired }, t.modifyWorld fun w => { w with removed := [] }) := by
  unfold step carried ruled
  generalize s.move = moved
  obtain ⟨collisions, t⟩ := moved
  simp only
  rw [RuleEngine.step_eq_act]
  generalize t.rules.act _ = acted
  rcases acted with ⟨_ | r, e⟩
  · rfl
  · simp only
    generalize finish (_ : Simulation K τ) = finished
    rfl

/-- What a successful tick leaves. -/
structure Passed (s : Simulation K τ) (input : InputFrame K) (report : TickReport K)
    (s' : Simulation K τ) : Prop where
  physics : s'.physics = ((s.moved.sync (s.carried input).world).resolve).2
  world : s'.world = { s'.physics.writeBack (s.carried input).world with removed := [] }
  animator : s'.animator = s.animator.update s'.world.scene s'.physics.bodies s.dt
  previous : s'.previous = byKey (observe s.moved)
  tick : report.tick = s'.world.tick
  removed : report.removed = (s'.physics.writeBack (s.carried input).world).removed
  collisions : report.collisions = events s.previous (observe s.moved)
  rolledBack : report.rolledBack = ((s.moved.sync (s.carried input).world).resolve).1.rolledBack
  keeps : s.rules.Keeps s'.rules

theorem ruled_keeps (s : Simulation K τ) (input : InputFrame K) :
    s.rules.Keeps (s.ruled input).2 :=
  s.move_keeps.trans (s.move.2.rules.act_keeps _)

theorem finish_spec (t : Simulation K τ) :
    t.finish.2.physics = (t.physics.sync t.world).resolve.2 ∧
      t.finish.2.world = t.finish.2.physics.writeBack t.world ∧
      t.finish.2.animator =
        t.animator.update t.finish.2.world.scene t.finish.2.physics.bodies t.dt ∧
      t.finish.2.previous = t.previous ∧
      t.finish.1 = (t.physics.sync t.world).resolve.1 ∧ t.rules.Keeps t.finish.2.rules := by
  unfold finish
  dsimp only
  generalize (t.physics.sync t.world).resolveOverflows = overflows
  generalize (t.physics.sync t.world).resolve = resolved
  exact ⟨rfl, rfl, rfl, rfl, rfl, ⟨rfl, rfl⟩⟩

theorem carried_physics (s : Simulation K τ) (input : InputFrame K) :
    (s.carried input).physics = s.moved := rfl

theorem carried_keeps (s : Simulation K τ) (input : InputFrame K) :
    s.rules.Keeps (s.carried input).rules :=
  ⟨(s.ruled_keeps input).registry, (s.ruled_keeps input).dt⟩

theorem step_ok (h : s.step input = (.ok report, s')) : Passed s input report s' := by
  obtain ⟨physics, world, animator, previous, resolution, keeps⟩ := (s.carried input).finish_spec
  have carried := s.carried_keeps input
  have dt : (s.carried input).dt = s.dt := carried.dt
  rw [carried_physics] at physics resolution
  rw [dt] at animator
  rw [step_eq] at h
  generalize s.ruled input = ruled at h
  rcases ruled with ⟨_ | r, e⟩
  · cases h
  · generalize (s.carried input).finish = t at physics world animator previous resolution keeps h
    simp only [Prod.mk.injEq, Except.ok.injEq] at h
    obtain ⟨rfl, rfl⟩ := h
    have all := carried.trans keeps
    refine ⟨physics, ?_, animator, previous, rfl, ?_, rfl, ?_, ⟨all.registry, all.dt⟩⟩
    · exact congrArg (fun w : World K => { w with removed := [] }) world
    · exact congrArg World.removed world
    · exact congrArg Resolution.rolledBack resolution

/-- A tick that fails has run the first half of a tick. -/
theorem step_error {input : InputFrame K} {e : RuleError} (h : s.step input = (.error e, s')) :
    s'.rules = (s.ruled input).2 := by
  rw [step_eq] at h
  generalize s.ruled input = ruled at h
  rcases ruled with ⟨e' | r, rules⟩
  · cases h
    rfl
  · cases h

/-- Registry and length of a tick stay, whether a tick fails or not. -/
theorem step_keeps (s : Simulation K τ) (input : InputFrame K) :
    s.rules.Keeps (s.step input).2.rules := by
  rcases h : s.step input with ⟨e | report, s'⟩
  · exact step_error h ▸ s.ruled_keeps input
  · exact (step_ok h).keeps

/-- What every function of the registry respects holds across the calls of a tick. -/
theorem ruled_respects {R : World K → World K → Prop} (respects : s.rules.registry.Respects R)
    (refl : ∀ w, R w w) (trans : ∀ w w' w'', R w w' → R w' w'' → R w w'')
    (input : InputFrame K) : R s.move.2.world (s.ruled input).2.world := by
  rw [← s.move_keeps.registry] at respects
  exact (RuleEngine.act_respects refl trans respects).2

theorem ruled_acted {allowed : World.Act K → Prop}
    (respects : s.rules.registry.Respects (World.Acted allowed)) (input : InputFrame K) :
    World.Acted allowed s.move.2.world (s.ruled input).2.world :=
  ruled_respects respects (World.Acted.refl allowed) (fun _ _ _ => World.Acted.trans) input

/-- The world when all attached actors have been carried along. -/
theorem carried_world (s : Simulation K τ) (input : InputFrame K) :
    (s.carried input).world = (s.ruled input).2.world.propagate s.moved.motion := by
  rw [← move_physics]
  rfl

theorem Passed.actors (passed : Passed s input report s') :
    s'.world.actors = (s'.physics.writeBack (s.carried input).world).actors :=
  (congrArg World.actors passed.world :)

/-- After a tick an actor is where its body is. -/
theorem Passed.actor? {uid : String} {a : Actor K} {b : Body K} (passed : Passed s input report s')
    (indexed : (s.carried input).world.Indexed)
    (found : (s.carried input).world.actor? uid = some a) (body : s'.physics.body? uid = some b) :
    s'.world.actor? uid = some (Physics.place b a) := by
  rw [passed.world]
  refine (Physics.actor?_writeBack indexed.filed).trans ?_
  rw [found, body]
  rfl

/-- When the bodies have moved, an actor is where its body is. -/
theorem actor?_move {uid : String} {a : Actor K} {b : Body K} (indexed : s.world.Indexed)
    (found : s.world.actor? uid = some a) (body : s.moved.body? uid = some b) :
    s.move.2.world.actor? uid = some (Physics.place b a) := by
  have filed : s.world.beginTick.Filed := indexed.filed
  rw [move_world, Physics.actor?_writeBack filed, body]
  exact congrArg (Option.map _) found

/-! ### Uids and index -/

theorem move_indexed (indexed : s.world.Indexed) : s.move.2.world.Indexed := by
  have begun : s.world.beginTick.Indexed := indexed
  rw [move_world]
  exact Physics.indexed_writeBack begun

theorem carried_indexed (input : InputFrame K) (indexed : (s.ruled input).2.world.Indexed) :
    (s.carried input).world.Indexed := by
  rw [carried_world]
  exact indexed.propagate _

theorem Passed.indexed (passed : Passed s input report s')
    (indexed : (s.carried input).world.Indexed) : s'.world.Indexed := by
  rw [passed.world]
  exact Physics.indexed_writeBack indexed

/-- A successful tick in which the rules did nothing but operations of an allowed kind. -/
def Ticked (allowed : World.Act K → Prop) (s : Simulation K τ) (report : TickReport K)
    (s' : Simulation K τ) : Prop :=
  ∃ input, s.step input = (.ok report, s') ∧
    World.Acted allowed s.move.2.world (s.ruled input).2.world

theorem Ticked.scene {allowed : World.Act K → Prop} (tick : Ticked allowed s report s') :
    s'.world.scene = s.world.scene := by
  obtain ⟨input, ok, acted⟩ := tick
  rw [(step_ok ok).world, Physics.writeBack_eq, carried_world, World.propagate_eq]
  exact acted.scene.trans s.move_scene

/-- It is enough that every function of the registry does nothing but such operations. -/
theorem ticked_of_respects {allowed : World.Act K → Prop}
    (respects : s.rules.registry.Respects (World.Acted allowed))
    (h : s.step input = (.ok report, s')) : Ticked allowed s report s' :=
  ⟨input, h, ruled_acted respects input⟩

/-- Uids find their actors also after a tick, whether it fails or not, if its calls change none. -/
theorem indexed_step (respects : s.rules.registry.Respects (World.Acted World.Act.KeepsUids))
    (indexed : s.world.Indexed) (input : InputFrame K) : (s.step input).2.world.Indexed := by
  have ruled : (s.ruled input).2.world.Indexed :=
    (ruled_acted respects input).indexed (fun _ keeps => keeps) (move_indexed indexed)
  rcases ticked : s.step input with ⟨e | report, s'⟩
  · simp only
    rw [world, step_error ticked]
    exact ruled
  · exact (step_ok ticked).indexed (carried_indexed input ruled)

/-! ### Runs -/

section Runs

variable {t : ℕ → Simulation K τ} {inputs : ℕ → InputFrame K} {n : ℕ}

/-- The registry stays across ticks, failing ones too. -/
theorem registry_run (next : ∀ i < n, t (i + 1) = ((t i).step (inputs i)).2) :
    (t n).rules.registry = (t 0).rules.registry := by
  induction n with
  | zero => rfl
  | succ n ih =>
    rw [next n n.lt_succ_self, ((t n).step_keeps (inputs n)).registry]
    exact ih fun i lt => next i (Nat.lt_succ_of_lt lt)

/-- Uids find their actors after any ticks, failing ones too. -/
theorem indexed_run (next : ∀ i < n, t (i + 1) = ((t i).step (inputs i)).2)
    (respects : (t 0).rules.registry.Respects (World.Acted World.Act.KeepsUids))
    (indexed : (t 0).world.Indexed) : (t n).world.Indexed := by
  induction n with
  | zero => exact indexed
  | succ n ih =>
    have before := fun i (lt : i < n) => next i (Nat.lt_succ_of_lt lt)
    rw [next n n.lt_succ_self]
    exact indexed_step (registry_run before ▸ respects) (ih before) (inputs n)

end Runs

end Playfield.Simulation
