import Playfield.Game
import Playfield.Proofs.Rule.Dispatch
import Playfield.Proofs.Simulation.Play
import Playfield.Proofs.Simulation.Start

/-!
# Assembly

What is tested when a scene is taken for a game is enough for all that follows.

* `Game.new_eq_ok_iff`: a game is accepted if and only if its scene is valid and its registry serves
  all rules. That the world can be made need not be tested.
* `Simulation.Supplied`: the registry of a simulation serves the rules of its scene. It is so at the
  start of every accepted game (`supplied_of_new`) and stays so in every tick (`Supplied.step`).
* `accepted_games_assemble`: a valid scene has a world, an accepted game a simulation, and no tick
  of it ever misses a function.
-/

namespace Playfield

variable {K τ : Type} [Scalar K] {sc : Scene K} {r : Registry K τ}

/-- A game is accepted if and only if its scene is valid and every rule finds its functions. -/
theorem Game.new_eq_ok_iff {game : Game K τ} : Game.new sc r = .ok game ↔
    game = ⟨sc, r⟩ ∧ sc.validate = .ok () ∧ ∀ rule ∈ sc.rules, r.Serves rule := by
  rw [← Registry.validate_eq_ok_iff]
  unfold Game.new
  constructor
  · intro accepted
    obtain ⟨valid, accepted⟩ := Scene.bind_ok accepted
    obtain ⟨served, accepted⟩ := Scene.bind_ok accepted
    obtain ⟨w, new⟩ := World.new_of_validate valid sc.roles
    rw [new] at accepted
    cases accepted
    exact ⟨rfl, valid, served⟩
  · rintro ⟨rfl, valid, served⟩
    obtain ⟨w, new⟩ := World.new_of_validate valid sc.roles
    rw [valid, served, new]
    rfl

namespace Simulation

/-- The simulation after ticks on these inputs, failing ones too. -/
def after (s : Simulation K τ) (inputs : List (InputFrame K)) : Simulation K τ :=
  inputs.foldl (fun s input => (s.step input).2) s

/-- The rules when a tick comes to the rule at a position. -/
def facing (s : Simulation K τ) (input : InputFrame K) (index : Nat) : RuleEngine K τ :=
  s.move.2.rules.facing { input with collisions := input.collisions ++ s.move.1 } index

/-- The simulation plays the scene with the registry, and every rule finds its functions. -/
structure Supplied (sc : Scene K) (r : Registry K τ) (s : Simulation K τ) : Prop where
  scene : s.world.scene = sc
  registry : s.rules.registry = r
  serves : ∀ rule ∈ sc.rules, r.Serves rule

variable {roles : List (Role K)} {seed : UInt64} {s : Simulation K τ}

/-- A simulation of an accepted game can be assembled for any roles and any seed. -/
theorem new_of_game {game : Game K τ} (accepted : Game.new sc r = .ok game)
    (roles : List (Role K)) (seed : UInt64) :
    ∃ s, Simulation.new game.scene roles game.registry seed = .ok s := by
  obtain ⟨rfl, valid, serves⟩ := Game.new_eq_ok_iff.1 accepted
  obtain ⟨w, new⟩ := World.new_of_validate valid roles
  rw [Simulation.new, RuleEngine.new, Registry.validate_eq_ok_iff.2 serves, new]
  exact ⟨_, rfl⟩

theorem supplied_of_new (serves : ∀ rule ∈ sc.rules, r.Serves rule)
    (new : Simulation.new sc roles r seed = .ok s) : Supplied sc r s :=
  ⟨(new_ok new).scene, (new_ok new).registry, serves⟩

namespace Supplied

theorem step (supplied : Supplied sc r s) (keeps : r.KeepsScene)
    (input : InputFrame K) : Supplied sc r (s.step input).2 where
  scene := (scene_step (supplied.registry.symm ▸ keeps) input).trans supplied.scene
  registry := (s.step_keeps input).registry.trans supplied.registry
  serves := supplied.serves

theorem after (supplied : Supplied sc r s) (keeps : r.KeepsScene)
    (inputs : List (InputFrame K)) : Supplied sc r (s.after inputs) := by
  induction inputs generalizing s with
  | nil => exact supplied
  | cons input rest ih => exact ih (supplied.step keeps input)

/-- No tick fails for want of an action. -/
theorem step_registered (supplied : Supplied sc r s) (keeps : r.KeepsScene)
    (input : InputFrame K) (name : String) :
    (s.step input).1 ≠ .error (.unregistered name) := by
  have same : s.move.2.rules.registry = r := s.move_keeps.registry.trans supplied.registry
  have acted : (s.ruled input).1 ≠ .error (.unregistered name) := by
    refine RuleEngine.act_registered (fun rule mem => ?_) (same.symm ▸ keeps) name
    rw [same]
    rw [show s.move.2.rules.world.scene = sc from s.move_scene.trans supplied.scene] at mem
    exact supplied.serves rule mem
  rw [step_eq]
  generalize s.ruled input = ruled at acted ⊢
  rcases ruled with ⟨e | report, rules⟩
  · simpa using acted
  · exact nofun

/-- Whenever a tick comes to a rule, the registry is that of the game. -/
theorem facing (supplied : Supplied sc r s) (input : InputFrame K) (index : Nat) :
    (s.facing input index).registry = r :=
  (RuleEngine.facing_keeps _ _ index).registry.trans
    (s.move_keeps.registry.trans supplied.registry)

end Supplied

end Simulation

/-- What is tested at load time and at assembly cannot fail later. A valid scene has a world for all
roles, with an actor for every placement in order. An accepted game has a simulation for all roles
and seeds; and after any ticks of it, of which some may have failed, the next one does not fail for
want of an action, and finds the functions of every rule when it comes to that rule. The functions
may do to the world what they like, as long as it stays a world of its scene: no operation on worlds
gives one another scene (`World.scene_foldl`). -/
theorem accepted_games_assemble :
    (∀ sc : Scene K, sc.validate = .ok () → ∀ roles, ∃ w, World.new sc roles = .ok w ∧
      List.Forall₂ (fun p a => ∃ fields, sc.fieldsOf p.type p.fields = .ok fields ∧
        a = .ofPlacement sc p fields) sc.actors w.actors) ∧
      ∀ (sc : Scene K) (registry : Registry K τ) (game : Game K τ),
        Game.new sc registry = .ok game → ∀ roles seed, ∃ s,
          Simulation.new game.scene roles game.registry seed = .ok s ∧
            (game.registry.KeepsScene → ∀ inputs input,
              let t := s.after inputs
              (∀ name, (t.step input).1 ≠ .error (.unregistered name)) ∧
                t.world.scene.rules = game.scene.rules ∧
                  ∀ index rule, game.scene.rules[index]? = some rule →
                    (t.facing input index).registry.Serves rule) := by
  refine ⟨fun sc valid roles => ?_, fun sc registry game accepted roles seed => ?_⟩
  · obtain ⟨w, new⟩ := World.new_of_validate valid roles
    exact ⟨w, new, World.forall₂_place (World.actors_of_new new)⟩
  · obtain ⟨s, new⟩ := Simulation.new_of_game accepted roles seed
    refine ⟨s, new, fun keeps inputs input => ?_⟩
    obtain ⟨rfl, valid, serves⟩ := Game.new_eq_ok_iff.1 accepted
    have supplied := (Simulation.supplied_of_new serves new).after keeps inputs
    refine ⟨supplied.step_registered keeps input, congrArg _ supplied.scene,
      fun index rule here => ?_⟩
    rw [supplied.facing input index]
    exact serves rule (List.mem_of_getElem? here)

/-! ### A lamp -/

namespace Lamp

/-- A rule that asks in every tick whether the lamp is lit. -/
def rule : Rule := { condition := .logical "lit" (some "lamp") .on, action := "switch" }

/-- A scene of one lamp. -/
def scene : Scene Rat :=
  { Scene.default with
    templates := Table.ofList [("lamp", Template.default)]
    actors := [{ uid := "lamp", type := "lamp", x := 0, y := 0, width := none, height := none
                 layer := none, blockMask := none, vx := 0, vy := 0, parent := none, sprite := none
                 active := true, physics := none, fields := ∅ }]
    rules := [rule] }

/-- A lamp is lit while gravity is on. -/
def lit : Predicate Rat := fun _ w => w.gravityEnabled

/-- The functions of the lamp. -/
def registry : Registry Rat Empty :=
  { actions := Table.ofList [("switch", Builtin.toggleGravity)]
    predicates := Table.ofList [("lit", lit)]
    resume := fun t => nomatch t }

theorem keeps : registry.KeepsScene := Registry.respects_of_action rfl fun _ _ => rfl

theorem accepted : Game.new scene registry = .ok ⟨scene, registry⟩ := by
  refine Game.new_eq_ok_iff.2 ⟨rfl, by cbv, fun r mem => ?_⟩
  obtain rfl := List.mem_singleton.1 mem
  exact ⟨⟨_, rfl⟩, by rintro _ _ _ ⟨⟩; exact ⟨_, rfl⟩⟩

end Lamp

/-- However often the lamp was asked whether it is lit, it can be asked again. -/
theorem lamp_can_be_asked : (∃ w, World.new Lamp.scene [] = .ok w) ∧
    ∃ s, Simulation.new Lamp.scene [] Lamp.registry 0 = .ok s ∧ ∀ inputs input,
      (∀ name, ((s.after inputs).step input).1 ≠ .error (.unregistered name)) ∧
        ∃ p, ((s.after inputs).facing input 0).registry.predicates.get? "lit" = some p := by
  obtain ⟨worlds, games⟩ := @accepted_games_assemble Rat Empty _
  obtain ⟨w, new, -⟩ := worlds Lamp.scene (by cbv) []
  obtain ⟨s, assembled, all⟩ := games Lamp.scene Lamp.registry _ Lamp.accepted [] 0
  refine ⟨⟨w, new⟩, s, assembled, fun inputs input => ?_⟩
  obtain ⟨registered, -, served⟩ := all Lamp.keeps inputs input
  exact ⟨registered, (served 0 Lamp.rule rfl).2 "lit" (some "lamp") .on rfl⟩

end Playfield
