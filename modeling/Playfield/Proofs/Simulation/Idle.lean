import Playfield.Proofs.Simulation.Drift

/-!
# Ticks without rules

Where a scene has no rules and no task is left, nothing acts on the world, and all that a tick does
to actors is to move them.

* `RuleEngine.Idle`: there is nothing to call. `idle_of_new`, `idle_step`: so it is from the start
  of such a scene on.
* `ruled_of_idle`: the calls of a tick change nothing.
* `World.figures`: the actors, wherever they are, and their index. `figures_step`: a tick keeps
  them.
* `idle_run`: what stays the same in a run of ticks.
-/

namespace Playfield

variable {K τ : Type}

namespace RuleEngine

/-- There is nothing to call. -/
structure Idle (e : RuleEngine K τ) : Prop where
  rules : e.world.scene.rules = []
  tasks : e.tasks = []

theorem act_of_idle {e : RuleEngine K τ} (idle : e.Idle) (frame : InputFrame K) :
    e.act frame = (.ok ⟨[], 0, 0⟩, e) := by
  obtain ⟨rules, tasks⟩ := idle
  obtain ⟨registry, stage, tasks', memory, dt⟩ := e
  obtain rfl : tasks' = [] := tasks
  have none : stage.world.scene.rules = [] := rules
  simp only [act, resumeTasks, world, none, List.zipIdx_nil, applyRules, List.length_nil]

end RuleEngine

namespace World

variable [Scalar K] {w w' : World K} {uid : String} {a : Actor K}

/-- The actors, wherever they are, and where they are found. -/
structure Figures (K : Type) where
  actors : List (Actor K)
  index : Table String Nat

/-- The figures of a world. -/
def figures (w : World K) : Figures K := ⟨w.actors.map (·.moveTo .zero), w.index⟩

omit [Scalar K] in
theorem eq_moveTo {a' : Actor K} {m : Motion K} (figure : a'.moveTo m = a.moveTo m) :
    a' = a.moveTo a'.motion :=
  (congrArg (Actor.moveTo · a'.motion) figure :)

/-- Where figures are the same, an actor is the same up to its motion. -/
theorem actor?_of_figures (same : w'.figures = w.figures) (found : w.actor? uid = some a) :
    ∃ m, w'.actor? uid = some (a.moveTo m) := by
  have lookup (v : World K) : (v.figures.index.get? uid).bind (v.figures.actors[·]?) =
      (v.actor? uid).map (·.moveTo .zero) := by
    rw [actor?, figures, Option.map_bind]
    exact Option.bind_congr fun i _ => List.getElem?_map
  have like := (lookup w').symm.trans (same ▸ lookup w)
  rw [found, Option.map_some] at like
  obtain ⟨a', found', figure⟩ := Option.map_eq_some_iff.1 like
  exact ⟨a'.motion, found'.trans (congrArg some (eq_moveTo figure))⟩

theorem uids_of_figures (same : w'.figures = w.figures) :
    w'.actors.map Actor.uid = w.actors.map Actor.uid := by
  have uids := congrArg (fun f : Figures K => f.actors.map Actor.uid) same
  simp only [figures, List.map_map] at uids
  exact uids

theorem indexed_of_figures (same : w'.figures = w.figures) (indexed : w.Indexed) : w'.Indexed :=
  indexed.of_uids (congrArg Figures.index same) (uids_of_figures same)

/-- Where figures are the same, each actor is another one that has moved. -/
theorem exists_of_figures (same : w'.figures = w.figures) {a' : Actor K} (mem : a' ∈ w'.actors) :
    ∃ a ∈ w.actors, ∃ m, a' = a.moveTo m := by
  have : a'.moveTo .zero ∈ w.figures.actors := same ▸ List.mem_map_of_mem mem
  obtain ⟨a, mem, figure⟩ := List.mem_map.1 this
  exact ⟨a, mem, a'.motion, eq_moveTo figure.symm⟩

end World

namespace Simulation

variable [Scalar K] {s s' : Simulation K τ} {input : InputFrame K} {report : TickReport K}

theorem idle_of_new {sc : Scene K} {roles : List (Role K)} {r : Registry K τ} {seed : UInt64}
    (unruled : sc.rules = []) (start : Simulation.new sc roles r seed = .ok s) :
    s.rules.Idle := by
  refine ⟨(new_ok start).scene ▸ unruled, ?_⟩
  unfold Simulation.new RuleEngine.new at start
  generalize r.validate sc = valid at start
  generalize World.new sc roles = placed at start
  cases valid <;> cases placed <;> cases start
  rfl

/-- The calls of a tick change nothing. -/
theorem ruled_of_idle (idle : s.rules.Idle) (input : InputFrame K) :
    s.ruled input = (.ok ⟨[], 0, 0⟩, s.move.2.rules) :=
  RuleEngine.act_of_idle ⟨(congrArg Scene.rules s.move_scene).trans idle.rules, idle.tasks⟩ _

theorem figures_writeBack (p : Physics K) (w : World K) : (p.writeBack w).figures = w.figures := by
  rw [World.figures, Physics.map_writeBack (by intro b a; rfl), Physics.index_writeBack]
  rfl

theorem figures_ruled (idle : s.rules.Idle) (input : InputFrame K) :
    (s.ruled input).2.world.figures = s.world.figures := by
  rw [ruled_of_idle idle]
  exact figures_writeBack s.moved s.world.beginTick

theorem figures_carried (idle : s.rules.Idle) (input : InputFrame K) :
    (s.carried input).world.figures = s.world.figures := by
  rw [carried_world, World.figures, World.map_propagate (by intro a m; rfl), World.index_propagate]
  exact figures_ruled idle input

theorem scene_of_idle (idle : s.rules.Idle) (h : s.step input = (.ok report, s')) :
    s'.world.scene = s.world.scene := by
  have ticked : Ticked (fun _ => True) s report s' := by
    refine ⟨input, h, ?_⟩
    rw [ruled_of_idle idle]
    exact .refl _ _
  exact ticked.scene

theorem tasks_finish (t : Simulation K τ) : t.finish.2.rules.tasks = t.rules.tasks := by
  unfold finish
  generalize (t.physics.sync t.world).resolve = resolved
  rfl

theorem idle_step (idle : s.rules.Idle) (h : s.step input = (.ok report, s')) : s'.rules.Idle := by
  refine ⟨(congrArg Scene.rules (scene_of_idle idle h)).trans idle.rules, ?_⟩
  have carried : (s.carried input).rules.tasks = [] := by
    rw [carried, ruled_of_idle idle]
    exact idle.tasks
  have finished := (tasks_finish (s.carried input)).trans carried
  rw [step_eq, ruled_of_idle idle] at h
  generalize (s.carried input).finish = t at finished h
  cases h
  exact finished

/-- A tick keeps the figures of all actors. -/
theorem figures_step (idle : s.rules.Idle) (h : s.step input = (.ok report, s')) :
    s'.world.figures = s.world.figures := by
  rw [(step_ok h).world]
  exact (figures_writeBack s'.physics (s.carried input).world).trans (figures_carried idle input)

/-- In a run of ticks without rules scene and figures stay. -/
theorem idle_run {t : ℕ → Simulation K τ} {inputs : ℕ → InputFrame K}
    {reports : ℕ → TickReport K} {n : ℕ} (idle : (t 0).rules.Idle)
    (ticks : ∀ i < n, (t i).step (inputs i) = (.ok (reports i), t (i + 1))) {i : ℕ} (le : i ≤ n) :
    (t i).rules.Idle ∧ (t i).world.scene = (t 0).world.scene ∧
      (t i).world.figures = (t 0).world.figures := by
  induction i with
  | zero => exact ⟨idle, rfl, rfl⟩
  | succ i ih =>
    obtain ⟨idle, scene, figures⟩ := ih (Nat.le_of_succ_le le)
    have tick := ticks i le
    exact ⟨idle_step idle tick, (scene_of_idle idle tick).trans scene,
      (figures_step idle tick).trans figures⟩

end Simulation

end Playfield
