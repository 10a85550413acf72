import Playfield.Rule.Registry
import Playfield.World.Motion

/-!
# Rules

A `RuleEngine` owns the world and applies the rules of its scene. One step

* resumes every task that an action left behind, once, in the order they were left;
* goes through the rules in order, finds the bindings under which each fires and calls its action
  for every binding;
* moves attached actors with their parents.

A failure ends the step. What was changed before it stays changed, and the engine that is left says
which tasks still run.
-/

namespace Playfield

/-- Why a step failed. -/
inductive RuleError where
  | actionFailed (action cause : String)
  | taskFailed (action cause : String)
  | unregistered (action : String)
  deriving DecidableEq, Repr

/-- The wording of a failure. -/
def RuleError.message : RuleError → String
  | actionFailed action cause => s!"action '{action}' failed: {cause}"
  | taskFailed action cause => s!"multi-tick action '{action}' failed: {cause}"
  | unregistered action => s!"action '{action}' is not registered"

/-- A task that an action left behind. -/
structure RunningTask (K τ : Type) where
  action : String
  binding : Binding K
  task : τ

/-- A call of an action by a rule. -/
structure Fired where
  rule : Nat
  action : String
  deriving DecidableEq, Repr

/-- What one step did. -/
structure RuleReport where
  fired : List Fired
  /-- The number of tasks that finished. -/
  completed : Nat
  /-- The number of tasks that still run. -/
  inFlight : Nat
  deriving DecidableEq, Repr

/-- The world with the rules that act on it. -/
structure RuleEngine (K τ : Type) where
  registry : Registry K τ
  stage : Stage K
  tasks : List (RunningTask K τ) := []
  /-- For each rule whether its predicate held when last asked. -/
  memory : List Bool
  /-- The length of a tick. -/
  dt : K

variable {K τ : Type}

/-- A logical rule fires, from the truth of its predicate now and before. -/
def Phase.edge (phase : Phase) (now before : Bool) : Bool :=
  match phase with
  | .on => now
  | .begin => now && !before
  | .finish => !now && before

/-- Resumes tasks in order. Finished ones are left out; after a failure the later ones are kept as
they are. -/
def resumeTasks (registry : Registry K τ) (dt : K) :
    List (RunningTask K τ) → Stage K →
      Except RuleError Nat × List (RunningTask K τ) × Stage K
  | [], s => (.ok 0, [], s)
  | t :: rest, s =>
    match registry.resume t.task ⟨t.binding, dt⟩ s with
    | (.error cause, s) => (.error (.taskFailed t.action cause), rest, s)
    | (.ok left, s) =>
      let (completed, rest, s) := resumeTasks registry dt rest s
      match left with
      | some task => (completed, { t with task } :: rest, s)
      | none => (completed.map (· + 1), rest, s)

namespace RuleEngine

/-- The engine at the start of a scene. -/
def new [Scalar K] (s : Scene K) (roles : List (Role K)) (registry : Registry K τ) (seed : UInt64) :
    Except SceneError (RuleEngine K τ) := do
  registry.validate s
  let world ← World.new s roles
  return {
    registry
    stage := ⟨world, .ofSeed seed⟩
    memory := List.replicate s.rules.length false
    dt := 1.0 / Scalar.ofInt s.multiplayer.tickRate }

/-- The world. -/
def world (e : RuleEngine K τ) : World K := e.stage.world

/-- Edits the world. -/
def modifyWorld (e : RuleEngine K τ) (f : World K → World K) : RuleEngine K τ :=
  { e with stage := { e.stage with world := f e.stage.world } }

/-- The first live actor of a type, or of any, that satisfies a predicate. -/
def witness? (w : World K) (p : Predicate K) (type : Option String) : Option (Actor K) :=
  (w.actors.filter fun a => type.all (· == a.type)).find? fun a => p a w

/-- The bindings under which a rule fires. A logical rule remembers the truth it found. -/
def bindings (e : RuleEngine K τ) (frame : InputFrame K) (index : Nat) (c : Condition) :
    List (Binding K) × RuleEngine K τ :=
  match c with
  | .keyboard key phase =>
    (if frame.keyboard.contains phase key then [{ rule := index }] else [], e)
  | .mouse button phase =>
    (if frame.mouse.contains phase button then [{ rule := index }] else [], e)
  | .collision a b kind phase =>
    ((frame.collisionsOf a b kind phase).map fun ev => { rule := index, collision := some ev }, e)
  | .logical predicate type phase =>
    match e.registry.predicates.get? predicate with
    | none => ([], e)
    | some p =>
      let hit := witness? e.world p type
      let before := e.memory.getD index false
      let e := { e with memory := e.memory.set index hit.isSome }
      (if phase.edge hit.isSome before then [{ rule := index, actor := hit.map (·.uid) }] else [],
        e)
  | .tool name _ =>
    ((frame.tools.filter (·.name == name)).map fun t => { rule := index, tool := some t }, e)
  | .button name _ =>
    ((frame.buttons.filter (·.name == name)).map fun b => { rule := index, button := some b }, e)

/-- Calls an action. The task it may leave comes after those that already run. -/
def invoke (e : RuleEngine K τ) (action : String) (b : Binding K) :
    Except RuleError Unit × RuleEngine K τ :=
  match e.registry.actions.get? action with
  | none => (.error (.unregistered action), e)
  | some run =>
    match run ⟨b, e.dt⟩ e.stage with
    | (.error cause, stage) => (.error (.actionFailed action cause), { e with stage })
    | (.ok .done, stage) => (.ok (), { e with stage })
    | (.ok (.resume task), stage) =>
      (.ok (), { e with stage, tasks := e.tasks ++ [⟨action, b, task⟩] })

/-- Calls an action for every binding; what was called, if all went well. -/
def invokeAll (e : RuleEngine K τ) (action : String) :
    List (Binding K) → Except RuleError (List Fired) × RuleEngine K τ
  | [] => (.ok [], e)
  | b :: rest =>
    match e.invoke action b with
    | (.error err, e) => (.error err, e)
    | (.ok (), e) =>
      let (fired, e) := e.invokeAll action rest
      (fired.map (⟨b.rule, action⟩ :: ·), e)

/-- Goes through rules in order. -/
def applyRules (e : RuleEngine K τ) (frame : InputFrame K) :
    List (Rule × Nat) → Except RuleError (List Fired) × RuleEngine K τ
  | [] => (.ok [], e)
  | (rule, index) :: rest =>
    let (bs, e) := e.bindings frame index rule.condition
    match e.invokeAll rule.action bs with
    | (.error err, e) => (.error err, e)
    | (.ok fired, e) =>
      let (later, e) := e.applyRules frame rest
      (later.map (fired ++ ·), e)

/-- One step with the motion of actors recorded before it. -/
def step [Scalar K] (e : RuleEngine K τ) (frame : InputFrame K) (before : Table String (Motion K)) :
    Except RuleError RuleReport × RuleEngine K τ :=
  match resumeTasks e.registry e.dt e.tasks e.stage with
  | (.error err, tasks, stage) => (.error err, { e with tasks, stage })
  | (.ok completed, tasks, stage) =>
    let e := { e with tasks, stage }
    match e.applyRules frame e.world.scene.rules.zipIdx with
    | (.error err, e) => (.error err, e)
    | (.ok fired, e) =>
      let e := e.modifyWorld (·.propagate before)
      (.ok ⟨fired, completed, e.tasks.length⟩, e)

end RuleEngine

/-! ### JSON forms -/

namespace Fired

def toJson (f : Fired) : Json K := .obj [("rule", .nat f.rule), ("action", .str f.action)]

end Fired

namespace RuleReport

def toJson (r : RuleReport) : Json K :=
  .obj [("fired", .list Fired.toJson r.fired), ("completed", .nat r.completed),
    ("in_flight", .nat r.inFlight)]

end RuleReport

end Playfield
