import Playfield.Input
import Playfield.Keystream
import Playfield.World.Basic

/-!
# Actions and predicates

Rules call actions and ask predicates by name; the host of a simulation supplies both. An action
may end at once or leave a task behind, which is then resumed once in every tick. What such a task
is made of is the host's choice: it is the parameter `τ`.

* `Stage` is what an action may change: the world and the keystream. An action that fails still
  leaves a stage behind.
* `Registry` holds the host's functions; `Registry.builtin` has those that fit any scene.
* `Registry.validate` tests that every rule of a scene finds its functions.
-/

namespace Playfield

/-- What called an action. -/
structure Binding (K : Type) where
  /-- Position of the rule in the scene. -/
  rule : Nat
  tool : Option (ToolCall K) := none
  button : Option ButtonEvent := none
  /-- Turned so that the first party satisfies the rule's first selector. -/
  collision : Option CollisionEvent := none
  /-- The actor that satisfied a logical condition. -/
  actor : Option String := none

/-- The role behind a tool call or a button press. -/
def Binding.role? {K : Type} (b : Binding K) : Option String :=
  (b.tool.bind (·.role)) <|> (b.button.bind (·.role))

/-- What an action may look at besides the stage. -/
structure Trigger (K : Type) where
  binding : Binding K
  /-- The length of a tick. -/
  dt : K

/-- What an action may change. -/
structure Stage (K : Type) where
  world : World K
  rng : Keystream

/-- How an action ended: it is done, or it left a task. -/
inductive Outcome (τ : Type) where
  | done
  | resume (task : τ)

/-- Runs on a stage and leaves one, with a result or the reason of a failure. -/
abbrev Run (K α : Type) := Trigger K → Stage K → Except String α × Stage K

/-- Tests an actor in its world. -/
abbrev Predicate (K : Type) := Actor K → World K → Bool

/-- The functions that rules may use. -/
structure Registry (K τ : Type) where
  actions : Table String (Run K (Outcome τ)) := ∅
  predicates : Table String (Predicate K) := ∅
  /-- Resumes a task; the task that is left, or none when it is finished. -/
  resume : τ → Run K (Option τ)

namespace Registry

variable {K τ : Type}

/-- Adds an action, in the stead of one with the same name. -/
def addAction (r : Registry K τ) (name : String) (a : Run K (Outcome τ)) : Registry K τ :=
  { r with actions := r.actions.insert name a }

/-- Adds a predicate, in the stead of one with the same name. -/
def addPredicate (r : Registry K τ) (name : String) (p : Predicate K) : Registry K τ :=
  { r with predicates := r.predicates.insert name p }

/-- A rule finds its action, and its predicate if it asks one. -/
def validateRule (r : Registry K τ) (rule : Rule) (index : Nat) : Except SceneError Unit := do
  (SceneError.missingFunction
    s!"rule {index} uses unregistered action '{rule.action}'").unless
    (r.actions.contains rule.action)
  match rule.condition with
  | .logical predicate _ _ =>
    (SceneError.missingFunction
      s!"rule {index} uses unregistered predicate '{predicate}'").unless
      (r.predicates.contains predicate)
  | _ => .ok ()

/-- Every rule finds its functions. -/
def validate (r : Registry K τ) (s : Scene K) : Except SceneError Unit :=
  s.rules.zipIdx.forM fun (rule, index) => r.validateRule rule index

end Registry

/-! ### Actions that fit any scene -/

namespace Builtin

variable {K τ : Type}

/-- An action that always succeeds. -/
def always (f : World K → World K) : Run K (Outcome τ) :=
  fun _ s => (.ok .done, { s with world := f s.world })

/-- Hands the turn on. -/
def advanceTurn : Run K (Outcome τ) := always World.advanceTurn

/-- Switches gravity over. -/
def toggleGravity : Run K (Outcome τ) := always fun w => w.setGravity (!w.gravityEnabled)

/-- Destroys the second party of the collision. -/
def destroyOther : Run K (Outcome τ) := fun t s =>
  match t.binding.collision with
  | none => (.error "destroy_other needs a collision binding", s)
  | some e => (.ok .done, { s with world := (s.world.destroy e.b.uid).2 })

/-- Sets the velocity of the actor that the arguments of a tool name. -/
def applyToolVelocity [Scalar K] : Run K (Outcome τ) := fun t s =>
  let args := (t.binding.tool.map (·.args)).getD .null
  match (args.member? "uid").bind Json.text? with
  | none => (.error "apply_tool_velocity needs a 'uid' argument", s)
  | some uid =>
    if (s.world.actor? uid).isSome then
      let vx := (args.member? "vx").bind Json.scalar?
      let vy := (args.member? "vy").bind Json.scalar?
      (.ok .done, { s with
        world := s.world.modifyActor uid fun a =>
          { a with vx := vx.getD a.vx, vy := vy.getD a.vy } })
    else (.error s!"no actor '{uid}'", s)

/-- Adds the actions that fit any scene. -/
def register [Scalar K] (r : Registry K τ) : Registry K τ :=
  (((r.addAction "advance_turn" advanceTurn).addAction "destroy_other" destroyOther).addAction
    "toggle_gravity" toggleGravity).addAction "apply_tool_velocity" applyToolVelocity

end Builtin

end Playfield
