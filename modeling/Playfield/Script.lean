import Playfield.Json.Writer
import Playfield.Rule.Registry
import Playfield.World.Edit

/-!
# Scripted actions

A host may write its actions and predicates as data. An action is a list of steps that run in order
until one fails; a step `multi` ends the list and leaves a task that runs steps in later ticks.

* Texts of steps hold placeholders such as `$actor` or `$tick`, which `expand` replaces by what
  called the action.
* `Script.run` is the action of a list of steps, `Script.resume` what its tasks do.
* `Test.holds` is the predicate of a test.
-/

namespace Playfield.Script

/-- A step of a scripted action. -/
inductive Step where
  | setGlobal (name : String) (value : FieldValue Float)
  | add (name : String) (amount : FieldValue Float)
  | log (text : String)
  | setField (uid name : String) (value : FieldValue Float)
  | setRoleField (role name : String) (value : FieldValue Float)
  | edit (uid : String) (e : Edit Float)
  | spawn (request : SpawnRequest Float)
  | destroy (uid : String)
  | gravity (on : Bool)
  | advanceTurn
  | roll (name : String)
  | rollWide (name : String)
  | storeDt (name : String)
  | count (name type : String)
  | fail (message : String)
  /-- Runs `each` in every tick, `ticks` times, and `last` after that. -/
  | multi (ticks : Int) (each last : List Step)

/-- What is left of a `multi`. -/
structure Task where
  ticks : Int
  each : List Step
  last : List Step

/-- The placeholders and what they stand for, in the order in which they are replaced. -/
def placeholders (b : Binding Float) (w : World Float) : List (String × Option String) :=
  let args : Json Float := (b.tool.map (·.args)).getD .null
  [("$actor", b.actor),
    ("$args", some args.compact),
    ("$button", b.button.map (·.name)),
    ("$role", b.role?),
    ("$rule", some (toString b.rule)),
    ("$tick", some (toString w.tick)),
    ("$turn", some (toString w.turn)),
    ("$kind", b.collision.map (·.kind.name)),
    ("$phase", b.collision.map (·.phase.name)),
    ("$a", b.collision.map (·.a.uid)),
    ("$b", b.collision.map (·.b.uid))]

/-- Replaces placeholders one after the other; one without a meaning becomes a question mark. -/
def expand (b : Binding Float) (w : World Float) (text : String) : String :=
  (placeholders b w).foldl (fun s p => s.replace p.1 (p.2.getD "?")) text

/-- The sum of two numbers: integers stay integers, modulo `2^64`. -/
def sum? : FieldValue Float → FieldValue Float → Option (FieldValue Float)
  | .int a, .int b => some (.int (Word.wrap (a + b)))
  | a, b => do return .float ((← a.scalar?) + (← b.scalar?))

/-- The text of a string value; empty for others. -/
def textOf : Option (FieldValue Float) → String
  | some (.str s) => s
  | _ => ""

/-- Runs one step, `multi` excepted, which does nothing here. -/
def Step.run (step : Step) (t : Trigger Float) (s : Stage Float) :
    Except String Unit × Stage Float :=
  let w := s.world
  let x := expand t.binding w
  let done (w : World Float) : Except String Unit × Stage Float := (.ok (), { s with world := w })
  match step with
  | .setGlobal name value => done (w.setGlobal (x name) value)
  | .add name amount =>
    match sum? ((w.globals.get? (x name)).getD (.int 0)) amount with
    | some v => done (w.setGlobal (x name) v)
    | none => (.error "not a number", s)
  | .log text => done (w.setGlobal "log" (.str (textOf (w.globals.get? "log") ++ x text)))
  | .setField uid name value =>
    match w.setField (x uid) (x name) value with
    | (.error e, w) => (.error e.message, { s with world := w })
    | (.ok (), w) => done w
  | .setRoleField role name value =>
    let (known, w) := w.setRoleField (x role) (x name) value
    done (w.setGlobal "role_known" (.bool known))
  | .edit uid e =>
    let uid := x uid
    if (w.actor? uid).isSome then done (w.modifyActor uid e.apply)
    else (.error s!"no actor '{uid}'", s)
  | .spawn r =>
    match w.spawn { r with parent := r.parent.map x } with
    | (.error e, w) => (.error e.message, { s with world := w })
    | (.ok uid, w) => done (w.setGlobal "spawned" (.str uid))
  | .destroy uid =>
    let (found, w) := w.destroy (x uid)
    done (w.setGlobal "destroyed" (.bool found))
  | .gravity on => done (w.setGravity on)
  | .advanceTurn => done w.advanceTurn
  | .roll name =>
    let (n, rng) := s.rng.next32
    (.ok (), ⟨w.setGlobal (x name) (.int n.toNat), rng⟩)
  | .rollWide name =>
    let (n, rng) := s.rng.next64
    (.ok (), ⟨w.setGlobal (x name) (.int (Word.wrap n.toNat)), rng⟩)
  | .storeDt name => done (w.setGlobal (x name) (.float t.dt))
  | .count name type => done (w.setGlobal (x name) (.int (w.actorsOfType type).length))
  | .fail message => (.error (x message), s)
  | .multi .. => done w

/-- Runs steps in order, up to a `multi`. -/
def run : List Step → Run Float (Outcome Task)
  | [], _, s => (.ok .done, s)
  | .multi ticks each last :: _, _, s => (.ok (.resume ⟨ticks, each, last⟩), s)
  | step :: rest, t, s =>
    match step.run t s with
    | (.error cause, s) => (.error cause, s)
    | (.ok (), s) => run rest t s

/-- Runs a task for one tick. -/
def resume (task : Task) : Run Float (Option Task) := fun t s =>
  match run task.each t s with
  | (.error cause, s) => (.error cause, s)
  | (.ok _, s) =>
    if task.ticks - 1 > 0 then (.ok (some { task with ticks := task.ticks - 1 }), s)
    else
      match run task.last t s with
      | (.error cause, s) => (.error cause, s)
      | (.ok _, s) => (.ok none, s)

/-- A test that a predicate makes. -/
inductive Test where
  | always
  | active
  | xAbove (x : Float)
  | yAbove (y : Float)
  | fieldIs (name : String) (value : FieldValue Float)
  | globalIs (name : String) (value : FieldValue Float)
  | tickAtLeast (tick : Float)
  | never

/-- The test holds for an actor. -/
def Test.holds : Test → Predicate Float
  | always, _, _ => true
  | active, a, _ => a.active
  | xAbove x, a, _ => decide (x < a.x)
  | yAbove y, a, _ => decide (y < a.y)
  | fieldIs name v, a, _ => (a.fields.get? name).any (·.same v)
  | globalIs name v, _, w => (w.globals.get? name).any (·.same v)
  | tickAtLeast tick, _, w => decide (tick ≤ Scalar.ofInt w.tick)
  | never, _, _ => false

/-! ### Scripts as JSON -/

/-- A text member; empty if it is missing. -/
def textMember (j : Json Float) (name : String) : String :=
  ((j.member? name).bind Json.text?).getD ""

/-- A number member; zero if it is missing. -/
def scalarMember (j : Json Float) (name : String) : Float :=
  ((j.member? name).bind Json.scalar?).getD 0

/-- A member that holds a field value. -/
def valueMember? (j : Json Float) (name : String) : Option (FieldValue Float) :=
  (j.member? name).bind fun v => FieldValue.decode v.toDraft

/-- What to spawn, from the members of a step. -/
def spawnRequest? (j : Json Float) : Option (SpawnRequest Float) := do
  let fields ← match j.member? "fields" with
    | none | some .null => some ∅
    | some f => Fields.decode f.toDraft
  return {
    type := textMember j "type"
    x := scalarMember j "x", y := scalarMember j "y"
    vx := scalarMember j "vx", vy := scalarMember j "vy"
    parent := (j.member? "parent").bind Json.text?
    fields }

/-- An edit, from the members `set` and `add`. -/
def edit? (j : Json Float) : Option (Edit Float) :=
  Edit.decode ((j.member? "set").getD .null).toDraft ((j.member? "add").getD .null).toDraft

/-- A step other than `multi`. -/
def Step.simple? (j : Json Float) : Option Step :=
  let text := textMember j
  match text "do" with
  | "global" => (valueMember? j "value").map (.setGlobal (text "name"))
  | "add" => (valueMember? j "by").map (.add (text "name"))
  | "log" => some (.log (text "text"))
  | "field" => (valueMember? j "value").map (.setField (text "uid") (text "name"))
  | "role_field" => (valueMember? j "value").map (.setRoleField (text "role") (text "name"))
  | "actor" => (edit? j).map (.edit (text "uid"))
  | "spawn" => (spawnRequest? j).map .spawn
  | "destroy" => some (.destroy (text "uid"))
  | "gravity" => some (.gravity (((j.member? "on").bind Json.bool?).getD false))
  | "turn" => some .advanceTurn
  | "roll" => some (.roll (text "name"))
  | "roll64" => some (.rollWide (text "name"))
  | "dt" => some (.storeDt (text "name"))
  | "count" => some (.count (text "name") (text "type"))
  | "fail" => some (.fail (text "message"))
  | _ => none

mutual
/-- A step. -/
def Step.ofJson? : Json Float → Option Step
  | .obj members =>
    let j : Json Float := .obj members
    if textMember j "do" = "multi" then do
      let each ← stepsMember? "each" members
      let last ← stepsMember? "then" members
      return .multi (((j.member? "ticks").bind Json.int?).getD 1) each last
    else Step.simple? j
  | _ => none

/-- The steps of an array. -/
def Step.listOfJson? : List (Json Float) → Option (List Step)
  | [] => some []
  | j :: rest => do
    let step ← Step.ofJson? j
    let steps ← Step.listOfJson? rest
    return step :: steps

/-- A member that holds steps; none if it is missing. -/
def stepsMember? (name : String) : List (String × Json Float) → Option (List Step)
  | [] => some []
  | (k, .arr items) :: rest =>
    if k = name then Step.listOfJson? items else stepsMember? name rest
  | _ :: rest => stepsMember? name rest
end

/-- The steps of an action. -/
def stepsOfJson? : Json Float → Option (List Step)
  | .arr items => Step.listOfJson? items
  | _ => none

/-- The test of a predicate. -/
def Test.ofJson (j : Json Float) : Test :=
  match textMember j "kind" with
  | "always" => .always
  | "active" => .active
  | "x_gt" => .xAbove (scalarMember j "value")
  | "y_gt" => .yAbove (scalarMember j "value")
  | "field_eq" => (valueMember? j "value").elim .never (.fieldIs (textMember j "name"))
  | "global_eq" => (valueMember? j "value").elim .never (.globalIs (textMember j "name"))
  | "tick_ge" => .tickAtLeast (scalarMember j "value")
  | _ => .never

/-- A registry without functions, for scripted tasks. -/
def emptyRegistry : Registry Float Task := { resume }

/-- A registry of scripted functions, on top of those that fit any scene if they are wanted. -/
def registry (builtins : Bool) (actions : List (String × List Step))
    (predicates : List (String × Test)) : Registry Float Task :=
  let base := if builtins then Builtin.register emptyRegistry else emptyRegistry
  let withActions := actions.foldl (fun r a => r.addAction a.1 (run a.2)) base
  predicates.foldl (fun r p => r.addPredicate p.1 p.2.holds) withActions

end Playfield.Script
