import Playfield.Attachment
import Playfield.Scene.Validation
import Playfield.World.Actor

/-!
# The world

The live state of a simulation: actors in order of creation with an index of their uids, globals,
fields of roles, the tick and turn counters, and the actors removed since the last report.

* `World.new` places the actors of a scene.
* `actor?` and `modifyActor` look an actor up in the index.
* `spawn` creates an actor with the uid `type_n`, where `n` is the least number above those used
  before for which the index does not have that uid.
* `destroy` moves an actor, then inactive, to the removed ones; `takeRemoved` hands those out.
* `setField` and `setRoleField` assign fields, the first within the schema of the actor's type.
-/

namespace Playfield

/-- The live state of a simulation. -/
structure World (K : Type) where
  scene : Scene K
  actors : List (Actor K)
  /-- Where the actor of each uid stands. An actor keeps its entry when its uid is overwritten,
  until the index is made anew for a removal. -/
  index : Table String Nat
  globals : Fields K
  /-- Fields of roles that live in the world. -/
  roles : Table String (Fields K)
  tick : Nat := 0
  turn : Nat := 0
  gravityEnabled : Bool
  removed : List (Actor K) := []
  /-- The last number given to a spawned actor. -/
  spawned : Nat := 0

/-- What to spawn. -/
structure SpawnRequest (K : Type) where
  type : String
  x : K
  y : K
  vx : K
  vy : K
  parent : Option String
  fields : Fields K

/-- The state of the world as it is shown. -/
structure WorldSnapshot (K : Type) where
  tick : Nat
  turn : Nat
  gravityEnabled : Bool
  globals : Fields K
  roles : Table String (Fields K)
  actors : List (Actor K)

variable {K : Type}

namespace World

/-- The actor that is found under a uid. -/
def actor? (w : World K) (uid : String) : Option (Actor K) :=
  (w.index.get? uid).bind (w.actors[·]?)

/-- Edits the actor that is found under a uid, if there is one. -/
def modifyActor (w : World K) (uid : String) (f : Actor K → Actor K) : World K :=
  { w with actors := (w.index.get? uid).elim w.actors (w.actors.modify · f) }

/-- The live actors of a type. -/
def actorsOfType (w : World K) (type : String) : List (Actor K) :=
  w.actors.filter (·.type == type)

/-- The attachments of the live actors. -/
def attachments (w : World K) : Attachments := ⟨w.actors.map fun a => (a.uid, a.parent)⟩

/-- Sets a global. -/
def setGlobal (w : World K) (name : String) (v : FieldValue K) : World K :=
  { w with globals := w.globals.insert name v }

/-- Moves the actor that is found under a uid to the removed ones, and makes the index anew. Says
whether there was one. -/
def destroy (w : World K) (uid : String) : Bool × World K :=
  match w.index.get? uid with
  | none => (false, w)
  | some i =>
    let rest := w.actors.eraseIdx i
    (true, { w with
      actors := rest
      index := positions (rest.map Actor.uid)
      removed := w.removed ++ (w.actors[i]?.map fun a => { a with active := false }).toList })

/-- Hands out the actors removed since the last call. -/
def takeRemoved (w : World K) : List (Actor K) × World K := (w.removed, { w with removed := [] })

/-- A field of a role. -/
def roleField? (w : World K) (role name : String) : Option (FieldValue K) :=
  (w.roles.get? role).bind (·.get? name)

/-- Sets a field of a role. Says whether the role takes part. -/
def setRoleField (w : World K) (role name : String) (v : FieldValue K) : Bool × World K :=
  if w.roles.contains role then
    (true, { w with roles := w.roles.modify role (·.insert name v) })
  else (false, w)

/-- Hands the turn on. -/
def advanceTurn (w : World K) : World K := { w with turn := w.turn + 1 }

/-- Switches gravity. -/
def setGravity (w : World K) (on : Bool) : World K := { w with gravityEnabled := on }

/-- Counts a tick. -/
def beginTick (w : World K) : World K := { w with tick := w.tick + 1 }

/-- The state that is shown. -/
def snapshot (w : World K) : WorldSnapshot K :=
  ⟨w.tick, w.turn, w.gravityEnabled, w.globals, w.roles, w.actors⟩

/-- The uid of the `n`-th spawned actor of a type. -/
def spawnUid (type : String) (n : Nat) : String := s!"{type}_{n}"

/-- The least number above those used before whose uid the index does not have. Among one more
numbers than the index has entries one is free. -/
def nextSpawn (w : World K) (type : String) : Nat :=
  ((List.range' (w.spawned + 1) (w.index.entries.length + 1)).find? fun n =>
    !w.index.contains (spawnUid type n)).getD (w.spawned + w.index.entries.length + 1)

variable [Scalar K]

/-- The actors of placements, in order. -/
def place (s : Scene K) : List (Placement K) → Except SceneError (List (Actor K))
  | [] => .ok []
  | p :: rest =>
    match s.fieldsOf p.type p.fields with
    | .error e => .error (.field s!"actor '{p.uid}'" e)
    | .ok fields => (place s rest).map (Actor.ofPlacement s p fields :: ·)

/-- The world at the start of a scene, with the given roles. -/
def new (s : Scene K) (roles : List (Role K)) : Except SceneError (World K) :=
  (place s s.actors).map fun actors =>
    { scene := s
      actors
      index := positions (actors.map Actor.uid)
      globals := Table.ofList (s.globals.map fun g => (g.name, g.value))
      roles := Table.ofList (roles.map fun r => (r.id, r.serverFields))
      gravityEnabled := s.world.gravityEnabled }

/-- The placement of a spawned actor. -/
def SpawnRequest.placement (r : SpawnRequest K) (uid : String) : Placement K :=
  { uid, type := r.type, x := r.x, y := r.y, width := none, height := none, layer := none
    blockMask := none, vx := r.vx, vy := r.vy, parent := r.parent, sprite := none, active := true
    physics := none, fields := r.fields }

/-- Creates an actor and gives its uid. A number is used up even if the fields do not fit. -/
def spawn (w : World K) (r : SpawnRequest K) : Except SceneError String × World K :=
  if w.scene.knowsType r.type then
    let n := w.nextSpawn r.type
    let uid := spawnUid r.type n
    let w := { w with spawned := n }
    match w.scene.fieldsOf r.type r.fields with
    | .error e => (.error (.field s!"spawned actor '{uid}'" e), w)
    | .ok fields =>
      let actor := Actor.ofPlacement w.scene (SpawnRequest.placement r uid) fields
      (.ok uid, { w with
        actors := w.actors ++ [actor], index := w.index.insert uid w.actors.length })
  else (.error (.unknownActorType "" r.type), w)

/-- Sets a field of an actor; an unknown uid is passed over. -/
def setField (w : World K) (uid name : String) (v : FieldValue K) :
    Except SchemaError Unit × World K :=
  match w.actor? uid with
  | none => (.ok (), w)
  | some a =>
    let checked := match w.scene.schema? a.type with
      | some schema => checkField schema name v
      | none => .ok v
    match checked with
    | .error e => (.error e, w)
    | .ok v => (.ok (), w.modifyActor uid fun a => { a with fields := a.fields.insert name v })

end World

namespace WorldSnapshot

variable [Scalar K]

/-- The members of the JSON form. -/
def members (s : WorldSnapshot K) : List (String × Json K) :=
  [("tick", .nat s.tick), ("turn", .nat s.turn), ("gravity_enabled", .bool s.gravityEnabled),
    ("globals", s.globals.toJson), ("roles", .table Fields.toJson s.roles),
    ("actors", .list Actor.toJson s.actors)]

def toJson (s : WorldSnapshot K) : Json K := .obj s.members

end WorldSnapshot

end Playfield
