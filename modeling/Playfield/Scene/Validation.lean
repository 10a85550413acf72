import Playfield.Json.Reader
import Playfield.Scene.Codec

/-!
# Validation of scenes

`Scene.validate` tests what the form of a document does not ensure: that names resolve, that fields
fit their schemas and that the map has its declared shape. The first violation in a fixed order is
reported: actors, map, roles, scheduling, cameras, rules.

`Scene.load` reads, decodes and validates a document.
-/

namespace Playfield

/-- What is wrong with a scene. -/
inductive SceneError where
  | duplicateUid (uid : String)
  | unknownActorType (uid type : String)
  | field (owner : String) (error : SchemaError)
  | mapShape (reason : String)
  | unknownTile (id : Nat)
  | unknownReference (reason : String)
  | duplicateRole (id : String)
  | invalidMultiplayer (reason : String)
  | missingFunction (reason : String)
  deriving DecidableEq, Repr

/-- The wording of a scene error. -/
def SceneError.message : SceneError → String
  | duplicateUid uid => s!"duplicate actor uid '{uid}'"
  | unknownActorType uid type =>
    s!"actor '{uid}' has unknown type '{type}' (no template or schema)"
  | field owner error => s!"{owner}: {error.message}"
  | mapShape reason => s!"map shape: {reason}"
  | unknownTile id => s!"tile id {id} has no definition"
  | unknownReference reason => s!"unknown reference: {reason}"
  | duplicateRole id => s!"duplicate role '{id}'"
  | invalidMultiplayer reason => s!"multiplayer: {reason}"
  | missingFunction reason => s!"missing function: {reason}"

/-- Requires a condition. -/
def SceneError.unless (e : SceneError) (c : Bool) : Except SceneError Unit :=
  if c then .ok () else .error e

variable {K : Type} [Scalar K]

namespace Scene

/-- The fields with which an actor starts. -/
def fieldsOf (s : Scene K) (type : String) (own : Fields K) : Except SchemaError (Fields K) :=
  buildFields (s.schema? type) ((s.template? type).elim ∅ (·.fields)) own

/-- Actors have distinct uids, known types and fields that fit. -/
def validatePlacements (s : Scene K) (seen : List String) :
    List (Placement K) → Except SceneError Unit
  | [] => .ok ()
  | p :: rest => do
    (SceneError.duplicateUid p.uid).unless (!seen.contains p.uid)
    (SceneError.unknownActorType p.uid p.type).unless (s.knowsType p.type)
    match s.fieldsOf p.type p.fields with
    | .ok _ => validatePlacements s (p.uid :: seen) rest
    | .error e => .error (.field s!"actor '{p.uid}'" e)

/-- Parents are actors of the scene. -/
def validateParents (s : Scene K) : Except SceneError Unit :=
  s.actors.forM fun p =>
    match p.parent with
    | none => .ok ()
    | some parent =>
      (SceneError.unknownReference
        s!"actor '{p.uid}' attached to missing parent '{parent}'").unless
        (s.actors.any (·.uid == parent))

/-- A row has the declared width, and its tiles are defined. -/
def validateRow (m : TileMap K) (index : Nat) (row : List Nat) : Except SceneError Unit := do
  (SceneError.mapShape
    s!"row {index} has {row.length} columns, expected {m.width}").unless (row.length == m.width)
  row.forM fun id => (SceneError.unknownTile id).unless (id == 0 || m.defs.contains id)

/-- The grid has the declared shape. -/
def validateMap (m : TileMap K) : Except SceneError Unit := do
  (SceneError.mapShape "tile_size must be positive").unless (!decide (m.tileSize ≤ 0.0))
  (SceneError.mapShape s!"expected {m.height} rows, found {m.tiles.size}").unless
    (m.tiles.size == m.height)
  (m.tiles.toList.zipIdx).forM fun (row, index) => validateRow m index row.toList

/-- Roles have distinct ids and known cameras. -/
def validateRoles (s : Scene K) (seen : List String) : List (Role K) → Except SceneError Unit
  | [] => .ok ()
  | r :: rest => do
    (SceneError.duplicateRole r.id).unless (!seen.contains r.id)
    match r.camera with
    | none => pure ()
    | some camera =>
      (SceneError.unknownReference s!"role '{r.id}' bound to missing camera '{camera}'").unless
        (s.camera? camera).isSome
    validateRoles s (r.id :: seen) rest

/-- Tools are offered to roles of the scene. -/
def validateTool (s : Scene K) (t : Tool K) : Except SceneError Unit :=
  match (t.roles.getD []).find? (fun r => !s.roles.any (·.id == r)) with
  | none => .ok ()
  | some missing =>
    .error (.unknownReference s!"tool '{t.name}' offered to missing role '{missing}'")

/-- Rates and caps are positive. -/
def validateMultiplayer (m : Multiplayer K) : Except SceneError Unit := do
  (SceneError.invalidMultiplayer "tick_rate must be positive").unless (m.tickRate != 0)
  (SceneError.invalidMultiplayer "game_time_scale must be positive").unless
    (decide (0.0 < m.timeScale))
  (SceneError.invalidMultiplayer "max_catchup_steps must be at least 1").unless
    (m.maxCatchupSteps != 0)

/-- A camera follows an actor of the scene, if any. -/
def validateCamera (s : Scene K) (c : Camera K) : Except SceneError Unit :=
  match c.follow with
  | none => .ok ()
  | some follow =>
    (SceneError.unknownReference s!"camera '{c.id}' follows missing actor '{follow}'").unless
      (s.actors.any (·.uid == follow))

/-- A rule listens to a tool of the scene, if to any. -/
def validateRule (s : Scene K) (r : Rule) : Except SceneError Unit :=
  match r.condition with
  | .tool name _ =>
    (SceneError.missingFunction
      s!"rule for action '{r.action}' listens to undeclared tool '{name}'").unless
      (s.tool? name).isSome
  | _ => .ok ()

/-- Tests a scene. -/
def validate (s : Scene K) : Except SceneError Unit := do
  validatePlacements s [] s.actors
  validateParents s
  s.map.forM validateMap
  validateRoles s [] s.roles
  s.tools.forM s.validateTool
  validateMultiplayer s.multiplayer
  s.cameras.forM s.validateCamera
  s.rules.forM s.validateRule

/-- Why a document was not loaded. -/
inductive LoadError where
  | malformed
  | invalid (error : SceneError)

/-- The wording of a load error. -/
def LoadError.message : LoadError → String
  | malformed => "Failed to parse scene JSON"
  | invalid error => s!"Invalid scene: {error.message}"

/-- Decodes a document without validating it. -/
def ofText? (text : String) : Option (Scene Float) := Json.read? text >>= Scene.decode

/-- Decodes and validates a document. -/
def load (text : String) : Except LoadError (Scene Float) :=
  match ofText? text with
  | none => .error .malformed
  | some s =>
    match s.validate with
    | .ok _ => .ok s
    | .error e => .error (.invalid e)

end Scene

end Playfield
