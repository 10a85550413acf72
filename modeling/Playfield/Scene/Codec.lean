import Playfield.Scene.Basic

/-!
# Scene documents as JSON

For each part of a scene its decoder and its JSON form. Encoding writes every member, absent options
as null, so that decoding the result gives the part back.

* `Scene.decode` takes the draft of a document; members that are left out have their defaults.
* `Condition` carries its variant in the member `type`.
-/

namespace Playfield

variable {K : Type}

/-- A phase as an optional member. -/
def Phase.member (ms : Members K) (buffered : Bool) : Option Phase :=
  ms.member "phase" (Decoder.named buffered Phase.ofName?) .on

namespace PhysicsFlags

def decode : Decoder K PhysicsFlags := fun d => do
  let ms ← Decoder.record ["enabled", "dynamic", "collidable"] d
  return {
    enabled := ← ms.member "enabled" Decoder.bool true
    dynamic := ← ms.member "dynamic" Decoder.bool false
    collidable := ← ms.member "collidable" Decoder.bool true }

def toJson (p : PhysicsFlags) : Json K :=
  .obj [("enabled", .bool p.enabled), ("dynamic", .bool p.dynamic),
    ("collidable", .bool p.collidable)]

end PhysicsFlags

namespace Selector

def decode : Decoder K Selector := fun d => do
  let ms ← Decoder.record ["type", "uid"] d
  return { type := ← ms.optional "type" Decoder.text, uid := ← ms.optional "uid" Decoder.text }

def toJson (s : Selector) : Json K :=
  .obj [("type", .option .str s.type), ("uid", .option .str s.uid)]

end Selector

namespace Condition

/-- The members of the variant named by the tag. -/
def decodeVariant (tag : String) (d : Draft K) : Option Condition :=
  match tag with
  | "keyboard" => do
    let ms ← Decoder.record ["key", "phase"] d
    return .keyboard (← ms.required "key" Decoder.text) (← Phase.member ms true)
  | "mouse" => do
    let ms ← Decoder.record ["button", "phase"] d
    return .mouse (← ms.required "button" Decoder.text) (← Phase.member ms true)
  | "collision" => do
    let ms ← Decoder.record ["a", "b", "kind", "phase"] d
    return .collision (← ms.required "a" Selector.decode) (← ms.required "b" Selector.decode)
      (← ms.optional "kind" (Decoder.named true CollisionKind.ofName?)) (← Phase.member ms true)
  | "logical" => do
    let ms ← Decoder.record ["predicate", "actor_type", "phase"] d
    return .logical (← ms.required "predicate" Decoder.text)
      (← ms.optional "actor_type" Decoder.text) (← Phase.member ms true)
  | "tool" => do
    let ms ← Decoder.record ["name", "phase"] d
    return .tool (← ms.required "name" Decoder.text) (← Phase.member ms true)
  | "button" => do
    let ms ← Decoder.record ["name", "phase"] d
    return .button (← ms.required "name" Decoder.text) (← Phase.member ms true)
  | _ => none

def decode : Decoder K Condition := Decoder.tagged decodeVariant

def toJson : Condition → Json K
  | keyboard key phase =>
    .obj [("type", .str "keyboard"), ("key", .str key), ("phase", .str phase.name)]
  | mouse which phase =>
    .obj [("type", .str "mouse"), ("button", .str which), ("phase", .str phase.name)]
  | collision a b kind phase =>
    .obj [("type", .str "collision"), ("a", a.toJson), ("b", b.toJson),
      ("kind", .option (.str ·.name) kind), ("phase", .str phase.name)]
  | logical predicate type phase =>
    .obj [("type", .str "logical"), ("predicate", .str predicate),
      ("actor_type", .option .str type), ("phase", .str phase.name)]
  | tool name phase => .obj [("type", .str "tool"), ("name", .str name), ("phase", .str phase.name)]
  | button name phase =>
    .obj [("type", .str "button"), ("name", .str name), ("phase", .str phase.name)]

end Condition

namespace Rule

def decode : Decoder K Rule := fun d => do
  let ms ← Decoder.record ["condition", "action"] d
  return ⟨← ms.required "condition" Condition.decode, ← ms.required "action" Decoder.text⟩

def toJson (r : Rule) : Json K :=
  .obj [("condition", r.condition.toJson), ("action", .str r.action)]

end Rule

namespace TileDef

def decode : Decoder K TileDef := fun d => do
  let ms ← Decoder.record ["block_mask", "sprite", "color", "symbol"] d
  return {
    blockMask := ← ms.optional "block_mask" Decoder.word
    sprite := ← ms.optional "sprite" Decoder.text
    color := ← ms.optional "color" Decoder.text
    symbol := ← ms.optional "symbol" Decoder.char }

def toJson (t : TileDef) : Json K :=
  .obj [("block_mask", .option .int t.blockMask), ("sprite", .option .str t.sprite),
    ("color", .option .str t.color), ("symbol", .option (.str ·.toString) t.symbol)]

/-- The tile id that a member's name writes: decimal, without leading zeros, within a half word. -/
def idOfName? (name : String) : Option Nat :=
  match name.toList with
  | [] => none
  | '0' :: _ :: _ => none
  | cs =>
    if cs.all Char.isDigit then
      let n := cs.foldl (fun n c => n * 10 + (c.toNat - 48)) 0
      if n ≤ Word.greatestHalf then some n else none
    else none

/-- A member whose name writes a tile id. -/
def decodeEntry (m : String × Draft K) : Option (Nat × TileDef) := do
  return (← idOfName? m.1, ← decode m.2)

/-- Definitions by tile id. The ids are read off the text, so a name with escapes is refused. -/
def decodeAll : Decoder K (Table Nat TileDef)
  | .obj verbatim members =>
    if verbatim then (members.mapM decodeEntry).map Table.ofList else none
  | _ => none

def allToJson (t : Table Nat TileDef) : Json K :=
  .obj (t.entries.map fun (id, d) => (toString id, d.toJson))

end TileDef

section

variable [Scalar K]

namespace Surface

def decode : Decoder K (Surface K) := fun d => do
  let ms ← Decoder.record ["width", "height"] d
  return ⟨← ms.required "width" Decoder.scalar, ← ms.required "height" Decoder.scalar⟩

def toJson (s : Surface K) : Json K :=
  .obj [("width", .scalar s.width), ("height", .scalar s.height)]

end Surface

namespace WorldSettings

def decode : Decoder K (WorldSettings K) := fun d => do
  let ms ← Decoder.record ["width", "height", "gravity", "gravity_enabled", "surface"] d
  return {
    width := ← ms.optional "width" Decoder.scalar
    height := ← ms.optional "height" Decoder.scalar
    gravity := ← ms.member "gravity" Decoder.scalar 0.0
    gravityEnabled := ← ms.member "gravity_enabled" Decoder.bool true
    surface := ← ms.optional "surface" Surface.decode }

def toJson (w : WorldSettings K) : Json K :=
  .obj [("width", .option .scalar w.width), ("height", .option .scalar w.height),
    ("gravity", .scalar w.gravity), ("gravity_enabled", .bool w.gravityEnabled),
    ("surface", .option Surface.toJson w.surface)]

end WorldSettings

namespace Template

def decode : Decoder K (Template K) := fun d => do
  let ms ← Decoder.record ["w", "h", "z", "block_mask", "sprite", "symbol", "physics", "fields",
    "animations"] d
  return {
    width := ← ms.member "w" Decoder.scalar 32.0
    height := ← ms.member "h" Decoder.scalar 32.0
    layer := ← ms.member "z" Decoder.signedHalf 0
    blockMask := ← ms.optional "block_mask" Decoder.word
    sprite := ← ms.optional "sprite" Decoder.text
    symbol := ← ms.optional "symbol" Decoder.char
    physics := ← ms.member "physics" PhysicsFlags.decode {}
    fields := ← ms.member "fields" Fields.decode ∅
    animations := ← ms.member "animations" (Decoder.table Decoder.text) ∅ }

def toJson (t : Template K) : Json K :=
  .obj [("w", .scalar t.width), ("h", .scalar t.height), ("z", .int t.layer),
    ("block_mask", .option .int t.blockMask), ("sprite", .option .str t.sprite),
    ("symbol", .option (.str ·.toString) t.symbol), ("physics", t.physics.toJson),
    ("fields", t.fields.toJson), ("animations", .table .str t.animations)]

end Template

namespace Placement

def decode : Decoder K (Placement K) := fun d => do
  let ms ← Decoder.record ["uid", "type", "x", "y", "w", "h", "z", "block_mask", "vx", "vy",
    "parent", "sprite", "active", "physics", "fields"] d
  return {
    uid := ← ms.required "uid" Decoder.text
    type := ← ms.required "type" Decoder.text
    x := ← ms.member "x" Decoder.scalar 0.0
    y := ← ms.member "y" Decoder.scalar 0.0
    width := ← ms.optional "w" Decoder.scalar
    height := ← ms.optional "h" Decoder.scalar
    layer := ← ms.optional "z" Decoder.signedHalf
    blockMask := ← ms.optional "block_mask" Decoder.word
    vx := ← ms.member "vx" Decoder.scalar 0.0
    vy := ← ms.member "vy" Decoder.scalar 0.0
    parent := ← ms.optional "parent" Decoder.text
    sprite := ← ms.optional "sprite" Decoder.text
    active := ← ms.member "active" Decoder.bool true
    physics := ← ms.optional "physics" PhysicsFlags.decode
    fields := ← ms.member "fields" Fields.decode ∅ }

def toJson (p : Placement K) : Json K :=
  .obj [("uid", .str p.uid), ("type", .str p.type), ("x", .scalar p.x), ("y", .scalar p.y),
    ("w", .option .scalar p.width), ("h", .option .scalar p.height), ("z", .option .int p.layer),
    ("block_mask", .option .int p.blockMask), ("vx", .scalar p.vx), ("vy", .scalar p.vy),
    ("parent", .option .str p.parent), ("sprite", .option .str p.sprite),
    ("active", .bool p.active), ("physics", .option PhysicsFlags.toJson p.physics),
    ("fields", p.fields.toJson)]

end Placement

namespace Global

def decode : Decoder K (Global K) := fun d => do
  let ms ← Decoder.record ["name", "value"] d
  return ⟨← ms.required "name" Decoder.text, ← ms.required "value" FieldValue.decode⟩

def toJson (g : Global K) : Json K := .obj [("name", .str g.name), ("value", g.value.toJson)]

end Global

namespace TileMap

def decode : Decoder K (TileMap K) := fun d => do
  let ms ← Decoder.record ["width", "height", "tile_size", "tiles", "tile_defs"] d
  let rows ← ms.required "tiles" (Decoder.list (Decoder.list Decoder.half))
  return {
    width := ← ms.required "width" Decoder.count
    height := ← ms.required "height" Decoder.count
    tileSize := ← ms.required "tile_size" Decoder.scalar
    tiles := (rows.map List.toArray).toArray
    defs := ← ms.member "tile_defs" TileDef.decodeAll ∅ }

def toJson (m : TileMap K) : Json K :=
  .obj [("width", .nat m.width), ("height", .nat m.height), ("tile_size", .scalar m.tileSize),
    ("tiles", .list (fun row => .list .nat row.toList) m.tiles.toList),
    ("tile_defs", TileDef.allToJson m.defs)]

end TileMap

namespace Camera

def decode : Decoder K (Camera K) := fun d => do
  let ms ← Decoder.record ["id", "follow", "x", "y", "width", "height"] d
  return {
    id := ← ms.required "id" Decoder.text
    follow := ← ms.optional "follow" Decoder.text
    x := ← ms.optional "x" Decoder.scalar
    y := ← ms.optional "y" Decoder.scalar
    width := ← ms.optional "width" Decoder.scalar
    height := ← ms.optional "height" Decoder.scalar }

def toJson (c : Camera K) : Json K :=
  .obj [("id", .str c.id), ("follow", .option .str c.follow), ("x", .option .scalar c.x),
    ("y", .option .scalar c.y), ("width", .option .scalar c.width),
    ("height", .option .scalar c.height)]

end Camera

namespace Role

def decode : Decoder K (Role K) := fun d => do
  let ms ← Decoder.record ["id", "kind", "required", "camera", "ui", "server_fields",
    "local_fields"] d
  return {
    id := ← ms.required "id" Decoder.text
    kind := ← ms.required "kind" (Decoder.named false RoleKind.ofName?)
    required := ← ms.member "required" Decoder.bool true
    camera := ← ms.optional "camera" Decoder.text
    ui := ← ms.optional "ui" Decoder.json
    serverFields := ← ms.member "server_fields" Fields.decode ∅
    localFields := ← ms.member "local_fields" Fields.decode ∅ }

def toJson (r : Role K) : Json K :=
  .obj [("id", .str r.id), ("kind", .str r.kind.name), ("required", .bool r.required),
    ("camera", .option .str r.camera), ("ui", .option (fun j => j) r.ui),
    ("server_fields", r.serverFields.toJson), ("local_fields", r.localFields.toJson)]

end Role

namespace Multiplayer

def decode : Decoder K (Multiplayer K) := fun d => do
  let ms ← Decoder.record ["default_loop", "tick_rate", "turn_timeout_ms", "hybrid_window_ms",
    "game_time_scale", "max_catchup_steps"] d
  return {
    defaultLoop := ← ms.member "default_loop" (Decoder.named false LoopMode.ofName?) .continuous
    tickRate := ← ms.member "tick_rate" Decoder.half 30
    turnTimeoutMs := ← ms.optional "turn_timeout_ms" Decoder.count
    hybridWindowMs := ← ms.optional "hybrid_window_ms" Decoder.count
    timeScale := ← ms.member "game_time_scale" Decoder.scalar 1.0
    maxCatchupSteps := ← ms.member "max_catchup_steps" Decoder.half 5 }

def toJson (m : Multiplayer K) : Json K :=
  .obj [("default_loop", .str m.defaultLoop.name), ("tick_rate", .nat m.tickRate),
    ("turn_timeout_ms", .option .nat m.turnTimeoutMs),
    ("hybrid_window_ms", .option .nat m.hybridWindowMs),
    ("game_time_scale", .scalar m.timeScale), ("max_catchup_steps", .nat m.maxCatchupSteps)]

end Multiplayer

namespace Tool

omit [Scalar K] in
def decode : Decoder K (Tool K) := fun d => do
  let ms ← Decoder.record ["name", "description", "parameters", "roles"] d
  return {
    name := ← ms.required "name" Decoder.text
    description := ← ms.member "description" Decoder.text ""
    parameters := ← ms.member "parameters" Decoder.json .null
    roles := ← ms.optional "roles" (Decoder.list Decoder.text) }

omit [Scalar K] in
def toJson (t : Tool K) : Json K :=
  .obj [("name", .str t.name), ("description", .str t.description),
    ("parameters", t.parameters), ("roles", .option .strings t.roles)]

end Tool

namespace SymbolicSettings

omit [Scalar K] in
def decodeCrop : Decoder K Crop := fun d => do
  let ms ← Decoder.record ["cols", "rows"] d
  return ⟨← ms.required "cols" Decoder.count, ← ms.required "rows" Decoder.count⟩

omit [Scalar K] in
def decode : Decoder K SymbolicSettings := fun d => do
  let ms ← Decoder.record ["crop", "empty"] d
  return {
    crop := ← ms.optional "crop" decodeCrop
    empty := ← ms.member "empty" Decoder.char '.' }

omit [Scalar K] in
def toJson (s : SymbolicSettings) : Json K :=
  .obj [("crop", .option (fun c => .obj [("cols", .nat c.cols), ("rows", .nat c.rows)]) s.crop),
    ("empty", .str s.empty.toString)]

end SymbolicSettings

namespace Scene

/-- The sections of a document. -/
def sections : List String :=
  ["world", "schemas", "templates", "actors", "globals", "rules", "map", "cameras", "roles",
    "multiplayer", "tools", "symbolic"]

def decode : Decoder K (Scene K) := fun d => do
  let ms ← Decoder.record sections d
  return {
    world := ← ms.member "world" WorldSettings.decode .default
    schemas := ← ms.member "schemas"
      (Decoder.table (Decoder.table (Decoder.named false FieldType.ofName?))) ∅
    templates := ← ms.member "templates" (Decoder.table Template.decode) ∅
    actors := ← ms.member "actors" (Decoder.list Placement.decode) []
    globals := ← ms.member "globals" (Decoder.list Global.decode) []
    rules := ← ms.member "rules" (Decoder.list Rule.decode) []
    map := ← ms.optional "map" TileMap.decode
    cameras := ← ms.member "cameras" (Decoder.list Camera.decode) []
    roles := ← ms.member "roles" (Decoder.list Role.decode) []
    multiplayer := ← ms.member "multiplayer" Multiplayer.decode .default
    tools := ← ms.member "tools" (Decoder.list Tool.decode) []
    symbolic := ← ms.member "symbolic" SymbolicSettings.decode {} }

def toJson (s : Scene K) : Json K :=
  .obj [("world", s.world.toJson),
    ("schemas", .table (.table (.str ·.name)) s.schemas),
    ("templates", .table Template.toJson s.templates),
    ("actors", .list Placement.toJson s.actors),
    ("globals", .list Global.toJson s.globals),
    ("rules", .list Rule.toJson s.rules),
    ("map", .option TileMap.toJson s.map),
    ("cameras", .list Camera.toJson s.cameras),
    ("roles", .list Role.toJson s.roles),
    ("multiplayer", s.multiplayer.toJson),
    ("tools", .list Tool.toJson s.tools),
    ("symbolic", s.symbolic.toJson)]

/-- The scene that a JSON value describes. -/
def ofJson? (j : Json K) : Option (Scene K) := decode j.toDraft

end Scene

end

end Playfield
