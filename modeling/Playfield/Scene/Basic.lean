import Playfield.Field

/-!
# Scenes

A scene is the document a simulation starts from: the world and its map, the types of actors and
their first instances, rules, cameras, roles, tools and the way ticks are scheduled. Members keep
the order of the document.
-/

namespace Playfield

/-- The size of the render surface, in world units. -/
structure Surface (K : Type) where
  width : K
  height : K

/-- Settings of the world as a whole. -/
structure WorldSettings (K : Type) where
  width : Option K
  height : Option K
  /-- Downward acceleration. -/
  gravity : K
  gravityEnabled : Bool
  surface : Option (Surface K)

/-- How an actor takes part in the physics. -/
structure PhysicsFlags where
  enabled : Bool := true
  dynamic : Bool := false
  collidable : Bool := true
  deriving DecidableEq, Repr, Inhabited

/-- The defaults of one type of actors. -/
structure Template (K : Type) where
  width : K
  height : K
  layer : Int
  blockMask : Option Int
  sprite : Option String
  symbol : Option Char
  physics : PhysicsFlags
  fields : Fields K
  /-- From generic clip names to the clips of this type. -/
  animations : Table String String

/-- An actor placed in the scene. What it leaves open comes from its template. -/
structure Placement (K : Type) where
  uid : String
  type : String
  x : K
  y : K
  width : Option K
  height : Option K
  layer : Option Int
  blockMask : Option Int
  vx : K
  vy : K
  parent : Option String
  sprite : Option String
  active : Bool
  physics : Option PhysicsFlags
  fields : Fields K

/-- A named value of the world. -/
structure Global (K : Type) where
  name : String
  value : FieldValue K

/-- Phase of an input or of a collision. -/
inductive Phase where
  | begin | on | finish
  deriving DecidableEq, Repr, Inhabited

/-- The name of a phase. -/
def Phase.name : Phase → String
  | begin => "begin"
  | on => "on"
  | finish => "end"

/-- The phase of a name. -/
def Phase.ofName? : String → Option Phase
  | "begin" => some begin
  | "on" => some on
  | "end" => some finish
  | _ => none

/-- Kind of a collision. -/
inductive CollisionKind where
  /-- Boxes overlap, whatever their masks. -/
  | overlap
  /-- Boxes that block each other touch. -/
  | contact
  /-- A box lies over a masked tile. -/
  | tile
  deriving DecidableEq, Repr, Inhabited

/-- The name of a kind. -/
def CollisionKind.name : CollisionKind → String
  | overlap => "overlap"
  | contact => "contact"
  | tile => "tile"

/-- The kind of a name. -/
def CollisionKind.ofName? : String → Option CollisionKind
  | "overlap" => some overlap
  | "contact" => some contact
  | "tile" => some tile
  | _ => none

/-- Which actors one side of a collision may be. -/
structure Selector where
  type : Option String := none
  uid : Option String := none
  deriving DecidableEq, Repr, Inhabited

/-- The actors of a type. -/
def Selector.ofType (type : String) : Selector := { type := some type }

/-- The selector admits an actor. -/
def Selector.admits (s : Selector) (uid type : String) : Bool :=
  s.type.all (· == type) && s.uid.all (· == uid)

/-- When a rule fires. -/
inductive Condition where
  | keyboard (key : String) (phase : Phase)
  | mouse (button : String) (phase : Phase)
  | collision (a b : Selector) (kind : Option CollisionKind) (phase : Phase)
  | logical (predicate : String) (type : Option String) (phase : Phase)
  | tool (name : String) (phase : Phase)
  | button (name : String) (phase : Phase)
  deriving DecidableEq, Repr

/-- A condition and the action it calls. -/
structure Rule where
  condition : Condition
  action : String
  deriving DecidableEq, Repr

/-- What a tile id stands for. -/
structure TileDef where
  blockMask : Option Int := none
  sprite : Option String := none
  color : Option String := none
  symbol : Option Char := none
  deriving DecidableEq, Repr, Inhabited

/-- A grid of tiles. -/
structure TileMap (K : Type) where
  width : Nat
  height : Nat
  tileSize : K
  /-- Tile ids row by row; `0` is no tile. -/
  tiles : Array (Array Nat)
  defs : Table Nat TileDef

/-- A camera: what a viewer looks at. -/
structure Camera (K : Type) where
  id : String
  follow : Option String
  x : Option K
  y : Option K
  width : Option K
  height : Option K

/-- Who plays a role. -/
inductive RoleKind where
  | human | ai | hybrid
  deriving DecidableEq, Repr, Inhabited

/-- The name of a kind. -/
def RoleKind.name : RoleKind → String
  | human => "human"
  | ai => "ai"
  | hybrid => "hybrid"

/-- The kind of a name. -/
def RoleKind.ofName? : String → Option RoleKind
  | "human" => some human
  | "ai" => some ai
  | "hybrid" => some hybrid
  | _ => none

/-- A role in a session. -/
structure Role (K : Type) where
  id : String
  kind : RoleKind
  required : Bool
  camera : Option String
  /-- What the role's client shows; passed on as it is. -/
  ui : Option (Json K)
  /-- Fields kept with the world. -/
  serverFields : Fields K
  /-- Fields kept by the client. -/
  localFields : Fields K

/-- How ticks are scheduled. -/
inductive LoopMode where
  | continuous | strictTurn | hybrid
  deriving DecidableEq, Repr, Inhabited

/-- The name of a loop mode. -/
def LoopMode.name : LoopMode → String
  | continuous => "continuous"
  | strictTurn => "strict_turn"
  | hybrid => "hybrid"

/-- The loop mode of a name; strict turns have a short name too. -/
def LoopMode.ofName? : String → Option LoopMode
  | "continuous" => some continuous
  | "strict_turn" => some strictTurn
  | "turn" => some strictTurn
  | "hybrid" => some hybrid
  | _ => none

/-- Scheduling of a session. -/
structure Multiplayer (K : Type) where
  defaultLoop : LoopMode
  /-- Ticks per second of game time. -/
  tickRate : Nat
  turnTimeoutMs : Option Nat
  hybridWindowMs : Option Nat
  timeScale : K
  maxCatchupSteps : Nat

/-- A tool that a role may call. -/
structure Tool (K : Type) where
  name : String
  description : String
  /-- The form of the arguments; passed on as it is. -/
  parameters : Json K
  /-- The roles the tool is offered to, or all. -/
  roles : Option (List String)

/-- The tool is offered to a role. -/
def Tool.offeredTo {K : Type} (t : Tool K) (role : String) : Bool :=
  t.roles.all fun roles => roles.contains role

/-- Size of a text viewport, in cells. -/
structure Crop where
  cols : Nat
  rows : Nat
  deriving DecidableEq, Repr

/-- How the world is drawn as text. -/
structure SymbolicSettings where
  crop : Option Crop := none
  empty : Char := '.'
  deriving DecidableEq, Repr

/-- A scene document. -/
structure Scene (K : Type) where
  world : WorldSettings K
  schemas : Table String Schema
  templates : Table String (Template K)
  actors : List (Placement K)
  globals : List (Global K)
  rules : List Rule
  map : Option (TileMap K)
  cameras : List (Camera K)
  roles : List (Role K)
  multiplayer : Multiplayer K
  tools : List (Tool K)
  symbolic : SymbolicSettings

variable {K : Type}

section Defaults

variable [Scalar K]

/-- A world without bounds and without acceleration. -/
def WorldSettings.default : WorldSettings K := ⟨none, none, 0.0, true, none⟩

/-- A type of actors about which nothing is said. -/
def Template.default : Template K := ⟨32.0, 32.0, 0, none, none, none, {}, ∅, ∅⟩

/-- Continuous ticks, thirty in a second. -/
def Multiplayer.default : Multiplayer K := ⟨.continuous, 30, none, none, 1.0, 5⟩

/-- The empty scene. -/
def Scene.default : Scene K :=
  ⟨.default, ∅, ∅, [], [], [], none, [], [], .default, [], {}⟩

end Defaults

namespace TileMap

/-- The extent in world units. -/
def pixelWidth [Scalar K] (m : TileMap K) : K := Scalar.ofInt m.width * m.tileSize

/-- The extent in world units. -/
def pixelHeight [Scalar K] (m : TileMap K) : K := Scalar.ofInt m.height * m.tileSize

/-- The tile id of a cell; cells outside the grid have no tile. -/
def tileAt (m : TileMap K) (col row : Int) : Nat :=
  if col < 0 ∨ row < 0 then 0
  else ((m.tiles[row.toNat]?.bind fun r => r[col.toNat]?)).getD 0

/-- The mask of the tile in a cell, if there is one with a mask. -/
def maskAt (m : TileMap K) (col row : Int) : Option Int :=
  match m.tileAt col row with
  | 0 => none
  | id => (m.defs.get? id).bind (·.blockMask)

end TileMap

namespace Scene

/-- The first camera of an id. -/
def camera? (s : Scene K) (id : String) : Option (Camera K) := s.cameras.find? (·.id == id)

/-- The first role of an id. -/
def role? (s : Scene K) (id : String) : Option (Role K) := s.roles.find? (·.id == id)

/-- The first tool of a name. -/
def tool? (s : Scene K) (name : String) : Option (Tool K) := s.tools.find? (·.name == name)

/-- The template of a type. -/
def template? (s : Scene K) (type : String) : Option (Template K) := s.templates.get? type

/-- The schema of a type. -/
def schema? (s : Scene K) (type : String) : Option Schema := s.schemas.get? type

/-- The type has a template or a schema. -/
def knowsType (s : Scene K) (type : String) : Bool :=
  (s.template? type).isSome || (s.schema? type).isSome

/-- The extent of the world: that of the map, else the declared one. -/
def worldSize [Scalar K] (s : Scene K) : Option (K × K) :=
  match s.map with
  | some m => some (m.pixelWidth, m.pixelHeight)
  | none => match s.world.width, s.world.height with
    | some w, some h => some (w, h)
    | _, _ => none

end Scene

end Playfield
