import Playfield.Scene.Codec

/-!
# Actors

An actor is a live entity of the world. It starts from a placement, with the defaults of its
template where the placement says nothing.
-/

namespace Playfield

/-- A live entity. The position is that of its centre. -/
structure Actor (K : Type) where
  uid : String
  type : String
  x : K
  y : K
  width : K
  height : K
  layer : Int
  active : Bool
  blockMask : Option Int
  vx : K
  vy : K
  parent : Option String
  sprite : Option String
  physics : PhysicsFlags
  fields : Fields K

namespace Actor

variable {K : Type} [Scalar K]

/-- The actor of a placement with the given fields. -/
def ofPlacement (s : Scene K) (p : Placement K) (fields : Fields K) : Actor K :=
  let t := (s.template? p.type).getD .default
  { uid := p.uid, type := p.type, x := p.x, y := p.y
    width := p.width.getD t.width
    height := p.height.getD t.height
    layer := p.layer.getD t.layer
    active := p.active
    blockMask := p.blockMask <|> t.blockMask
    vx := p.vx, vy := p.vy
    parent := p.parent
    sprite := p.sprite <|> t.sprite
    physics := p.physics.getD t.physics
    fields }

def toJson (a : Actor K) : Json K :=
  .obj [("uid", .str a.uid), ("type", .str a.type), ("x", .scalar a.x), ("y", .scalar a.y),
    ("w", .scalar a.width), ("h", .scalar a.height), ("z", .int a.layer),
    ("active", .bool a.active), ("block_mask", .option .int a.blockMask),
    ("vx", .scalar a.vx), ("vy", .scalar a.vy), ("parent", .option .str a.parent),
    ("sprite", .option .str a.sprite), ("physics", a.physics.toJson),
    ("fields", a.fields.toJson)]

end Actor

end Playfield
