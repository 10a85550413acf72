import Playfield.World.Basic

/-!
# Edits of actors

An `Edit` overwrites some members of an actor and then adds to its position and velocity. It goes
past schemas: fields are replaced as a whole. Uid and type stay.
-/

namespace Playfield

/-- New values for some members of an actor, and what to add. -/
structure Edit (K : Type) where
  x : Option K := none
  y : Option K := none
  width : Option K := none
  height : Option K := none
  layer : Option Int := none
  active : Option Bool := none
  blockMask : Option (Option Int) := none
  vx : Option K := none
  vy : Option K := none
  parent : Option (Option String) := none
  sprite : Option (Option String) := none
  physics : Option PhysicsFlags := none
  fields : Option (Fields K) := none
  addX : Option K := none
  addY : Option K := none
  addVx : Option K := none
  addVy : Option K := none

namespace Edit

variable {K : Type} [Scalar K]

/-- An optional addition. -/
def plus (a : K) : Option K → K
  | some b => a + b
  | none => a

/-- Edits an actor. -/
def apply (e : Edit K) (a : Actor K) : Actor K :=
  { a with
    x := plus (e.x.getD a.x) e.addX
    y := plus (e.y.getD a.y) e.addY
    width := e.width.getD a.width
    height := e.height.getD a.height
    layer := e.layer.getD a.layer
    active := e.active.getD a.active
    blockMask := e.blockMask.getD a.blockMask
    vx := plus (e.vx.getD a.vx) e.addVx
    vy := plus (e.vy.getD a.vy) e.addVy
    parent := e.parent.getD a.parent
    sprite := e.sprite.getD a.sprite
    physics := e.physics.getD a.physics
    fields := e.fields.getD a.fields }

/-- A member that is present, also as null. -/
def present {α : Type} (ms : Members K) (name : String) (d : Decoder K α) : Option (Option α) :=
  ms.member name (fun draft => (d draft).map some) none

/-- Reads the members to set and those to add. -/
def decode (set add : Draft K) : Option (Edit K) := do
  let empty : Members K := ⟨[]⟩
  let ms ← if set matches .null then some empty else Decoder.object set
  let as ← if add matches .null then some empty else Decoder.object add
  return {
    x := ← present ms "x" Decoder.scalar
    y := ← present ms "y" Decoder.scalar
    width := ← present ms "w" Decoder.scalar
    height := ← present ms "h" Decoder.scalar
    layer := ← present ms "z" Decoder.signedHalf
    active := ← present ms "active" Decoder.bool
    blockMask := ← present ms "block_mask" (Decoder.nullable Decoder.word)
    vx := ← present ms "vx" Decoder.scalar
    vy := ← present ms "vy" Decoder.scalar
    parent := ← present ms "parent" (Decoder.nullable Decoder.text)
    sprite := ← present ms "sprite" (Decoder.nullable Decoder.text)
    physics := ← present ms "physics" PhysicsFlags.decode
    fields := ← present ms "fields" Fields.decode
    addX := ← present as "x" Decoder.scalar
    addY := ← present as "y" Decoder.scalar
    addVx := ← present as "vx" Decoder.scalar
    addVy := ← present as "vy" Decoder.scalar }

end Edit

end Playfield
