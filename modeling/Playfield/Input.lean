import Playfield.Scene.Codec

/-!
# Input of a tick

An `InputFrame` is what rules can observe in one tick: keys and mouse buttons by phase, collisions,
tool calls and presses of interface buttons.

* `PhaseSet.merge` is the union, phase by phase.
* `CollisionEvent.orient?` turns a collision so that its first party satisfies the first of two
  selectors.
-/

namespace Playfield

/-- A set of names, in order. -/
abbrev NameSet := Table String Unit

/-- The set of the names of a list. -/
def NameSet.ofNames (names : List String) : NameSet := Table.ofList (names.map (·, ()))

/-- The union. -/
def NameSet.union (a b : NameSet) : NameSet := a.insertAll b.entries

/-- Keys or mouse buttons by phase. -/
structure PhaseSet where
  begin : NameSet := ∅
  on : NameSet := ∅
  finish : NameSet := ∅

namespace PhaseSet

/-- The names in a phase. -/
def inPhase (s : PhaseSet) : Phase → NameSet
  | .begin => s.begin
  | .on => s.on
  | .finish => s.finish

/-- The name is in a phase. -/
def contains (s : PhaseSet) (phase : Phase) (name : String) : Bool :=
  (s.inPhase phase).contains name

/-- The union, phase by phase. -/
def merge (a b : PhaseSet) : PhaseSet :=
  ⟨a.begin.union b.begin, a.on.union b.on, a.finish.union b.finish⟩

end PhaseSet

/-- One side of a collision. -/
structure Party where
  uid : String
  type : String
  deriving DecidableEq, Repr, Inhabited

/-- A tile that an actor lies over. -/
structure TileHit where
  col : Int
  row : Int
  id : Nat
  deriving DecidableEq, Repr, Inhabited

/-- The type that stands for tiles among the parties of a collision. -/
def tileType : String := "Tile"

/-- A collision observed in a tick. -/
structure CollisionEvent where
  kind : CollisionKind
  phase : Phase
  a : Party
  b : Party
  tile : Option TileHit := none
  deriving DecidableEq, Repr, Inhabited

namespace CollisionEvent

/-- The same collision seen from the other side. -/
def swapped (e : CollisionEvent) : CollisionEvent := { e with a := e.b, b := e.a }

/-- The collision with its parties in the order of two selectors; as it stands, if that will do. -/
def orient? (e : CollisionEvent) (a b : Selector) : Option CollisionEvent :=
  if a.admits e.a.uid e.a.type && b.admits e.b.uid e.b.type then some e
  else if a.admits e.b.uid e.b.type && b.admits e.a.uid e.a.type then some e.swapped
  else none

end CollisionEvent

/-- The call of a tool, by a role if one is known. -/
structure ToolCall (K : Type) where
  name : String
  args : Json K
  role : Option String

/-- The press of an interface button, by a role if one is known. -/
structure ButtonEvent where
  name : String
  role : Option String
  deriving DecidableEq, Repr, Inhabited

/-- What rules can observe in a tick. -/
structure InputFrame (K : Type) where
  keyboard : PhaseSet := {}
  mouse : PhaseSet := {}
  collisions : List CollisionEvent := []
  tools : List (ToolCall K) := []
  buttons : List ButtonEvent := []

/-- An observed phase answers to a requested one. The first tick of a collision counts as `on`
too. -/
def Phase.answers (requested observed : Phase) : Bool :=
  match requested with
  | .on => observed == .begin || observed == .on
  | requested => requested == observed

/-- The collisions that a condition asks for, turned its way. -/
def InputFrame.collisionsOf {K : Type} (f : InputFrame K) (a b : Selector)
    (kind : Option CollisionKind) (phase : Phase) : List CollisionEvent :=
  (f.collisions.filter fun e => kind.all (· == e.kind) && phase.answers e.phase).filterMap
    fun e => e.orient? a b

variable {K : Type}

namespace PhaseSet

/-- An array of names as a set. -/
def decodeSet : Decoder K NameSet := fun d => (Decoder.list Decoder.text d).map NameSet.ofNames

def decode : Decoder K PhaseSet := fun d => do
  let ms ← Decoder.record ["begin", "on", "end"] d
  return ⟨← ms.member "begin" decodeSet ∅, ← ms.member "on" decodeSet ∅,
    ← ms.member "end" decodeSet ∅⟩

def toJson (s : PhaseSet) : Json K :=
  .obj [("begin", .strings s.begin.keys), ("on", .strings s.on.keys),
    ("end", .strings s.finish.keys)]

end PhaseSet

namespace Party

def decode : Decoder K Party := fun d => do
  let ms ← Decoder.record ["uid", "type"] d
  return ⟨← ms.required "uid" Decoder.text, ← ms.required "type" Decoder.text⟩

def toJson (p : Party) : Json K := .obj [("uid", .str p.uid), ("type", .str p.type)]

end Party

namespace TileHit

def decode : Decoder K TileHit := fun d => do
  let ms ← Decoder.record ["col", "row", "id"] d
  return ⟨← ms.required "col" Decoder.word, ← ms.required "row" Decoder.word,
    ← ms.required "id" Decoder.half⟩

def toJson (t : TileHit) : Json K :=
  .obj [("col", .int t.col), ("row", .int t.row), ("id", .nat t.id)]

end TileHit

namespace CollisionEvent

def decode : Decoder K CollisionEvent := fun d => do
  let ms ← Decoder.record ["kind", "phase", "a", "b", "tile"] d
  return {
    kind := ← ms.required "kind" (Decoder.named false CollisionKind.ofName?)
    phase := ← ms.required "phase" (Decoder.named false Phase.ofName?)
    a := ← ms.required "a" Party.decode
    b := ← ms.required "b" Party.decode
    tile := ← ms.optional "tile" TileHit.decode }

def toJson (e : CollisionEvent) : Json K :=
  .obj ([("kind", .str e.kind.name), ("phase", .str e.phase.name), ("a", e.a.toJson),
    ("b", e.b.toJson)] ++ Json.optionalMember "tile" TileHit.toJson e.tile)

end CollisionEvent

namespace ToolCall

def decode : Decoder K (ToolCall K) := fun d => do
  let ms ← Decoder.record ["name", "args", "role"] d
  return ⟨← ms.required "name" Decoder.text, ← ms.member "args" Decoder.json .null,
    ← ms.optional "role" Decoder.text⟩

def toJson (t : ToolCall K) : Json K :=
  .obj [("name", .str t.name), ("args", t.args), ("role", .option .str t.role)]

end ToolCall

namespace ButtonEvent

def decode : Decoder K ButtonEvent := fun d => do
  let ms ← Decoder.record ["name", "role"] d
  return ⟨← ms.required "name" Decoder.text, ← ms.optional "role" Decoder.text⟩

def toJson (b : ButtonEvent) : Json K := .obj [("name", .str b.name), ("role", .option .str b.role)]

end ButtonEvent

namespace InputFrame

def decode : Decoder K (InputFrame K) := fun d => do
  let ms ← Decoder.record ["keyboard", "mouse", "collisions", "tools", "buttons"] d
  return {
    keyboard := ← ms.member "keyboard" PhaseSet.decode {}
    mouse := ← ms.member "mouse" PhaseSet.decode {}
    collisions := ← ms.member "collisions" (Decoder.list CollisionEvent.decode) []
    tools := ← ms.member "tools" (Decoder.list ToolCall.decode) []
    buttons := ← ms.member "buttons" (Decoder.list ButtonEvent.decode) [] }

def toJson (f : InputFrame K) : Json K :=
  .obj [("keyboard", f.keyboard.toJson), ("mouse", f.mouse.toJson),
    ("collisions", .list CollisionEvent.toJson f.collisions),
    ("tools", .list ToolCall.toJson f.tools), ("buttons", .list ButtonEvent.toJson f.buttons)]

end InputFrame

end Playfield
