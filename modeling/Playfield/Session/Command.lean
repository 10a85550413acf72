import Playfield.Input

/-!
# Commands

What a role asks for in a session: a tool call, raw input, the press of a button, or nothing.

* `Command.applyTo` adds a command to the input of a tick, in the name of a role; `toFrame` is the
  input that holds nothing else.
-/

namespace Playfield

/-- What a role asks for. -/
inductive Command (K : Type) where
  | tool (name : String) (args : Json K)
  | input (keyboard mouse : PhaseSet) (buttons : List String)
  | button (name : String)
  | noop

namespace Command

variable {K : Type}

/-- Adds a command to an input. -/
def applyTo (c : Command K) (role : String) (f : InputFrame K) : InputFrame K :=
  match c with
  | tool name args => { f with tools := f.tools ++ [⟨name, args, some role⟩] }
  | input keyboard mouse buttons =>
    { f with
      keyboard := f.keyboard.merge keyboard
      mouse := f.mouse.merge mouse
      buttons := f.buttons ++ buttons.map (⟨·, some role⟩) }
  | button name => { f with buttons := f.buttons ++ [⟨name, some role⟩] }
  | noop => f

/-- The input that holds just this command. -/
def toFrame (c : Command K) (role : String) : InputFrame K := c.applyTo role {}

/-- The tool that a command calls. -/
def tool? : Command K → Option String
  | tool name _ => some name
  | _ => none

/-- The members of the variant named by the tag. -/
def decodeVariant (tag : String) (d : Draft K) : Option (Command K) :=
  match tag with
  | "tool" => do
    let ms ← Decoder.record ["name", "args"] d
    return .tool (← ms.required "name" Decoder.text) (← ms.member "args" Decoder.json .null)
  | "input" => do
    let ms ← Decoder.record ["keyboard", "mouse", "buttons"] d
    let keyboard ← ms.member "keyboard" PhaseSet.decode {}
    let mouse ← ms.member "mouse" PhaseSet.decode {}
    return .input keyboard mouse
      (← ms.member "buttons" (Decoder.list Decoder.text) [])
  | "button" => do
    let ms ← Decoder.record ["name"] d
    return .button (← ms.required "name" Decoder.text)
  -- Any object will do, but nothing may follow the tag in an array.
  | "noop" => if d matches .arr (_ :: _) then none else some .noop
  | _ => none

def decode : Decoder K (Command K) := Decoder.tagged decodeVariant

def toJson : Command K → Json K
  | tool name args => .obj [("type", .str "tool"), ("name", .str name), ("args", args)]
  | input keyboard mouse buttons =>
    .obj [("type", .str "input"), ("keyboard", keyboard.toJson), ("mouse", mouse.toJson),
      ("buttons", .strings buttons)]
  | button name => .obj [("type", .str "button"), ("name", .str name)]
  | noop => .obj [("type", .str "noop")]

end Command

end Playfield
