import Playfield.Rule.Registry

/-!
# Games

A `Game` is a valid scene together with the functions that its rules call, so that sessions of it
can be assembled.
-/

namespace Playfield

/-- A scene and the functions that its rules call. -/
structure Game (K τ : Type) where
  scene : Scene K
  registry : Registry K τ

/-- Takes a scene and its functions for a game: the scene is valid, every rule finds its functions
and the world of all roles can be made. -/
def Game.new {K τ : Type} [Scalar K] (scene : Scene K) (registry : Registry K τ) :
    Except SceneError (Game K τ) := do
  scene.validate
  registry.validate scene
  let _ ← World.new scene scene.roles
  return { scene, registry }

end Playfield
