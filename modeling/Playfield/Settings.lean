import Playfield.Json.Basic
import Playfield.Toml.Reader

/-!
# Settings

How a server is set up: where it listens, where it keeps its store and its scene, and how sessions
are run. `Settings.read?` reads them from a TOML document; what is left out has its usual value, and
unknown entries are ignored.
-/

namespace Playfield

/-- Where a server listens, and who may open sessions and change limits. -/
structure Settings.Server where
  bind : String := "0.0.0.0:3000"
  adminToken : Option String := none
  deriving DecidableEq, Repr, Inhabited

/-- How sessions are run. -/
structure Settings.Sessions where
  maxSeedAttempts : Nat := 8
  /-- The least time between two pictures of a stream. -/
  streamMinMs : Nat := 50
  /-- Clocks advance started sessions. -/
  runsClocks : Bool := true
  deriving DecidableEq, Repr, Inhabited

/-- How a server is set up. -/
structure Settings where
  server : Settings.Server := {}
  storePath : String := "sceneloop.db"
  scenePath : String := "scene.json"
  sessions : Settings.Sessions := {}
  deriving DecidableEq, Repr, Inhabited

namespace Toml

/-- The text. -/
def text? : Toml → Option String
  | text s => some s
  | _ => none

/-- The truth value. -/
def bool? : Toml → Option Bool
  | bool b => some b
  | _ => none

/-- The integer, if it is natural and within a bound. -/
def nat? (greatest : Nat) : Toml → Option Nat
  | int n => if 0 ≤ n ∧ n ≤ greatest then some n.toNat else none
  | _ => none

/-- The entries of a section. A date counts as a section without known entries. -/
def section? : Toml → Option Entries
  | table _ e => some e
  | date _ => some []
  | _ => none

/-- An entry with a value for its absence. -/
def Entries.get {α : Type} (e : Entries) (key : String) (read : Toml → Option α) (absent : α) :
    Option α :=
  match e.lookup key with
  | some v => read v
  | none => some absent

end Toml

namespace Settings

/-- The settings of a server in its section. -/
def Server.ofEntries? (e : Toml.Entries) : Option Server := do
  let usual : Server := {}
  return {
    bind := ← e.get "bind" Toml.text? usual.bind
    adminToken := ← e.get "admin_token" (·.text?.map some) usual.adminToken }

/-- The settings of sessions in their section. -/
def Sessions.ofEntries? (e : Toml.Entries) : Option Sessions := do
  let usual : Sessions := {}
  return {
    maxSeedAttempts :=
      ← e.get "max_seed_attempts" (Toml.nat? Word.greatestHalf) usual.maxSeedAttempts
    streamMinMs :=
      ← e.get "stream_min_interval_ms" (Toml.nat? Word.greatestUnsigned) usual.streamMinMs
    runsClocks := ← e.get "driver_enabled" Toml.bool? usual.runsClocks }

/-- The path in a section. -/
def pathOf? (usual : String) (e : Toml.Entries) : Option String := e.get "path" Toml.text? usual

/-- The settings in a document. -/
def ofEntries? (e : Toml.Entries) : Option Settings := do
  let usual : Settings := {}
  let part {α : Type} (name : String) (read : Toml.Entries → Option α) (absent : α) : Option α :=
    e.get name (fun v => v.section? >>= read) absent
  return {
    server := ← part "server" Server.ofEntries? usual.server
    storePath := ← part "store" (pathOf? usual.storePath) usual.storePath
    scenePath := ← part "scene" (pathOf? usual.scenePath) usual.scenePath
    sessions := ← part "sessions" Sessions.ofEntries? usual.sessions }

/-- Reads settings from a TOML document. -/
def read? (text : String) : Option Settings := Toml.read? text >>= ofEntries?

def toJson {K : Type} (s : Settings) : Json K :=
  .obj [
    ("server", .obj [("bind", .str s.server.bind),
      ("admin_token", .option .str s.server.adminToken)]),
    ("store", .obj [("path", .str s.storePath)]),
    ("scene", .obj [("path", .str s.scenePath)]),
    ("sessions", .obj [("max_seed_attempts", .nat s.sessions.maxSeedAttempts),
      ("stream_min_interval_ms", .nat s.sessions.streamMinMs),
      ("driver_enabled", .bool s.sessions.runsClocks)])]

end Settings

end Playfield
