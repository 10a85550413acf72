import Playfield.Json.Decode

/-!
# Limits

How much a lobby takes on: sessions at a time, commands in one request and commands that wait for
one role.

* `Limits.ofEnvironment` reads them from environment variables.
* `Limits.Update` changes some of them. It is read from a text in another module.
-/

namespace Playfield

/-- How much a lobby takes on. -/
structure Limits where
  maxSessions : Nat := 256
  /-- Commands in one request. -/
  maxCommands : Nat := 64
  /-- Commands that wait for one role. -/
  maxQueue : Nat := 256
  deriving DecidableEq, Repr, Inhabited

namespace Limits

variable {K : Type}

/-- The number that a text writes in decimal digits, perhaps after a plus sign, if it is an unsigned
word. -/
def parseCount? (text : String) : Option Nat :=
  let digits := match text.toList with
    | '+' :: rest => rest
    | cs => cs
  if digits.isEmpty ∨ !digits.all Char.isDigit then none
  else
    let n := digits.foldl (fun n c => n * 10 + (c.toNat - 48)) 0
    if n ≤ Word.greatestUnsigned then some n else none

/-- The limits that environment variables set; one that is not set or sets no number leaves the
usual limit. -/
def ofEnvironment (valueOf? : String → Option String) : Limits :=
  let read (name : String) (usual : Nat) := ((valueOf? name).bind parseCount?).getD usual
  let usual : Limits := {}
  { maxSessions := read "SCENELOOP_MAX_SESSIONS" usual.maxSessions
    maxCommands := read "SCENELOOP_MAX_COMMANDS_PER_REQUEST" usual.maxCommands
    maxQueue := read "SCENELOOP_MAX_QUEUE_PER_ROLE" usual.maxQueue }

/-- The names of the members. -/
def names : List String := ["max_sessions", "max_commands_per_request", "max_queue_per_role"]

def decode : Decoder K Limits := fun d => do
  let ms ← Decoder.record names d
  return {
    maxSessions := ← ms.required "max_sessions" Decoder.count
    maxCommands := ← ms.required "max_commands_per_request" Decoder.count
    maxQueue := ← ms.required "max_queue_per_role" Decoder.count }

def toJson (l : Limits) : Json K :=
  .obj [("max_sessions", .nat l.maxSessions), ("max_commands_per_request", .nat l.maxCommands),
    ("max_queue_per_role", .nat l.maxQueue)]

/-- New values for some of the limits. -/
structure Update where
  maxSessions : Option Nat := none
  maxCommands : Option Nat := none
  maxQueue : Option Nat := none
  deriving DecidableEq, Repr, Inhabited

/-- Every new value is positive. -/
def Update.isPositive (u : Update) : Bool :=
  [u.maxSessions, u.maxCommands, u.maxQueue].all (· != some 0)

/-- The limits after an update. -/
def Update.apply (u : Update) (l : Limits) : Limits :=
  { maxSessions := u.maxSessions.getD l.maxSessions
    maxCommands := u.maxCommands.getD l.maxCommands
    maxQueue := u.maxQueue.getD l.maxQueue }

end Limits

end Playfield
