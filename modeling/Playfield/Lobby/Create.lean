import Playfield.Lobby.Basic
import Playfield.Text.Blank

/-!
# Creating sessions

`Lobby.create` opens a session: it tests the options, gives away a seed, assembles the simulation
and issues tokens.

* A plan is made first; refused options change nothing.
* A requested seed must not be blank nor given away before. Without a request random seeds are
  tried, a few times at most.
* Ids, tokens and random seeds come from outside, as `Fresh`.
-/

namespace Playfield

/-- What is asked of a new session. What is left open comes from the scene. -/
structure SessionOptions (K : Type) where
  seed : Option String := none
  /-- The ids of the roles that take part. -/
  roles : Option (List String) := none
  mode : Option LoopMode := none
  timeScale : Option K := none
  maxCatchupSteps : Option Nat := none

/-- A change of pace. -/
structure PaceUpdate (K : Type) where
  timeScale : Option K := none
  maxCatchupSteps : Option Nat := none

/-- Names drawn at random for a new session. -/
structure Fresh where
  session : String
  adminToken : String
  /-- The token for each role. -/
  roleToken : String → String
  /-- The invite for each role. -/
  invite : String → String
  /-- The seed for each attempt. -/
  seed : Nat → String

/-- What the creator of a session learns. -/
structure CreatedSession where
  session : String
  seed : String
  adminToken : String
  mode : LoopMode
  tickRate : Nat
  /-- From roles to their tokens. -/
  roleTokens : Table String String
  /-- From roles to their invites. -/
  invites : Table String String

/-- The settings of a new session. -/
structure SessionPlan (K : Type) where
  roles : List (Role K)
  mode : LoopMode
  pace : Pace K

variable {K τ : Type}

/-- The ids of the roles of a plan. -/
def SessionPlan.roleIds (p : SessionPlan K) : List String := p.roles.map (·.id)

/-- Whether a scale is positive and finite. -/
def PaceUpdate.admitsScale [Scalar K] (scale : K) : Bool :=
  Scalar.isFinite scale && !decide (scale ≤ 0.0)

/-- The pace after an update. -/
def PaceUpdate.apply [Scalar K] (u : PaceUpdate K) (p : Pace K) : Except SessionError (Pace K) :=
  if !u.timeScale.all admitsScale then .error .badTimeScale
  else if u.maxCatchupSteps = some 0 then .error .badCatchup
  else .ok ⟨u.timeScale.getD p.timeScale, u.maxCatchupSteps.getD p.maxCatchupSteps⟩

/-- The roles that take part, in the order of the scene. Required ones cannot be left out. -/
def Scene.selectRoles (s : Scene K) (requested : Option (List String)) :
    Except SessionError (List (Role K)) :=
  match requested with
  | none => .ok s.roles
  | some ids =>
    match ids.find? fun id => (s.role? id).isNone with
    | some unknown => .error (.unknownRole unknown)
    | none =>
      match s.roles.find? fun r => r.required && !ids.contains r.id with
      | some missing => .error (.missingRole missing.id)
      | none => .ok (s.roles.filter fun r => ids.contains r.id)

namespace Lobby

/-- Gives a seed away to a session. -/
def reserveSeed (l : Lobby K τ) (session seed : String) (metadata : Json K) :
    Except SessionError (Lobby K τ) :=
  if l.seeds.contains seed then .error (.seedTaken seed)
  else
    match l.store.isReserved seed with
    | .error e => .error (.ofStore e)
    | .ok true => .error (.seedTaken seed)
    | .ok false =>
      match l.store.reserve session seed metadata with
      | .error e => .error (.ofStore e)
      | .ok store => .ok { l with store, seeds := l.seeds.insert seed () }

/-- Tries the random seeds of some attempts, from `attempt` on. One that is given away is passed
over. -/
def drawSeed (l : Lobby K τ) (session : String) (metadata : Json K) (seed : Nat → String)
    (attempt : Nat) : Nat → Except SessionError (String × Lobby K τ)
  | 0 => .error (.noFreeSeed l.maxSeedAttempts)
  | left + 1 =>
    match l.reserveSeed session (seed attempt) metadata with
    | .ok l => .ok (seed attempt, l)
    | .error e =>
      if e.kind = .conflict then l.drawSeed session metadata seed (attempt + 1) left else .error e

/-- Gives the requested seed or a random one to a session. -/
def resolveSeed (l : Lobby K τ) (fresh : Fresh) (requested : Option String) (metadata : Json K) :
    Except SessionError (String × Lobby K τ) :=
  match requested with
  | some seed =>
    if (Text.trim seed).isEmpty then .error .blankSeed
    else (l.reserveSeed fresh.session seed metadata).map (seed, ·)
  | none => l.drawSeed fresh.session metadata fresh.seed 1 l.maxSeedAttempts

/-- Adds a session with its tokens and invites. -/
def admitRoom (l : Lobby K τ) (id : String) (r : Room K τ) : Lobby K τ :=
  { l with
    rooms := l.rooms.insert id r
    tokens := (l.tokens.insert r.adminToken ⟨id, .admin⟩).insertAll
      (r.roleTokens.entries.map fun (role, token) => (token, ⟨id, .role role⟩))
    invites := l.invites.insertAll
      (r.invites.entries.map fun (role, invite) => (invite, ⟨id, role⟩)) }

variable [Scalar K]

/-- The settings that options ask for. -/
def plan (l : Lobby K τ) (o : SessionOptions K) : Except SessionError (SessionPlan K) := do
  if l.count ≥ l.limits.maxSessions then throw (.sessionLimit l.limits.maxSessions)
  let scene := l.game.scene
  let roles ← scene.selectRoles o.roles
  let pace ← PaceUpdate.apply ⟨o.timeScale, o.maxCatchupSteps⟩ (.ofScene scene)
  return { roles, mode := o.mode.getD scene.multiplayer.defaultLoop, pace }

/-- The room of a plan. -/
def assemble (l : Lobby K τ) (fresh : Fresh) (p : SessionPlan K) (seed : String) :
    Except SceneError (Room K τ) := do
  let simulation ← Simulation.new l.game.scene p.roles l.game.registry (Keystream.hashSeed seed)
  return {
    seed
    adminToken := fresh.adminToken
    roleTokens := Table.ofList (p.roleIds.map fun role => (role, fresh.roleToken role))
    invites := Table.ofList (p.roleIds.map fun role => (role, fresh.invite role))
    session := .new { simulation with pace := p.pace } p.mode p.roles }

/-- What the creator of a room learns. -/
def created (l : Lobby K τ) (id : String) (r : Room K τ) : CreatedSession :=
  { session := id
    seed := r.seed
    adminToken := r.adminToken
    mode := r.session.mode
    tickRate := l.game.scene.multiplayer.tickRate
    roleTokens := r.roleTokens
    invites := r.invites }

/-- Opens a session. -/
def create (l : Lobby K τ) (fresh : Fresh) (o : SessionOptions K) : Reply K τ CreatedSession :=
  match l.plan o with
  | .error e => (.error e, l)
  | .ok p =>
    if l.rooms.contains fresh.session then (.error (.sessionExists fresh.session), l)
    else
      match l.resolveSeed fresh o.seed (SessionEvent.metadata p.mode p.roleIds) with
      | .error e => (.error e, l)
      | .ok (seed, l) =>
        match l.assemble fresh p seed with
        | .error e => (.error (.scene e), l)
        | .ok room =>
          let l := l.admitRoom fresh.session room
          l.record fresh.session (.created seed p.mode p.roleIds) (l.created fresh.session room)

end Lobby

/-! ### JSON forms -/

variable [Scalar K]

namespace SessionOptions

def decode : Decoder K (SessionOptions K) := fun d => do
  let ms ← Decoder.record ["seed", "roles", "loop_mode", "time_scale", "max_catchup_steps"] d
  return {
    seed := ← ms.optional "seed" Decoder.text
    roles := ← ms.optional "roles" (Decoder.list Decoder.text)
    mode := ← ms.optional "loop_mode" (Decoder.named false LoopMode.ofName?)
    timeScale := ← ms.optional "time_scale" Decoder.scalar
    maxCatchupSteps := ← ms.optional "max_catchup_steps" Decoder.half }

end SessionOptions

namespace PaceUpdate

def decode : Decoder K (PaceUpdate K) := fun d => do
  let ms ← Decoder.record ["time_scale", "max_catchup_steps"] d
  return {
    timeScale := ← ms.optional "time_scale" Decoder.scalar
    maxCatchupSteps := ← ms.optional "max_catchup_steps" Decoder.half }

end PaceUpdate

namespace CreatedSession

omit [Scalar K] in
def toJson (c : CreatedSession) : Json K :=
  .obj [("session_id", .str c.session), ("seed", .str c.seed),
    ("status", .str Status.created.name), ("admin_token", .str c.adminToken),
    ("loop_mode", .str c.mode.name), ("tick_rate", .nat c.tickRate),
    ("roles", .table .str c.roleTokens), ("invites", .table .str c.invites)]

end CreatedSession

end Playfield
