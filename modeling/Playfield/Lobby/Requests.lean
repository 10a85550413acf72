import Playfield.Lobby.Create

/-!
# Requests to sessions

What can be asked of a session in a lobby.

* An invite lets a role join, as often as it likes, and always gives the role's one token.
* The administrator starts and stops the clock, sets the pace, runs passes and removes the session.
* A role submits commands, which wait in its queue, and may ask for a pass at once.
* Any viewer asks for the state, the picture and the tools.

The store learns of everything but questions. Where it takes no event, the change it was about has
happened all the same.
-/

namespace Playfield

/-- A role and its token. -/
structure JoinedRole where
  role : String
  token : String
  deriving DecidableEq, Repr

/-- What a role sees after its commands were taken. -/
structure Submitted (K : Type) where
  picture : Picture K
  state : StateView K

variable {K τ : Type}

namespace Lobby

/-- The role that an invite leads to, with its token. -/
def invited (l : Lobby K τ) (id : String) (r : Room K τ) (invite : String) :
    Except SessionError JoinedRole :=
  match l.invites.get? invite with
  | none => .error .unauthorized
  | some invitation =>
    if invitation.session = id then
      match r.roleTokens.get? invitation.role with
      | some token => .ok ⟨invitation.role, token⟩
      | none => .error .unauthorized
    else .error .unauthorized

/-- The tools that a viewer may use. -/
def toolsFor (s : Scene K) (v : Viewer) : List (Tool K) :=
  s.tools.filter fun t => v.role?.all t.offeredTo

/-- The tools of a session that a viewer may use. -/
def tools (l : Lobby K τ) (id : String) (v : Viewer) : Except SessionError (List (Tool K)) := do
  let _ ← l.room id
  return toolsFor l.game.scene v

/-- The state of a session as a viewer sees it. -/
def state (l : Lobby K τ) (id : String) (v : Viewer) : Except SessionError (StateView K) := do
  return (← l.room id).view id v

/-- Drops a session with its tokens and invites. Its seed stays given away. -/
def remove (l : Lobby K τ) (id : String) (v : Viewer) : Reply K τ Unit :=
  match l.adminRoom id v with
  | .error e => (.error e, l)
  | .ok r =>
    let revoked := r.adminToken :: r.roleTokens.values
    (.ok (), { l with
      rooms := l.rooms.erase id
      tokens := revoked.foldl Table.erase l.tokens
      invites := r.invites.values.foldl Table.erase l.invites })

variable [Scalar K]

/-- The world of a session in text, as a viewer sees it. -/
def picture (l : Lobby K τ) (id : String) (v : Viewer) : Except SessionError (Picture K) := do
  return (← l.room id).picture v

/-- Redeems an invite. -/
def join (l : Lobby K τ) (id invite : String) : Reply K τ JoinedRole :=
  match l.room id with
  | .error e => (.error e, l)
  | .ok r =>
    match l.invited id r invite with
    | .error e => (.error e, l)
    | .ok joined =>
      if r.joined.contains joined.role then (.ok joined, l)
      else
        (l.setRoom id { r with joined := r.joined.insert joined.role () }).record id
          (.joined joined.role) joined

/-- Starts the clock of a session. -/
def start (l : Lobby K τ) (id : String) (v : Viewer) : Reply K τ Status :=
  match l.adminRoom id v with
  | .error e => (.error e, l)
  | .ok r =>
    if r.status = .running then (.ok .running, l)
    else (l.setRoom id { r with status := .running }).record id .started .running

/-- Stops the clock of a session. -/
def stop (l : Lobby K τ) (id : String) (v : Viewer) : Reply K τ Status :=
  match l.adminRoom id v with
  | .error e => (.error e, l)
  | .ok r => (l.setRoom id { r with status := .stopped }).record id .stopped .stopped

/-- Sets the pace of a session. -/
def updatePace (l : Lobby K τ) (id : String) (v : Viewer) (u : PaceUpdate K) :
    Reply K τ (Pace K) :=
  match l.adminRoom id v with
  | .error e => (.error e, l)
  | .ok r =>
    match u.apply r.session.simulation.pace with
    | .error e => (.error e, l)
    | .ok pace =>
      let simulation := { r.session.simulation with pace }
      (l.setRoom id { r with session := { r.session with simulation } }).record id
        (.paced pace) pace

/-- Puts the outcome of a pass in its place and writes it to the store. -/
def recordPass (l : Lobby K τ) (id : String) (r : Room K τ)
    (outcome : Except RuleError (PassReport K) × Session K τ) : Reply K τ (PassReport K) :=
  let l := l.setRoom id { r with session := outcome.2 }
  match outcome.1 with
  | .error e => (.error (.tickFailed e), l)
  | .ok report => l.record id (.ofPass report outcome.2.world.turn) report

/-- Runs a pass over the queues of a session. -/
def tick (l : Lobby K τ) (id : String) (v : Viewer) : Reply K τ (PassReport K) :=
  match l.adminRoom id v with
  | .error e => (.error e, l)
  | .ok r => l.recordPass id r r.session.pass

/-- Lets time pass for a session whose clock runs. Only what ran a tick is written to the store. -/
def advanceClock (l : Lobby K τ) (id : String) (elapsed : K) : Reply K τ (PassReport K) :=
  match l.room id with
  | .error e => (.error e, l)
  | .ok r =>
    if r.status = .running then
      match r.session.advanceClock elapsed with
      | (.ok ⟨[], consumed, discarded⟩, session) =>
        (.ok ⟨[], consumed, discarded⟩, l.setRoom id { r with session })
      | outcome => l.recordPass id r outcome
    else (.ok {}, l)

/-- The session with the commands of a role in its queue. -/
def queueFor (l : Lobby K τ) (id role : String) (commands : List (Command K)) :
    Except SessionError (Room K τ) := do
  if commands.length > l.limits.maxCommands then throw (.tooManyCommands l.limits.maxCommands)
  let r ← l.room id
  if r.status = .stopped then throw (.stopped id)
  return { r with session := ← r.session.enqueue role commands l.limits.maxQueue }

/-- Queues commands of a role, and runs a pass if it is asked for. -/
def submit (l : Lobby K τ) (id : String) (v : Viewer) (commands : List (Command K)) (pass : Bool) :
    Reply K τ (Submitted K) :=
  match v with
  | .admin => (.error .unauthorized, l)
  | .role role =>
    match l.queueFor id role commands with
    | .error e => (.error e, l)
    | .ok r =>
      let (done, l) := if pass then
          let (report, l) := l.recordPass id r r.session.pass
          (report.map fun _ => (), l)
        else (.ok (), l.setRoom id r)
      (do
        let _ ← done
        return ⟨← l.picture id v, ← l.state id v⟩, l)

end Lobby

/-! ### JSON forms -/

namespace JoinedRole

def toJson (j : JoinedRole) : Json K := .obj [("role", .str j.role), ("token", .str j.token)]

end JoinedRole

namespace Submitted

def toJson [Scalar K] (s : Submitted K) : Json K :=
  .obj [("frame", s.picture.toJson), ("state", s.state.toJson)]

end Submitted

end Playfield
