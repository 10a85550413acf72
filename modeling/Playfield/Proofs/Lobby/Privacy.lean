import Mathlib.Data.List.Forall2
import Playfield.Proofs.Lobby.Call

/-!
# What a role cannot see

The server fields of a role, the commands in its queue and whether it has joined are for the
administrator and for the role itself. What other roles are shown does not depend on them.

* `Room.AlikeFor`: two rooms that differ just in such data of other roles.
* `view_of_alike`, `picture_of_alike`: a role sees the same of both.
* `role_sees_no_others`: it is told the same by the lobbies that have them.
-/

namespace Playfield

variable {K τ : Type}

/-- A table restricted to a key depends on the value of that key alone. -/
theorem Table.filter_key_eq {α : Type} {s t : Table String α} {key : String}
    (same : t.get? key = s.get? key) :
    t.filter (fun k _ => key == k) = s.filter fun k _ => key == k := by
  apply Table.ext
  have one (u : Table String α) : (u.filter fun k _ => key == k).entries =
      ((u.get? key).map (key, ·)).toList := by
    rw [← Table.filter_entries, Table.filter]
    simp only [BEq.comm]
  rw [one, one, same]

/-- Seats of the same roles, where those of one role have the same commands. -/
def Seat.AlikeFor (role : String) (seats seats' : List (Seat K)) : Prop :=
  List.Forall₂ (fun seat seat' => seat'.role = seat.role ∧
    (seat.role.id = role → seat'.queue = seat.queue)) seats seats'

namespace Seat.AlikeFor

variable {role : String} {seats seats' : List (Seat K)}

theorem roles_eq (alike : AlikeFor role seats seats') :
    seats'.map (·.role) = seats.map (·.role) := by
  induction alike with
  | nil => rfl
  | cons head tail ih => rw [List.map_cons, List.map_cons, head.1, ih]

/-- As many commands wait for the role. -/
theorem queued_eq (alike : AlikeFor role seats seats') :
    (seats'.find? (·.role.id == role)).elim 0 (·.queue.length) =
      (seats.find? (·.role.id == role)).elim 0 (·.queue.length) := by
  induction alike with
  | nil => rfl
  | @cons seat seat' seats seats' head tail ih =>
    rw [List.find?_cons, List.find?_cons, head.1]
    cases own : seat.role.id == role with
    | true => exact congrArg List.length (head.2 (eq_of_beq own))
    | false => exact ih

end Seat.AlikeFor

namespace Room

/-- The second room is the first one but for who has joined, what waits in the queues and the server
fields of the roles, and in these too it agrees for one role. -/
structure AlikeFor (role : String) (a b : Room K τ) : Prop where
  rest : ∃ joined seats roles, b = { a with
    joined
    session := { a.session.modifyWorld fun w => { w with roles } with seats } }
  joined : b.joined.contains role = a.joined.contains role
  seats : Seat.AlikeFor role a.session.seats b.session.seats
  fields : b.session.world.roles.get? role = a.session.world.roles.get? role

variable {role : String} {a b : Room K τ}

/-- The turn passes over the same roles. -/
theorem AlikeFor.currentRole?_eq (alike : a.AlikeFor role b) :
    b.session.currentRole? = a.session.currentRole? := by
  have roles := alike.seats.roles_eq
  obtain ⟨joined, seats, fields, rfl⟩ := alike.rest
  have length : seats.length = a.session.seats.length := by
    simpa using congrArg List.length roles
  have found (n : Nat) : (seats[n]?).map (·.role.id) = (a.session.seats[n]?).map (·.role.id) := by
    have here := congrArg (fun l => (l[n]?).map (·.id)) roles
    simpa only [List.getElem?_map, Option.map_map, Function.comp_def] using here
  unfold Session.currentRole? Session.currentIndex
  dsimp only
  rw [length, found]
  rfl

theorem AlikeFor.roleView_eq (alike : a.AlikeFor role b) {own : Role K} (id : own.id = role) :
    b.roleView own = a.roleView own := by
  have queued : b.session.queued own.id = a.session.queued own.id := by
    rw [id]
    exact alike.seats.queued_eq
  unfold roleView
  rw [id] at queued ⊢
  rw [alike.joined, queued, alike.fields]

/-- The records that a role sees are its own. -/
theorem AlikeFor.roleViews_eq (alike : a.AlikeFor role b) :
    b.roleViews (.role role) = a.roleViews (.role role) := by
  unfold roleViews
  rw [alike.seats.roles_eq]
  -- Of the other seats no record is made, so only the own one is to be compared.
  refine List.map_congr_left fun own mem => alike.roleView_eq ?_
  have sees : (role == own.id) = true := (List.mem_filter.1 mem).2
  exact (eq_of_beq sees).symm

/-- In the snapshot, too, a role sees its own fields alone. -/
theorem AlikeFor.snapshot_eq (alike : a.AlikeFor role b) :
    b.session.simulation.snapshot.seenBy (.role role) =
      a.session.simulation.snapshot.seenBy (.role role) := by
  have seen : (b.session.world.roles.filter fun key _ => role == key) =
      a.session.world.roles.filter fun key _ => role == key := Table.filter_key_eq alike.fields
  obtain ⟨joined, seats, fields, rfl⟩ := alike.rest
  unfold SimulationSnapshot.seenBy
  exact congrArg (fun roles => { a.session.simulation.snapshot with
    world := { a.session.simulation.snapshot.world with roles } }) seen

/-- A role sees the same state of rooms that are alike for it. -/
theorem view_of_alike (alike : a.AlikeFor role b) (id : String) :
    b.view id (.role role) = a.view id (.role role) := by
  have current := alike.currentRole?_eq
  have views := alike.roleViews_eq
  have snapshot := alike.snapshot_eq
  unfold view
  dsimp only
  rw [current, views, snapshot]
  obtain ⟨joined, seats, fields, rfl⟩ := alike.rest
  rfl

/-- A role sees the same picture. No picture shows data of roles at all. -/
theorem picture_of_alike [Scalar K] (alike : a.AlikeFor role b) (v : Viewer) :
    b.picture v = a.picture v := by
  obtain ⟨joined, seats, fields, rfl⟩ := alike.rest
  rfl

end Room

namespace Lobby

/-- Two lobbies, whose sessions of an id differ in server fields, queued commands and joining of
other roles only, show a role the same state of it and the same picture. -/
theorem role_sees_no_others [Scalar K] {l l' : Lobby K τ} {id role : String} {a b : Room K τ}
    (before : l.rooms.get? id = some a) (after : l'.rooms.get? id = some b)
    (alike : a.AlikeFor role b) :
    l'.state id (.role role) = l.state id (.role role) ∧
      l'.picture id (.role role) = l.picture id (.role role) := by
  unfold state picture
  rw [room_of_get? before, room_of_get? after]
  exact ⟨congrArg Except.ok (Room.view_of_alike alike id),
    congrArg Except.ok (Room.picture_of_alike alike (.role role))⟩

/-! ### A busy neighbour -/

namespace Neighbour

/-- A role of which nothing but the name matters. -/
def role (id : String) : Role Rat :=
  { id, kind := .human, required := true, camera := none, ui := none
    serverFields := ∅, localFields := ∅ }

/-- A session of two roles. The second may have joined, wait with commands and have fields. -/
def room (simulation : Simulation Rat Empty) (joined : NameSet) (queue : List (Command Rat))
    (fields : Fields Rat) : Room Rat Empty :=
  { seed := "s", adminToken := "key", roleTokens := ∅, invites := ∅, joined
    session :=
      { simulation := simulation.modifyWorld fun w =>
          { w with roles := Table.ofList [("a", ∅), ("b", fields)] }
        mode := .strictTurn
        seats := [⟨role "a", []⟩, ⟨role "b", queue⟩] } }

/-- A room in which the second role does nothing. -/
def quiet (simulation : Simulation Rat Empty) : Room Rat Empty := room simulation ∅ [] ∅

/-- A room in which it is busy. -/
def busy (simulation : Simulation Rat Empty) : Room Rat Empty :=
  room simulation (.ofNames ["b"]) [.noop, .button "x"] (Table.ofList [("gold", .int 3)])

/-- No functions. -/
def registry : Registry Rat Empty := { resume := fun t => nomatch t }

/-- The lobby of a room. -/
def lobby (r : Room Rat Empty) : Lobby Rat Empty :=
  { game := ⟨Scene.default, registry⟩, rooms := Table.ofList [("x", r)] }

theorem alike (simulation : Simulation Rat Empty) :
    (quiet simulation).AlikeFor "a" (busy simulation) where
  rest := ⟨_, _, _, rfl⟩
  joined := by
    show (NameSet.ofNames ["b"]).contains "a" = (∅ : NameSet).contains "a"
    decide +kernel
  seats := .cons ⟨rfl, fun _ => rfl⟩ (.cons ⟨rfl, fun same => absurd same (by decide)⟩ .nil)
  fields := rfl

end Neighbour

/-- Whether its neighbour is busy, a role cannot see; the administrator can. -/
theorem busy_neighbour_is_unseen : ∃ simulation : Simulation Rat Empty,
    let quiet := Neighbour.quiet simulation
    let busy := Neighbour.busy simulation
    (Neighbour.lobby busy).state "x" (.role "a") = (Neighbour.lobby quiet).state "x" (.role "a") ∧
      (Neighbour.lobby busy).picture "x" (.role "a") =
        (Neighbour.lobby quiet).picture "x" (.role "a") ∧
      (busy.roleViews .admin).map (·.queued) = [0, 2] ∧
      (quiet.roleViews .admin).map (·.queued) = [0, 0] := by
  have exists_simulation : (Simulation.new Scene.default [] Neighbour.registry 0).isOk = true := by
    cbv
  cases new : Simulation.new Scene.default [] Neighbour.registry 0 with
  | error e =>
    rw [new] at exists_simulation
    cases exists_simulation
  | ok simulation =>
    have before : (Neighbour.lobby (Neighbour.quiet simulation)).rooms.get? "x" =
        some (Neighbour.quiet simulation) := rfl
    have after : (Neighbour.lobby (Neighbour.busy simulation)).rooms.get? "x" =
        some (Neighbour.busy simulation) := rfl
    obtain ⟨state, picture⟩ := role_sees_no_others before after (Neighbour.alike simulation)
    exact ⟨simulation, state, picture, rfl, rfl⟩

end Lobby

end Playfield
