import Playfield.Proofs.Lobby.Change
import Playfield.Proofs.Lobby.Credentials
import Playfield.Proofs.Session.ToolCalls

/-!
# Tools that are listed and tools that are taken

A role is shown all tools that are offered to it. A command that calls a tool is checked against the
first tool of the name. The two agree unless the scene declares a name twice, and a scene may do
that.

* `Room.Plays`: the session of a room is one of the game of the lobby. This stays so by
  `Step.plays` and `operated_plays`.
* `Scene.Shadowed`: a tool is offered to a role, but the first of its name is not.
* `listed_iff_taken_unless_shadowed`: exactly then a tool is listed and not taken.
  `listed_tool_is_refused` is such a case.
-/

namespace Playfield

variable {K τ : Type}

/-! ### The scene of a session -/

/-- The session of the room was made from the scene and the functions of the game. -/
structure Room.Plays (r : Room K τ) (g : Game K τ) : Prop where
  scene : r.session.world.scene = g.scene
  registry : r.session.simulation.rules.registry = g.registry

section Plays

variable [Scalar K] {g : Game K τ} {r r' : Room K τ}

/-- No step of a room puts another game in its place. -/
theorem Room.Step.plays {p : Option (Simulation.Played K τ)} {e : Option (SessionEvent K)}
    (step : r.Step p r' e) (plays : r.Plays g) (keeps : g.registry.KeepsScene) : r'.Plays g := by
  have keeps : r.session.simulation.rules.registry.KeepsScene := plays.registry ▸ keeps
  cases step with
  | same => exact plays
  | joined role => exact ⟨plays.scene, plays.registry⟩
  | started => exact ⟨plays.scene, plays.registry⟩
  | stopped => exact ⟨plays.scene, plays.registry⟩
  | paced pace => exact ⟨plays.scene, plays.registry⟩
  | queued seats => exact ⟨plays.scene, plays.registry⟩
  | @passed seats accumulator p report s passed =>
    obtain ⟨scene, registry⟩ := passed.stays (s := { r.session with seats }) keeps
    exact ⟨scene.trans plays.scene, registry.trans plays.registry⟩
  | idle passed unticked =>
    obtain ⟨scene, registry⟩ := passed.stays keeps
    exact ⟨scene.trans plays.scene, registry.trans plays.registry⟩
  | @failed seats accumulator p e s passed =>
    obtain ⟨scene, registry⟩ := passed.stays (s := { r.session with seats }) keeps
    exact ⟨scene.trans plays.scene, registry.trans plays.registry⟩

namespace Lobby

variable {l : Lobby K τ}

theorem assemble_plays {fresh : Fresh} {p : SessionPlan K} {seed : String}
    (h : l.assemble fresh p seed = .ok r) : r.Plays l.game := by
  obtain ⟨s, new, session, -⟩ := assemble_ok h
  have starts := Simulation.new_ok new
  refine ⟨?_, ?_⟩ <;> rw [session]
  · exact starts.scene
  · exact starts.registry

/-- All sessions are of the game of the lobby. -/
def Staged (l : Lobby K τ) : Prop := ∀ id r, l.rooms.get? id = some r → r.Plays l.game

omit [Scalar K] in
theorem Staged.of_eq {l' : Lobby K τ} (staged : l.Staged) (game : l'.game = l.game)
    (rooms : l'.rooms = l.rooms) : l'.Staged := by
  intro id r room
  rw [game]
  exact staged id r (rooms ▸ room)

omit [Scalar K] in
theorem Staged.insert {l' : Lobby K τ} {id : String} (staged : l.Staged) (game : l'.game = l.game)
    (rooms : l'.rooms = l.rooms.insert id r) (plays : r.Plays l.game) : l'.Staged := by
  intro other r' room
  rw [rooms, Table.get?_insert] at room
  rw [game]
  split at room
  · cases room
    exact plays
  · exact staged other r' room

theorem Staged.operate (staged : l.Staged) (keeps : l.game.registry.KeepsScene)
    (op : Operation K) : (l.operate op).Staged := by
  cases op with
  | create fresh o =>
    show (l.create fresh o).2.Staged
    rcases l.create_inv fresh o with ⟨e, failed⟩ | ⟨p, seed, l₁, -, -, resolved, phases⟩
    · rw [failed]
      exact staged
    · have reserved := resolveSeed_ok resolved
      rcases phases with ⟨e, -, failed⟩ | ⟨r, assembled, made⟩
      · rw [failed]
        exact staged.of_eq reserved.game reserved.rooms
      · obtain ⟨store, left⟩ := record_store (l₁.admitRoom fresh.session r) fresh.session
          (.created seed p.mode p.roleIds) ((l₁.admitRoom fresh.session r).created fresh.session r)
        rw [made, left]
        exact staged.insert reserved.game
          (congrArg (·.insert fresh.session r) reserved.rooms)
          (reserved.game ▸ assemble_plays assembled)
  | call c =>
    show (l.call c).2.Staged
    have left := l.call_left c
    generalize (l.call c).2 = l' at left
    cases left with
    | same => exact staged
    | stepped room step stored =>
      exact staged.insert rfl rfl (step.plays (staged _ _ room) keeps)
  | remove session v =>
    show (l.remove session v).2.Staged
    rcases l.remove_cases session v with ⟨e, refused⟩ | ⟨r, -, -, removed⟩
    · rw [refused]
      exact staged
    · rw [removed]
      exact fun id r' room => staged id r' (Table.get?_erase_eq_some_iff.1 room).2
  | limit limits => exact staged

theorem operated_game (l : Lobby K τ) (ops : List (Operation K)) :
    (l.operated ops).game = l.game := by
  induction ops generalizing l with
  | nil => rfl
  | cons op ops ih => exact (ih (l.operate op)).trans (l.operate_game op)

/-- In a lobby that comes about from one without sessions, all sessions are of its game. -/
theorem operated_plays {start : Lobby K τ} (vacant : start.Vacant)
    (keeps : start.game.registry.KeepsScene) (ops : List (Operation K)) :
    (start.operated ops).Staged := by
  have staged : start.Staged := by
    intro id r room
    rw [vacant.rooms] at room
    cases room
  clear vacant
  induction ops generalizing start with
  | nil => exact staged
  | cons op ops ih =>
    exact ih ((start.operate_game op).symm ▸ keeps) (staged.operate keeps op)

end Lobby

end Plays

/-! ### Lists and checks -/

/-- A tool of the name is offered to the role, but the first one is not. -/
def Scene.Shadowed (s : Scene K) (role name : String) : Prop :=
  s.Offers role name ∧ ∃ t, s.tool? name = some t ∧ t.offeredTo role = false

/-- A command is taken where there is room for it. -/
def Session.Takes (s : Session K τ) (role : String) (c : Command K) : Prop :=
  ∃ greatest s', s.enqueue role [c] greatest = .ok s'

section Lists

variable {scene : Scene K} {role name : String} {s : Session K τ} {args : Json K}

theorem Scene.exists_tool?_of_offers (offers : scene.Offers role name) :
    ∃ t, scene.tool? name = some t := by
  obtain ⟨t, declared, same, -⟩ := offers
  refine Option.isSome_iff_exists.1 (List.find?_isSome.2 ⟨t, declared, ?_⟩)
  exact beq_iff_eq.2 same

/-- Where no two tools have one name, none is shadowed. -/
theorem Scene.not_shadowed_of_nodup (nodup : (scene.tools.map (·.name)).Nodup) :
    ¬scene.Shadowed role name := by
  rintro ⟨⟨t, declared, same, offered⟩, first, found, refused⟩
  obtain ⟨declared', same'⟩ := Scene.tool?_eq_some found
  obtain rfl := List.inj_on_of_nodup_map nodup declared declared' (same.trans same'.symm)
  rw [offered] at refused
  cases refused

/-- The call of a tool is admitted if the first tool of the name is offered. -/
theorem Session.admits_tool_iff : admits scene role (.tool name args) = .ok () ↔
    scene.Offers role name ∧ ¬scene.Shadowed role name := by
  rw [admits_eq_ok_iff]
  constructor
  · -- The first tool of the name is offered, and it is the one that would be shadowed.
    intro all
    obtain ⟨t, found, offered⟩ := all name rfl
    obtain ⟨declared, same⟩ := Scene.tool?_eq_some found
    refine ⟨⟨t, declared, same, offered⟩, ?_⟩
    rintro ⟨-, first, found', refused⟩
    obtain rfl := Option.some.inj (found.symm.trans found')
    rw [offered] at refused
    cases refused
  · rintro ⟨offers, plain⟩ name' ⟨⟩
    obtain ⟨t, found⟩ := Scene.exists_tool?_of_offers offers
    refine ⟨t, found, ?_⟩
    by_contra refused
    exact plain ⟨offers, t, found, Bool.eq_false_iff.2 refused⟩

/-- A role that takes part gets a command taken just if it is admitted. -/
theorem Session.takes_iff (seated : ∃ seat ∈ s.seats, seat.role.id = role) {c : Command K} :
    s.Takes role c ↔ admits s.world.scene role c = .ok () := by
  constructor
  · rintro ⟨greatest, s', taken⟩
    exact (enqueue_eq_ok_iff.1 taken).1 c List.mem_cons_self
  · intro admitted
    rcases Seat.first_or_none role s.seats with ⟨j, seat, first, same⟩ | none
    · refine ⟨seat.queue.length + 1, _, enqueue_eq_ok_iff.2 ⟨fun c' mem => ?_, j, seat, first, same,
        le_rfl, rfl⟩⟩
      rwa [List.mem_singleton.1 mem]
    · obtain ⟨seat, mem, same⟩ := seated
      exact absurd same (none seat mem)

namespace Lobby

/-- A role is shown a tool of the name. -/
def Lists (l : Lobby K τ) (id role name : String) : Prop :=
  ∃ tools, l.tools id (.role role) = .ok tools ∧ ∃ t ∈ tools, t.name = name

variable {l : Lobby K τ} {id : String} {r : Room K τ}

theorem lists_iff (room : l.rooms.get? id = some r) :
    l.Lists id role name ↔ l.game.scene.Offers role name := by
  have tools : l.tools id (.role role) = .ok (toolsFor l.game.scene (.role role)) := by
    rw [tools, room_of_get? room]
    rfl
  unfold Lists Scene.Offers
  simp only [tools, Except.ok.injEq, exists_eq_left', toolsFor, List.mem_filter, Viewer.role?,
    Option.all_some, and_assoc]
  exact exists_congr fun t => and_congr_right fun _ => and_comm

/-- In every session a tool that a role may call is listed for it. A tool is listed just if it may
be called, unless the first one of its name is not offered to the role while another is; and this
is not so where tools have distinct names. -/
theorem listed_iff_taken_unless_shadowed [Scalar K] {start : Lobby K τ} (vacant : start.Vacant)
    (keeps : start.game.registry.KeepsScene) (ops : List (Operation K)) {id : String} {r : Room K τ}
    (room : (start.operated ops).rooms.get? id = some r) {role : String}
    (seated : ∃ seat ∈ r.session.seats, seat.role.id = role) (name : String) (args : Json K) :
    let l := start.operated ops
    (r.session.Takes role (.tool name args) → l.Lists id role name) ∧
      ((l.Lists id role name ↔ r.session.Takes role (.tool name args)) ↔
        ¬l.game.scene.Shadowed role name) ∧
      ((l.game.scene.tools.map (·.name)).Nodup → ¬l.game.scene.Shadowed role name) := by
  intro l
  have plays : r.Plays l.game := operated_plays vacant keeps ops id r room
  rw [Session.takes_iff seated, plays.scene, Session.admits_tool_iff, lists_iff room]
  refine ⟨And.left, ⟨fun same shadowed => ?_, fun plain => ?_⟩, Scene.not_shadowed_of_nodup⟩
  · exact (same.1 shadowed.1).2 shadowed
  · exact (and_iff_left plain).symm

/-! ### A name that is declared twice -/

namespace Twice

/-- A tool for one role. -/
def tool (role : String) : Tool Rat :=
  { name := "dig", description := "", parameters := .null, roles := some [role] }

/-- A lobby of a scene in which two roles have a tool each, under one name. -/
def lobby : Lobby Rat Empty :=
  { game :=
      { scene := { Scene.default with
          roles := [Errand.role "a", Errand.role "b"]
          tools := [tool "a", tool "b"] }
        registry := { resume := fun t => nomatch t } } }

/-- A session is opened. -/
def ops : List (Operation Rat) := [.create (Gate.fresh "x") {}]

/-- The lobby with the session. -/
def left : Lobby Rat Empty := lobby.operated ops

theorem keeps : lobby.game.registry.KeepsScene :=
  ⟨fun _ _ found => (nomatch found), fun t => nomatch t⟩

theorem accepted : Game.new lobby.game.scene lobby.game.registry = .ok lobby.game :=
  game_of_isOk (by decide +kernel)

/-- Both roles take part in the session. -/
theorem exists_seated : ∃ r, left.rooms.get? "x" = some r ∧
    ∀ role ∈ ["a", "b"], ∃ seat ∈ r.session.seats, seat.role.id = role := by
  have seated : (left.rooms.get? "x").any (fun r =>
      r.session.seats.map (·.role.id) == ["a", "b"]) = true := by decide +kernel
  obtain ⟨r, room, roles⟩ := (Option.any_eq_true _ _).1 seated
  refine ⟨r, room, fun role mem => ?_⟩
  rwa [← eq_of_beq roles, List.mem_map] at mem

theorem not_shadowed : ¬lobby.game.scene.Shadowed "a" "dig" := by
  rintro ⟨-, t, found, refused⟩
  obtain rfl : tool "a" = t := Option.some.inj found
  exact absurd refused (by decide)

theorem shadowed : lobby.game.scene.Shadowed "b" "dig" :=
  ⟨⟨tool "b", by simp [lobby], rfl, by decide⟩, tool "a", rfl, by decide⟩

end Twice

/-- The role of the first declaration may call the tool that it is shown. -/
theorem first_role_calls_its_tool : ∃ r, Twice.left.rooms.get? "x" = some r ∧
    (Twice.left.Lists "x" "a" "dig" ↔ r.session.Takes "a" (.tool "dig" .null)) := by
  obtain ⟨r, room, seated⟩ := Twice.exists_seated
  obtain ⟨-, agrees, -⟩ := listed_iff_taken_unless_shadowed ⟨rfl, rfl, rfl⟩ Twice.keeps Twice.ops
    room (seated "a" (by simp)) "dig" .null
  refine ⟨r, room, agrees.2 ?_⟩
  rw [operated_game]
  exact Twice.not_shadowed

/-- The role of the second one is shown the tool as well, and cannot call it. -/
theorem listed_tool_is_refused :
    Game.new Twice.lobby.game.scene Twice.lobby.game.registry = .ok Twice.lobby.game ∧
      ∃ r, Twice.left.rooms.get? "x" = some r ∧
        (∃ seat ∈ r.session.seats, seat.role.id = "b") ∧ Twice.left.Lists "x" "b" "dig" ∧
        ¬r.session.Takes "b" (.tool "dig" .null) ∧
        (Twice.left.submit "x" (.role "b") [.tool "dig" .null] false).1 =
          .error (.toolNotOffered "dig" "b") := by
  obtain ⟨r, room, seated⟩ := Twice.exists_seated
  have plays : r.Plays Twice.left.game :=
    operated_plays ⟨rfl, rfl, rfl⟩ Twice.keeps Twice.ops _ r room
  have game : Twice.left.game = Twice.lobby.game := operated_game ..
  rw [game] at plays
  refine ⟨Twice.accepted, r, room, seated "b" (by simp), ?_, fun taken => ?_, rfl⟩
  · rw [lists_iff room, game]
    exact Twice.shadowed.1
  · rw [Session.takes_iff (seated "b" (by simp)), plays.scene, Session.admits_tool_iff] at taken
    exact taken.2 Twice.shadowed

end Lobby

end Lists

end Playfield
