import Playfield.Proofs.Lobby.Opening

/-!
# Replaying the log of a session

The events of a session in the store tell how it stands. From the game, the roles and the seed in
the first event, and the inputs that can be read off the passes, the simulation is made again.

* `SessionEvent.rows` is the form in which the store keeps a list of events.
* `Game.replay` makes the simulation that a list of events tells of.
* `Told`: status, roles that have joined and simulation of a room are those that events tell of.
  `Told.step`: each step of a room in which no rule fails goes on telling.
* `log_determines_session`: what a session has come to after any calls is told by its log, if no
  rule fails and the store refuses no event. `joining_goes_unlogged`: where it refuses one, what the
  event was about has happened all the same.
-/

namespace Playfield

variable {K τ : Type}

namespace SessionEvent

/-- The status that an event leads to. -/
def status? : SessionEvent K → Option Status
  | created .. => some .created
  | started => some .running
  | stopped => some .stopped
  | _ => none

/-- The role that joined. -/
def joined? : SessionEvent K → Option String
  | joined role => some role
  | _ => none

/-- The inputs that can be read off an event. -/
def inputs (mode : LoopMode) : SessionEvent K → List (InputFrame K)
  | passed ticks _ consumed _ _ => mode.inputs ticks.length consumed
  | _ => []

/-- The form in which the store keeps the events of a session. -/
def rows [Scalar K] (session : String) (events : List (SessionEvent K)) : List (StoredEvent K) :=
  events.zipIdx.map fun (e, i) => e.row session (i + 1)

theorem length_rows [Scalar K] (session : String) (events : List (SessionEvent K)) :
    (rows session events).length = events.length := by
  simp [rows]

theorem rows_append_singleton [Scalar K] (session : String) (events : List (SessionEvent K))
    (e : SessionEvent K) :
    rows session (events ++ [e]) = rows session events ++ [e.row session (events.length + 1)] := by
  simp [rows, List.zipIdx_append]

theorem types_rows [Scalar K] (session : String) (events : List (SessionEvent K)) :
    (rows session events).map (·.type) = events.map (·.type) := by
  have first : (events.zipIdx.map Prod.fst).map (·.type) = events.map (·.type) :=
    congrArg _ (List.zipIdx_map_fst 0 events)
  rw [rows, List.map_map, ← first, List.map_map]
  rfl

end SessionEvent

/-- What is left, if no tick has failed. -/
def Simulation.Played.completed? (p : Played K τ) : Option (Simulation K τ) :=
  p.failure.elim (some p.simulation) fun _ => none

theorem Simulation.Played.completed?_eq_some {p : Played K τ} {s : Simulation K τ} :
    p.completed? = some s ↔ p.failure = none ∧ p.simulation = s := by
  unfold completed?
  cases p.failure <;> simp

open Simulation

variable [Scalar K]

/-- The simulation that events tell of: a fresh one of the logged roles and seed, which has played
the inputs of all passes. -/
def Game.replay (g : Game K τ) : List (SessionEvent K) → Option (Simulation K τ)
  | .created seed mode roles :: events =>
    match Simulation.new g.scene (g.scene.rolesOf roles) g.registry (Keystream.hashSeed seed) with
    | .error _ => none
    | .ok s => (play always (events.flatMap (·.inputs mode)) s).completed?
  | _ => none

section Replay

variable {g : Game K τ} {seed : String} {mode : LoopMode} {roles : List String}
  {events : List (SessionEvent K)} {e : SessionEvent K} {s : Simulation K τ}

theorem Game.replay_eq_some : g.replay (.created seed mode roles :: events) = some s ↔
    ∃ s₀, Simulation.new g.scene (g.scene.rolesOf roles) g.registry (Keystream.hashSeed seed) =
        .ok s₀ ∧
      (play always (events.flatMap (·.inputs mode)) s₀).failure = none ∧
      (play always (events.flatMap (·.inputs mode)) s₀).simulation = s := by
  rw [replay]
  cases Simulation.new g.scene (g.scene.rolesOf roles) g.registry (Keystream.hashSeed seed) with
  | error err => simp
  | ok s₀ => simp [Played.completed?_eq_some]

/-- One event more tells of its inputs. -/
theorem Game.replay_append (told : g.replay (.created seed mode roles :: events) = some s)
    (ok : (play always (e.inputs mode) s).failure = none) :
    g.replay (.created seed mode roles :: (events ++ [e])) =
      some (play always (e.inputs mode) s).simulation := by
  obtain ⟨s₀, new, done, rfl⟩ := replay_eq_some.1 told
  refine replay_eq_some.2 ⟨s₀, new, ?_⟩
  rw [List.flatMap_append, List.flatMap_singleton, play_append]
  dsimp only
  rw [if_pos ⟨done, .inr rfl⟩]
  exact ⟨ok, rfl⟩

end Replay

/-! ### Rooms and their events -/

/-- Events tell of a room. -/
structure Told (g : Game K τ) (events : List (SessionEvent K)) (r : Room K τ) : Prop where
  created : ∃ seed roles rest, events = .created seed r.session.mode roles :: rest
  status : (events.filterMap (·.status?)).getLast? = some r.status
  joined : r.joined = NameSet.ofNames (events.filterMap (·.joined?))
  simulation : ∃ s pace accumulator, g.replay events = some s ∧
    r.session.simulation = s.withClock pace accumulator

section Told

variable {g : Game K τ} {events : List (SessionEvent K)} {r r' : Room K τ} {e : SessionEvent K}

/-- An event that tells of no inputs. -/
theorem Told.append (told : Told g events r) (mode : r'.session.mode = r.session.mode)
    (status : r'.status = e.status?.getD r.status)
    (joined : r'.joined = (e.joined?.elim r.joined fun role => r.joined.insert role ()))
    (simulation : ∀ s pace accumulator, r.session.simulation = s.withClock pace accumulator →
      (play always (e.inputs r.session.mode) s).failure = none ∧
      ∃ pace' accumulator', r'.session.simulation =
        (play always (e.inputs r.session.mode) s).simulation.withClock pace' accumulator') :
    Told g (events ++ [e]) r' := by
  obtain ⟨seed, roles, rest, rfl⟩ := told.created
  obtain ⟨s, pace, accumulator, replayed, live⟩ := told.simulation
  obtain ⟨ok, pace', accumulator', live'⟩ := simulation s pace accumulator live
  refine ⟨⟨seed, roles, rest ++ [e], by rw [mode]; rfl⟩, ?_, ?_, ?_⟩
  · rw [List.filterMap_append, status]
    cases changed : e.status? with
    | none => simpa [changed] using told.status
    | some status => simp [changed]
  · rw [List.filterMap_append, joined, told.joined]
    cases new : e.joined? with
    | none => simp [new]
    | some role =>
      simp only [NameSet.ofNames, List.filterMap_cons_some new, List.filterMap_nil, List.map_append,
        List.map_cons, List.map_nil, Option.elim_some]
      exact (Table.ofList_append_singleton _ _ _).symm
  · exact ⟨_, pace', accumulator', Game.replay_append replayed ok, live'⟩

/-- Without an event, only the clock and the queues may differ. -/
theorem Told.same (told : Told g events r) (mode : r'.session.mode = r.session.mode)
    (status : r'.status = r.status) (joined : r'.joined = r.joined)
    (simulation : ∃ pace accumulator,
      r'.session.simulation = r.session.simulation.withClock pace accumulator) :
    Told g events r' := by
  obtain ⟨s, _, _, replayed, live⟩ := told.simulation
  obtain ⟨pace, accumulator, live'⟩ := simulation
  refine ⟨mode ▸ told.created, status ▸ told.status, joined ▸ told.joined, s, pace, accumulator,
    replayed, ?_⟩
  rw [live', live]
  rfl

/-- What is played in a step where no rule fails, played from a simulation with another clock. -/
theorem Session.Passed.replayed {s : Session K τ} {t : Simulation K τ} {pace : Pace K}
    {accumulator : K} {p : Played K τ} {report : PassReport K} {s' : Session K τ}
    (passed : Session.Passed s (t.withClock pace accumulator) p (.ok report, s')) :
    (play always (s.mode.inputs report.ticks.length report.consumed) t).failure = none ∧
      (play always (s.mode.inputs report.ticks.length report.consumed) t).reports = report.ticks ∧
      s'.simulation = (play always (s.mode.inputs report.ticks.length report.consumed)
        t).simulation.withClock pace accumulator := by
  obtain ⟨consumed, discarded, answer, again⟩ := passed.answer
  obtain ⟨ok, rfl⟩ := Played.of_result_ok answer
  have same := again ok
  dsimp only
  generalize s.mode.inputs p.reports.length consumed = frames at same ⊢
  rw [play_withClock] at same
  dsimp only at same
  have left : s'.simulation = p.simulation := passed.simulation
  rw [left]
  exact ⟨(congrArg Played.failure same).trans ok, by rw [← same],
    (congrArg Played.simulation same).symm⟩

/-- Each step of a room in which no rule fails goes on telling. -/
theorem Told.step {p : Option (Played K τ)} {e : Option (SessionEvent K)} (told : Told g events r)
    (step : r.Step p r' e) (ok : p.bind (·.failure) = none) : Told g (events ++ e.toList) r' := by
  cases step with
  | same => simpa using told
  | joined role => exact told.append rfl rfl rfl fun s pace accumulator live => ⟨rfl, _, _, live⟩
  | started => exact told.append rfl rfl rfl fun s pace accumulator live => ⟨rfl, _, _, live⟩
  | stopped => exact told.append rfl rfl rfl fun s pace accumulator live => ⟨rfl, _, _, live⟩
  | paced pace =>
    refine told.append rfl rfl rfl fun s _ accumulator live => ⟨rfl, pace, accumulator, ?_⟩
    show r.session.simulation.withClock pace r.session.simulation.accumulator = _
    rw [live]
    rfl
  | queued seats =>
    simp only [Option.toList_none, List.append_nil]
    exact told.same rfl rfl rfl ⟨_, _, rfl⟩
  | @passed _ accumulator _ report s passed =>
    refine told.append passed.mode rfl rfl fun t _ _ live => ?_
    -- The replay is at the same point, but for its clock.
    rw [live] at passed
    obtain ⟨done, ticks, left⟩ := Session.Passed.replayed (t := t) passed
    have inputs : (SessionEvent.ofPass report s.world.turn).inputs r.session.mode =
        r.session.mode.inputs report.ticks.length report.consumed := by
      simp [SessionEvent.ofPass, SessionEvent.inputs]
    rw [inputs]
    exact ⟨done, _, _, left⟩
  | idle passed unticked =>
    -- Nothing was filed, and nothing was played either.
    obtain ⟨done, ticks, left⟩ := passed.replayed
    simp only [Option.toList_none, List.append_nil]
    rw [simulation_of_unticked done (ticks.trans unticked)] at left
    exact told.same passed.mode rfl rfl ⟨_, _, left⟩
  | failed passed =>
    obtain ⟨consumed, discarded, answer, -⟩ := passed.answer
    have failure := Played.of_result_error answer
    simp [failure] at ok

end Told

namespace Lobby

variable {l : Lobby K τ} {id : String} {r : Room K τ} {g : Game K τ}
  {events : List (SessionEvent K)}

/-- After any calls in which no rule fails and the store refuses nothing, the log tells of the
room. -/
theorem run_told (calls : List (Call K)) (room : l.rooms.get? id = some r) (told : Told g events r)
    (log : l.store.eventsOf id = SessionEvent.rows id events)
    (sound : ∀ t ∈ l.trail id calls, ∀ e, t.answer ≠ .error (.tickFailed e))
    (stored : ∀ t ∈ l.trail id calls, ∀ cause, t.answer ≠ .error (.storeFailed cause)) :
    ∃ r' events', (l.run calls).rooms.get? id = some r' ∧ Told g events' r' ∧
      (l.run calls).store.eventsOf id = SessionEvent.rows id events' := by
  induction calls generalizing l r events with
  | nil => exact ⟨r, events, room, told, log⟩
  | cons c calls ih =>
    rw [trail] at sound stored
    by_cases about : c.session = id
    · subst about
      rw [if_pos rfl, List.forall_mem_cons] at sound stored
      obtain ⟨r', e, step, room', filed, failed⟩ := call_leads c room stored.1
      have ok : (l.played? c).bind (·.failure) = none := by
        rw [Option.eq_none_iff_forall_ne_some]
        exact fun err failure => sound.1 err ((failed err).2 failure)
      refine ih room' (told.step step ok) ?_ sound.2 stored.2
      rw [filed, log, SessionEvent.length_rows]
      cases e with
      | none => simp
      | some e => exact (SessionEvent.rows_append_singleton ..).symm
    · have only := l.call_other c
      rw [if_neg about] at sound stored
      exact ih ((only.rooms id (Ne.symm about)).trans room) told
        ((only.events id (Ne.symm about)).trans log) sound stored

/-- A session as it was created is told by its first event. -/
theorem Opened.told {l l' : Lobby K τ} {p : SessionPlan K} {seed : String} {s : Simulation K τ}
    (opened : l.Opened l' id p seed s r) : Told l.game [.created seed p.mode p.roleIds] r where
  created := ⟨seed, p.roleIds, [], by rw [opened.session]; rfl⟩
  status := by
    rw [opened.status]
    rfl
  joined := opened.joined
  simulation := by
    refine ⟨s, p.pace, s.accumulator, ?_, by rw [opened.session]; rfl⟩
    refine Game.replay_eq_some.2 ⟨s, ?_, rfl, rfl⟩
    rw [opened.roles]
    exact opened.simulation

/-- What a session has come to, from its creation on and after any calls in which no rule fails and
the store refuses no event, is told by the events in its log: its status is that of the last event
that has one, those have joined whose joining is logged, and its world looks like that of the
replay. -/
theorem log_determines_session {l₀ l₁ : Lobby K τ} {fresh : Fresh} {o : SessionOptions K}
    {created : CreatedSession} (made : l₀.create fresh o = (.ok created, l₁))
    (new : l₀.store.eventsOf fresh.session = []) (calls : List (Call K))
    (sound : ∀ t ∈ l₁.trail fresh.session calls, ∀ e, t.answer ≠ .error (.tickFailed e))
    (stored : ∀ t ∈ l₁.trail fresh.session calls,
      ∀ cause, t.answer ≠ .error (.storeFailed cause)) :
    ∃ r events, (l₁.run calls).rooms.get? fresh.session = some r ∧
      (l₁.run calls).store.eventsOf fresh.session = SessionEvent.rows fresh.session events ∧
      (events.filterMap (·.status?)).getLast? = some r.status ∧
      r.joined = NameSet.ofNames (events.filterMap (·.joined?)) ∧
      (l₀.game.replay events).map (·.snapshot) = some r.session.simulation.snapshot := by
  obtain ⟨p, s, r, opened⟩ := create_ok made
  have log : l₁.store.eventsOf fresh.session =
      SessionEvent.rows fresh.session [.created created.seed p.mode p.roleIds] := by
    rw [opened.filed, new]
    rfl
  obtain ⟨r', events, room, told, filed⟩ := run_told calls opened.room opened.told log sound stored
  obtain ⟨s', pace, accumulator, replayed, live⟩ := told.simulation
  refine ⟨r', events, room, filed, told.status, told.joined, ?_⟩
  rw [replayed, live]
  rfl

namespace Recorded

/-- A role, and an actor that falls. -/
def scene : Scene Rat :=
  { Scene.default with
    world := { WorldSettings.default with gravity := 1 }
    templates := Table.ofList [("t", Template.default)]
    actors := [{
      uid := "p", type := "t", x := 0, y := 0, width := none, height := none, layer := none
      blockMask := none, vx := 0, vy := 0, parent := none, sprite := none, active := true
      physics := some { dynamic := true }, fields := ∅ }]
    roles := [{ id := "a", kind := .human, required := true, camera := none, ui := none,
                serverFields := ∅, localFields := ∅ }]
    multiplayer := { Multiplayer.default with defaultLoop := .continuous, tickRate := 1 } }

/-- A lobby without sessions, whose store may be out of order, and no functions for rules. -/
def lobbyOf (fault : Option StoreFault) : Lobby Rat Empty :=
  { game := ⟨scene, { resume := fun t => nomatch t }⟩, store := { fault } }

/-- A lobby without sessions, whose store is in order. -/
def lobby : Lobby Rat Empty := lobbyOf none

/-- The names of the session. -/
def fresh : Fresh :=
  { session := "x", adminToken := "t", roleToken := fun role => role, invite := fun role => role
    seed := fun _ => "s" }

/-- The role joins, and its command waits for the first of the ticks that are due. -/
def calls : List (Call Rat) :=
  [.join "x" "a", .start "x" .admin, .submit "x" (.role "a") [.button "b"] false,
    .advanceClock "x" 2, .stop "x" .admin]

/-- The session in a lobby. -/
def opened (l : Lobby Rat Empty) : Option (CreatedSession × Lobby Rat Empty) :=
  match l.create fresh {} with
  | (.ok created, l) => some (created, l)
  | (.error _, _) => none

theorem made_of_opened {l l' : Lobby Rat Empty} {created : CreatedSession}
    (h : opened l = some (created, l')) : l.create fresh {} = (.ok created, l') := by
  unfold opened at h
  split at h
  · rename_i made
    cases h
    exact made
  · cases h

/-- No call of the session is answered with an error. -/
theorem answered : (opened lobby).map (fun cl =>
    (cl.2.trail "x" calls).all (·.answer.isOk)) = some true := by cbv

theorem room_seen : (opened lobby).map (fun cl => ((cl.2.run calls).rooms.get? "x").map fun r =>
    (r.status, r.session.world.tick)) = some (some (.stopped, 2)) := by cbv

end Recorded

/-- A session of two ticks and its log. -/
theorem recorded_session_replays : ∃ (l : Lobby Rat Empty) (created : CreatedSession)
    (r : Room Rat Empty) (events : List (SessionEvent Rat)),
    Recorded.lobby.create Recorded.fresh {} = (.ok created, l) ∧
      (l.run Recorded.calls).rooms.get? "x" = some r ∧ r.session.world.tick = 2 ∧
      (l.run Recorded.calls).store.eventsOf "x" = SessionEvent.rows "x" events ∧
      (events.filterMap (·.status?)).getLast? = some .stopped ∧
      (Recorded.lobby.game.replay events).map (·.snapshot) =
        some r.session.simulation.snapshot := by
  obtain ⟨⟨created, l⟩, opened, answered⟩ := Option.map_eq_some_iff.1 Recorded.answered
  have seen := Recorded.room_seen
  rw [opened, Option.map_some, Option.some.injEq, Option.map_eq_some_iff] at seen
  obtain ⟨r, found, seen⟩ := seen
  obtain ⟨stopped, ticks⟩ := Prod.mk.inj seen
  have made := Recorded.made_of_opened opened
  have sound : ∀ t ∈ l.trail "x" Recorded.calls, ∀ e, t.answer ≠ .error e := by
    intro t ht e failed
    have ok := List.all_eq_true.1 answered t ht
    rw [failed] at ok
    cases ok
  obtain ⟨r', events, room, log, status, -, replayed⟩ :=
    log_determines_session made rfl Recorded.calls (fun t ht e => sound t ht _)
      (fun t ht e => sound t ht _)
  obtain rfl : r = r' := Option.some.inj (found.symm.trans room)
  exact ⟨l, created, r, events, made, found, ticks, log, stopped ▸ status, replayed⟩

namespace Recorded

/-- A lobby without sessions, whose store takes no event of a joining. -/
def forgetful : Lobby Rat Empty := lobbyOf (some (.noAppend (some "joined")))

theorem joining_answer : (opened forgetful).map (fun cl =>
    (cl.2.trail "x" [.join "x" "a"]).map (·.answer)) =
      some [.error (.ofStore Store.outage)] := by cbv

theorem joining_seen : (opened forgetful).map (fun cl =>
    ((cl.2.run [.join "x" "a"]).rooms.get? "x").map (·.joined.contains "a")) =
      some (some true) := by cbv

theorem joining_log : (opened forgetful).map (fun cl =>
    ((cl.2.run [.join "x" "a"]).store.eventsOf "x").map (·.type)) = some ["created"] := by cbv

end Recorded

/-- A role has joined, no rule has failed, and the log tells of no role that joined. -/
theorem joining_goes_unlogged : ∃ (l : Lobby Rat Empty) (created : CreatedSession)
    (r : Room Rat Empty),
    Recorded.forgetful.create Recorded.fresh {} = (.ok created, l) ∧
      (∀ t ∈ l.trail "x" [.join "x" "a"], ∀ e, t.answer ≠ .error (.tickFailed e)) ∧
      (l.run [.join "x" "a"]).rooms.get? "x" = some r ∧ r.joined.contains "a" = true ∧
      ∀ events, (l.run [.join "x" "a"]).store.eventsOf "x" = SessionEvent.rows "x" events →
        r.joined ≠ NameSet.ofNames (events.filterMap (·.joined?)) := by
  obtain ⟨⟨created, l⟩, opened, answer⟩ := Option.map_eq_some_iff.1 Recorded.joining_answer
  have seen := Recorded.joining_seen
  have log := Recorded.joining_log
  rw [opened, Option.map_some, Option.some.injEq] at seen log
  obtain ⟨r, found, joined⟩ := Option.map_eq_some_iff.1 seen
  refine ⟨l, created, r, Recorded.made_of_opened opened, fun t mem e failed => ?_, found, joined,
    fun events rows told => ?_⟩
  · have same := List.mem_map_of_mem (f := Trace.answer) mem
    rw [answer, List.mem_singleton, failed] at same
    cases same
  · rw [rows, SessionEvent.types_rows] at log
    have none : events.filterMap (·.joined?) = [] := by
      rw [List.filterMap_eq_nil_iff]
      intro e mem
      have type : e.type = "created" := by
        have := List.mem_map_of_mem (f := SessionEvent.type) mem
        rwa [log, List.mem_singleton] at this
      cases e with
      | joined role => exact absurd type (show "joined" ≠ "created" by decide)
      | _ => rfl
    rw [told, none] at joined
    cases joined

end Lobby

end Playfield
