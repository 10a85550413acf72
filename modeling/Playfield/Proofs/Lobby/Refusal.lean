import Playfield.Proofs.Lobby.Opening
import Playfield.Proofs.Simulation.Assembly

/-!
# Refusals of a lobby

A request that a lobby refuses has done nothing: it is refused before anything changes. Only a rule
or the store may fail later, and such failures are internal.

* `Lobby.Atomic` says so of a reply.
* `call_atomic`, `remove_atomic`, `create_atomic`: it holds of all requests. For a creation the game
  must have been accepted: then a simulation of it can always be assembled (`assemble_total`), and
  no seed is given away in vain.
* `create_error`: where the store is in order, a creation that fails has changed nothing.
-/

namespace Playfield

variable {K τ α β : Type} [Scalar K]

namespace Lobby

/-- The game is the same after a reply, and a refusal leaves the whole lobby as it was. -/
structure Atomic (l : Lobby K τ) (reply : Reply K τ α) : Prop where
  game : reply.2.game = l.game
  refused : ∀ e, reply.1 = .error e → e.kind ≠ .internal → reply.2 = l

variable {l l' : Lobby K τ} {id : String} {r : Room K τ}

omit [Scalar K] in
theorem atomic_same (x : Except SessionError α) : Atomic l (x, l) := ⟨rfl, fun _ _ _ => rfl⟩

omit [Scalar K] in
/-- The answer may be put in another form. -/
theorem Atomic.map {reply : Reply K τ α} (atomic : l.Atomic reply) (f : α → β) :
    l.Atomic (reply.1.map f, reply.2) := by
  obtain ⟨answer, l'⟩ := reply
  refine ⟨atomic.game, fun e failed => ?_⟩
  cases answer with
  | error e' =>
    cases failed
    exact atomic.refused e rfl
  | ok a => cases failed

/-- Where the store takes no event, that is an internal failure. -/
theorem atomic_record (id : String) (e : SessionEvent K) (answer : α) (game : l'.game = l.game) :
    Atomic l (l'.record id e answer) := by
  rcases record_cases l' id e answer with ok | ⟨cause, failed⟩
  · rw [ok]
    exact ⟨game, nofun⟩
  · rw [failed]
    refine ⟨game, fun e same internal => ?_⟩
    cases same
    exact absurd rfl internal

/-- Where a tick fails, that is an internal failure. -/
theorem atomic_recordPass (id : String) (r : Room K τ)
    (outcome : Except RuleError (PassReport K) × Session K τ) :
    Atomic l (l.recordPass id r outcome) := by
  unfold recordPass
  dsimp only
  split
  · refine ⟨rfl, fun e same internal => ?_⟩
    cases same
    exact absurd rfl internal
  · exact atomic_record _ _ _ rfl

theorem get?_recordPass (l : Lobby K τ) (id : String) (r : Room K τ)
    (outcome : Except RuleError (PassReport K) × Session K τ) :
    (l.recordPass id r outcome).2.rooms.get? id = some { r with session := outcome.2 } := by
  unfold recordPass
  dsimp only
  split
  · exact get?_setRoom
  · rename_i report _
    rcases record_cases (l.setRoom id { r with session := outcome.2 }) id
      (.ofPass report outcome.2.world.turn) report with ok | ⟨cause, failed⟩
    · rw [ok]
      exact get?_setRoom
    · rw [failed]
      exact get?_setRoom

theorem join_atomic (l : Lobby K τ) (id invite : String) : l.Atomic (l.join id invite) := by
  unfold join
  repeat' split
  all_goals first | exact atomic_same _ | exact atomic_record _ _ _ rfl

theorem start_atomic (l : Lobby K τ) (id : String) (v : Viewer) : l.Atomic (l.start id v) := by
  unfold start
  repeat' split
  all_goals first | exact atomic_same _ | exact atomic_record _ _ _ rfl

theorem stop_atomic (l : Lobby K τ) (id : String) (v : Viewer) : l.Atomic (l.stop id v) := by
  unfold stop
  split
  · exact atomic_same _
  · exact atomic_record _ _ _ rfl

theorem updatePace_atomic (l : Lobby K τ) (id : String) (v : Viewer) (u : PaceUpdate K) :
    l.Atomic (l.updatePace id v u) := by
  unfold updatePace
  repeat' split
  all_goals first | exact atomic_same _ | exact atomic_record _ _ _ rfl

theorem tick_atomic (l : Lobby K τ) (id : String) (v : Viewer) : l.Atomic (l.tick id v) := by
  unfold tick
  split
  · exact atomic_same _
  · exact atomic_recordPass ..

theorem advanceClock_atomic (l : Lobby K τ) (id : String) (elapsed : K) :
    l.Atomic (l.advanceClock id elapsed) := by
  unfold advanceClock
  repeat' split
  all_goals first | exact atomic_same _ | exact ⟨rfl, nofun⟩ | exact atomic_recordPass ..

theorem submit_atomic (l : Lobby K τ) (id : String) (v : Viewer) (commands : List (Command K))
    (pass : Bool) : l.Atomic (l.submit id v commands pass) := by
  unfold submit
  cases v with
  | admin => exact atomic_same _
  | role role =>
    dsimp only
    cases queued : l.queueFor id role commands with
    | error e => exact atomic_same _
    | ok r =>
      dsimp only
      cases pass with
      | false =>
        simp only [Bool.false_eq_true, if_false]
        rw [shown_eq get?_setRoom]
        exact ⟨rfl, nofun⟩
      | true =>
        -- The room is there after the pass, so only the pass itself can have failed.
        simp only [if_true]
        rw [shown_eq (get?_recordPass l id r r.session.pass)]
        exact ((atomic_recordPass id r r.session.pass).map _).map _

omit [Scalar K] in
theorem remove_atomic (l : Lobby K τ) (id : String) (v : Viewer) : l.Atomic (l.remove id v) := by
  unfold remove
  split
  · exact atomic_same _
  · exact ⟨rfl, nofun⟩

/-- A call is refused before anything changes. -/
theorem call_atomic (l : Lobby K τ) (c : Call K) : l.Atomic (l.call c) := by
  cases c with
  | join session invite => exact (l.join_atomic session invite).map _
  | start session v => exact (l.start_atomic session v).map _
  | stop session v => exact (l.stop_atomic session v).map _
  | updatePace session v u => exact (l.updatePace_atomic session v u).map _
  | submit session v commands pass => exact (l.submit_atomic session v commands pass).map _
  | advanceClock session elapsed => exact (l.advanceClock_atomic session elapsed).map _
  | tick session v => exact (l.tick_atomic session v).map _

/-! ### Creation -/

variable {scene : Scene K} {registry : Registry K τ} {game : Game K τ}

/-- To accept a game is to hand it back. -/
theorem game_of_isOk (accepts : (Game.new scene registry).isOk = true) :
    Game.new scene registry = .ok ⟨scene, registry⟩ := by
  cases made : Game.new scene registry with
  | error e =>
    rw [made] at accepts
    cases accepts
  | ok game => rw [(Game.new_eq_ok_iff.1 made).1]

theorem assemble_total (accepted : Game.new scene registry = .ok l.game) (fresh : Fresh)
    (p : SessionPlan K) (seed : String) : ∃ r, l.assemble fresh p seed = .ok r := by
  obtain ⟨s, new⟩ := Simulation.new_of_game accepted p.roles (Keystream.hashSeed seed)
  rw [assemble, new]
  exact ⟨_, rfl⟩

/-- A creation is refused before anything changes, or gets as far as the store. -/
theorem create_cases (accepted : Game.new scene registry = .ok l.game) (fresh : Fresh)
    (o : SessionOptions K) :
    (∃ e, l.create fresh o = (.error e, l)) ∨
      ∃ (l' : Lobby K τ) (created : SessionEvent K) (answer : CreatedSession),
        l'.game = l.game ∧ l'.store.fault = l.store.fault ∧
          l.create fresh o = l'.record fresh.session created answer := by
  unfold create
  cases l.plan o with
  | error e => exact .inl ⟨e, rfl⟩
  | ok p =>
    dsimp only
    split
    · exact .inl ⟨_, rfl⟩
    · cases resolved : l.resolveSeed fresh o.seed (SessionEvent.metadata p.mode p.roleIds) with
      | error e => exact .inl ⟨e, rfl⟩
      | ok given =>
        obtain ⟨seed, l₁⟩ := given
        have reserved := resolveSeed_ok resolved
        rw [← reserved.game] at accepted
        obtain ⟨r, assembled⟩ := assemble_total accepted fresh p seed
        dsimp only
        rw [assembled]
        exact .inr ⟨l₁.admitRoom fresh.session r, _, _, reserved.game, reserved.fault, rfl⟩

theorem create_atomic (accepted : Game.new scene registry = .ok l.game) (fresh : Fresh)
    (o : SessionOptions K) : l.Atomic (l.create fresh o) := by
  rcases create_cases accepted fresh o with ⟨e, refused⟩ | ⟨l', created, answer, game, -, filed⟩
  · rw [refused]
    exact atomic_same _
  · rw [filed]
    exact atomic_record _ _ _ game

/-- Where the store is in order, a creation that fails has changed nothing. In particular it has
given no seed away. -/
theorem create_error (accepted : Game.new scene registry = .ok l.game)
    (sound : l.store.fault = none) {fresh : Fresh} {o : SessionOptions K} {e : SessionError}
    (h : (l.create fresh o).1 = .error e) : (l.create fresh o).2 = l := by
  rcases create_cases accepted fresh o with ⟨e, refused⟩ | ⟨l', created, answer, -, fault, filed⟩
  · rw [refused]
  · have taken : l'.store.refuses created.type = false := by
      rw [Store.refuses, fault, sound]
    rw [filed, record, Store.append_eq, taken] at h
    cases h

end Lobby

end Playfield
