import Playfield.Proofs.Lobby.Rights

/-!
# What operations leave

A call makes a step of the room of its session, also where the store fails; the event of the step is
filed then or not. A creation goes through its phases up to one that fails.

* `Lobby.Left` lists the lobbies that a call may leave; `call_left`: there are no others.
* `Left.around`: the rest of the lobby, the ways into it, and what the store keeps of seeds and of
  other sessions, is as before.
* `create_inv`: a creation has done nothing, or has given a seed away and then put a room in place
  if it could be assembled.
-/

namespace Playfield

variable {K τ α : Type} [Scalar K]

namespace Lobby

/-- The lobbies that may be left by a call of a session. -/
inductive Left (l : Lobby K τ) (id : String) : Lobby K τ → Prop
  | same : Left l id l
  | stepped {r r' : Room K τ} {p : Option (Simulation.Played K τ)} {e : Option (SessionEvent K)}
    {store : Store K} (room : l.rooms.get? id = some r) (step : r.Step p r' e)
    (stored : store = l.store ∨ ∃ e, store = l.store.file id e) :
    Left l id { l.setRoom id r' with store }

variable {l l' : Lobby K τ} {id : String} {r r' : Room K τ}

theorem left_of_record {e : SessionEvent K} (room : l.rooms.get? id = some r)
    (step : r.Step none r' (some e)) (answer : α) :
    l.Left id ((l.setRoom id r').record id e answer).2 := by
  rcases record_cases (l.setRoom id r') id e answer with ok | ⟨cause, failed⟩
  · rw [ok]
    exact .stepped room step (.inr ⟨e, rfl⟩)
  · rw [failed]
    exact .stepped room step (.inl rfl)

/-- A pass of a session in which seats may have changed before. -/
theorem left_of_pass (seats : List (Seat K)) (accumulator : K) {p : Simulation.Played K τ}
    {outcome : Except RuleError (PassReport K) × Session K τ}
    (room : l.rooms.get? id = some r)
    (passed : Session.Passed { r.session with seats }
      (r.session.simulation.withClock r.session.simulation.pace accumulator) p outcome) :
    l.Left id (l.recordPass id { r with session := { r.session with seats } } outcome).2 := by
  obtain ⟨result, s⟩ := outcome
  unfold recordPass
  cases result with
  | error e => exact .stepped room (.failed passed) (.inl rfl)
  | ok report =>
    dsimp only
    rcases record_cases (l.setRoom id { r with session := s }) id
      (.ofPass report s.world.turn) report with ok | ⟨cause, failed⟩
    · rw [ok]
      exact .stepped room (.passed passed) (.inr ⟨_, rfl⟩)
    · rw [failed]
      exact .stepped room (.passed passed) (.inl rfl)

theorem submit_left (l : Lobby K τ) (id : String) (v : Viewer) (commands : List (Command K))
    (pass : Bool) : l.Left id (l.submit id v commands pass).2 := by
  unfold submit
  split
  · exact .same
  · rename_i role
    split
    · exact .same
    · rename_i r' queued
      obtain ⟨r, room, rfl⟩ := queueFor_ok queued
      cases pass with
      | false => exact .stepped room (.queued _) (.inl rfl)
      | true => exact left_of_pass _ r.session.simulation.accumulator room (Session.pass_passed _)

theorem advanceClock_left (l : Lobby K τ) (id : String) (elapsed : K) :
    l.Left id (l.advanceClock id elapsed).2 := by
  unfold advanceClock
  split
  · exact .same
  · rename_i r found
    split
    · obtain ⟨accumulator, passed⟩ := r.session.advanceClock_passed elapsed
      generalize r.session.clocked elapsed = p at passed
      generalize r.session.advanceClock elapsed = outcome at passed
      split
      · exact .stepped (room_ok found) (.idle passed rfl) (.inl rfl)
      · exact left_of_pass r.session.seats accumulator (room_ok found) passed
    · exact .same

/-- A call leaves the lobby, or makes a step of the room of its session. -/
theorem call_left (l : Lobby K τ) (c : Call K) : l.Left c.session (l.call c).2 := by
  cases c with
  | join id invite =>
    show l.Left id (l.join id invite).2
    unfold join
    split
    · exact .same
    · rename_i r found
      repeat' split
      all_goals first | exact .same | exact left_of_record (room_ok found) (.joined _) _
  | start id v =>
    show l.Left id (l.start id v).2
    unfold start
    split
    · exact .same
    · rename_i r found
      split
      · exact .same
      · exact left_of_record (adminRoom_ok found).2 .started _
  | stop id v =>
    show l.Left id (l.stop id v).2
    unfold stop
    split
    · exact .same
    · rename_i r found
      exact left_of_record (adminRoom_ok found).2 .stopped _
  | updatePace id v u =>
    show l.Left id (l.updatePace id v u).2
    unfold updatePace
    split
    · exact .same
    · rename_i r found
      split
      · exact .same
      · exact left_of_record (adminRoom_ok found).2 (.paced _) _
  | submit id v commands pass => exact l.submit_left id v commands pass
  | advanceClock id elapsed => exact l.advanceClock_left id elapsed
  | tick id v =>
    show l.Left id (l.tick id v).2
    unfold tick
    split
    · exact .same
    · rename_i r found
      exact left_of_pass r.session.seats r.session.simulation.accumulator (adminRoom_ok found).2
        r.session.pass_passed

/-- Nothing has changed but one session, with what the store keeps of it. -/
structure Around (id : String) (l l' : Lobby K τ) : Prop where
  game : l'.game = l.game
  limits : l'.limits = l.limits
  tokens : l'.tokens = l.tokens
  invites : l'.invites = l.invites
  seeds : l'.seeds = l.seeds
  reservations : l'.store.reservations = l.store.reservations
  fault : l'.store.fault = l.store.fault
  others : OnlyAt id l l'

theorem Left.around (left : l.Left id l') : Around id l l' := by
  cases left with
  | same => exact ⟨rfl, rfl, rfl, rfl, rfl, rfl, rfl, ⟨fun _ _ => rfl, fun _ _ => rfl⟩⟩
  | stepped room step stored =>
    rcases stored with rfl | ⟨e, rfl⟩
    · exact ⟨rfl, rfl, rfl, rfl, rfl, rfl, rfl,
        ⟨fun _ other => get?_setRoom_of_ne other, fun _ _ => rfl⟩⟩
    · exact ⟨rfl, rfl, rfl, rfl, rfl, rfl, rfl,
        ⟨fun _ other => get?_setRoom_of_ne other, fun _ other => Store.eventsOf_file_of_ne other⟩⟩

theorem call_around (l : Lobby K τ) (c : Call K) : Around c.session l (l.call c).2 :=
  (l.call_left c).around

/-- The phases of a creation. -/
theorem create_inv (l : Lobby K τ) (fresh : Fresh) (o : SessionOptions K) :
    (∃ e, l.create fresh o = (.error e, l)) ∨
      ∃ p seed l₁, l.plan o = .ok p ∧ l.rooms.contains fresh.session = false ∧
        l.resolveSeed fresh o.seed (SessionEvent.metadata p.mode p.roleIds) = .ok (seed, l₁) ∧
        ((∃ e, l₁.assemble fresh p seed = .error e ∧ l.create fresh o = (.error (.scene e), l₁)) ∨
          ∃ r, l₁.assemble fresh p seed = .ok r ∧
            l.create fresh o = (l₁.admitRoom fresh.session r).record fresh.session
              (.created seed p.mode p.roleIds)
              ((l₁.admitRoom fresh.session r).created fresh.session r)) := by
  unfold create
  cases planned : l.plan o with
  | error e => exact .inl ⟨e, rfl⟩
  | ok p =>
    dsimp only
    split
    · exact .inl ⟨_, rfl⟩
    · rename_i absent
      cases resolved : l.resolveSeed fresh o.seed (SessionEvent.metadata p.mode p.roleIds) with
      | error e => exact .inl ⟨e, rfl⟩
      | ok given =>
        obtain ⟨seed, l₁⟩ := given
        refine .inr ⟨p, seed, l₁, rfl, Bool.eq_false_iff.2 absent, resolved, ?_⟩
        dsimp only
        cases assembled : l₁.assemble fresh p seed with
        | error e => exact .inl ⟨e, rfl, rfl⟩
        | ok r => exact .inr ⟨r, rfl, rfl⟩

end Lobby

end Playfield
