import Playfield.Lobby.Requests
import Playfield.Proofs.Session.Agenda
import Playfield.Proofs.Store
import Playfield.Proofs.Table

/-!
# Calls to a lobby

The requests that lead a session on, as data, and what each does to the room of its session and to
the store.

* `Lobby.Call` lists the requests, `Lobby.call` carries one out.
* `Lobby.played?` is what a call plays.
* `Room.Step` lists what may happen to a room, with what was played and the event that is filed.
* `call_leads`: a call that the store does not fail makes one such step and files its event.
  `call_other`: it leaves the sessions of other ids alone.
* `Lobby.run` carries out calls; `Lobby.trail` has what those of one session answered and ran.
-/

namespace Playfield

variable {K τ α : Type}

/-! ### The store -/

/-- The form in which the store keeps an event. -/
def SessionEvent.row [Scalar K] (session : String) (seq : Nat) (e : SessionEvent K) :
    StoredEvent K :=
  ⟨session, seq, e.type, e.payload, e.tick?⟩

namespace Store

/-- The store with an event more. -/
def file [Scalar K] (s : Store K) (session : String) (e : SessionEvent K) : Store K :=
  s.write session e.type e.payload e.tick?

variable [Scalar K] {s : Store K} {session other : String} {e : SessionEvent K}

theorem eventsOf_file : (s.file session e).eventsOf session =
    s.eventsOf session ++ [e.row session ((s.eventsOf session).length + 1)] :=
  eventsOf_write

theorem eventsOf_file_of_ne (h : other ≠ session) :
    (s.file session e).eventsOf other = s.eventsOf other :=
  eventsOf_write_of_ne h

end Store

namespace Lobby

variable {l : Lobby K τ} {id other : String} {r r' : Room K τ}

theorem room_of_get? (h : l.rooms.get? id = some r) : l.room id = .ok r := by
  rw [room, h]

theorem get?_setRoom : (l.setRoom id r).rooms.get? id = some r :=
  Table.get?_insert_self ..

theorem get?_setRoom_of_ne (h : other ≠ id) :
    (l.setRoom id r).rooms.get? other = l.rooms.get? other :=
  Table.get?_insert_of_ne _ _ h

/-- The administrator gets the room, others are refused. -/
theorem adminRoom_cases (room : l.rooms.get? id = some r) (v : Viewer) :
    l.adminRoom id v = .ok r ∨ l.adminRoom id v = .error .unauthorized := by
  unfold adminRoom
  cases v with
  | admin => exact .inl (room_of_get? room)
  | role role => exact .inr rfl

variable [Scalar K]

/-- What the store takes is filed; what it refuses is reported. -/
theorem record_cases (l : Lobby K τ) (id : String) (e : SessionEvent K) (answer : α) :
    l.record id e answer = (.ok answer, { l with store := l.store.file id e }) ∨
      ∃ cause, l.record id e answer = (.error (.storeFailed cause), l) := by
  rw [record, Store.append_eq]
  by_cases refused : l.store.refuses e.type = true
  · rw [if_pos refused]
    exact .inr ⟨_, rfl⟩
  · rw [if_neg refused]
    exact .inl rfl

end Lobby

/-! ### Steps of a room -/

section Step

variable [Scalar K]

/-- What may happen to a room: what is played, the room that is left, and the event that is
filed. -/
inductive Room.Step (r : Room K τ) :
    Option (Simulation.Played K τ) → Room K τ → Option (SessionEvent K) → Prop
  | same : Step r none r none
  | joined (role : String) :
    Step r none { r with joined := r.joined.insert role () } (some (.joined role))
  | started : Step r none { r with status := .running } (some .started)
  | stopped : Step r none { r with status := .stopped } (some .stopped)
  | paced (pace : Pace K) : Step r none
    { r with session := { r.session with simulation := { r.session.simulation with pace } } }
    (some (.paced pace))
  | queued (seats : List (Seat K)) : Step r none { r with session := { r.session with seats } } none
  | passed {seats : List (Seat K)} {accumulator : K} {p : Simulation.Played K τ}
    {report : PassReport K} {s : Session K τ}
    (passed : Session.Passed { r.session with seats }
      (r.session.simulation.withClock r.session.simulation.pace accumulator) p (.ok report, s)) :
    Step r (some p) { r with session := s } (some (.ofPass report s.world.turn))
  | idle {accumulator : K} {p : Simulation.Played K τ} {report : PassReport K} {s : Session K τ}
    (passed : Session.Passed r.session
      (r.session.simulation.withClock r.session.simulation.pace accumulator) p (.ok report, s))
    (unticked : report.ticks = []) : Step r (some p) { r with session := s } none
  | failed {seats : List (Seat K)} {accumulator : K} {p : Simulation.Played K τ} {e : RuleError}
    {s : Session K τ}
    (passed : Session.Passed { r.session with seats }
      (r.session.simulation.withClock r.session.simulation.pace accumulator) p (.error e, s)) :
    Step r (some p) { r with session := s } none

namespace Lobby

/-- The reply to a call of a session whose room is `r`: the room makes a step in which `p` is
played, and its event is filed. A rule has failed just if it did in what was played. -/
def Leads (l : Lobby K τ) (id : String) (r : Room K τ) (p : Option (Simulation.Played K τ))
    (reply : Reply K τ α) : Prop :=
  ∃ r' e, r.Step p r' e ∧ reply.2.rooms.get? id = some r' ∧
    reply.2.store.eventsOf id = l.store.eventsOf id ++
      e.toList.map (·.row id ((l.store.eventsOf id).length + 1)) ∧
    ∀ err, reply.1 = .error (.tickFailed err) ↔ (p.bind (·.failure)) = some err

/-- The store has not failed. -/
def Stored (reply : Reply K τ α) : Prop := ∀ cause, reply.1 ≠ .error (.storeFailed cause)

variable {l : Lobby K τ} {id : String} {r r' : Room K τ}

theorem leads_same {reply : Reply K τ α} (room : l.rooms.get? id = some r) (same : reply.2 = l)
    (sound : ∀ err, reply.1 ≠ .error (.tickFailed err)) : l.Leads id r none reply := by
  refine ⟨r, none, .same, ?_, ?_, fun err => ?_⟩
  · rw [same, room]
  · simp [same]
  · simp [sound]

theorem leads_of_record {answer : α} {e : SessionEvent K} (step : r.Step none r' (some e))
    (stored : Stored ((l.setRoom id r').record id e answer)) :
    l.Leads id r none ((l.setRoom id r').record id e answer) := by
  rcases record_cases (l.setRoom id r') id e answer with ok | ⟨cause, failed⟩
  · rw [ok]
    refine ⟨r', some e, step, get?_setRoom, ?_, fun err => by simp⟩
    exact Store.eventsOf_file
  · rw [failed] at stored
    exact absurd rfl (stored cause)

/-- A pass of a session in which seats may have changed before. -/
theorem leads_of_pass (seats : List (Seat K)) (accumulator : K) {p : Simulation.Played K τ}
    {outcome : Except RuleError (PassReport K) × Session K τ}
    (passed : Session.Passed { r.session with seats }
      (r.session.simulation.withClock r.session.simulation.pace accumulator) p outcome)
    (stored : Stored (l.recordPass id { r with session := { r.session with seats } } outcome)) :
    l.Leads id r (some p)
      (l.recordPass id { r with session := { r.session with seats } } outcome) := by
  obtain ⟨result, s⟩ := outcome
  obtain ⟨consumed, discarded, answer, -⟩ := passed.answer
  unfold recordPass at stored ⊢
  cases result with
  | error e =>
    have failure := Simulation.Played.of_result_error answer
    refine ⟨_, none, .failed passed, get?_setRoom, by simp [setRoom], fun err => ?_⟩
    simp [failure]
  | ok report =>
    have failure := (Simulation.Played.of_result_ok answer).1
    dsimp only at stored ⊢
    rcases record_cases (l.setRoom id { r with session := s }) id
      (.ofPass report s.world.turn) report with ok | ⟨cause, failed⟩
    · rw [ok]
      refine ⟨_, some _, .passed passed, get?_setRoom, Store.eventsOf_file, fun err => ?_⟩
      simp [failure]
    · rw [failed] at stored
      exact absurd rfl (stored cause)

/-! ### The requests -/

omit [Scalar K] in
theorem invited_error {invite : String} {e : SessionError} (h : l.invited id r invite = .error e) :
    e = .unauthorized := by
  unfold invited at h
  repeat' split at h
  all_goals
    cases h
    try rfl

theorem join_leads (room : l.rooms.get? id = some r) (invite : String)
    (stored : Stored (l.join id invite)) : l.Leads id r none (l.join id invite) := by
  unfold join at stored ⊢
  rw [room_of_get? room] at stored ⊢
  dsimp only at stored ⊢
  cases invited : l.invited id r invite with
  | error e =>
    rw [invited_error invited]
    exact leads_same room rfl (by simp)
  | ok joined =>
    rw [invited] at stored
    dsimp only at stored ⊢
    by_cases again : r.joined.contains joined.role = true
    · rw [if_pos again]
      exact leads_same room rfl (by simp)
    · rw [if_neg again] at stored ⊢
      exact leads_of_record (.joined _) stored

theorem start_leads (room : l.rooms.get? id = some r) (v : Viewer)
    (stored : Stored (l.start id v)) : l.Leads id r none (l.start id v) := by
  unfold start at stored ⊢
  rcases adminRoom_cases room v with admin | admin <;> rw [admin] at stored ⊢
  · dsimp only at stored ⊢
    by_cases running : r.status = .running
    · rw [if_pos running]
      exact leads_same room rfl (by simp)
    · rw [if_neg running] at stored ⊢
      exact leads_of_record .started stored
  · exact leads_same room rfl (by simp)

theorem stop_leads (room : l.rooms.get? id = some r) (v : Viewer)
    (stored : Stored (l.stop id v)) : l.Leads id r none (l.stop id v) := by
  unfold stop at stored ⊢
  rcases adminRoom_cases room v with admin | admin <;> rw [admin] at stored ⊢
  · exact leads_of_record .stopped stored
  · exact leads_same room rfl (by simp)

theorem apply_error {u : PaceUpdate K} {pace : Pace K} {e : SessionError}
    (h : u.apply pace = .error e) (err : RuleError) : e ≠ .tickFailed err := by
  unfold PaceUpdate.apply at h
  split at h
  · cases h
    simp
  · split at h
    · cases h
      simp
    · cases h

theorem updatePace_leads (room : l.rooms.get? id = some r) (v : Viewer) (u : PaceUpdate K)
    (stored : Stored (l.updatePace id v u)) : l.Leads id r none (l.updatePace id v u) := by
  unfold updatePace at stored ⊢
  rcases adminRoom_cases room v with admin | admin <;> rw [admin] at stored ⊢
  · dsimp only at stored ⊢
    cases applied : u.apply r.session.simulation.pace with
    | error e =>
      exact leads_same room rfl fun err same => apply_error applied err (by simpa using same)
    | ok pace =>
      rw [applied] at stored
      exact leads_of_record (.paced pace) stored
  · exact leads_same room rfl (by simp)

/-- What `tick` plays. -/
theorem tick_leads (room : l.rooms.get? id = some r) (v : Viewer) (stored : Stored (l.tick id v)) :
    l.Leads id r ((l.adminRoom id v).toOption.map (·.session.played)) (l.tick id v) := by
  unfold tick at stored ⊢
  rcases adminRoom_cases room v with admin | admin <;> rw [admin] at stored ⊢
  · exact leads_of_pass r.session.seats r.session.simulation.accumulator r.session.pass_passed
      stored
  · exact leads_same room rfl (by simp)

/-- What the clock plays, if it runs. -/
theorem advanceClock_leads (room : l.rooms.get? id = some r) (elapsed : K)
    (stored : Stored (l.advanceClock id elapsed)) :
    l.Leads id r (if r.status = .running then some (r.session.clocked elapsed) else none)
      (l.advanceClock id elapsed) := by
  unfold advanceClock at stored ⊢
  rw [room_of_get? room] at stored ⊢
  dsimp only at stored ⊢
  by_cases running : r.status = .running
  · rw [if_pos running] at stored ⊢
    rw [if_pos running]
    obtain ⟨accumulator, passed⟩ := r.session.advanceClock_passed elapsed
    generalize r.session.clocked elapsed = p at passed ⊢
    generalize r.session.advanceClock elapsed = outcome at passed stored ⊢
    split at stored
    · rename_i consumed discarded s
      obtain ⟨consumed', discarded', answer, -⟩ := passed.answer
      have failure := (Simulation.Played.of_result_ok answer).1
      refine ⟨_, none, .idle passed rfl, get?_setRoom, by simp [setRoom], fun err => ?_⟩
      simp [failure]
    · exact leads_of_pass _ _ passed stored
  · rw [if_neg running]
    rw [if_neg running]
    exact leads_same room rfl (by simp)

omit [Scalar K] in
/-- A role's commands are all admitted, or refused, which is no failure of a rule. -/
theorem admits_cases (scene : Scene K) (role : String) (commands : List (Command K)) :
    commands.forM (Session.admits scene role) = .ok () ∨
      ∃ e, commands.forM (Session.admits scene role) = .error e ∧ ∀ err, e ≠ .tickFailed err := by
  induction commands with
  | nil => exact .inl rfl
  | cons c rest ih =>
    show (Session.admits scene role c >>= fun _ => rest.forM _) = _ ∨
      ∃ e, (Session.admits scene role c >>= fun _ => rest.forM _) = _ ∧ _
    cases admitted : Session.admits scene role c with
    | ok u => exact ih
    | error e =>
      refine .inr ⟨e, rfl, fun err => ?_⟩
      unfold Session.admits at admitted
      repeat' split at admitted
      all_goals
        cases admitted
        try simp

omit [Scalar K] in
theorem enqueue_cases (s : Session K τ) (role : String) (commands : List (Command K))
    (maxQueue : Nat) :
    (∃ seats, s.enqueue role commands maxQueue = .ok { s with seats }) ∨
      ∃ e, s.enqueue role commands maxQueue = .error e ∧ ∀ err, e ≠ .tickFailed err := by
  unfold Session.enqueue
  split
  · exact .inr ⟨_, rfl, by simp⟩
  · rcases admits_cases s.world.scene role commands with admitted | ⟨e, refused, sound⟩
    · rw [admitted]
      simp only [bind, Except.bind]
      split
      · exact .inr ⟨_, rfl, by simp⟩
      · exact .inl ⟨_, rfl⟩
    · rw [refused]
      exact .inr ⟨e, rfl, sound⟩

omit [Scalar K] in
/-- Commands are queued in a seat, or refused, which is no failure of a rule. -/
theorem queueFor_cases (room : l.rooms.get? id = some r) (role : String)
    (commands : List (Command K)) :
    (∃ seats, l.queueFor id role commands = .ok { r with session := { r.session with seats } }) ∨
      ∃ e, l.queueFor id role commands = .error e ∧ ∀ err, e ≠ .tickFailed err := by
  unfold queueFor
  rw [room_of_get? room]
  by_cases long : commands.length > l.limits.maxCommands
  · rw [if_pos long]
    exact .inr ⟨_, rfl, by simp⟩
  · rw [if_neg long]
    by_cases ended : r.status = .stopped
    · refine .inr ⟨.stopped id, ?_, by simp⟩
      show (if r.status = .stopped then _ else _) = _
      rw [if_pos ended]
      rfl
    · show (∃ seats, (if r.status = .stopped then _ else _) = _) ∨
        ∃ e, (if r.status = .stopped then _ else _) = _ ∧ _
      rw [if_neg ended]
      rcases enqueue_cases r.session role commands l.limits.maxQueue with
        ⟨seats, queued⟩ | ⟨e, refused, sound⟩
      · rw [queued]
        exact .inl ⟨seats, rfl⟩
      · rw [refused]
        exact .inr ⟨e, rfl, sound⟩

/-- The answer may be put in another form. -/
theorem Leads.map {β : Type} {p : Option (Simulation.Played K τ)} {reply : Reply K τ α}
    (leads : l.Leads id r p reply) (f : α → β) : l.Leads id r p (reply.1.map f, reply.2) := by
  obtain ⟨r', e, step, room, filed, failed⟩ := leads
  refine ⟨r', e, step, room, filed, fun err => Iff.trans ?_ (failed err)⟩
  cases reply.1 <;> simp [Except.map]

/-- What a role is shown when its commands were taken. -/
theorem shown_eq (room : l.rooms.get? id = some r) (v : Viewer) (done : Except SessionError Unit) :
    (do
      let _ ← done
      return ⟨← l.picture id v, ← l.state id v⟩ : Except SessionError (Submitted K)) =
      done.map fun _ => ⟨r.picture v, r.view id v⟩ := by
  unfold picture state
  rw [room_of_get? room]
  cases done <;> rfl

/-- What `submit` plays, if a pass is asked for. -/
theorem submit_leads (room : l.rooms.get? id = some r) (role : String) (commands : List (Command K))
    (pass : Bool) (stored : Stored (l.submit id (.role role) commands pass)) :
    l.Leads id r
      (if pass then (l.queueFor id role commands).toOption.map (·.session.played) else none)
      (l.submit id (.role role) commands pass) := by
  unfold submit at stored ⊢
  dsimp only at stored ⊢
  rcases queueFor_cases room role commands with ⟨seats, queued⟩ | ⟨e, refused, sound⟩
  · rw [queued] at stored ⊢
    dsimp only at stored ⊢
    cases pass with
    | false =>
      simp only [Bool.false_eq_true, if_false]
      rw [shown_eq get?_setRoom]
      exact ⟨_, none, .queued seats, get?_setRoom, by simp [setRoom],
        fun err => by simp [Except.map]⟩
    | true =>
      simp only [if_true] at stored ⊢
      have passed := Session.pass_passed { r.session with seats }
      generalize Session.pass { r.session with seats } = outcome at passed stored ⊢
      have leads : _ → l.Leads id r _ _ :=
        leads_of_pass seats r.session.simulation.accumulator passed
      -- After the pass the room is there, so what the role is shown cannot fail.
      generalize l.recordPass id _ outcome = reply at leads stored ⊢
      have recorded := leads fun cause failed => stored cause (by rw [failed]; rfl)
      obtain ⟨_, room'⟩ : ∃ r', reply.2.rooms.get? id = some r' := by
        obtain ⟨r', _, _, room', _⟩ := recorded
        exact ⟨r', room'⟩
      rw [shown_eq room']
      exact (recorded.map _).map _
  · rw [refused]
    have none : (if pass = true then
        (Except.error e : Except SessionError (Room K τ)).toOption.map (·.session.played)
        else none) = none := by
      split <;> rfl
    rw [none]
    exact leads_same room rfl fun err => by simpa using sound err

/-! ### Calls as data -/

/-- A request that leads a session on. -/
inductive Call (K : Type) where
  | join (session invite : String)
  | start (session : String) (v : Viewer)
  | stop (session : String) (v : Viewer)
  | updatePace (session : String) (v : Viewer) (u : PaceUpdate K)
  | submit (session : String) (v : Viewer) (commands : List (Command K)) (pass : Bool)
  | advanceClock (session : String) (elapsed : K)
  | tick (session : String) (v : Viewer)

omit [Scalar K] in
/-- The session that a call is about. -/
def Call.session : Call K → String
  | join session _ | start session _ | stop session _ | updatePace session _ _ => session
  | submit session _ _ _ | advanceClock session _ | tick session _ => session

/-- The reply without what is answered if all is well. -/
def Reply.ended (reply : Reply K τ α) : Reply K τ Unit := (reply.1.map fun _ => (), reply.2)

/-- Carries out a call. -/
def call (l : Lobby K τ) : Call K → Reply K τ Unit
  | .join session invite => (l.join session invite).ended
  | .start session v => (l.start session v).ended
  | .stop session v => (l.stop session v).ended
  | .updatePace session v u => (l.updatePace session v u).ended
  | .submit session v commands pass => (l.submit session v commands pass).ended
  | .advanceClock session elapsed => (l.advanceClock session elapsed).ended
  | .tick session v => (l.tick session v).ended

/-- What a call plays. -/
def played? (l : Lobby K τ) : Call K → Option (Simulation.Played K τ)
  | .submit session (.role role) commands true =>
    (l.queueFor session role commands).toOption.map (·.session.played)
  | .advanceClock session elapsed =>
    (l.rooms.get? session).bind fun r =>
      if r.status = .running then some (r.session.clocked elapsed) else none
  | .tick session v => (l.adminRoom session v).toOption.map (·.session.played)
  | _ => none

omit [Scalar K] in
theorem stored_of_ended {reply : Reply K τ α} (stored : Stored reply.ended) : Stored reply :=
  fun cause failed => stored cause (by rw [Reply.ended, failed]; rfl)

/-- A call makes a step of the room of its session, unless the store fails. -/
theorem call_leads (c : Call K) (room : l.rooms.get? c.session = some r)
    (stored : Stored (l.call c)) : l.Leads c.session r (l.played? c) (l.call c) := by
  cases c with
  | join session invite => exact (join_leads room invite (stored_of_ended stored)).map _
  | start session v => exact (start_leads room v (stored_of_ended stored)).map _
  | stop session v => exact (stop_leads room v (stored_of_ended stored)).map _
  | updatePace session v u => exact (updatePace_leads room v u (stored_of_ended stored)).map _
  | submit session v commands pass =>
    cases v with
    | admin => exact leads_same room rfl (by simp [call, submit, Reply.ended, Except.map])
    | role role =>
      have leads := (submit_leads room role commands pass (stored_of_ended stored)).map fun _ => ()
      cases pass <;> exact leads
  | advanceClock session elapsed =>
    have leads := (advanceClock_leads room elapsed (stored_of_ended stored)).map fun _ => ()
    have played : l.played? (.advanceClock session elapsed) =
        if r.status = .running then some (r.session.clocked elapsed) else none := by
      rw [played?, show l.rooms.get? session = some r from room]
      rfl
    rw [played]
    exact leads
  | tick session v => exact (tick_leads room v (stored_of_ended stored)).map _

/-- Only the session of an id can have changed. -/
structure OnlyAt (id : String) (l l' : Lobby K τ) : Prop where
  rooms : ∀ other, other ≠ id → l'.rooms.get? other = l.rooms.get? other
  events : ∀ other, other ≠ id → l'.store.eventsOf other = l.store.eventsOf other

omit [Scalar K] in
theorem onlyAt_setRoom (l : Lobby K τ) (id : String) (r : Room K τ) :
    OnlyAt id l (l.setRoom id r) :=
  ⟨fun _ h => get?_setRoom_of_ne h, fun _ _ => rfl⟩

theorem onlyAt_record (l : Lobby K τ) (id : String) (r : Room K τ) (e : SessionEvent K)
    (answer : α) : OnlyAt id l ((l.setRoom id r).record id e answer).2 := by
  rcases record_cases (l.setRoom id r) id e answer with ok | ⟨cause, failed⟩
  · rw [ok]
    exact ⟨fun _ h => get?_setRoom_of_ne h, fun _ h => Store.eventsOf_file_of_ne h⟩
  · rw [failed]
    exact onlyAt_setRoom l id r

theorem onlyAt_recordPass (l : Lobby K τ) (id : String) (r : Room K τ)
    (outcome : Except RuleError (PassReport K) × Session K τ) :
    OnlyAt id l (l.recordPass id r outcome).2 := by
  unfold recordPass
  dsimp only
  split
  · exact onlyAt_setRoom l id _
  · exact onlyAt_record l id _ _ _

/-- A call leaves all other sessions alone. -/
theorem call_other (l : Lobby K τ) (c : Call K) : OnlyAt c.session l (l.call c).2 := by
  have same : OnlyAt c.session l l := ⟨fun _ _ => rfl, fun _ _ => rfl⟩
  cases c with
  | join session invite =>
    show OnlyAt session l (l.join session invite).2
    unfold join
    repeat' split
    all_goals first | exact same | exact onlyAt_record ..
  | start session v =>
    show OnlyAt session l (l.start session v).2
    unfold start
    repeat' split
    all_goals first | exact same | exact onlyAt_record ..
  | stop session v =>
    show OnlyAt session l (l.stop session v).2
    unfold stop
    split
    · exact same
    · exact onlyAt_record ..
  | updatePace session v u =>
    show OnlyAt session l (l.updatePace session v u).2
    unfold updatePace
    repeat' split
    all_goals first | exact same | exact onlyAt_record ..
  | submit session v commands pass =>
    show OnlyAt session l (l.submit session v commands pass).2
    unfold submit
    split
    · exact same
    · split
      · exact same
      · cases pass
        · exact onlyAt_setRoom ..
        · exact onlyAt_recordPass ..
  | advanceClock session elapsed =>
    show OnlyAt session l (l.advanceClock session elapsed).2
    unfold advanceClock
    repeat' split
    all_goals first | exact same | exact onlyAt_setRoom .. | exact onlyAt_recordPass ..
  | tick session v =>
    show OnlyAt session l (l.tick session v).2
    unfold tick
    split
    · exact same
    · exact onlyAt_recordPass ..

/-- The lobby after some calls. -/
def run (l : Lobby K τ) (calls : List (Call K)) : Lobby K τ :=
  calls.foldl (fun l c => (l.call c).2) l

/-- The answer to a call of a session, and the numbers of the ticks that it ran to their end. -/
structure Trace where
  answer : Except SessionError Unit
  ran : List Nat

/-- What the calls of a session did. -/
def trail (id : String) : Lobby K τ → List (Call K) → List Trace
  | _, [] => []
  | l, c :: calls =>
    if c.session = id then
      ⟨(l.call c).1, (l.played? c).elim [] (·.numbers)⟩ :: trail id (l.call c).2 calls
    else trail id (l.call c).2 calls

end Lobby

end Step

end Playfield
