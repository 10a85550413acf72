import Mathlib.Data.List.Forall2
import Playfield.Proofs.Lobby.Call
import Playfield.Proofs.Session.Accounts

/-!
# What a call may change

A call changes the room of its session at most, and there only what its sender has a right to.

* `Seat.FedBy`: seats in whose queues nothing was put but by those who may.
* `Session.Spent`: a session after a pass, or after some time, has its pace and nothing more in its
  queues.
* `Room.Led`: a room after a call. Its tokens and invites are those that it had; status and pace
  change for the administrator only, a queue grows for its role only, and a role joins by an invite.
* `call_moved`: every call leaves such a room, whether the store takes its event or not.
-/

namespace Playfield

variable {K τ α : Type}

/-! ### Queues -/

namespace Seat

/-- Nothing was put in the queue of a role but by those who may. -/
def FedBy (may : String → Prop) (seats seats' : List (Seat K)) : Prop :=
  List.Forall₂ (fun seat seat' => seat'.role = seat.role ∧
    (seat'.queue <:+ seat.queue ∨ may seat.role.id)) seats seats'

section FedBy

variable {may may' : String → Prop} {seats seats' seats'' : List (Seat K)}

theorem FedBy.refl (may : String → Prop) (seats : List (Seat K)) : FedBy may seats seats :=
  List.forall₂_same.2 fun _ _ => ⟨rfl, .inl (List.suffix_refl _)⟩

theorem FedBy.mono (fed : FedBy may seats seats') (le : ∀ role, may role → may' role) :
    FedBy may' seats seats' :=
  List.Forall₂.imp (fun seat _ h => ⟨h.1, h.2.imp_right (le seat.role.id)⟩) fed

theorem FedBy.trans (one : FedBy may seats seats') (two : FedBy may seats' seats'') :
    FedBy may seats seats'' := by
  induction one generalizing seats'' with
  | nil => exact two
  | @cons seat seat' seats seats' head tail ih =>
    rcases two with _ | ⟨later, rest⟩
    refine .cons ⟨later.1.trans head.1, ?_⟩ (ih rest)
    rw [head.1] at later
    rcases later.2 with shorter | may
    · exact head.2.imp_left shorter.trans
    · exact .inr may

theorem Took.fedBy {ts : List (Ticket K)} (took : Took ts seats seats') :
    FedBy (fun _ => False) seats seats' := by
  obtain ⟨length, each⟩ := took
  refine List.forall₂_iff_get.2 ⟨length.symm, fun j lt lt' => ?_⟩
  obtain ⟨left, found, taken⟩ := each j _ (List.getElem?_eq_getElem lt)
  obtain ⟨_, here⟩ := List.getElem?_eq_some_iff.1 found
  rw [List.get_eq_getElem, List.get_eq_getElem, here]
  exact ⟨rfl, .inl ⟨_, taken⟩⟩

theorem fedBy_cleared (seats : List (Seat K)) :
    FedBy (fun _ => False) seats (seats.map cleared) :=
  List.forall₂_map_right_iff.2 (List.forall₂_same.2 fun _ _ => ⟨rfl, .inl (List.nil_suffix)⟩)

/-- A batch is put in a queue of its role. -/
theorem fedBy_push (role : String) (commands : List (Command K)) (seats : List (Seat K)) :
    FedBy (· = role) seats (Session.push role commands seats) := by
  induction seats with
  | nil => exact .nil
  | cons seat seats ih =>
    unfold Session.push
    split
    · rename_i same
      exact .cons ⟨rfl, .inr same⟩ (FedBy.refl (· = role) seats)
    · exact .cons ⟨rfl, .inl (List.suffix_refl _)⟩ ih

end FedBy

end Seat

namespace Session

variable [Scalar K] {s : Session K τ}

/-- The pace is that of before, and nothing was put in a queue. -/
structure Spent (s s' : Session K τ) : Prop where
  pace : s'.simulation.pace = s.simulation.pace
  seats : Seat.FedBy (fun _ => False) s.seats s'.seats

theorem pass_seats (s : Session K τ) : Seat.FedBy (fun _ => False) s.seats s.pass.2.seats := by
  by_cases mode : s.mode = .continuous
  · rw [pass, mode]
    dsimp only
    rw [continuousPass_eq rfl]
    exact Seat.fedBy_cleared s.seats
  · obtain ⟨waits, used, -, served⟩ := pass_served mode
    exact served.seats.fedBy

theorem pass_spent (s : Session K τ) : s.Spent s.pass.2 where
  pace := by
    obtain ⟨⟨goes, frames, played⟩, -, simulation, -⟩ := s.pass_passed
    rw [simulation, played, Simulation.pace_play]
  seats := s.pass_seats

theorem advanceClock_seats (s : Session K τ) (elapsed : K) :
    Seat.FedBy (fun _ => False) s.seats (s.advanceClock elapsed).2.seats := by
  by_cases mode : s.mode = .continuous
  · rw [advanceClock_continuous mode]
    cases (s.simulation.dueSteps elapsed).1 with
    | zero => exact .refl _ _
    | succ n =>
      rw [continuousPasses_succ n rfl]
      exact Seat.fedBy_cleared s.seats
  · rw [advanceClock_turns mode]
    split
    · exact s.pass_seats
    · exact .refl _ _

theorem advanceClock_spent (s : Session K τ) (elapsed : K) :
    s.Spent (s.advanceClock elapsed).2 where
  pace := by
    obtain ⟨accumulator, ⟨goes, frames, played⟩, -, simulation, -⟩ := s.advanceClock_passed elapsed
    rw [simulation, played, Simulation.pace_play]
    rfl
  seats := s.advanceClock_seats elapsed

end Session

/-! ### Rooms -/

/-- The viewer in whose name a call is made. -/
def Lobby.Call.viewer? : Lobby.Call K → Option Viewer
  | .start _ v | .stop _ v | .updatePace _ v _ | .submit _ v _ _ | .tick _ v => some v
  | .join .. | .advanceClock .. => none

/-- The room has the tokens and invites that it had. -/
structure Room.SameKeys (r r' : Room K τ) : Prop where
  adminToken : r'.adminToken = r.adminToken
  roleTokens : r'.roleTokens = r.roleTokens
  invites : r'.invites = r.invites

/-- A room before and after a call: what changed is what the sender of the call may change, where
the invites are those of a lobby. -/
structure Room.Led (invites : Table String Invitation) (c : Lobby.Call K) (r r' : Room K τ) :
    Prop where
  keys : r.SameKeys r'
  status : r'.status = r.status ∨ c.viewer? = some .admin
  pace : r'.session.simulation.pace = r.session.simulation.pace ∨ c.viewer? = some .admin
  joined : ∀ role, r'.joined.contains role = true → r.joined.contains role = true ∨
    ∃ invite, c = .join c.session invite ∧ invites.get? invite = some ⟨c.session, role⟩
  seats : Seat.FedBy (fun role => c.viewer? = some (.role role)) r.session.seats r'.session.seats

/-- What a pass or some time does to a room is within the rights of any call. -/
theorem Session.Spent.led [Scalar K] {r : Room K τ} {s : Session K τ} (spent : r.session.Spent s)
    (invites : Table String Invitation) (c : Lobby.Call K) :
    r.Led invites c { r with session := s } where
  keys := ⟨rfl, rfl, rfl⟩
  status := .inl rfl
  pace := .inl spent.pace
  joined _ := .inl
  seats := spent.seats.mono fun _ => False.elim

namespace Lobby

variable {l : Lobby K τ} {id : String} {r : Room K τ} {v : Viewer}

theorem room_ok (h : l.room id = .ok r) : l.rooms.get? id = some r := by
  unfold room at h
  split at h
  · cases h
    assumption
  · cases h

theorem adminRoom_ok (h : l.adminRoom id v = .ok r) : v = .admin ∧ l.rooms.get? id = some r := by
  cases v with
  | admin => exact ⟨rfl, room_ok h⟩
  | role role => cases h

theorem invited_ok {invite : String} {j : JoinedRole} (h : l.invited id r invite = .ok j) :
    l.invites.get? invite = some ⟨id, j.role⟩ ∧ r.roleTokens.get? j.role = some j.token := by
  unfold invited at h
  split at h
  · cases h
  · rename_i invitation found
    split at h
    · rename_i same
      split at h
      · rename_i token has
        cases h
        exact ⟨same ▸ found, has⟩
      · cases h
    · cases h

theorem queueFor_ok {role : String} {commands : List (Command K)} {r' : Room K τ}
    (h : l.queueFor id role commands = .ok r') : ∃ r, l.rooms.get? id = some r ∧
      r' = { r with
        session := { r.session with seats := Session.push role commands r.session.seats } } := by
  unfold queueFor at h
  cases found : l.room id with
  | error e =>
    rw [found] at h
    simp only [bind, Except.bind] at h
    split at h <;> cases h
  | ok r =>
    rw [found] at h
    simp only [bind, Except.bind, pure, Except.pure] at h
    split at h
    · cases h
    · split at h
      · cases h
      · cases taken : r.session.enqueue role commands l.limits.maxQueue with
        | error e =>
          rw [taken] at h
          cases h
        | ok s =>
          rw [taken] at h
          cases h
          obtain ⟨-, -, -, rfl⟩ := Session.enqueue_ok taken
          exact ⟨r, room_ok found, rfl⟩

variable [Scalar K]

/-- What a record leaves is another store at most. -/
theorem record_store (l : Lobby K τ) (id : String) (e : SessionEvent K) (answer : α) :
    ∃ store, (l.record id e answer).2 = { l with store } := by
  rcases record_cases l id e answer with ok | ⟨cause, failed⟩
  · rw [ok]
    exact ⟨_, rfl⟩
  · rw [failed]
    exact ⟨l.store, rfl⟩

theorem recordPass_store (l : Lobby K τ) (id : String) (r : Room K τ)
    (outcome : Except RuleError (PassReport K) × Session K τ) : ∃ store,
      (l.recordPass id r outcome).2 =
        { l.setRoom id { r with session := outcome.2 } with store } := by
  unfold recordPass
  dsimp only
  split
  · exact ⟨l.store, rfl⟩
  · exact record_store ..

/-- The lobby after a call: nothing has changed, or the room of its session within the rights of the
sender, and the store. -/
inductive Moved (l : Lobby K τ) (c : Call K) : Lobby K τ → Prop
  | same : Moved l c l
  | led {r r' : Room K τ} (store : Store K) (room : l.rooms.get? c.session = some r)
    (led : r.Led l.invites c r') : Moved l c { l.setRoom c.session r' with store }

/-- A room is put in place and an event is filed. -/
theorem moved_of_record {c : Call K} {r' : Room K τ} (room : l.rooms.get? c.session = some r)
    (led : r.Led l.invites c r') (e : SessionEvent K) (answer : α) :
    l.Moved c ((l.setRoom c.session r').record c.session e answer).2 := by
  obtain ⟨store, left⟩ := record_store (l.setRoom c.session r') c.session e answer
  rw [left]
  exact .led store room led

theorem moved_of_pass {c : Call K} {r' : Room K τ}
    {outcome : Except RuleError (PassReport K) × Session K τ}
    (room : l.rooms.get? c.session = some r)
    (led : r.Led l.invites c { r' with session := outcome.2 }) :
    l.Moved c (l.recordPass c.session r' outcome).2 := by
  obtain ⟨store, left⟩ := recordPass_store l c.session r' outcome
  rw [left]
  exact .led store room led

theorem join_moved (l : Lobby K τ) (id invite : String) :
    l.Moved (.join id invite) (l.join id invite).2 := by
  unfold join
  split
  · exact .same
  · rename_i r found
    split
    · exact .same
    · rename_i j invited
      split
      · exact .same
      · refine moved_of_record (c := .join id invite) (room_ok found) ?_ _ _
        refine ⟨⟨rfl, rfl, rfl⟩, .inl rfl, .inl rfl, fun role joined => ?_, .refl _ _⟩
        rw [Table.contains_insert, Bool.or_eq_true, beq_iff_eq] at joined
        rcases joined with before | rfl
        · exact .inl before
        · -- The role that is new is that of the invite.
          exact .inr ⟨invite, rfl, (invited_ok invited).1⟩

theorem submit_moved (l : Lobby K τ) (id : String) (v : Viewer) (commands : List (Command K))
    (pass : Bool) : l.Moved (.submit id v commands pass) (l.submit id v commands pass).2 := by
  unfold submit
  split
  · exact .same
  · rename_i role
    split
    · exact .same
    · rename_i r' queued
      obtain ⟨r, room, rfl⟩ := queueFor_ok queued
      have fed : Seat.FedBy (fun role' => some (Viewer.role role) = some (.role role'))
          r.session.seats (Session.push role commands r.session.seats) :=
        (Seat.fedBy_push role commands r.session.seats).mono fun _ same => by rw [same]
      cases pass with
      | false =>
        exact .led l.store room ⟨⟨rfl, rfl, rfl⟩, .inl rfl, .inl rfl, fun _ => .inl, fed⟩
      | true =>
        refine moved_of_pass (c := .submit id (.role role) commands true) room ?_
        generalize Session.push role commands r.session.seats = seats at fed
        have spent := Session.pass_spent { r.session with seats }
        -- The role has fed its queue before the pass, in which nobody feeds any.
        exact ⟨⟨rfl, rfl, rfl⟩, .inl rfl, .inl spent.pace, fun _ => .inl,
          fed.trans (spent.seats.mono fun _ => False.elim)⟩

/-- Every call keeps within the rights of its sender. -/
theorem call_moved (l : Lobby K τ) (c : Call K) : l.Moved c (l.call c).2 := by
  cases c with
  | join id invite => exact l.join_moved id invite
  | start id v =>
    show l.Moved _ (l.start id v).2
    unfold start
    split
    · exact .same
    · rename_i r found
      obtain ⟨rfl, room⟩ := adminRoom_ok found
      split
      · exact .same
      · refine moved_of_record (c := .start id .admin) room ?_ _ _
        exact ⟨⟨rfl, rfl, rfl⟩, .inr rfl, .inl rfl, fun _ => .inl, .refl _ _⟩
  | stop id v =>
    show l.Moved _ (l.stop id v).2
    unfold stop
    split
    · exact .same
    · rename_i r found
      obtain ⟨rfl, room⟩ := adminRoom_ok found
      refine moved_of_record (c := .stop id .admin) room ?_ _ _
      exact ⟨⟨rfl, rfl, rfl⟩, .inr rfl, .inl rfl, fun _ => .inl, .refl _ _⟩
  | updatePace id v u =>
    show l.Moved _ (l.updatePace id v u).2
    unfold updatePace
    split
    · exact .same
    · rename_i r found
      obtain ⟨rfl, room⟩ := adminRoom_ok found
      split
      · exact .same
      · refine moved_of_record (c := .updatePace id .admin u) room ?_ _ _
        exact ⟨⟨rfl, rfl, rfl⟩, .inl rfl, .inr rfl, fun _ => .inl, .refl _ _⟩
  | submit id v commands pass => exact l.submit_moved id v commands pass
  | advanceClock id elapsed =>
    show l.Moved _ (l.advanceClock id elapsed).2
    unfold advanceClock
    split
    · exact .same
    · rename_i r found
      have led := (r.session.advanceClock_spent elapsed).led l.invites (.advanceClock id elapsed)
      split
      · generalize r.session.advanceClock elapsed = outcome at led
        split
        · exact .led l.store (room_ok found) led
        · exact moved_of_pass (c := .advanceClock id elapsed) (room_ok found) led
      · exact .same
  | tick id v =>
    show l.Moved _ (l.tick id v).2
    unfold tick
    split
    · exact .same
    · rename_i r found
      exact moved_of_pass (c := .tick id v) (adminRoom_ok found).2
        (r.session.pass_spent.led l.invites _)

end Lobby

end Playfield
