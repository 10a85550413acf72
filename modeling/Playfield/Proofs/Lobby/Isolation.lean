import Playfield.Proofs.Lobby.Change
import Playfield.Proofs.Lobby.Credentials

/-!
# Sessions do not disturb each other

The sessions of a lobby have one game, one register of tokens, one of invites and one store. What is
answered about a session is nevertheless what would be answered if nobody asked for any other.

* `Lobby.Demand` lists what can be asked of a session, `Lobby.meet` answers it, and `Lobby.met`
  answers one demand after the other.
* `Lobby.AgreeOn`: two lobbies agree on a session. `meet_concur`: then they give the same answers to
  what is asked of it, and still agree.
* `meet_others`: what is asked of other sessions does not matter for it. Removals are the hard case:
  they take away names, but no name is issued twice.
* `sessions_are_isolated`: so the demands on a session can be told apart from a whole run.
-/

namespace Playfield

variable {K τ α β : Type}

namespace Lobby

/-! ### Demands -/

/-- What can be asked of a session. -/
inductive Demand (K : Type) where
  | call (c : Call K)
  | authorize (session token : String)
  | state (session : String) (v : Viewer)
  | picture (session : String) (v : Viewer)
  | tools (session : String) (v : Viewer)
  | remove (session : String) (v : Viewer)

/-- The session of which it is asked. -/
def Demand.session : Demand K → String
  | call c => c.session
  | authorize session _ | state session _ | picture session _ => session
  | tools session _ | remove session _ => session

/-- What is answered if all is well. -/
inductive Answer (K : Type) where
  | joined (j : JoinedRole)
  | status (s : Status)
  | pace (p : Pace K)
  | submitted (s : Submitted K)
  | passed (r : PassReport K)
  | viewer (v : Viewer)
  | state (s : StateView K)
  | picture (p : Picture K)
  | tools (ts : List (Tool K))
  | removed

/-- The reply with its answer in another form. -/
def Reply.map (reply : Reply K τ α) (f : α → β) : Reply K τ β := (reply.1.map f, reply.2)

variable [Scalar K]

/-- Carries out a call and answers it in full. -/
def meetCall (l : Lobby K τ) : Call K → Reply K τ (Answer K)
  | .join session invite => (l.join session invite).map .joined
  | .start session v => (l.start session v).map .status
  | .stop session v => (l.stop session v).map .status
  | .updatePace session v u => (l.updatePace session v u).map .pace
  | .submit session v commands pass => (l.submit session v commands pass).map .submitted
  | .advanceClock session elapsed => (l.advanceClock session elapsed).map .passed
  | .tick session v => (l.tick session v).map .passed

/-- Does what is asked. -/
def meet (l : Lobby K τ) : Demand K → Reply K τ (Answer K)
  | .call c => l.meetCall c
  | .authorize session token => ((l.authorize session token).map .viewer, l)
  | .state session v => ((l.state session v).map .state, l)
  | .picture session v => ((l.picture session v).map .picture, l)
  | .tools session v => ((l.tools session v).map .tools, l)
  | .remove session v => (l.remove session v).map fun _ => .removed

/-- The answers to one demand after the other, each with the session of which it was asked, and the
lobby that is left. -/
def met : Lobby K τ → List (Demand K) →
    List (String × Except SessionError (Answer K)) × Lobby K τ
  | l, [] => ([], l)
  | l, d :: ds => ((d.session, (l.meet d).1) :: (met (l.meet d).2 ds).1, (met (l.meet d).2 ds).2)

theorem meet_call (l : Lobby K τ) (c : Call K) : (l.meet (.call c)).2 = (l.call c).2 := by
  cases c <;> rfl

/-! ### Agreement -/

/-- Two lobbies agree on a session: it is the same in both, and so are the ways into it and what the
store keeps of it. -/
structure AgreeOn (id : String) (l l' : Lobby K τ) : Prop where
  game : l'.game = l.game
  limits : l'.limits = l.limits
  rooms : l'.rooms.get? id = l.rooms.get? id
  tokens : ∀ n v, l'.tokens.get? n = some ⟨id, v⟩ ↔ l.tokens.get? n = some ⟨id, v⟩
  invites : ∀ n role, l'.invites.get? n = some ⟨id, role⟩ ↔ l.invites.get? n = some ⟨id, role⟩
  events : l'.store.eventsOf id = l.store.eventsOf id
  fault : l'.store.fault = l.store.fault

/-- The same is answered, and the lobbies that are left agree on the session. -/
def Concur (id : String) (reply reply' : Reply K τ α) : Prop :=
  reply'.1 = reply.1 ∧ AgreeOn id reply.2 reply'.2

variable {l l' l'' : Lobby K τ} {id : String} {r : Room K τ} {v : Viewer}

namespace AgreeOn

omit [Scalar K]

theorem refl (id : String) (l : Lobby K τ) : AgreeOn id l l :=
  ⟨rfl, rfl, rfl, fun _ _ => .rfl, fun _ _ => .rfl, rfl, rfl⟩

theorem symm (agree : AgreeOn id l l') : AgreeOn id l' l where
  game := agree.game.symm
  limits := agree.limits.symm
  rooms := agree.rooms.symm
  tokens n v := (agree.tokens n v).symm
  invites n role := (agree.invites n role).symm
  events := agree.events.symm
  fault := agree.fault.symm

theorem trans (one : AgreeOn id l l') (two : AgreeOn id l' l'') : AgreeOn id l l'' where
  game := two.game.trans one.game
  limits := two.limits.trans one.limits
  rooms := two.rooms.trans one.rooms
  tokens n v := (two.tokens n v).trans (one.tokens n v)
  invites n role := (two.invites n role).trans (one.invites n role)
  events := two.events.trans one.events
  fault := two.fault.trans one.fault

variable (agree : AgreeOn id l l')
include agree

theorem room_eq : l'.room id = l.room id := by rw [room, room, agree.rooms]

theorem adminRoom_eq : l'.adminRoom id v = l.adminRoom id v := by
  rw [adminRoom, adminRoom, agree.room_eq]

theorem contains_eq : l'.rooms.contains id = l.rooms.contains id := by
  rw [Table.contains, Table.contains, agree.rooms]

theorem invited_eq {invite : String} : l'.invited id r invite = l.invited id r invite := by
  by_cases known : ∃ role, l.invites.get? invite = some ⟨id, role⟩
  · obtain ⟨role, known⟩ := known
    rw [invited, invited, known, (agree.invites invite role).2 known]
  · -- An invite that is known for another session only is refused like one that is not known.
    have refused {m : Lobby K τ} (unknown : ¬∃ role, m.invites.get? invite = some ⟨id, role⟩) :
        m.invited id r invite = .error .unauthorized := by
      cases invited : m.invited id r invite with
      | error e => rw [invited_error invited]
      | ok j => exact absurd ⟨_, (invited_ok invited).1⟩ unknown
    rw [refused known, refused (by simpa only [agree.invites] using known)]

theorem authorize_eq {token : String} : l'.authorize id token = l.authorize id token := by
  cases there : l.rooms.contains id with
  | false => rw [authorize_of_absent there, authorize_of_absent (agree.contains_eq.trans there)]
  | true =>
    have there' := agree.contains_eq.trans there
    by_cases known : ∃ v, l.Knows id token (.access v)
    · obtain ⟨v, known⟩ := known
      rw [(authorize_iff there).2 known, (authorize_iff there').2 ((agree.tokens token v).2 known)]
    · rw [not_exists] at known
      rw [authorize_of_unknown there known,
        authorize_of_unknown there' fun v h => known v ((agree.tokens token v).1 h)]

theorem setRoom (r : Room K τ) : AgreeOn id (l.setRoom id r) (l'.setRoom id r) where
  game := agree.game
  limits := agree.limits
  rooms := by rw [get?_setRoom, get?_setRoom]
  tokens := agree.tokens
  invites := agree.invites
  events := agree.events
  fault := agree.fault

theorem state_eq : l'.state id v = l.state id v := by rw [state, state, agree.room_eq]

theorem tools_eq : l'.tools id v = l.tools id v := by
  rw [tools, tools, agree.room_eq, agree.game]

theorem queueFor_eq {role : String} {commands : List (Command K)} :
    l'.queueFor id role commands = l.queueFor id role commands := by
  rw [queueFor, queueFor, agree.room_eq, agree.limits]

theorem revoke (r : Room K τ) : AgreeOn id (l.revoke id r) (l'.revoke id r) where
  game := agree.game
  limits := agree.limits
  rooms := by
    have gone (m : Lobby K τ) : (m.revoke id r).rooms.get? id = none :=
      Option.eq_none_iff_forall_ne_some.2 fun r' there =>
        (Table.get?_erase_eq_some_iff.1 there).1 rfl
    rw [gone, gone]
  tokens n v := by
    unfold Lobby.revoke
    rw [Table.get?_eraseAll_eq_some_iff, Table.get?_eraseAll_eq_some_iff, agree.tokens]
  invites n role := by
    unfold Lobby.revoke
    rw [Table.get?_eraseAll_eq_some_iff, Table.get?_eraseAll_eq_some_iff, agree.invites]
  events := agree.events
  fault := agree.fault

end AgreeOn

/-! ### What is asked of the session -/

section Concur

omit [Scalar K] in
theorem Concur.same (agree : AgreeOn id l l') (answer : Except SessionError α) :
    Concur id (answer, l) (answer, l') :=
  ⟨rfl, agree⟩

omit [Scalar K] in
theorem Concur.map {reply reply' : Reply K τ α} (concur : Concur id reply reply') (f : α → β) :
    Concur id (reply.map f) (reply'.map f) :=
  ⟨congrArg (·.map f) concur.1, concur.2⟩

variable (agree : AgreeOn id l l')
include agree

theorem picture_eq : l'.picture id v = l.picture id v := by rw [picture, picture, agree.room_eq]

/-- An event gets the same number in both stores. -/
theorem record_concur (e : SessionEvent K) (answer : α) :
    Concur id (l.record id e answer) (l'.record id e answer) := by
  have refuses : l'.store.refuses e.type = l.store.refuses e.type := by
    rw [Store.refuses, Store.refuses, agree.fault]
  rw [record, record, Store.append_eq, Store.append_eq, refuses]
  split_ifs with refused
  · exact .same agree _
  · refine ⟨rfl, ?_⟩
    have events : (l'.store.file id e).eventsOf id = (l.store.file id e).eventsOf id := by
      rw [Store.eventsOf_file, Store.eventsOf_file, agree.events]
    exact ⟨agree.game, agree.limits, agree.rooms, agree.tokens, agree.invites, events, agree.fault⟩

theorem recordPass_concur (r : Room K τ)
    (outcome : Except RuleError (PassReport K) × Session K τ) :
    Concur id (l.recordPass id r outcome) (l'.recordPass id r outcome) := by
  unfold recordPass
  have placed := agree.setRoom { r with session := outcome.2 }
  dsimp only
  split
  · exact .same placed _
  · exact record_concur placed _ _

theorem join_concur (invite : String) : Concur id (l.join id invite) (l'.join id invite) := by
  unfold join
  rw [agree.room_eq]
  cases l.room id with
  | error e => exact .same agree _
  | ok r =>
    dsimp only
    rw [agree.invited_eq]
    cases l.invited id r invite with
    | error e => exact .same agree _
    | ok j =>
      dsimp only
      split
      · exact .same agree _
      · exact record_concur (agree.setRoom _) _ _

theorem start_concur (v : Viewer) : Concur id (l.start id v) (l'.start id v) := by
  unfold start
  rw [agree.adminRoom_eq]
  cases l.adminRoom id v with
  | error e => exact .same agree _
  | ok r =>
    dsimp only
    split
    · exact .same agree _
    · exact record_concur (agree.setRoom _) _ _

theorem stop_concur (v : Viewer) : Concur id (l.stop id v) (l'.stop id v) := by
  unfold stop
  rw [agree.adminRoom_eq]
  cases l.adminRoom id v with
  | error e => exact .same agree _
  | ok r => exact record_concur (agree.setRoom _) _ _

theorem updatePace_concur (v : Viewer) (u : PaceUpdate K) :
    Concur id (l.updatePace id v u) (l'.updatePace id v u) := by
  unfold updatePace
  rw [agree.adminRoom_eq]
  cases l.adminRoom id v with
  | error e => exact .same agree _
  | ok r =>
    dsimp only
    cases u.apply r.session.simulation.pace with
    | error e => exact .same agree _
    | ok pace => exact record_concur (agree.setRoom _) _ _

theorem tick_concur (v : Viewer) : Concur id (l.tick id v) (l'.tick id v) := by
  unfold tick
  rw [agree.adminRoom_eq]
  cases l.adminRoom id v with
  | error e => exact .same agree _
  | ok r => exact recordPass_concur agree _ _

theorem advanceClock_concur (elapsed : K) :
    Concur id (l.advanceClock id elapsed) (l'.advanceClock id elapsed) := by
  unfold advanceClock
  rw [agree.room_eq]
  cases l.room id with
  | error e => exact .same agree _
  | ok r =>
    dsimp only
    split
    · split
      · exact .same (agree.setRoom _) _
      · exact recordPass_concur agree _ _
    · exact .same agree _

/-- What the role is shown after its commands were taken is read off lobbies that agree. -/
theorem shown_concur (done : Except SessionError Unit) :
    Concur id
      ((do
        let _ ← done
        return ⟨← l.picture id v, ← l.state id v⟩ : Except SessionError (Submitted K)), l)
      ((do
        let _ ← done
        return ⟨← l'.picture id v, ← l'.state id v⟩ : Except SessionError (Submitted K)), l') := by
  rw [picture_eq agree, agree.state_eq]
  exact .same agree _

theorem submit_concur (v : Viewer) (commands : List (Command K)) (pass : Bool) :
    Concur id (l.submit id v commands pass) (l'.submit id v commands pass) := by
  unfold submit
  cases v with
  | admin => exact .same agree _
  | role role =>
    dsimp only
    rw [agree.queueFor_eq]
    cases l.queueFor id role commands with
    | error e => exact .same agree _
    | ok r =>
      cases pass with
      | false => exact shown_concur (agree.setRoom r) (.ok ())
      | true =>
        -- What is shown is read off the lobby that the pass leaves, so that one must agree first.
        obtain ⟨answer, left⟩ := recordPass_concur agree r r.session.pass
        simp only [if_true]
        rw [answer]
        exact shown_concur left _

omit [Scalar K] in
theorem remove_concur (v : Viewer) : Concur id (l.remove id v) (l'.remove id v) := by
  unfold remove
  rw [agree.adminRoom_eq]
  cases l.adminRoom id v with
  | error e => exact .same agree _
  | ok r => exact .same (agree.revoke r) _

end Concur

/-- Lobbies that agree on a session answer the same to what is asked of it, and still agree. -/
theorem meet_concur {d : Demand K} (agree : AgreeOn d.session l l') :
    Concur d.session (l.meet d) (l'.meet d) := by
  cases d with
  | call c =>
    cases c with
    | join session invite => exact (join_concur agree invite).map _
    | start session v => exact (start_concur agree v).map _
    | stop session v => exact (stop_concur agree v).map _
    | updatePace session v u => exact (updatePace_concur agree v u).map _
    | submit session v commands pass => exact (submit_concur agree v commands pass).map _
    | advanceClock session elapsed => exact (advanceClock_concur agree elapsed).map _
    | tick session v => exact (tick_concur agree v).map _
  | authorize session token =>
    exact ⟨congrArg (Except.map Answer.viewer) agree.authorize_eq, agree⟩
  | state session v => exact ⟨congrArg (Except.map Answer.state) agree.state_eq, agree⟩
  | picture session v => exact ⟨congrArg (Except.map Answer.picture) (picture_eq agree), agree⟩
  | tools session v => exact ⟨congrArg (Except.map Answer.tools) agree.tools_eq, agree⟩
  | remove session v => exact (remove_concur agree v).map _

/-! ### What is asked of others -/

section Others

variable {issues : List Issue} {other : String}

omit [Scalar K] in
theorem Around.agreeOn (around : Around other l l') (ne : id ≠ other) : AgreeOn id l l' where
  game := around.game
  limits := around.limits
  rooms := around.others.rooms id ne
  tokens n v := by rw [around.tokens]
  invites n role := by rw [around.invites]
  events := around.others.events id ne
  fault := around.fault

omit [Scalar K] in
/-- With a session none of the names of another is forgotten. -/
theorem Credited.revoke_agreeOn (credited : l.Credited issues) (distinct : Issue.Distinct issues)
    (room : l.rooms.get? other = some r) (ne : id ≠ other) : AgreeOn id l (l.revoke other r) := by
  have knows (n : String) (p : Purpose) : (l.revoke other r).Knows id n p ↔ l.Knows id n p := by
    rw [(credited.revoke distinct room).knows, credited.knows]
    show (l.rooms.erase other).contains id = true ∧ _ ↔ _
    rw [Table.contains_erase, and_iff_right ne]
  refine ⟨rfl, rfl, ?_, fun n v => knows n (.access v), fun n role => knows n (.invitation role),
    rfl, rfl⟩
  refine Option.ext fun r' => ?_
  show (l.rooms.erase other).get? id = some r' ↔ _
  rw [Table.get?_erase_eq_some_iff, and_iff_right ne]

theorem meet_others (credited : l.Credited issues) (distinct : Issue.Distinct issues)
    {d : Demand K} (ne : d.session ≠ id) : AgreeOn id l (l.meet d).2 := by
  cases d with
  | call c =>
    rw [meet_call]
    exact (l.call_around c).agreeOn ne.symm
  | remove session v =>
    show AgreeOn id l (l.remove session v).2
    rcases l.remove_cases session v with ⟨e, refused⟩ | ⟨r, room, -, removed⟩
    · rw [refused]
      exact .refl id l
    · rw [removed]
      exact credited.revoke_agreeOn distinct room ne.symm
  | authorize session token => exact .refl id l
  | state session v => exact .refl id l
  | picture session v => exact .refl id l
  | tools session v => exact .refl id l

/-- Nothing that is asked of a session issues names. -/
theorem meet_credited (credited : l.Credited issues) (distinct : Issue.Distinct issues)
    (d : Demand K) : (l.meet d).2.Credited issues := by
  have operates (op : Operation K) (none : l.issue? op = none) :
      (l.operate op).Credited issues := by
    have later := operate_credited credited op
    rw [none, Option.toList_none, List.append_nil] at later
    exact later distinct
  cases d with
  | call c =>
    rw [meet_call]
    exact operates (.call c) rfl
  | remove session v => exact operates (.remove session v) rfl
  | authorize session token => exact credited
  | state session v => exact credited
  | picture session v => exact credited
  | tools session v => exact credited

/-- The answers about a session, and the session itself, are those of a lobby that agrees on it and
is asked of no other. -/
theorem met_filter (ds : List (Demand K)) (credited : l.Credited issues)
    (distinct : Issue.Distinct issues) (agree : AgreeOn id l l') :
    let own := l'.met (ds.filter (·.session == id))
    own.1 = (l.met ds).1.filter (·.1 == id) ∧ AgreeOn id (l.met ds).2 own.2 := by
  induction ds generalizing l l' with
  | nil => exact ⟨rfl, agree⟩
  | cons d ds ih =>
    have credited' := meet_credited credited distinct d
    by_cases own : d.session = id
    · subst own
      obtain ⟨answer, left⟩ := meet_concur agree
      obtain ⟨answers, last⟩ := ih credited' left
      rw [List.filter_cons_of_pos (by simp)]
      refine ⟨?_, last⟩
      rw [met, met, List.filter_cons_of_pos (by simp), answer, answers]
    · -- Only the lobby of the whole run goes on, to one that agrees with it on the session.
      obtain ⟨answers, last⟩ := ih credited' ((meet_others credited distinct own).symm.trans agree)
      rw [List.filter_cons_of_neg (by simpa using own)]
      refine ⟨?_, last⟩
      rw [met, List.filter_cons_of_neg (by simpa using own), answers]

end Others

/-- Whatever is asked of the sessions of a lobby, the answers about one of them, what becomes of it
and what the store keeps of it are those of the run in which only it is asked. The lobby has come
about by operations in which no name was issued twice. -/
theorem sessions_are_isolated {start : Lobby K τ} (vacant : start.Vacant) (ops : List (Operation K))
    (distinct : Issue.Distinct (start.issued ops)) (ds : List (Demand K)) (id : String) :
    let l := start.operated ops
    let own := l.met (ds.filter (·.session == id))
    (l.met ds).1.filter (·.1 == id) = own.1 ∧
      (l.met ds).2.rooms.get? id = own.2.rooms.get? id ∧
      (l.met ds).2.store.eventsOf id = own.2.store.eventsOf id := by
  intro l own
  have credited : l.Credited (start.issued ops) := credited_operated vacant.credited ops distinct
  obtain ⟨answers, agree⟩ := met_filter ds credited distinct (.refl id l)
  exact ⟨answers.symm, agree.rooms.symm, agree.events.symm⟩

namespace Gate

/-- Two sessions are opened. -/
def pair : List (Operation Rat) := [.create (fresh "x") {}, .create (fresh "y") {}]

/-- One is started and joined, while the other is ticked and removed. -/
def demands : List (Demand Rat) :=
  [.call (.start "x" .admin), .call (.tick "y" .admin), .remove "y" .admin,
    .call (.tick "y" .admin), .call (.join "x" "x invite a")]

end Gate

/-- A session does not notice that its neighbour goes. -/
theorem neighbour_goes_unnoticed :
    let l := (Gate.lobby none).operated Gate.pair
    Issue.Distinct ((Gate.lobby none).issued Gate.pair) ∧
      (l.met Gate.demands).1.filter (·.1 == "x") =
        (l.met [.call (.start "x" .admin), .call (.join "x" "x invite a")]).1 ∧
      (l.met Gate.demands).2.rooms.keys = ["x"] ∧ l.rooms.keys = ["x", "y"] := by
  have distinct : Issue.Distinct ((Gate.lobby none).issued Gate.pair) := by
    unfold Issue.Distinct
    decide +kernel
  obtain ⟨answers, -⟩ :=
    sessions_are_isolated (Gate.vacant none) Gate.pair distinct Gate.demands "x"
  have own : Gate.demands.filter (·.session == "x") =
      [.call (.start "x" .admin), .call (.join "x" "x invite a")] := by rfl
  rw [own] at answers
  exact ⟨distinct, answers, by decide +kernel, by decide +kernel⟩

end Lobby

end Playfield
