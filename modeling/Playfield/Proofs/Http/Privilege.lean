import Playfield.Proofs.Http.Rejection
import Playfield.Proofs.Lobby.Credentials

/-!
# Privileges

What a request from outside may change in a session depends on what it carries: the administrator's
token of the session, the token of a role, or an invite.

* `Request.session?` is the session that a request is about, `Request.credential?` the token that it
  resolves to there.
* `Lobby.Grounds`: the operations that a request can bring about, and what it must carry for each.
  `respond_operates`: it brings about one of them at most.
* `Credited.opens`: a viewer is let in with the token that the session has for it.
* `Room.Guarded`: what may have changed in a session after a request.
* `credited_visited`: in every lobby that comes about the names known are those of its sessions.
  So `privileges_are_separate`.
-/

namespace Playfield

variable {τ α : Type}

theorem exists_of_bind_ok {ε α β : Type} {x : Except ε α} {f : α → Except ε β} {b : β}
    (h : (x >>= f) = .ok b) : ∃ a, x = .ok a ∧ f a = .ok b := by
  cases x with
  | error e => cases h
  | ok a => exact ⟨a, rfl, h⟩

/-! ### What a request carries -/

namespace Request

/-- What the path of a request leads to. -/
def endpoint? (r : Request) : Option Endpoint := Endpoint.ofPath? r.target.path

/-- The session that a request is about. -/
def session? (r : Request) : Option String :=
  match r.endpoint? with
  | some (.session written _) | some (.join written) | some (.stream written) =>
    (sessionId written).toOption
  | some .sessions | some .limits | none => none

/-- The body, where the endpoint has one. -/
def bodyIf (r : Request) (hasBody : Bool) : Except RequestError (Option (Json Float)) :=
  if hasBody then r.json else .ok none

/-- The token that the headers, the query or the body resolve to. -/
def tokenWith (r : Request) (hasBody : Bool) : Option String :=
  match r.token?, r.bodyIf hasBody with
  | .ok query, .ok body => (Token.resolve r.headers query body).toOption
  | _, _ => none

/-- The token that a request resolves to, where one is looked for. -/
def credential? (r : Request) : Option String :=
  match r.endpoint? with
  | some (.session _ action) => r.tokenWith action.hasBody
  | some (.stream _) => r.tokenWith false
  | some .sessions => r.tokenWith true
  | some (.join _) | some .limits | none => none

/-- The invite of a request to join. -/
def invite? (r : Request) : Option String :=
  match r.endpoint? with
  | some (.join _) => r.invite.toOption
  | _ => none

end Request

namespace Lobby

/-- The viewer in whose name an operation is done. -/
def Operation.viewer? {K : Type} : Operation K → Option Viewer
  | .call c => c.viewer?
  | .remove _ v => some v
  | .create .. | .limit _ => none

/-- The session that an operation is about, if it is there before. -/
def Operation.session? {K : Type} : Operation K → Option String
  | .call c => some c.session
  | .remove session _ => some session
  | .create .. | .limit _ => none

/-- The operations that a request can bring about. -/
inductive Grounds (l : Lobby Float τ) (fresh : Fresh) (r : Request) : Operation Float → Prop
  | opening {o : SessionOptions Float} (endpoint : r.endpoint? = some .sessions) :
    Grounds l fresh r (.create fresh o)
  | limiting {limits : Limits} (endpoint : r.endpoint? = some .limits) :
    Grounds l fresh r (.limit limits)
  | joining {id invite : String} (session : r.session? = some id)
    (carried : r.invite? = some invite) : Grounds l fresh r (.call (.join id invite))
  /-- What is done in the name of a viewer is done for one who was let in. -/
  | acting {op : Operation Float} {id token : String} {v : Viewer}
    (session : r.session? = some id) (carried : r.credential? = some token)
    (granted : l.authorize id token = .ok v) (about : op.session? = some id)
    (viewer : op.viewer? = some v) : Grounds l fresh r op

/-- Nothing was done, or an operation for which the request gave grounds. -/
def Operates (l : Lobby Float τ) (fresh : Fresh) (r : Request) (l' : Lobby Float τ) : Prop :=
  l' = l ∨ ∃ op, l.Grounds fresh r op ∧ l' = l.operate op

section Operates

variable {l : Lobby Float τ} {fresh : Fresh} {r : Request} {a : Admission}

theorem operates_after {said : Except RequestError α} {go : α → Outcome τ}
    (gone : ∀ a, said = .ok a → l.Operates fresh r (go a).2) :
    l.Operates fresh r (l.after said go).2 := by
  unfold after
  cases said with
  | error e => exact .inl rfl
  | ok a => exact gone a rfl

/-- Finding out who sends a request, step by step. -/
theorem identify_eq (l : Lobby Float τ) (r : Request) (written : String) (hasBody : Bool) :
    l.identify r written hasBody = (do
      let session ← Request.sessionId written
      let query ← r.token?
      let body ← r.bodyIf hasBody
      match Token.resolve r.headers query body with
      | .error _ => .error (.session .unauthorized)
      | .ok token =>
        let viewer ← (l.authorize session token).mapError .session
        return { session, viewer, body }) := by
  cases hasBody <;> rfl

/-- A viewer who was identified was let in with the token of the request. -/
theorem identify_ok {written : String} {hasBody : Bool}
    (h : l.identify r written hasBody = .ok a) :
    Request.sessionId written = .ok a.session ∧ ∃ token, r.tokenWith hasBody = some token ∧
      l.authorize a.session token = .ok a.viewer := by
  rw [identify_eq] at h
  obtain ⟨session, id, h⟩ := exists_of_bind_ok h
  obtain ⟨query, asked, h⟩ := exists_of_bind_ok h
  obtain ⟨body, read, h⟩ := exists_of_bind_ok h
  rw [Request.tokenWith, asked, read]
  dsimp only
  cases resolved : Token.resolve r.headers query body with
  | error e =>
    rw [resolved] at h
    cases h
  | ok token =>
    rw [resolved] at h
    dsimp only at h
    cases granted : l.authorize session token with
    | error e =>
      rw [granted] at h
      cases h
    | ok v =>
      rw [granted] at h
      cases h
      exact ⟨id, token, rfl, granted⟩

/-- What a viewer asks of a session is done in the name of that viewer. -/
theorem perform_operates (l : Lobby Float τ) (a : Admission) (action : SessionAction) :
    (l.perform a action).2 = l ∨ ∃ op : Operation Float, (l.perform a action).2 = l.operate op ∧
      op.session? = some a.session ∧ op.viewer? = some a.viewer := by
  cases action with
  | start => exact .inr ⟨.call (.start a.session a.viewer), rfl, rfl, rfl⟩
  | stop => exact .inr ⟨.call (.stop a.session a.viewer), rfl, rfl, rfl⟩
  | pace =>
    unfold perform after
    dsimp only
    split
    · exact .inl rfl
    · rename_i u _
      exact .inr ⟨.call (.updatePace a.session a.viewer u), rfl, rfl, rfl⟩
  | commands =>
    unfold perform after
    dsimp only
    split
    · exact .inl rfl
    · rename_i batch _
      exact .inr ⟨.call (.submit a.session a.viewer batch.commands batch.pass), rfl, rfl, rfl⟩
  | frame => exact .inl rfl
  | state => exact .inl rfl
  | tools => exact .inl rfl
  | remove => exact .inr ⟨.remove a.session a.viewer, rfl, rfl, rfl⟩

theorem answerJoin_operates {written : String} (at_join : r.endpoint? = some (.join written)) :
    l.Operates fresh r (l.answerJoin r written).2 := by
  refine operates_after fun (session, invite) said => .inr ⟨.call (.join session invite), ?_, rfl⟩
  obtain ⟨id, named, said⟩ := exists_of_bind_ok said
  obtain ⟨carried, invited, said⟩ := exists_of_bind_ok said
  cases said
  refine .joining ?_ ?_
  · simp [Request.session?, at_join, named, Except.toOption]
  · simp [Request.invite?, at_join, invited, Except.toOption]

theorem answerLimits_operates (adminToken : Option String)
    (at_limits : r.endpoint? = some .limits) :
    l.Operates fresh r (l.answerLimits adminToken r).2 := by
  unfold answerLimits
  split
  · exact operates_after fun update _ =>
      .inr ⟨.limit (update.apply l.limits), .limiting at_limits, rfl⟩
  · exact .inl rfl

theorem serve_operates (adminToken : Option String) {e : Endpoint} (at_e : r.endpoint? = some e) :
    l.Operates fresh r (l.serve adminToken fresh r e).2 := by
  cases e with
  | sessions => exact operates_after fun o _ => .inr ⟨.create fresh o, .opening at_e, rfl⟩
  | session written action =>
    refine operates_after fun a admitted => ?_
    obtain ⟨id, token, carried, granted⟩ := identify_ok admitted
    rcases l.perform_operates a action with same | ⟨op, done, about, viewer⟩
    · exact .inl same
    · refine .inr ⟨op, .acting ?_ ?_ granted about viewer, done⟩
      · simp [Request.session?, at_e, id, Except.toOption]
      · simp [Request.credential?, at_e, carried]
  | join written => exact answerJoin_operates at_e
  | stream written => exact operates_after fun _ _ => .inl rfl
  | limits => exact answerLimits_operates adminToken at_e

/-- A request brings about nothing for which it gives no grounds. -/
theorem respond_operates (l : Lobby Float τ) (adminToken : Option String) (fresh : Fresh)
    (r : Request) : l.Operates fresh r (l.respond adminToken fresh r).2 := by
  show l.Operates fresh r (l.answer adminToken fresh r).2
  unfold answer
  split
  · exact .inl rfl
  · split
    · exact .inl rfl
    · rename_i e found
      split
      · exact .inl rfl
      · exact serve_operates adminToken found

end Operates

end Lobby

/-! ### What may change -/

section Guarded

variable {r : Request} {id token : String} {v : Viewer} {a b : Room Float τ}

/-- A token opens a room to a viewer. -/
def Room.Opens (a : Room Float τ) (token : String) : Viewer → Prop
  | .admin => token = a.adminToken
  | .role role => a.roleTokens.get? role = some token

/-- A request is about a session and carries what its room has for a purpose: the token of a viewer,
or the invite of a role. -/
def Request.Carries (r : Request) (id : String) (a : Room Float τ) : Purpose → Prop
  | .session => r.session? = some id
  | .access v => r.session? = some id ∧ ∃ token, r.credential? = some token ∧ a.Opens token v
  | .invitation role =>
    r.session? = some id ∧ ∃ invite, r.invite? = some invite ∧ a.invites.get? role = some invite

/-- A room before and after a request. Status and pace change by the administrator's token only, a
queue grows by the token of its role only, and a role joins by its invite only. In particular, the
administrator's token queues nothing. -/
structure Room.Guarded (r : Request) (id : String) (a b : Room Float τ) : Prop where
  status : b.status = a.status ∨ r.Carries id a (.access .admin)
  pace : b.session.simulation.pace = a.session.simulation.pace ∨ r.Carries id a (.access .admin)
  queues : Seat.FedBy (fun role => r.Carries id a (.access (.role role))) a.session.seats
    b.session.seats
  admin : r.Carries id a (.access .admin) →
    Seat.FedBy (fun _ => False) a.session.seats b.session.seats
  joined : ∀ role, b.joined.contains role = true →
    a.joined.contains role = true ∨ r.Carries id a (.invitation role)

theorem Room.Guarded.refl (r : Request) (id : String) (a : Room Float τ) : a.Guarded r id a :=
  ⟨.inl rfl, .inl rfl, .refl _ _, fun _ => .refl _ _, fun _ => .inl⟩

end Guarded

namespace Lobby

/-- A lobby before and after a request. A session is gone only if the request carries its
administrator's token, and is new only if the request asked for it; those that were there have
changed as they may, and if the request is about one of them, then no other has changed. -/
structure Guarded (fresh : Fresh) (r : Request) (l l' : Lobby Float τ) : Prop where
  gone : ∀ id a, l.rooms.get? id = some a → l'.rooms.get? id = none →
    r.Carries id a (.access .admin)
  new : ∀ id b, l.rooms.get? id = none → l'.rooms.get? id = some b →
    r.endpoint? = some .sessions ∧ id = fresh.session
  changed : ∀ id a b, l.rooms.get? id = some a → l'.rooms.get? id = some b → a.Guarded r id b
  others : ∀ id, r.session? = some id → OnlyAt id l l'

section Guarded

open Issue

variable {l : Lobby Float τ} {fresh : Fresh} {r : Request} {issues : List Issue}
  {op : Operation Float} {id token : String} {v : Viewer} {a b : Room Float τ}

/-- A viewer is let in with the token that the session has for it. -/
theorem Credited.opens (credited : l.Credited issues) (room : l.rooms.get? id = some a)
    (granted : l.authorize id token = .ok v) : a.Opens token v := by
  rw [authorize_iff (contains_of_get? room)] at granted
  obtain ⟨-, i, mem, session, named⟩ := (credited.knows id token _).1 granted
  have holds := credited.holds id a room i mem session
  cases v with
  | admin => exact holds.admin_iff.2 named
  | role role => exact holds.token_iff.2 named

/-- No token opens a room to two viewers. -/
theorem Credited.opens_unique (credited : l.Credited issues) (distinct : Distinct issues)
    (room : l.rooms.get? id = some a) {w : Viewer} (one : a.Opens token v) (two : a.Opens token w) :
    v = w := by
  obtain ⟨i, mem, -, holds⟩ := credited.issue room
  have named {u : Viewer} (opens : a.Opens token u) : (token, .access u) ∈ i.names := by
    cases u with
    | admin => exact holds.admin_iff.1 opens
    | role role => exact holds.token_iff.1 opens
  exact Purpose.access.inj (distinct.eq mem mem (named one) (named two)).2

/-- A request in whose name something is done carries the token for it. -/
theorem Grounds.carries (grounds : l.Grounds fresh r op) (credited : l.Credited issues)
    (room : l.rooms.get? id = some a) (about : op.session? = some id)
    (viewer : op.viewer? = some v) : r.Carries id a (.access v) := by
  cases grounds with
  | opening => cases about
  | limiting => cases about
  | joining => cases viewer
  | acting session carried granted about' viewer' =>
    obtain rfl := Option.some.inj (about.symm.trans about')
    obtain rfl := Option.some.inj (viewer.symm.trans viewer')
    exact ⟨session, _, carried, credited.opens room granted⟩

/-- A request by which a role joins carries its invite. -/
theorem Grounds.invited {invite role : String}
    (grounds : l.Grounds fresh r (.call (.join id invite))) (credited : l.Credited issues)
    (room : l.rooms.get? id = some a) (known : l.invites.get? invite = some ⟨id, role⟩) :
    r.Carries id a (.invitation role) := by
  cases grounds with
  | joining session carried =>
    obtain ⟨-, i, mem, same, named⟩ := (credited.knows id invite (.invitation role)).1 known
    exact ⟨session, invite, carried, (credited.holds id a room i mem same).invite_iff.2 named⟩
  | acting session carried granted about viewer => cases viewer

/-- What a call may change is what the request for it may change. -/
theorem Grounds.guarded_of_led {c : Call Float} (grounds : l.Grounds fresh r (.call c))
    (credited : l.Credited issues) (distinct : Distinct issues)
    (room : l.rooms.get? c.session = some a) (led : a.Led l.invites c b) :
    a.Guarded r c.session b := by
  have carries {v : Viewer} (viewer : c.viewer? = some v) : r.Carries c.session a (.access v) :=
    grounds.carries credited room rfl viewer
  refine ⟨led.status.imp_right carries, led.pace.imp_right carries,
    led.seats.mono fun _ => carries, fun admin => led.seats.mono fun role viewer => ?_,
    fun role now => ?_⟩
  · -- The token would be that of the administrator and that of a role.
    obtain ⟨-, token, carried, opens⟩ := admin
    obtain ⟨-, token', carried', opens'⟩ := carries viewer
    obtain rfl := Option.some.inj (carried.symm.trans carried')
    cases credited.opens_unique distinct room opens opens'
  · rcases led.joined role now with before | ⟨invite, call, known⟩
    · exact .inl before
    · rw [call] at grounds
      exact .inr (grounds.invited credited room known)

theorem Grounds.session?_eq (grounds : l.Grounds fresh r op) (about : op.session? = some id) :
    r.session? = some id := by
  cases grounds with
  | opening => cases about
  | limiting => cases about
  | joining session => rw [session, ← about]; rfl
  | acting session carried granted about' => rw [session, ← about', about]

/-- Where the sessions are the same, there was nothing to be guarded. -/
theorem guarded_same {l' : Lobby Float τ} (rooms : l'.rooms = l.rooms)
    (others : ∀ id, r.session? = some id → OnlyAt id l l') : l.Guarded fresh r l' where
  gone id a there gone := by
    rw [rooms, there] at gone
    cases gone
  new id b absent there := by
    rw [rooms, absent] at there
    cases there
  changed id a b before after := by
    rw [rooms, before] at after
    cases after
    exact .refl ..
  others := others

theorem Grounds.guarded_call {c : Call Float} (grounds : l.Grounds fresh r (.call c))
    (credited : l.Credited issues) (distinct : Distinct issues) :
    l.Guarded fresh r (l.call c).2 := by
  have others (id : String) (about : r.session? = some id) : OnlyAt id l (l.call c).2 := by
    obtain rfl := Option.some.inj ((grounds.session?_eq rfl).symm.trans about)
    exact l.call_other c
  have moved := l.call_moved c
  generalize (l.call c).2 = l' at moved others
  cases moved with
  | same => exact guarded_same rfl others
  | @led before after store room led =>
    have here : (l.setRoom c.session after).rooms.get? c.session = some after := get?_setRoom
    have there {id : String} (other : id ≠ c.session) :
        (l.setRoom c.session after).rooms.get? id = l.rooms.get? id := get?_setRoom_of_ne other
    refine ⟨fun id a was gone => ?_, fun id b absent now => ?_, fun id a b was now => ?_, others⟩
    · by_cases same : id = c.session
      · subst same
        cases here.symm.trans gone
      · cases was.symm.trans ((there same).symm.trans gone)
    · by_cases same : id = c.session
      · subst same
        cases room.symm.trans absent
      · cases absent.symm.trans ((there same).symm.trans now)
    · by_cases same : id = c.session
      · subst same
        obtain rfl := Option.some.inj (room.symm.trans was)
        obtain rfl := Option.some.inj (here.symm.trans now)
        exact grounds.guarded_of_led credited distinct room led
      · obtain rfl := Option.some.inj (was.symm.trans ((there same).symm.trans now))
        exact .refl ..

theorem Grounds.guarded_remove {session : String} {v : Viewer}
    (grounds : l.Grounds fresh r (.remove session v)) (credited : l.Credited issues) :
    l.Guarded fresh r (l.remove session v).2 := by
  have about : r.session? = some session := grounds.session?_eq rfl
  rcases l.remove_cases session v with ⟨e, refused⟩ | ⟨b, room, admin, removed⟩
  · rw [refused]
    exact guarded_same rfl fun _ _ => ⟨fun _ _ => rfl, fun _ _ => rfl⟩
  · rw [removed]
    have left {id : String} {a : Room Float τ} :
        (l.revoke session b).rooms.get? id = some a ↔ id ≠ session ∧ l.rooms.get? id = some a :=
      Table.get?_erase_eq_some_iff
    refine ⟨fun id a was gone => ?_, fun id c absent now => ?_, fun id a c was now => ?_,
      fun id about' => ⟨fun other apart => Option.ext fun a => ?_, fun _ _ => rfl⟩⟩
    · by_cases same : id = session
      · -- Only the administrator removes a session, and the request carries the token for it.
        subst same
        subst admin
        exact grounds.carries credited was rfl rfl
      · cases gone.symm.trans (left.2 ⟨same, was⟩)
    · cases absent.symm.trans (left.1 now).2
    · obtain rfl := Option.some.inj (was.symm.trans (left.1 now).2)
      exact .refl ..
    · obtain rfl := Option.some.inj (about.symm.trans about')
      exact left.trans (and_iff_right apart)

theorem guarded_create (endpoint : r.endpoint? = some .sessions) (o : SessionOptions Float) :
    l.Guarded fresh r (l.create fresh o).2 := by
  have others (id : String) (about : r.session? = some id) :
      OnlyAt id l (l.create fresh o).2 := by
    simp [Request.session?, endpoint] at about
  rcases l.create_admits fresh o with ⟨-, same, -⟩ | ⟨i, b, -, -, -, absent, same, -⟩
  · exact guarded_same same.rooms others
  · have added (id : String) : (l.create fresh o).2.rooms.get? id =
        if id == fresh.session then some b else l.rooms.get? id := by
      rw [same.rooms]
      exact Table.get?_insert ..
    have taken {id : String} {a : Room Float τ} (room : l.rooms.get? id = some a) :
        (id == fresh.session) = false := by
      refine beq_eq_false_iff_ne.2 fun clash => ?_
      rw [← clash, contains_of_get? room] at absent
      cases absent
    refine ⟨fun id a was gone => ?_, fun id c before now => ⟨endpoint, ?_⟩,
      fun id a c was now => ?_, others⟩
    · rw [added, taken was, was] at gone
      cases gone
    · by_contra other
      rw [added, beq_eq_false_iff_ne.2 other, before] at now
      cases now
    · rw [added, taken was, was] at now
      cases now
      exact .refl ..

/-- A request changes nothing for which it gives no grounds. -/
theorem Operates.guarded {l' : Lobby Float τ} (operates : l.Operates fresh r l')
    (credited : l.Credited issues) (distinct : Distinct issues) : l.Guarded fresh r l' := by
  have nothing {l' : Lobby Float τ} (rooms : l'.rooms = l.rooms) (store : l'.store = l.store) :
      l.Guarded fresh r l' :=
    guarded_same rooms fun _ _ => ⟨fun _ _ => by rw [rooms], fun _ _ => by rw [store]⟩
  rcases operates with rfl | ⟨op, grounds, rfl⟩
  · exact nothing rfl rfl
  · cases op with
    | create fresh' o =>
      cases grounds with
      | opening endpoint => exact guarded_create endpoint o
      | acting session carried granted about => cases about
    | call c => exact grounds.guarded_call credited distinct
    | remove session v => exact grounds.guarded_remove credited
    | limit limits => exact nothing rfl rfl

end Guarded

/-! ### Lobbies that come about -/

/-- What is drawn for a visit: names for a session with all roles of the scene, in case that the
visit opens one. -/
def Visit.drawn? (scene : Scene Float) : Visit → Option Issue
  | .request fresh _ => some ⟨fresh, scene.roles.map (·.id)⟩
  | .call _ => none

section Visited

open Issue

variable {l start : Lobby Float τ} {issues : List Issue}

/-- An operation issues some of the names that were drawn for it. -/
theorem issue?_drawn {op : Operation Float} {i : Issue} (h : l.issue? op = some i) :
    ∃ o, op = .create i.fresh o ∧ i.roles.Sublist (l.game.scene.roles.map (·.id)) := by
  cases op with
  | create fresh o =>
    rw [issue?] at h
    split at h
    · cases h
    · split at h
      · cases planned : l.plan o with
        | error e =>
          rw [planned] at h
          cases h
        | ok p =>
          rw [planned] at h
          cases h
          refine ⟨o, rfl, ?_⟩
          show (p.roles.map (·.id)).Sublist _
          rw [← roles_of_plan planned]
          exact List.filter_sublist.map _
      · cases h
  | call c => cases h
  | remove session v => cases h
  | limit limits => cases h

/-- The names known after a visit are some of those drawn till then. -/
theorem credited_visit {scene : Scene Float} {drawn : List Issue} {adminToken : Option String}
    (v : Visit) (of_scene : l.game.scene = scene) (credited : l.Credited issues)
    (sub : (issues.flatMap names).Sublist (drawn.flatMap names))
    (distinct : Distinct (drawn ++ (v.drawn? scene).toList)) :
    ∃ issues', (l.visit adminToken v).Credited issues' ∧
      (issues'.flatMap names).Sublist ((drawn ++ (v.drawn? scene).toList).flatMap names) ∧
      (l.visit adminToken v).game = l.game := by
  have more : (issues.flatMap names).Sublist
      ((drawn ++ (v.drawn? scene).toList).flatMap names) := by
    rw [List.flatMap_append]
    exact sub.trans (List.sublist_append_left _ _)
  cases v with
  | call c => exact ⟨issues, credited.moved (l.call_moved c), more, (l.call_atomic c).game⟩
  | request fresh r =>
    rcases l.respond_operates adminToken fresh r with same | ⟨op, grounds, left⟩
    · refine ⟨issues, ?_, more, ?_⟩
      · rw [visit, same]
        exact credited
      · rw [visit, same]
    · have step := operate_credited credited op
      have game := l.operate_game op
      rw [visit, left]
      cases new : l.issue? op with
      | none =>
        rw [new, Option.toList_none, List.append_nil] at step
        exact ⟨issues, step ((distinct_append.1 distinct).1.of_sublist sub), more, game⟩
      | some i =>
        rw [new, Option.toList_some] at step
        obtain ⟨o, rfl, roles⟩ := issue?_drawn new
        have own : i.fresh = fresh := by
          cases grounds with
          | opening => rfl
          | acting session carried granted about => cases about
        have added : ((issues ++ [i]).flatMap names).Sublist
            ((drawn ++ [Issue.mk fresh (scene.roles.map (·.id))]).flatMap names) := by
          rw [List.flatMap_append, List.flatMap_append, List.flatMap_singleton,
            List.flatMap_singleton, ← own, ← of_scene]
          exact sub.append (names_sublist roles)
        exact ⟨issues ++ [i], step (Distinct.of_sublist distinct added), added, game⟩

/-- In every lobby that comes about, the names known are those of its sessions. -/
theorem credited_visited (vacant : start.Vacant) (adminToken : Option String)
    (visits : List Visit) (distinct : Distinct (visits.filterMap (·.drawn? start.game.scene))) :
    ∃ issues, (start.visited adminToken visits).Credited issues ∧ Distinct issues := by
  suffices ∃ issues, (start.visited adminToken visits).Credited issues ∧
      (issues.flatMap names).Sublist
        ((visits.filterMap (·.drawn? start.game.scene)).flatMap names) ∧
      (start.visited adminToken visits).game = start.game by
    obtain ⟨issues, credited, sub, -⟩ := this
    exact ⟨issues, credited, distinct.of_sublist sub⟩
  induction visits using List.reverseRecOn with
  | nil => exact ⟨[], vacant.credited, .refl _, rfl⟩
  | append_singleton visits v ih =>
    have last : start.visited adminToken (visits ++ [v]) =
        (start.visited adminToken visits).visit adminToken v := List.foldl_concat ..
    have drawn : (visits ++ [v]).filterMap (·.drawn? start.game.scene) =
        visits.filterMap (·.drawn? start.game.scene) ++ (v.drawn? start.game.scene).toList := by
      rw [List.filterMap_append]
      cases v <;> rfl
    rw [drawn] at distinct ⊢
    obtain ⟨issues, credited, sub, game⟩ := ih (distinct_append.1 distinct).1
    obtain ⟨issues', credited', sub', game'⟩ :=
      credited_visit v (congrArg (·.scene) game) credited sub distinct
    rw [last]
    exact ⟨issues', credited', sub', game'.trans game⟩

/-- In every lobby that comes about from one without sessions, if the names drawn are distinct, a
request changes of a session what it may by the token or the invite that it carries. -/
theorem privileges_are_separate (vacant : start.Vacant) (adminToken : Option String)
    (visits : List Visit) (distinct : Distinct (visits.filterMap (·.drawn? start.game.scene)))
    (fresh : Fresh) (r : Request) :
    let l := start.visited adminToken visits
    l.Guarded fresh r (l.respond adminToken fresh r).2 := by
  intro l
  obtain ⟨issues, credited, apart⟩ := credited_visited vacant adminToken visits distinct
  exact (l.respond_operates adminToken fresh r).guarded credited apart

/-! ### A session is removed -/

namespace Farewell

/-- A lobby without sessions, of a scene with one role. -/
def lobby : Lobby Float Empty :=
  { game :=
      { scene := { Scene.default with
          roles := [{ id := "a", kind := .human, required := true, camera := none, ui := none
                      serverFields := ∅, localFields := ∅ }] }
        registry := { resume := fun t => nomatch t } } }

/-- Two sessions are opened. -/
def visits : List Visit :=
  [.request (Gate.fresh "x") Twins.opening, .request (Gate.fresh "y") Twins.opening]

/-- A request to remove the first of them. -/
def removal (token : String) : Request :=
  { method := .delete
    target := { path := ["", "api", "sessions", "x"], query := [("token", token)] } }

/-- The lobby after such a request. -/
def left (token : String) : Lobby Float Empty :=
  ((lobby.visited none visits).respond none (Gate.fresh "z") (removal token)).2

end Farewell

/-- A session is removed with its own key, not with that of another one. -/
theorem own_key_removes :
    Distinct (Farewell.visits.filterMap (·.drawn? Farewell.lobby.game.scene)) ∧
      (Farewell.left "x key").rooms.contains "x" = false ∧
      (Farewell.left "x key").rooms.contains "y" = true ∧
      (Farewell.left "y key").rooms.contains "x" = true ∧
      (Farewell.lobby.visited none Farewell.visits).Guarded (Gate.fresh "z")
        (Farewell.removal "x key") (Farewell.left "x key") := by
  have distinct : Distinct (Farewell.visits.filterMap (·.drawn? Farewell.lobby.game.scene)) := by
    unfold Distinct
    decide +kernel
  have runs : (Farewell.left "x key").rooms.contains "x" = false ∧
      (Farewell.left "x key").rooms.contains "y" = true ∧
      (Farewell.left "y key").rooms.contains "x" = true := by
    decide +kernel
  obtain ⟨gone, stays, kept⟩ := runs
  exact ⟨distinct, gone, stays, kept, privileges_are_separate ⟨rfl, rfl, rfl⟩ none Farewell.visits
    distinct (Gate.fresh "z") (Farewell.removal "x key")⟩

end Visited

end Lobby

end Playfield
