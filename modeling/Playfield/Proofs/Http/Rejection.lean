import Playfield.Http.Answer
import Playfield.Proofs.Lobby.Refusal

/-!
# Rejected requests

A client whose request is rejected has changed nothing: whatever is answered with a status from 400
to 499 leaves the lobby as it was.

* `Lobby.Answered` says so of an outcome, of which the client is told only later.
* `perform_answered`, `serve_answered`, `answer_answered`: it holds of what a viewer asks of a
  session, of every endpoint and of every request.
* `respond_spec` puts it in terms of the response.
* `Lobby.visited` is a lobby after requests and calls; `game_visited`: it has the game it began
  with. So `rejection_changes_nothing` holds of every lobby that comes about.
-/

namespace Playfield

variable {τ α : Type}

/-- Only an internal failure is told as one of the server. -/
theorem SessionError.Kind.ne_internal_of_status {k : SessionError.Kind} (h : k.status < 500) :
    k ≠ .internal := by
  rintro rfl
  exact absurd h (by decide)

theorem good_ofJson (body : Json Float) : (Response.ofJson body).status < 400 :=
  (by decide : 200 < 400)

namespace Lobby

/-- The game is the same after an answer. Good news has a status below 400, and a refusal that is
not the fault of the server leaves the whole lobby as it was. -/
structure Answered (l : Lobby Float τ) (o : Outcome τ) : Prop where
  game : o.2.game = l.game
  good : ∀ response, o.1 = .ok response → response.status < 400
  refused : ∀ e, o.1 = .error e → e.status < 500 → o.2 = l

variable {l : Lobby Float τ}

theorem answered_error (e : RequestError) : l.Answered (.error e, l) :=
  ⟨rfl, nofun, fun _ _ _ => rfl⟩

theorem answered_good {l' : Lobby Float τ} {response : Response} (game : l'.game = l.game)
    (good : response.status < 400) : l.Answered (.ok response, l') := by
  refine ⟨game, fun _ same => ?_, nofun⟩
  cases same
  exact good

/-- A client is told of a reply that is all or nothing. -/
theorem Atomic.answered {reply : Reply Float τ α} (atomic : l.Atomic reply) {tell : α → Response}
    (good : ∀ a, (tell a).status < 400) : l.Answered (Reply.tell reply tell) := by
  obtain ⟨answer, l'⟩ := reply
  cases answer with
  | ok a => exact answered_good atomic.game (good a)
  | error e =>
    refine ⟨atomic.game, nofun, fun told same status => ?_⟩
    cases same
    exact atomic.refused e rfl (SessionError.Kind.ne_internal_of_status status)

/-- A question changes nothing. -/
theorem answered_question (answer : Except SessionError α) (tell : α → Json Float) :
    l.Answered (l.tell answer tell) := by
  show l.Answered (Reply.tell (answer, l) fun a => .ofJson (tell a))
  exact (atomic_same answer).answered fun _ => good_ofJson _

/-- What a request says is read before anything changes. -/
theorem answered_after {said : Except RequestError α} {go : α → Outcome τ}
    (gone : ∀ a, said = .ok a → l.Answered (go a)) : l.Answered (l.after said go) := by
  unfold after
  cases said with
  | error e => exact answered_error e
  | ok a => exact gone a rfl

theorem perform_answered (l : Lobby Float τ) (a : Admission) (action : SessionAction) :
    l.Answered (l.perform a action) := by
  cases action with
  | start => exact (l.start_atomic ..).answered fun _ => good_ofJson _
  | stop => exact (l.stop_atomic ..).answered fun _ => good_ofJson _
  | pace =>
    exact answered_after fun update _ => (l.updatePace_atomic ..).answered fun _ => good_ofJson _
  | commands =>
    exact answered_after fun batch _ => (l.submit_atomic ..).answered fun _ => good_ofJson _
  | frame => exact answered_question ..
  | state => exact answered_question ..
  | tools => exact answered_question ..
  | remove => exact (l.remove_atomic ..).answered fun _ => by decide

theorem answerJoin_answered (l : Lobby Float τ) (r : Request) (id : String) :
    l.Answered (l.answerJoin r id) :=
  answered_after fun _ _ => (l.join_atomic ..).answered fun _ => good_ofJson _

theorem answerLimits_answered (l : Lobby Float τ) (adminToken : Option String) (r : Request) :
    l.Answered (l.answerLimits adminToken r) := by
  unfold answerLimits
  split
  · exact answered_after fun update _ => answered_good rfl (good_ofJson _)
  · exact answered_good rfl (good_ofJson _)

variable {scene : Scene Float} {registry : Registry Float τ}

theorem serve_answered (accepted : Game.new scene registry = .ok l.game)
    (adminToken : Option String) (fresh : Fresh) (r : Request) (e : Endpoint) :
    l.Answered (l.serve adminToken fresh r e) := by
  cases e with
  | sessions =>
    exact answered_after fun options _ =>
      (create_atomic accepted fresh options).answered fun _ => good_ofJson _
  | session id action => exact answered_after fun a _ => l.perform_answered a action
  | join id => exact l.answerJoin_answered r id
  | stream id => exact answered_after fun _ _ => answered_error _
  | limits => exact l.answerLimits_answered adminToken r

theorem answer_answered (accepted : Game.new scene registry = .ok l.game)
    (adminToken : Option String) (fresh : Fresh) (r : Request) :
    l.Answered (l.answer adminToken fresh r) := by
  unfold answer
  split
  · exact answered_good rfl (by decide)
  · split
    · exact answered_error _
    · split
      · exact answered_error _
      · exact serve_answered accepted adminToken fresh r _

/-- What a request leaves is the same game, and after a rejection the same lobby. -/
theorem respond_spec (accepted : Game.new scene registry = .ok l.game)
    (adminToken : Option String) (fresh : Fresh) (r : Request) :
    (l.respond adminToken fresh r).2.game = l.game ∧
      (400 ≤ (l.respond adminToken fresh r).1.status →
        (l.respond adminToken fresh r).1.status < 500 →
          (l.respond adminToken fresh r).2 = l) := by
  have answered := answer_answered accepted adminToken fresh r
  unfold respond
  generalize l.answer adminToken fresh r = outcome at answered
  obtain ⟨e | response, l'⟩ := outcome
  · refine ⟨answered.game, fun _ status => answered.refused e rfl ?_⟩
    -- A response without its body has the same status.
    dsimp only at status
    split at status
    · exact status
    · exact status
  · refine ⟨answered.game, fun status _ => ?_⟩
    have good := answered.good response rfl
    dsimp only at status
    split at status <;> exact absurd status (Nat.not_le.2 good)

/-! ### Lobbies that come about -/

/-- What may happen to a lobby: a request from outside, or a call, by which also its clocks
advance. -/
inductive Visit where
  | request (fresh : Fresh) (r : Request)
  | call (c : Call Float)

/-- The lobby after a visit. -/
def visit (adminToken : Option String) (l : Lobby Float τ) : Visit → Lobby Float τ
  | .request fresh r => (l.respond adminToken fresh r).2
  | .call c => (l.call c).2

/-- The lobby after some visits. -/
def visited (adminToken : Option String) (l : Lobby Float τ) (visits : List Visit) :
    Lobby Float τ :=
  visits.foldl (visit adminToken) l

theorem game_visit (accepted : Game.new scene registry = .ok l.game) (adminToken : Option String)
    (v : Visit) : (l.visit adminToken v).game = l.game := by
  cases v with
  | request fresh r => exact (respond_spec accepted adminToken fresh r).1
  | call c => exact (l.call_atomic c).game

/-- The game stays the one that was accepted. -/
theorem game_visited (accepted : Game.new scene registry = .ok l.game)
    (adminToken : Option String) (visits : List Visit) :
    (l.visited adminToken visits).game = l.game := by
  induction visits generalizing l with
  | nil => rfl
  | cons v visits ih =>
    have one := game_visit accepted adminToken v
    exact (ih (one.symm ▸ accepted)).trans one

/-- In every lobby of an accepted game that may come about, a request that is answered with a status
from 400 to 499 changes nothing. Where the store is in order, a creation that fails in any way
changes nothing; so it gives no seed away. -/
theorem rejection_changes_nothing {start : Lobby Float τ}
    (accepted : Game.new scene registry = .ok start.game) (adminToken : Option String)
    (visits : List Visit) (fresh : Fresh) :
    let l := start.visited adminToken visits
    (∀ r, 400 ≤ (l.respond adminToken fresh r).1.status →
      (l.respond adminToken fresh r).1.status < 500 → (l.respond adminToken fresh r).2 = l) ∧
      (l.store.fault = none → ∀ o e, (l.create fresh o).1 = .error e →
        (l.create fresh o).2 = l) := by
  intro l
  have stays : Game.new scene registry = .ok l.game :=
    (game_visited accepted adminToken visits).symm ▸ accepted
  exact ⟨fun r => (respond_spec stays adminToken fresh r).2,
    fun sound o e => create_error stays sound⟩

/-! ### The same seed twice -/

namespace Twins

/-- A lobby of the empty scene, without sessions. -/
def lobby : Lobby Float Empty := { game := ⟨Scene.default, { resume := fun t => nomatch t }⟩ }

/-- Names for a session. The seed is always the same. -/
def fresh (session : String) : Fresh :=
  { session, adminToken := session, roleToken := fun role => role, invite := fun role => role
    seed := fun _ => "s" }

/-- A request to open a session. -/
def opening : Request := { method := .post, target := { path := ["", "api", "sessions"] } }

/-- The lobby with one session. -/
def opened : Lobby Float Empty := lobby.visited none [.request (fresh "x") opening]

theorem accepted : Game.new lobby.game.scene lobby.game.registry = .ok lobby.game :=
  game_of_isOk (by decide +kernel)

end Twins

/-- A second session finds no seed, and is not opened. -/
theorem twin_is_rejected :
    (Twins.lobby.respond none (Twins.fresh "x") Twins.opening).1.status = 200 ∧
      (Twins.opened.respond none (Twins.fresh "y") Twins.opening).1.status = 409 ∧
      (Twins.opened.respond none (Twins.fresh "y") Twins.opening).2 = Twins.opened ∧
      ∃ e, (Twins.opened.create (Twins.fresh "y") {}).1 = .error e ∧
        (Twins.opened.create (Twins.fresh "y") {}).2 = Twins.opened := by
  have statuses : (Twins.lobby.respond none (Twins.fresh "x") Twins.opening).1.status = 200 ∧
      (Twins.opened.respond none (Twins.fresh "y") Twins.opening).1.status = 409 := by
    decide +kernel
  obtain ⟨made, refused⟩ := statuses
  obtain ⟨requests, creations⟩ := rejection_changes_nothing Twins.accepted none
    [.request (Twins.fresh "x") Twins.opening] (Twins.fresh "y")
  refine ⟨made, refused, requests Twins.opening ?_ ?_, ?_⟩
  · show 400 ≤ (Twins.opened.respond none (Twins.fresh "y") Twins.opening).1.status
    rw [refused]
    decide
  · show (Twins.opened.respond none (Twins.fresh "y") Twins.opening).1.status < 500
    rw [refused]
    decide
  · have sound : Twins.opened.store.fault = none := by decide +kernel
    have fails : (Twins.opened.create (Twins.fresh "y") {}).1.isOk = false := by decide +kernel
    cases failed : (Twins.opened.create (Twins.fresh "y") {}).1 with
    | error e => exact ⟨e, rfl, creations sound {} e failed⟩
    | ok created =>
      rw [failed] at fails
      cases fails

end Lobby

end Playfield
