import Playfield.Proofs.Http.Privilege
import Playfield.Proofs.Http.Token

/-!
# The administrator's token of a lobby

Where a lobby has an administrator's token, requests must carry it to open a session or to change
the limits.

* `Entitled`: nothing fails for lack of rights; `Lobby.entitled_create`.
* `Request.AsksSession`, `Request.AsksLimits`: requests that can be read, with a header for the
  token. `Lobby.Admits`: such a request is not turned away for lack of rights.
* `AsksSession.admits_iff`, `AsksLimits.admits_iff`: a session is opened with any value that spells
  the token, the limits are changed with one such value only. So `admin_endpoints_agree_iff`.
-/

namespace Playfield

variable {K τ α β : Type}

/-! ### Opening a session -/

/-- There is no failure for lack of rights. -/
def Entitled (x : Except SessionError α) : Prop := ∀ e, x = .error e → e.kind ≠ .unauthorized

theorem entitled_ok (a : α) : Entitled (.ok a : Except SessionError α) := nofun

theorem entitled_error {e : SessionError} (h : e.kind ≠ .unauthorized) :
    Entitled (.error e : Except SessionError α) := by
  rintro _ ⟨⟩
  exact h

theorem Entitled.bind {x : Except SessionError α} {f : α → Except SessionError β}
    (first : Entitled x) (next : ∀ a, Entitled (f a)) : Entitled (x >>= f) := by
  cases x with
  | error e => exact entitled_error (first e rfl)
  | ok a => exact next a

theorem Entitled.map {x : Except SessionError α} (f : α → β) (h : Entitled x) :
    Entitled (x.map f) := by
  cases x with
  | error e => exact entitled_error (h e rfl)
  | ok a => exact entitled_ok _

theorem Scene.entitled_selectRoles (s : Scene K) (requested : Option (List String)) :
    Entitled (s.selectRoles requested) := by
  cases requested with
  | none => exact entitled_ok _
  | some ids =>
    unfold selectRoles
    dsimp only
    split
    · exact entitled_error nofun
    · split
      · exact entitled_error nofun
      · exact entitled_ok _

theorem PaceUpdate.entitled_apply [Scalar K] (u : PaceUpdate K) (p : Pace K) :
    Entitled (u.apply p) := by
  unfold PaceUpdate.apply
  split
  · exact entitled_error nofun
  · split
    · exact entitled_error nofun
    · exact entitled_ok _

namespace Lobby

theorem entitled_plan [Scalar K] (l : Lobby K τ) (o : SessionOptions K) : Entitled (l.plan o) := by
  unfold plan
  split
  · exact entitled_error nofun
  · exact (l.game.scene.entitled_selectRoles o.roles).bind fun _ =>
      (PaceUpdate.entitled_apply _ _).bind fun _ => entitled_ok _

theorem entitled_ofStore (e : StoreError) :
    Entitled (.error (.ofStore e) : Except SessionError α) := by
  cases e <;> exact entitled_error nofun

theorem entitled_seedTaken (seed : String) :
    Entitled (.error (.seedTaken seed) : Except SessionError α) :=
  entitled_error nofun

theorem entitled_reserveSeed (l : Lobby K τ) (session seed : String) (metadata : Json K) :
    Entitled (l.reserveSeed session seed metadata) := by
  unfold reserveSeed
  split
  · exact entitled_seedTaken seed
  · cases l.store.isReserved seed with
    | error e => exact entitled_ofStore e
    | ok reserved =>
      cases reserved with
      | true => exact entitled_seedTaken seed
      | false =>
        dsimp only
        cases l.store.reserve session seed metadata with
        | error e => exact entitled_ofStore e
        | ok store => exact entitled_ok _

theorem entitled_drawSeed (l : Lobby K τ) (session : String) (metadata : Json K)
    (seed : Nat → String) (attempt left : Nat) :
    Entitled (l.drawSeed session metadata seed attempt left) := by
  induction left generalizing attempt with
  | zero => exact entitled_error nofun
  | succ left ih =>
    unfold drawSeed
    cases reserved : l.reserveSeed session (seed attempt) metadata with
    | ok l => exact entitled_ok _
    | error e =>
      dsimp only
      split
      · exact ih (attempt + 1)
      · exact entitled_error (l.entitled_reserveSeed session (seed attempt) metadata e reserved)

theorem entitled_resolveSeed (l : Lobby K τ) (fresh : Fresh) (requested : Option String)
    (metadata : Json K) : Entitled (l.resolveSeed fresh requested metadata) := by
  cases requested with
  | none => exact l.entitled_drawSeed fresh.session metadata fresh.seed 1 l.maxSeedAttempts
  | some seed =>
    unfold resolveSeed
    dsimp only
    split
    · exact entitled_error nofun
    · exact (l.entitled_reserveSeed fresh.session seed metadata).map _

/-- Anyone may open a session, as far as the session is concerned. -/
theorem entitled_create [Scalar K] (l : Lobby K τ) (fresh : Fresh) (o : SessionOptions K) :
    Entitled (l.create fresh o).1 := by
  unfold create
  cases planned : l.plan o with
  | error e => exact entitled_error (l.entitled_plan o e planned)
  | ok p =>
    dsimp only
    split
    · exact entitled_error nofun
    · cases resolved : l.resolveSeed fresh o.seed (SessionEvent.metadata p.mode p.roleIds) with
      | error e => exact entitled_error (l.entitled_resolveSeed fresh o.seed _ e resolved)
      | ok given =>
        dsimp only
        split
        · exact entitled_error nofun
        · rename_i room _
          rcases (given.2.admitRoom fresh.session room).record_cases fresh.session
            (.created given.1 p.mode p.roleIds)
            ((given.2.admitRoom fresh.session room).created fresh.session room) with
            filed | ⟨cause, failed⟩
          · rw [filed]
            exact entitled_ok _
          · rw [failed]
            exact entitled_error nofun

end Lobby

/-! ### Requests with a header -/

namespace Request

/-- The request asks to open a session. Its query and its body can be read, and it has a header for
the token. -/
structure AsksSession (r : Request) (value : String) : Prop where
  method : r.method = .post
  endpoint : r.endpoint? = some .sessions
  query : r.token?.isOk = true
  body : r.json.isOk = true
  header : r.headers.get? "authorization" = some value

/-- The request asks to change the limits. Its body can be read, and it has a header for the
token. -/
structure AsksLimits (r : Request) (value : String) : Prop where
  method : r.method = .put
  endpoint : r.endpoint? = some .limits
  type : r.hasJsonType = true
  body : (Limits.Update.read r.body).isOk = true
  header : r.headers.get? "authorization" = some value

end Request

/-- The status with which an answer is told. -/
def answerStatus : Except RequestError Response → Nat
  | .ok response => response.status
  | .error e => e.status

theorem exists_of_isOk {ε : Type} {x : Except ε α} (h : x.isOk = true) : ∃ a, x = .ok a := by
  cases x with
  | error e => cases h
  | ok a => exact ⟨a, rfl⟩

theorem status_eq_unauthorized_iff {k : SessionError.Kind} :
    k.status = 401 ↔ k = .unauthorized := by
  cases k <;> decide

namespace Lobby

/-- A lobby with an administrator's token does not turn a request away for lack of rights. -/
def Admits (l : Lobby Float τ) (token : String) (fresh : Fresh) (r : Request) : Prop :=
  (l.respond (some token) fresh r).1.status ≠ 401

section Admits

variable {l : Lobby Float τ} {fresh : Fresh} {r : Request} {token value : String}

theorem respond_status (l : Lobby Float τ) (adminToken : Option String) (fresh : Fresh)
    (r : Request) :
    (l.respond adminToken fresh r).1.status = answerStatus (l.answer adminToken fresh r).1 := by
  unfold respond
  dsimp only
  cases (l.answer adminToken fresh r).1 <;> split <;> rfl

theorem answer_eq_serve {e : Endpoint} (adminToken : Option String) (fresh : Fresh)
    (endpoint : r.endpoint? = some e) (asks : r.method ≠ .options)
    (allowed : refusesMethod r e = false) :
    l.answer adminToken fresh r = l.serve adminToken fresh r e := by
  unfold answer
  rw [if_neg asks, show Endpoint.ofPath? r.target.path = some e from endpoint]
  dsimp only
  rw [allowed]
  rfl

/-- What is not refused for lack of rights is not told as such. -/
theorem status_tell_ne {reply : Reply Float τ α} {tell : α → Response}
    (entitled : Entitled reply.1) (told : ∀ a, (tell a).status ≠ 401) :
    answerStatus (reply.tell tell).1 ≠ 401 := by
  obtain ⟨said, l'⟩ := reply
  cases said with
  | ok a => exact told a
  | error e => exact fun denied => entitled e rfl (status_eq_unauthorized_iff.1 denied)

end Admits

end Lobby

namespace Request

variable {l : Lobby Float τ} {fresh : Fresh} {r : Request} {token value : String}

/-- The token of a request is that of a plain header that spells it. -/
theorem resolve_eq_some_iff {h : Headers} (query : Option String) (body : Option (Json Float))
    (header : h.get? "authorization" = some value) (tight : Text.Tight token.toList)
    (nonempty : token ≠ "") :
    (Token.resolve h query body).toOption = some token ↔
      Headers.isPlain value = true ∧ Token.Spells value token := by
  have said : Token.resolve h query body = (Token.Source.header (K := Float) value).said := by
    rw [Token.resolve_eq, Token.sources, header]
    rfl
  have taken {x : Except TokenError String} : x.toOption = some token ↔ x = .ok token := by
    cases x <;> simp [Except.toOption]
  rw [taken, said, Token.Source.said]
  split
  · rename_i plain
    rw [Token.ofBearer_eq_ok_iff, and_iff_left ⟨tight, nonempty⟩, and_iff_right plain]
  · rename_i strange
    refine iff_of_false ?_ fun h => strange h.1
    rintro ⟨⟩

/-- What a body asks of a session. -/
def optionsIn : Option (Json Float) → Except RequestError (SessionOptions Float)
  | some body => decode SessionOptions.decode .unfitRequest body
  | none => .ok {}

/-- What a request asks of a session, where there is an administrator's token. -/
theorem options_eq {query : Option String} {body : Option (Json Float)}
    (asked : r.token? = .ok query) (read : r.json = .ok body) :
    r.options (some token) =
      if (Token.resolve r.headers query body).toOption = some token then optionsIn body
      else .error (.session .unauthorized) := by
  unfold options
  rw [asked, read]
  by_cases provided : (Token.resolve r.headers query body).toOption = some token
  · rw [if_pos provided]
    show (if (!((Token.resolve r.headers query body).toOption == some token)) = true then _
      else _) = _
    rw [provided, beq_self_eq_true]
    rfl
  · rw [if_neg provided]
    show (if (!((Token.resolve r.headers query body).toOption == some token)) = true then _
      else _) = _
    rw [beq_eq_false_iff_ne.2 provided]
    rfl

/-- A session is opened with any value that spells the token. -/
theorem AsksSession.admits_iff (asks : r.AsksSession value) (tight : Text.Tight token.toList)
    (nonempty : token ≠ "") :
    l.Admits token fresh r ↔ Headers.isPlain value = true ∧ Token.Spells value token := by
  obtain ⟨query, asked⟩ := exists_of_isOk asks.query
  obtain ⟨body, read⟩ := exists_of_isOk asks.body
  have allowed : Lobby.refusesMethod r .sessions = false := by
    show (!Endpoint.admits .sessions r.method) = false
    rw [asks.method]
    rfl
  rw [← resolve_eq_some_iff query body asks.header tight nonempty,
    Lobby.Admits, Lobby.respond_status,
    Lobby.answer_eq_serve _ fresh asks.endpoint (by rw [asks.method]; nofun) allowed]
  show answerStatus (l.after (r.options (some token)) _).1 ≠ 401 ↔ _
  rw [options_eq asked read]
  split
  · -- What is done with the token at hand may fail, but for other reasons.
    rename_i provided
    refine iff_of_true ?_ provided
    have opened (o : SessionOptions Float) :
        answerStatus ((l.create fresh o).tell fun created => .ofJson created.toJson).1 ≠ 401 :=
      Lobby.status_tell_ne (l.entitled_create fresh o) fun _ => by
        show 200 ≠ 401
        decide
    cases body with
    | none => exact opened {}
    | some body =>
      unfold optionsIn decode
      dsimp only
      split
      · exact opened _
      · show 400 ≠ 401
        decide
  · rename_i denied
    exact iff_of_false (fun admitted => admitted rfl) denied

theorem hasJsonType_eq {type : String} (found : r.headers.get? "content-type" = some type) :
    r.hasJsonType = (Headers.isPlain type && (MediaType.ofText? type).any MediaType.isJson) := by
  unfold hasJsonType
  rw [found]

/-- The new limits in a request that can be read. -/
theorem limitsUpdate_eq {adminToken : Option String} {update : Limits.Update}
    (type : r.hasJsonType = true) (read : Limits.Update.read r.body = .ok update) :
    r.limitsUpdate adminToken =
      if r.mayChangeLimits adminToken then
        if update.isPositive then .ok update else .error .zeroLimit
      else .error .limitsForbidden := by
  unfold limitsUpdate
  rw [type, read]
  cases r.mayChangeLimits adminToken with
  | false => rfl
  | true =>
    show (if (!update.isPositive) = true then _ else _) = _
    cases update.isPositive <;> rfl

/-- The limits are changed with one value only. -/
theorem AsksLimits.admits_iff (asks : r.AsksLimits value) :
    l.Admits token fresh r ↔ Headers.isPlain value = true ∧ value = "Bearer " ++ token := by
  obtain ⟨update, read⟩ := exists_of_isOk asks.body
  have allowed : Lobby.refusesMethod r .limits = false := by
    show (!Endpoint.admits .limits r.method) = false
    rw [asks.method]
    rfl
  have may : r.mayChangeLimits (some token) = true ↔
      Headers.isPlain value = true ∧ value = "Bearer " ++ token := by
    unfold mayChangeLimits
    rw [asks.header]
    simp
  rw [← may, Lobby.Admits, Lobby.respond_status,
    Lobby.answer_eq_serve _ fresh asks.endpoint (by rw [asks.method]; nofun) allowed]
  show answerStatus (l.answerLimits (some token) r).1 ≠ 401 ↔ _
  rw [Lobby.answerLimits, if_pos asks.method, limitsUpdate_eq asks.type read]
  split
  · -- The token is looked at before the numbers: only the administrator is told of a zero.
    rename_i granted
    refine iff_of_true ?_ granted
    split
    · show 200 ≠ 401
      decide
    · show 400 ≠ 401
      decide
  · rename_i denied
    exact iff_of_false (fun admitted => admitted rfl) denied

end Request

/-! ### The two endpoints -/

namespace Lobby

open Token (Spells)

/-- A session is opened with any header that spells the administrator's token, the limits are
changed with one of its spellings. So the two agree on a header unless it is another spelling. -/
theorem admin_endpoints_agree_iff {token value : String} (tight : Text.Tight token.toList)
    (nonempty : token ≠ "") (l : Lobby Float τ) (fresh : Fresh) {put post : Request}
    (limits : put.AsksLimits value) (session : post.AsksSession value) :
    (l.Admits token fresh put ↔ Headers.isPlain value = true ∧ value = "Bearer " ++ token) ∧
      (l.Admits token fresh post ↔ Headers.isPlain value = true ∧ Spells value token) ∧
      ((l.Admits token fresh put ↔ l.Admits token fresh post) ↔
        (Headers.isPlain value = true → Spells value token → value = "Bearer " ++ token)) := by
  have puts : l.Admits token fresh put ↔ _ := limits.admits_iff
  have posts : l.Admits token fresh post ↔ _ := session.admits_iff tight nonempty
  refine ⟨puts, posts, ?_⟩
  rw [puts, posts]
  constructor
  · intro agree plain spells
    exact (agree.2 ⟨plain, spells⟩).2
  · intro canonical
    constructor
    · rintro ⟨plain, rfl⟩
      exact ⟨plain, Token.spells_append token⟩
    · rintro ⟨plain, spells⟩
      exact ⟨plain, canonical plain spells⟩

namespace Keys

/-- A request to open a session. -/
def opening (value : String) : Request :=
  { method := .post, target := { path := ["", "api", "sessions"] }
    headers := [("Authorization", value)] }

/-- A request for limits of one session, command and place in a queue. -/
def limiting (value : String) : Request :=
  { method := .put, target := { path := ["", "api", "admin", "config"] }
    headers := [("Authorization", value), ("Content-Type", "application/json")]
    body := "[1,1,1]" }

theorem asks_session (value : String) : (opening value).AsksSession value where
  method := rfl
  endpoint := rfl
  query := rfl
  body := rfl
  header := by rw [opening, Token.get?_cons, if_pos (by decide)]

theorem asks_limits (value : String) : (limiting value).AsksLimits value where
  method := rfl
  endpoint := rfl
  type := by
    have found : (limiting value).headers.get? "content-type" = some "application/json" := by
      rw [limiting, Token.get?_cons, if_neg (by decide), Token.get?_cons, if_pos (by decide)]
    have json : (Headers.isPlain "application/json" &&
        (MediaType.ofText? "application/json").any MediaType.isJson) = true := by
      decide +kernel
    exact (Request.hasJsonType_eq found).trans json
  body := by
    show (Limits.Update.read "[1,1,1]").isOk = true
    decide +kernel
  header := by rw [limiting, Token.get?_cons, if_pos (by decide)]

end Keys

/-- The usual spelling of the token does for both. -/
theorem usual_spelling_is_admitted :
    Text.Tight "secret".toList ∧ "secret" ≠ "" ∧
      (Keys.limiting "Bearer secret").AsksLimits "Bearer secret" ∧
      (Keys.opening "Bearer secret").AsksSession "Bearer secret" ∧
      Farewell.lobby.Admits "secret" (Gate.fresh "x") (Keys.limiting "Bearer secret") ∧
      Farewell.lobby.Admits "secret" (Gate.fresh "x") (Keys.opening "Bearer secret") := by
  have tight : Text.Tight "secret".toList := by decide
  have nonempty : "secret" ≠ "" := by decide
  obtain ⟨puts, posts, -⟩ := admin_endpoints_agree_iff tight nonempty Farewell.lobby
    (Gate.fresh "x") (Keys.asks_limits "Bearer secret") (Keys.asks_session "Bearer secret")
  have plain : Headers.isPlain "Bearer secret" = true := by decide
  exact ⟨tight, nonempty, Keys.asks_limits _, Keys.asks_session _, puts.2 ⟨plain, rfl⟩,
    posts.2 ⟨plain, Token.spells_append "secret"⟩⟩

/-- With the scheme in lower case, the token opens a session, but does not change the limits. -/
theorem lower_case_opens_only :
    (Keys.limiting "bearer secret").AsksLimits "bearer secret" ∧
      (Keys.opening "bearer secret").AsksSession "bearer secret" ∧
      Farewell.lobby.Admits "secret" (Gate.fresh "x") (Keys.opening "bearer secret") ∧
      ¬ Farewell.lobby.Admits "secret" (Gate.fresh "x") (Keys.limiting "bearer secret") := by
  have plain : Headers.isPlain "bearer secret" = true := by decide
  have spells : Token.Spells "bearer secret" "secret" :=
    ⟨"bearer".toList, [], [], Token.toLower_eq_iff.2 (by decide), nofun, nofun, by decide⟩
  refine ⟨Keys.asks_limits _, Keys.asks_session _, ?_, ?_⟩
  · exact ((Keys.asks_session _).admits_iff (by decide) (by decide)).2 ⟨plain, spells⟩
  · rw [(Keys.asks_limits _).admits_iff]
    exact fun admitted => absurd admitted.2 (by decide)

end Lobby

end Playfield
