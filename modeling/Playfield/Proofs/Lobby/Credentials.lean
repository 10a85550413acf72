import Playfield.Proofs.Lobby.Issue

/-!
# What tokens and invites do

In every lobby that comes about from one without sessions, a token opens the session for which it
was issued, to the viewer for whom it was issued, as long as the session is there; an invite gives
its role the one token of that role. Nothing else opens anything.

* `authorize_iff`, `join_of_invited`: what a lobby answers, in terms of the names that it knows.
* `Lobby.Scoped`: what tokens and invites do, in terms of the names that were issued.
* `tokens_grant_their_scope`: it holds after any operations, if the names are distinct.

The store learns of a role that joins for the first time. If it refuses to, that join fails, though
the role has joined: it gets its token at the next attempt. `first_join_fails` is such a case.
-/

namespace Playfield

variable {K τ α : Type}

namespace Lobby

/-! ### Answers -/

section Answers

variable {l : Lobby K τ} {id token invite role : String} {v : Viewer} {r : Room K τ}

theorem room_of_absent (absent : l.rooms.contains id = false) :
    l.room id = .error (.notFound id) := by
  rw [Table.contains, Option.isSome_eq_false_iff, Option.isNone_iff_eq_none] at absent
  rw [room, absent]

theorem exists_room (there : l.rooms.contains id = true) : ∃ r, l.rooms.get? id = some r :=
  Option.isSome_iff_exists.1 there

theorem authorize_of_absent (absent : l.rooms.contains id = false) :
    l.authorize id token = .error (.notFound id) := by
  rw [authorize, room_of_absent absent]
  rfl

theorem authorize_iff (there : l.rooms.contains id = true) :
    l.authorize id token = .ok v ↔ l.Knows id token (.access v) := by
  obtain ⟨r, room⟩ := exists_room there
  simp only [authorize, room_of_get? room, Knows, bind, Except.bind]
  cases l.tokens.get? token with
  | none => simp
  | some grant =>
    obtain ⟨session, viewer⟩ := grant
    by_cases same : session = id
    · simp [same]
    · simp [same]

/-- Who is not let in has no token of the session. -/
theorem authorize_of_unknown (there : l.rooms.contains id = true)
    (unknown : ∀ v, ¬l.Knows id token (.access v)) :
    l.authorize id token = .error .unauthorized := by
  obtain ⟨r, room⟩ := exists_room there
  simp only [authorize, room_of_get? room, bind, Except.bind]
  cases found : l.tokens.get? token with
  | none => rfl
  | some grant =>
    refine if_neg fun same => unknown grant.viewer ?_
    rw [Knows, found, ← same]

variable [Scalar K]

theorem join_of_absent (absent : l.rooms.contains id = false) :
    l.join id invite = (.error (.notFound id), l) := by
  rw [join, room_of_absent absent]

/-- Who has no invite to the session does not join it. -/
theorem join_of_unknown (there : l.rooms.contains id = true)
    (unknown : ∀ role, ¬l.Knows id invite (.invitation role)) :
    l.join id invite = (.error .unauthorized, l) := by
  obtain ⟨r, room⟩ := exists_room there
  rw [join, room_of_get? room]
  dsimp only
  cases invited : l.invited id r invite with
  | error e => rw [invited_error invited]
  | ok j => exact absurd (invited_ok invited).1 (unknown j.role)

/-- An invite gives its role the token of that role. -/
theorem join_of_invited (room : l.rooms.get? id = some r)
    (invited : l.Knows id invite (.invitation role)) (has : r.roleTokens.get? role = some token) :
    l.join id invite =
      if r.joined.contains role then (.ok ⟨role, token⟩, l)
      else (l.setRoom id { r with joined := r.joined.insert role () }).record id (.joined role)
        ⟨role, token⟩ := by
  have ok : l.invited id r invite = .ok ⟨role, token⟩ := by
    rw [Lobby.invited, show l.invites.get? invite = _ from invited]
    dsimp only
    rw [if_pos rfl, has]
  rw [join, room_of_get? room]
  dsimp only
  rw [ok]

theorem record_answer (l : Lobby K τ) (id : String) (e : SessionEvent K) (answer : α) :
    (l.record id e answer).1 =
      if l.store.refuses e.type then .error (.ofStore Store.outage) else .ok answer := by
  rw [record, Store.append_eq]
  by_cases refused : l.store.refuses e.type = true
  · rw [if_pos refused, if_pos refused]
  · rw [if_neg refused, if_neg refused]

/-- A role that has not joined yet joins, though it is not told so if the store refuses. -/
theorem join_answer (room : l.rooms.get? id = some r)
    (invited : l.Knows id invite (.invitation role)) (has : r.roleTokens.get? role = some token) :
    (l.join id invite).1 = if r.joined.contains role || !l.store.refuses "joined"
      then .ok ⟨role, token⟩ else .error (.ofStore Store.outage) := by
  rw [join_of_invited room invited has]
  cases r.joined.contains role with
  | true => rfl
  | false =>
    simp only [Bool.false_eq_true, if_false, Bool.false_or]
    rw [record_answer]
    show (if l.store.refuses "joined" = true then _ else _) = _
    cases l.store.refuses "joined" <;> rfl

theorem join_of_joined (room : l.rooms.get? id = some r)
    (invited : l.Knows id invite (.invitation role)) (has : r.roleTokens.get? role = some token)
    (joined : r.joined.contains role = true) : l.join id invite = (.ok ⟨role, token⟩, l) := by
  rw [join_of_invited room invited has, if_pos joined]

/-- An invite may be used again, and then nothing can fail. -/
theorem join_again (room : l.rooms.get? id = some r)
    (invited : l.Knows id invite (.invitation role)) (has : r.roleTokens.get? role = some token) :
    ((l.join id invite).2.join id invite).1 = .ok ⟨role, token⟩ := by
  by_cases joined : r.joined.contains role = true
  · rw [join_of_joined room invited has joined, join_of_joined room invited has joined]
  · rw [join_of_invited room invited has, if_neg joined]
    let r' : Room K τ := { r with joined := r.joined.insert role () }
    have now : r'.joined.contains role = true := by
      rw [Table.contains_insert, beq_self_eq_true, Bool.or_true]
    obtain ⟨store, left⟩ := record_store (l.setRoom id r') id (.joined role)
      (⟨role, token⟩ : JoinedRole)
    have room' : ({ l.setRoom id r' with store } : Lobby K τ).rooms.get? id = some r' :=
      get?_setRoom
    rw [left, join_of_joined room' invited has now]

end Answers

/-! ### The scope of tokens and invites -/

variable [Scalar K]

open Issue

/-- What tokens and invites do, where `issues` is all that was issued. -/
structure Scoped (l : Lobby K τ) (issues : List Issue) : Prop where
  /-- A session that is not there is not found. -/
  missing : ∀ id, l.rooms.contains id = false →
    (∀ token, l.authorize id token = .error (.notFound id)) ∧
      ∀ invite, l.join id invite = (.error (.notFound id), l)
  /-- A token opens its session to its viewer. -/
  grants : ∀ id, l.rooms.contains id = true → ∀ token v,
    l.authorize id token = .ok v ↔ Issued issues id token (.access v)
  others : ∀ id, l.rooms.contains id = true → ∀ token,
    (∀ v, ¬Issued issues id token (.access v)) → l.authorize id token = .error .unauthorized
  /-- An invite leads its role to its one token: at the second attempt at the latest, and at the
  first if the role has joined before or the store takes the event. -/
  joins : ∀ id r, l.rooms.get? id = some r → ∀ invite role,
    Issued issues id invite (.invitation role) →
      ∃ token, (∀ token', Issued issues id token' (.access (.role role)) ↔ token' = token) ∧
        ((l.join id invite).1 = if r.joined.contains role || !l.store.refuses "joined"
          then .ok ⟨role, token⟩ else .error (.ofStore Store.outage)) ∧
        ((l.join id invite).2.join id invite).1 = .ok ⟨role, token⟩
  uninvited : ∀ id, l.rooms.contains id = true → ∀ invite,
    (∀ role, ¬Issued issues id invite (.invitation role)) →
      l.join id invite = (.error .unauthorized, l)
  /-- Invites open nothing, and nobody joins with a token. -/
  apart : ∀ session n, (∀ role, Issued issues session n (.invitation role) →
      ∀ id v, l.authorize id n ≠ .ok v) ∧
    ∀ v, Issued issues session n (.access v) → ∀ id, ∃ e, l.join id n = (.error e, l)
  /-- The names of a session that is not there any more are good for nothing. -/
  revoked : ∀ session, l.rooms.contains session = false → ∀ n p, Issued issues session n p →
    ∀ id, (∀ v, l.authorize id n ≠ .ok v) ∧ ∃ e, l.join id n = (.error e, l)
  /-- The lobby has the tokens and invites of the sessions that are there, and no others. -/
  tokens : ∀ token id v, l.tokens.get? token = some ⟨id, v⟩ ↔
    l.rooms.contains id = true ∧ Issued issues id token (.access v)
  invites : ∀ invite id role, l.invites.get? invite = some ⟨id, role⟩ ↔
    l.rooms.contains id = true ∧ Issued issues id invite (.invitation role)

section Scoped

variable {l : Lobby K τ} {issues : List Issue} {id session n : String} {p : Purpose}

omit [Scalar K] in
/-- Who is let in with a name has the token of a session that is there. -/
theorem Credited.of_authorize (credited : l.Credited issues) {v : Viewer}
    (h : l.authorize id n = .ok v) :
    l.rooms.contains id = true ∧ Issued issues id n (.access v) := by
  cases there : l.rooms.contains id with
  | false =>
    rw [authorize_of_absent there] at h
    cases h
  | true =>
    rw [authorize_iff there] at h
    exact ⟨rfl, ((credited.knows id n _).1 h).2⟩

/-- Nobody joins with a name that is no invite of a session that is there. -/
theorem Credited.join_refused (credited : l.Credited issues)
    (none : ∀ role, l.rooms.contains id = true → ¬Issued issues id n (.invitation role)) :
    ∃ e, l.join id n = (.error e, l) := by
  cases there : l.rooms.contains id with
  | false => exact ⟨_, join_of_absent there⟩
  | true =>
    refine ⟨_, join_of_unknown there fun role known => ?_⟩
    exact none role there ((credited.knows id n _).1 known).2

omit [Scalar K] in
/-- A name that was issued is nothing else anywhere. -/
theorem issued_unique {q : Purpose} (distinct : Distinct issues)
    (here : Issued issues session n p) (there : Issued issues id n q) : session = id ∧ p = q := by
  obtain ⟨i, mem, rfl, here⟩ := here
  obtain ⟨j, mem', rfl, there⟩ := there
  obtain ⟨rfl, same⟩ := distinct.eq mem mem' here there
  exact ⟨rfl, same⟩

theorem Credited.scope (credited : l.Credited issues) (distinct : Distinct issues) :
    l.Scoped issues where
  missing id absent := ⟨fun _ => authorize_of_absent absent, fun _ => join_of_absent absent⟩
  grants id there token v := by
    rw [authorize_iff there, credited.knows]
    exact and_iff_right there
  others id there token none :=
    authorize_of_unknown there fun v known => none v ((credited.knows id token _).1 known).2
  joins id r room invite role issued := by
    have there := contains_of_get? room
    obtain ⟨i, mem, rfl, invited⟩ := issued
    have holds := credited.holds _ r room i mem rfl
    have known := (credited.knows _ invite _).2 ⟨there, i, mem, rfl, invited⟩
    have roles := (mem_names_invitation.1 invited).1
    have has : r.roleTokens.get? role = some (i.fresh.roleToken role) :=
      holds.token_iff.2 (mem_names_role.2 ⟨roles, rfl⟩)
    refine ⟨i.fresh.roleToken role, fun token' => ⟨?_, ?_⟩, join_answer room known has,
      join_again room known has⟩
    · rintro ⟨j, mem', session, token⟩
      obtain ⟨rfl, -⟩ :=
        distinct.eq mem' mem j.session_mem_names (session ▸ i.session_mem_names)
      exact (mem_names_role.1 token).2
    · rintro rfl
      exact ⟨i, mem, rfl, mem_names_role.2 ⟨roles, rfl⟩⟩
  uninvited id there invite none :=
    join_of_unknown there fun role known => none role ((credited.knows id invite _).1 known).2
  apart session n := by
    refine ⟨fun role issued id v ok => ?_, fun v issued id => credited.join_refused ?_⟩
    · cases (issued_unique distinct issued (credited.of_authorize ok).2).2
    · intro role there issued'
      cases (issued_unique distinct issued issued').2
  revoked session absent n p issued id := by
    refine ⟨fun v ok => ?_, credited.join_refused fun role there issued' => ?_⟩
    · obtain ⟨there, issued'⟩ := credited.of_authorize ok
      rw [← (issued_unique distinct issued issued').1, absent] at there
      cases there
    · rw [← (issued_unique distinct issued issued').1, absent] at there
      cases there
  tokens token id v := credited.knows id token (.access v)
  invites invite id role := credited.knows id invite (.invitation role)

end Scoped

/-- After any operations on a lobby that had no sessions, tokens and invites have their scope, if
the names that were issued are distinct. The creator of a session learns the names issued for it,
and after its removal it is not there. -/
theorem tokens_grant_their_scope {start : Lobby K τ} (vacant : start.Vacant)
    (ops : List (Operation K)) (distinct : Distinct (start.issued ops)) :
    let l := start.operated ops
    l.Scoped (start.issued ops) ∧
      (∀ fresh o created, (l.create fresh o).1 = .ok created →
        ∃ i, l.issue? (.create fresh o) = some i ∧ Tells created i) ∧
      ∀ id v, (l.remove id v).1 = .ok () → (l.remove id v).2.rooms.contains id = false := by
  intro l
  have credited : l.Credited (start.issued ops) := credited_operated vacant.credited ops distinct
  refine ⟨credited.scope distinct, fun fresh o created ok => ?_, fun id v ok => ?_⟩
  · rcases l.create_admits fresh o with ⟨-, -, e, failed⟩ | ⟨i, r, new, -, -, -, -, tells⟩
    · rw [failed] at ok
      cases ok
    · exact ⟨i, new, tells created ok⟩
  · rcases l.remove_cases id v with ⟨e, refused⟩ | ⟨r, -, -, removed⟩
    · rw [refused] at ok
      cases ok
    · rw [removed, Bool.eq_false_iff]
      intro there
      exact (Table.contains_erase.1 there).1 rfl

/-! ### A session of one role -/

namespace Gate

/-- A lobby without sessions, of a scene with one role. -/
def lobby (fault : Option StoreFault) : Lobby Rat Empty :=
  { game :=
      { scene := { Scene.default with
          roles := [{ id := "a", kind := .human, required := true, camera := none, ui := none
                      serverFields := ∅, localFields := ∅ }] }
        registry := { resume := fun t => nomatch t } }
    store := { fault } }

/-- Names for a session. -/
def fresh (session : String) : Fresh :=
  { session
    adminToken := session ++ " key"
    roleToken := fun role => session ++ " token " ++ role
    invite := fun role => session ++ " invite " ++ role
    seed := fun _ => session }

/-- Two sessions are opened, and one of them is removed. -/
def ops : List (Operation Rat) :=
  [.create (fresh "x") {}, .create (fresh "y") {}, .remove "x" .admin]

theorem vacant (fault : Option StoreFault) : (lobby fault).Vacant := ⟨rfl, rfl, rfl⟩

/-- The lobby after these operations. -/
def left : Lobby Rat Empty := (lobby none).operated ops

/-- A lobby with one session, of which the store takes no joins. -/
def strict : Lobby Rat Empty :=
  (lobby (some (.noAppend (some "joined")))).operated [.create (fresh "x") {}]

end Gate

/-- The session that is left is opened by its key and joined by its invite. The key of the other
session opens nothing. -/
theorem key_opens_what_is_left :
    Distinct ((Gate.lobby none).issued Gate.ops) ∧
      Gate.left.authorize "y" "y key" = .ok .admin ∧
      (Gate.left.join "y" "y invite a").1 = .ok ⟨"a", "y token a"⟩ ∧
      ∀ id v, Gate.left.authorize id "x key" ≠ .ok v := by
  have distinct : Distinct ((Gate.lobby none).issued Gate.ops) := by
    unfold Distinct
    decide +kernel
  have there : Gate.left.rooms.contains "y" = true := by decide +kernel
  have gone : Gate.left.rooms.contains "x" = false := by decide +kernel
  have takes : Gate.left.store.refuses "joined" = false := by decide +kernel
  have issued : Issued ((Gate.lobby none).issued Gate.ops) "y" "y key" (.access .admin) ∧
      Issued ((Gate.lobby none).issued Gate.ops) "y" "y token a" (.access (.role "a")) ∧
      Issued ((Gate.lobby none).issued Gate.ops) "y" "y invite a" (.invitation "a") ∧
      Issued ((Gate.lobby none).issued Gate.ops) "x" "x key" (.access .admin) := by
    unfold Issued
    decide +kernel
  obtain ⟨key, token, invite, revoked⟩ := issued
  obtain ⟨scope, -, -⟩ := tokens_grant_their_scope (Gate.vacant none) Gate.ops distinct
  refine ⟨distinct, (scope.grants "y" there _ _).2 key, ?_,
    fun id => (scope.revoked "x" gone _ _ revoked id).1⟩
  obtain ⟨r, room⟩ := exists_room there
  obtain ⟨token', one, answer, -⟩ := scope.joins "y" r room _ "a" invite
  obtain rfl := (one _).1 token
  rwa [show (Gate.lobby none).operated Gate.ops = Gate.left from rfl, takes, Bool.not_false,
    Bool.or_true, if_pos rfl] at answer

/-- An invite of a session that is there does not lead its role to its token at once, where the
store refuses. -/
theorem first_join_fails :
    Gate.strict.rooms.contains "x" = true ∧
      Distinct ((Gate.lobby (some (.noAppend (some "joined")))).issued
        [.create (Gate.fresh "x") {}]) ∧
      Issued ((Gate.lobby (some (.noAppend (some "joined")))).issued
        [.create (Gate.fresh "x") {}]) "x" "x invite a" (.invitation "a") ∧
      (Gate.strict.join "x" "x invite a").1 = .error (.ofStore Store.outage) := by
  unfold Distinct Issued
  decide +kernel

end Lobby

end Playfield
