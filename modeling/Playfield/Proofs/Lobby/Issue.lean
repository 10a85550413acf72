import Playfield.Proofs.Lobby.Refusal
import Playfield.Proofs.Lobby.Rights

/-!
# Names that are issued

A session is opened with names drawn for it: its id, a token for the administrator, and a token and
an invite for each role. The lobby knows such a name, with what it is for, just as long as the
session is there.

* `Issue`: the names of a session, each with its `Purpose`.
* `Lobby.Operation` lists what can be done to a lobby; `Lobby.issued` are the names that are issued
  while some operations are carried out.
* `Lobby.Credited`: the lobby knows the names of the sessions that are there, and no others.
* `create_admits`, `knows_admitRoom`, `knows_revoke`: what a creation and a removal add and take
  away. `operate_credited`, `credited_operated`: so the lobby stays credited, provided that the
  names are distinct.
-/

namespace Playfield

variable {K τ : Type}

/-- What a name is for. -/
inductive Purpose where
  /-- It is the id of the session. -/
  | session
  /-- It is the token of a viewer. -/
  | access (v : Viewer)
  /-- It is the invite of a role. -/
  | invitation (role : String)
  deriving DecidableEq, Repr

/-- What was drawn for a session, and its roles. -/
structure Issue where
  fresh : Fresh
  roles : List String

namespace Issue

/-- The names of the session and what each is for. -/
def names (i : Issue) : List (String × Purpose) :=
  (i.fresh.session, .session) :: (i.fresh.adminToken, .access .admin) ::
    (i.roles.map (fun role => (i.fresh.roleToken role, .access (.role role))) ++
      i.roles.map (fun role => (i.fresh.invite role, .invitation role)))

/-- No name was issued twice. -/
def Distinct (issues : List Issue) : Prop := ((issues.flatMap names).map Prod.fst).Nodup

/-- A name was issued for a session. -/
def Issued (issues : List Issue) (session name : String) (p : Purpose) : Prop :=
  ∃ i ∈ issues, i.fresh.session = session ∧ (name, p) ∈ i.names

section Names

variable {i j : Issue} {issues : List Issue} {n : String} {p q : Purpose}

theorem mem_names_session : (n, .session) ∈ i.names ↔ n = i.fresh.session := by
  simp [names]

theorem mem_names_admin : (n, .access .admin) ∈ i.names ↔ n = i.fresh.adminToken := by
  simp [names]

theorem mem_names_role {role : String} :
    (n, .access (.role role)) ∈ i.names ↔ role ∈ i.roles ∧ n = i.fresh.roleToken role := by
  simp [names, eq_comm]

theorem mem_names_invitation {role : String} :
    (n, .invitation role) ∈ i.names ↔ role ∈ i.roles ∧ n = i.fresh.invite role := by
  simp [names, eq_comm]

theorem session_mem_names (i : Issue) : (i.fresh.session, .session) ∈ i.names :=
  mem_names_session.2 rfl

theorem mem_names_fst (mem : (n, p) ∈ i.names) : n ∈ i.names.map Prod.fst :=
  List.mem_map_of_mem mem

/-- A name tells its session and its purpose. -/
theorem Distinct.eq (distinct : Distinct issues) (mi : i ∈ issues) (mj : j ∈ issues)
    (here : (n, p) ∈ i.names) (there : (n, q) ∈ j.names) : i = j ∧ p = q := by
  unfold Distinct at distinct
  have purpose := List.inj_on_of_nodup_map distinct (List.mem_flatMap.2 ⟨i, mi, here⟩)
    (List.mem_flatMap.2 ⟨j, mj, there⟩) rfl
  refine ⟨?_, congrArg Prod.snd purpose⟩
  rw [List.map_flatMap, List.nodup_flatMap] at distinct
  have symm : Std.Symm (Function.onFun List.Disjoint fun i => (names i).map Prod.fst) :=
    ⟨fun _ _ apart => apart.symm⟩
  by_contra other
  exact distinct.2.forall mi mj other (mem_names_fst here) (mem_names_fst there)

theorem Distinct.of_sublist {issues' : List Issue} (distinct : Distinct issues')
    (sub : (issues.flatMap names).Sublist (issues'.flatMap names)) : Distinct issues :=
  List.Nodup.sublist (sub.map _) distinct

/-- The names for some of the roles are some of the names. -/
theorem names_sublist {fresh : Fresh} {roles roles' : List String} (sub : roles.Sublist roles') :
    (names ⟨fresh, roles⟩).Sublist (names ⟨fresh, roles'⟩) :=
  .cons_cons _ (.cons_cons _ ((sub.map _).append (sub.map _)))

theorem distinct_append {later : List Issue} : Distinct (issues ++ later) ↔
    Distinct issues ∧ Distinct later ∧
      ((issues.flatMap names).map Prod.fst).Disjoint ((later.flatMap names).map Prod.fst) := by
  rw [Distinct, List.flatMap_append, List.map_append]
  exact List.nodup_append'

theorem distinct_singleton : Distinct [i] ↔ (i.names.map Prod.fst).Nodup := by
  rw [Distinct, List.flatMap_singleton]

/-- The names of the last issue are new. -/
theorem Distinct.last (distinct : Distinct (issues ++ [j])) (mi : i ∈ issues)
    (here : (n, p) ∈ i.names) : (n, q) ∉ j.names := by
  intro there
  refine (distinct_append.1 distinct).2.2
    (List.mem_map_of_mem (List.mem_flatMap.2 ⟨i, mi, here⟩)) ?_
  rw [List.flatMap_singleton]
  exact mem_names_fst there

end Names

end Issue

/-! ### What a lobby knows -/

/-- The room was opened with the names of an issue. -/
structure Room.Holds (r : Room K τ) (i : Issue) : Prop where
  adminToken : r.adminToken = i.fresh.adminToken
  roleTokens : r.roleTokens = Table.ofList (i.roles.map fun role => (role, i.fresh.roleToken role))
  invites : r.invites = Table.ofList (i.roles.map fun role => (role, i.fresh.invite role))

/-- The grants that are added with a room. -/
def Room.grants (r : Room K τ) (session : String) : List (String × Grant) :=
  (r.adminToken, ⟨session, .admin⟩) ::
    r.roleTokens.entries.map fun (role, token) => (token, ⟨session, .role role⟩)

/-- The invitations that are added with a room. -/
def Room.invitations (r : Room K τ) (session : String) : List (String × Invitation) :=
  r.invites.entries.map fun (role, invite) => (invite, ⟨session, role⟩)

namespace Room.Holds

variable {r r' : Room K τ} {i : Issue} {n role : String}

theorem of_sameKeys (holds : r.Holds i) (same : r.SameKeys r') : r'.Holds i :=
  ⟨same.adminToken.trans holds.adminToken, same.roleTokens.trans holds.roleTokens,
    same.invites.trans holds.invites⟩

theorem admin_iff (holds : r.Holds i) : n = r.adminToken ↔ (n, .access .admin) ∈ i.names := by
  rw [Issue.mem_names_admin, holds.adminToken]

theorem token_iff (holds : r.Holds i) :
    r.roleTokens.get? role = some n ↔ (n, .access (.role role)) ∈ i.names := by
  rw [Issue.mem_names_role, holds.roleTokens, Table.get?_ofList_eq_some_iff]

theorem invite_iff (holds : r.Holds i) :
    r.invites.get? role = some n ↔ (n, .invitation role) ∈ i.names := by
  rw [Issue.mem_names_invitation, holds.invites, Table.get?_ofList_eq_some_iff]

end Room.Holds

namespace Lobby

/-- The lobby knows a name of a session, and what it is for. -/
def Knows (l : Lobby K τ) (session name : String) : Purpose → Prop
  | .session => name = session ∧ l.rooms.contains session = true
  | .access v => l.tokens.get? name = some ⟨session, v⟩
  | .invitation role => l.invites.get? name = some ⟨session, role⟩

/-- The lobby knows the names that were issued for sessions that are there, and no others. -/
structure Credited (l : Lobby K τ) (issues : List Issue) : Prop where
  knows : ∀ id n p, l.Knows id n p ↔ l.rooms.contains id = true ∧ Issue.Issued issues id n p
  holds : ∀ id r, l.rooms.get? id = some r → ∀ i ∈ issues, i.fresh.session = id → r.Holds i

/-- Nobody has opened a session yet. -/
structure Vacant (l : Lobby K τ) : Prop where
  rooms : l.rooms = ∅
  tokens : l.tokens = ∅
  invites : l.invites = ∅

/-- The game, its sessions and the ways into them are the same. -/
structure SameWays (l l' : Lobby K τ) : Prop where
  game : l'.game = l.game
  rooms : l'.rooms = l.rooms
  tokens : l'.tokens = l.tokens
  invites : l'.invites = l.invites

section Credited

variable {l l' : Lobby K τ} {issues : List Issue} {i : Issue} {r : Room K τ} {id n : String}

theorem Vacant.credited (vacant : l.Vacant) : l.Credited [] where
  knows id n p := by
    have none : l.rooms.contains id = false := by
      rw [vacant.rooms]
      rfl
    have unknown : ¬l.Knows id n p := by
      cases p with
      | session => simp [Knows, none]
      | access v =>
        rw [Knows, vacant.tokens]
        exact nofun
      | invitation role =>
        rw [Knows, vacant.invites]
        exact nofun
    simp [unknown, none]
  holds _ _ _ := nofun

theorem Credited.of_sameWays (credited : l.Credited issues) (same : l.SameWays l') :
    l'.Credited issues where
  knows id n p := by
    rw [same.rooms, ← credited.knows]
    cases p with
    | session => rw [Knows, Knows, same.rooms]
    | access v => rw [Knows, Knows, same.tokens]
    | invitation role => rw [Knows, Knows, same.invites]
  holds id r room := credited.holds id r (same.rooms ▸ room)

theorem contains_of_get? (room : l.rooms.get? id = some r) : l.rooms.contains id = true := by
  rw [Table.contains, room]
  rfl

/-- A session that is there was opened with names that were issued. -/
theorem Credited.issue (credited : l.Credited issues) (room : l.rooms.get? id = some r) :
    ∃ i ∈ issues, i.fresh.session = id ∧ r.Holds i := by
  have known : l.Knows id id .session := ⟨rfl, contains_of_get? room⟩
  obtain ⟨-, i, mem, session, -⟩ := (credited.knows id id .session).1 known
  exact ⟨i, mem, session, credited.holds id r room i mem session⟩

end Credited

/-! ### Calls -/

section Calls

variable {l l' : Lobby K τ} {c : Call K} {issues : List Issue}

theorem contains_setRoom {id other : String} {r r' : Room K τ} (room : l.rooms.get? id = some r) :
    (l.setRoom id r').rooms.contains other = l.rooms.contains other := by
  rw [setRoom, Table.contains_insert]
  by_cases same : id = other
  · rw [← same, contains_of_get? room]
    rfl
  · rw [beq_eq_false_iff_ne.2 same, Bool.or_false]

theorem Credited.moved (credited : l.Credited issues) (moved : l.Moved c l') :
    l'.Credited issues := by
  cases moved with
  | same => exact credited
  | @led r r' store room led =>
    refine ⟨fun id n p => ?_, fun id r'' room' i mem session => ?_⟩
    · show Knows _ id n p ↔ (l.setRoom c.session r').rooms.contains id = true ∧ _
      rw [contains_setRoom room, ← credited.knows]
      cases p with
      | session =>
        show n = id ∧ (l.setRoom c.session r').rooms.contains id = true ↔ _
        rw [contains_setRoom room]
        rfl
      | access v => rfl
      | invitation role => rfl
    · by_cases same : id = c.session
      · subst same
        have : r'' = r' := Option.some.inj (room'.symm.trans get?_setRoom)
        rw [this]
        exact (credited.holds _ r room i mem session).of_sameKeys led.keys
      · have other := (get?_setRoom_of_ne (l := l) (r := r') same).symm.trans room'
        exact credited.holds id r'' other i mem session

end Calls

/-! ### Creations and removals -/

section Ways

variable {l : Lobby K τ} {r : Room K τ} {i : Issue} {id session n : String} {p : Purpose}

theorem tokens_admitRoom (l : Lobby K τ) (id : String) (r : Room K τ) :
    (l.admitRoom id r).tokens = l.tokens.insertAll (r.grants id) :=
  rfl

theorem mem_grants (holds : r.Holds i) {v : Viewer} :
    (n, (⟨id, v⟩ : Grant)) ∈ r.grants session ↔ id = session ∧ (n, .access v) ∈ i.names := by
  rw [Room.grants, List.mem_cons, List.mem_map]
  cases v with
  | admin =>
    rw [← holds.admin_iff]
    simp [and_comm]
  | role role =>
    rw [← holds.token_iff, ← Table.mem_entries_iff]
    constructor
    · rintro (same | ⟨⟨role, token⟩, mem, same⟩)
      · cases same
      · cases same
        exact ⟨rfl, mem⟩
    · rintro ⟨rfl, mem⟩
      exact .inr ⟨_, mem, rfl⟩

theorem mem_invitations (holds : r.Holds i) {role : String} :
    (n, (⟨id, role⟩ : Invitation)) ∈ r.invitations session ↔
      id = session ∧ (n, .invitation role) ∈ i.names := by
  rw [Room.invitations, List.mem_map, ← holds.invite_iff, ← Table.mem_entries_iff]
  constructor
  · rintro ⟨⟨role, invite⟩, mem, same⟩
    cases same
    exact ⟨rfl, mem⟩
  · rintro ⟨rfl, mem⟩
    exact ⟨_, mem, rfl⟩

/-- With a new session its names become known. -/
theorem knows_admitRoom (holds : r.Holds i) (own : (i.names.map Prod.fst).Nodup)
    (new : ∀ id n p q, (n, p) ∈ i.names → ¬l.Knows id n q) :
    (l.admitRoom i.fresh.session r).Knows id n p ↔
      l.Knows id n p ∨ id = i.fresh.session ∧ (n, p) ∈ i.names := by
  have same {p q : Purpose} (here : (n, p) ∈ i.names) (there : (n, q) ∈ i.names) : p = q :=
    congrArg Prod.snd (List.inj_on_of_nodup_map own here there rfl)
  cases p with
  | session =>
    rw [Issue.mem_names_session]
    show n = id ∧ (l.rooms.insert i.fresh.session r).contains id = true ↔
      (n = id ∧ l.rooms.contains id = true) ∨ _
    rw [Table.contains_insert, Bool.or_eq_true, beq_iff_eq]
    constructor
    · rintro ⟨rfl, known | rfl⟩
      · exact .inl ⟨rfl, known⟩
      · exact .inr ⟨rfl, rfl⟩
    · rintro (⟨rfl, known⟩ | ⟨rfl, rfl⟩)
      · exact ⟨rfl, .inl known⟩
      · exact ⟨rfl, .inr rfl⟩
  | access v =>
    rw [Knows, Knows, tokens_admitRoom, Table.get?_insertAll_of_new, mem_grants holds]
    · rintro ⟨s, v⟩ ⟨s', v'⟩ here there
      obtain ⟨rfl, one⟩ := (mem_grants holds).1 here
      obtain ⟨rfl, two⟩ := (mem_grants holds).1 there
      cases same one two
      rfl
    · rintro g ⟨s, v'⟩ added known
      exact new s n _ (.access v') ((mem_grants holds).1 added).2 known
  | invitation role =>
    show (l.invites.insertAll (r.invitations i.fresh.session)).get? n = some ⟨id, role⟩ ↔
      l.invites.get? n = some ⟨id, role⟩ ∨ _
    rw [Table.get?_insertAll_of_new, mem_invitations holds]
    · rintro ⟨s, role⟩ ⟨s', role'⟩ here there
      obtain ⟨rfl, one⟩ := (mem_invitations holds).1 here
      obtain ⟨rfl, two⟩ := (mem_invitations holds).1 there
      cases same one two
      rfl
    · rintro g ⟨s, role'⟩ added known
      exact new s n _ (.invitation role') ((mem_invitations holds).1 added).2 known

/-- The lobby without a session and the ways into it. -/
def revoke (l : Lobby K τ) (id : String) (r : Room K τ) : Lobby K τ :=
  { l with
    rooms := l.rooms.erase id
    tokens := (r.adminToken :: r.roleTokens.values).foldl Table.erase l.tokens
    invites := r.invites.values.foldl Table.erase l.invites }

theorem remove_cases (l : Lobby K τ) (id : String) (v : Viewer) :
    (∃ e, l.remove id v = (.error e, l)) ∨
      ∃ r, l.rooms.get? id = some r ∧ v = .admin ∧ l.remove id v = (.ok (), l.revoke id r) := by
  unfold remove
  cases found : l.adminRoom id v with
  | error e => exact .inl ⟨e, rfl⟩
  | ok r =>
    obtain ⟨admin, room⟩ := adminRoom_ok found
    exact .inr ⟨r, room, admin, rfl⟩

theorem mem_revoked (holds : r.Holds i) :
    n ∈ r.adminToken :: r.roleTokens.values ↔ ∃ v, (n, .access v) ∈ i.names := by
  rw [List.mem_cons, Table.mem_values_iff, holds.admin_iff]
  constructor
  · rintro (admin | ⟨role, token⟩)
    · exact ⟨_, admin⟩
    · exact ⟨_, holds.token_iff.1 token⟩
  · rintro ⟨_ | role, known⟩
    · exact .inl known
    · exact .inr ⟨role, holds.token_iff.2 known⟩

/-- With a session its names are forgotten, and no others. -/
theorem knows_revoke (holds : r.Holds i)
    (own : ∀ n p, l.Knows i.fresh.session n p → (n, p) ∈ i.names)
    (apart : ∀ id n p q, l.Knows id n p → (n, q) ∈ i.names → id = i.fresh.session) :
    (l.revoke i.fresh.session r).Knows id n p ↔ l.Knows id n p ∧ id ≠ i.fresh.session := by
  cases p with
  | session =>
    show n = id ∧ (l.rooms.erase _).contains id = true ↔ _
    rw [Table.contains_erase, Knows]
    tauto
  | access v =>
    show ((r.adminToken :: r.roleTokens.values).foldl Table.erase l.tokens).get? n = _ ↔ _
    rw [Table.get?_eraseAll_eq_some_iff, mem_revoked holds, and_comm]
    refine and_congr_right fun known => ⟨fun kept same => ?_, fun other => ?_⟩
    · subst same
      exact kept ⟨v, own n (.access v) known⟩
    · rintro ⟨v', mem⟩
      exact other (apart id n (.access v) _ known mem)
  | invitation role =>
    show (r.invites.values.foldl Table.erase l.invites).get? n = _ ↔ _
    rw [Table.get?_eraseAll_eq_some_iff, Table.mem_values_iff, and_comm]
    refine and_congr_right fun known => ⟨fun kept same => ?_, fun other => ?_⟩
    · subst same
      exact kept ⟨role, holds.invite_iff.2 (own n (.invitation role) known)⟩
    · rintro ⟨role', mem⟩
      exact other (apart id n (.invitation role) _ known (holds.invite_iff.1 mem))

end Ways

section Credited

variable {l : Lobby K τ} {issues : List Issue} {i : Issue} {r : Room K τ} {id n : String}
  {p q : Purpose}

/-- A name that was issued for one session is known as nothing else. -/
theorem Credited.mem_names (credited : l.Credited issues) (distinct : Issue.Distinct issues)
    (mem : i ∈ issues) (here : (n, q) ∈ i.names) (known : l.Knows id n p) :
    id = i.fresh.session ∧ p = q := by
  obtain ⟨-, j, mem', rfl, there⟩ := (credited.knows id n p).1 known
  obtain ⟨rfl, same⟩ := distinct.eq mem mem' here there
  exact ⟨rfl, same.symm⟩

theorem Credited.revoke (credited : l.Credited issues) (distinct : Issue.Distinct issues)
    (room : l.rooms.get? id = some r) : (l.revoke id r).Credited issues := by
  obtain ⟨i, mem, rfl, holds⟩ := credited.issue room
  have own (n : String) (p : Purpose) (known : l.Knows i.fresh.session n p) :
      (n, p) ∈ i.names := by
    obtain ⟨-, j, mem', session, there⟩ := (credited.knows _ n p).1 known
    -- The two issues have the id of the session in common.
    rw [(distinct.eq mem mem' i.session_mem_names (session ▸ j.session_mem_names)).1]
    exact there
  refine ⟨fun id n p => ?_, fun id r' room' => ?_⟩
  · rw [knows_revoke holds own fun id n p q known mem' =>
      (credited.mem_names distinct mem mem' known).1, credited.knows]
    show _ ↔ (l.rooms.erase i.fresh.session).contains id = true ∧ _
    rw [Table.contains_erase]
    tauto
  · exact credited.holds id r' (Table.get?_erase_eq_some_iff.1 room').2

theorem issued_append_singleton :
    Issue.Issued (issues ++ [i]) id n p ↔
      Issue.Issued issues id n p ∨ i.fresh.session = id ∧ (n, p) ∈ i.names := by
  simp only [Issue.Issued, List.mem_append, List.mem_singleton, or_and_right, exists_or,
    exists_eq_left]

theorem Credited.admitRoom (credited : l.Credited issues)
    (distinct : Issue.Distinct (issues ++ [i])) (holds : r.Holds i) :
    (l.admitRoom i.fresh.session r).Credited (issues ++ [i]) := by
  have own := Issue.distinct_singleton.1 (Issue.distinct_append.1 distinct).2.1
  -- The id is among the names, so no earlier session had it.
  have other {j : Issue} (mem : j ∈ issues) : j.fresh.session ≠ i.fresh.session := by
    intro same
    exact distinct.last mem j.session_mem_names (same ▸ i.session_mem_names)
  refine ⟨fun id n p => ?_, fun id r' room j mem session => ?_⟩
  · rw [knows_admitRoom holds own fun id n p q mem known => ?_, credited.knows,
      issued_append_singleton]
    · show _ ↔ (l.rooms.insert i.fresh.session r).contains id = true ∧ _
      rw [Table.contains_insert, Bool.or_eq_true, beq_iff_eq]
      constructor
      · rintro (⟨here, issued⟩ | ⟨rfl, mem⟩)
        · exact ⟨.inl here, .inl issued⟩
        · exact ⟨.inr rfl, .inr ⟨rfl, mem⟩⟩
      · rintro ⟨here | rfl, issued | ⟨same, mem⟩⟩
        · exact .inl ⟨here, issued⟩
        · exact .inr ⟨same.symm, mem⟩
        · obtain ⟨j, mem, session, -⟩ := issued
          exact absurd session (other mem)
        · exact .inr ⟨rfl, mem⟩
    · obtain ⟨-, j, mem', -, there⟩ := (credited.knows id n q).1 known
      exact distinct.last mem' there mem
  · have room' : (l.rooms.insert i.fresh.session r).get? id = some r' := room
    rw [Table.get?_insert] at room'
    rcases List.mem_append.1 mem with old | new
    · rw [if_neg (by simpa using session ▸ other old)] at room'
      exact credited.holds id r' room' j old session
    · obtain rfl := List.mem_singleton.1 new
      rw [if_pos (by simpa using session.symm)] at room'
      cases room'
      exact holds

end Credited

/-! ### Operations -/

/-- What can be done to a lobby. -/
inductive Operation (K : Type) where
  | create (fresh : Fresh) (o : SessionOptions K)
  | call (c : Call K)
  | remove (session : String) (v : Viewer)
  | limit (limits : Limits)

variable [Scalar K]

/-- The lobby after an operation, whatever its answer. -/
def operate (l : Lobby K τ) : Operation K → Lobby K τ
  | .create fresh o => (l.create fresh o).2
  | .call c => (l.call c).2
  | .remove session v => (l.remove session v).2
  | .limit limits => { l with limits }

/-- The lobby after some operations. -/
def operated (l : Lobby K τ) (ops : List (Operation K)) : Lobby K τ := ops.foldl operate l

/-- The names that an operation issues: those of the session that it opens, if it opens one. -/
def issue? (l : Lobby K τ) : Operation K → Option Issue
  | .create fresh o =>
    if l.rooms.contains fresh.session then none
    else if (l.create fresh o).2.rooms.contains fresh.session then
      (l.plan o).toOption.map fun p => ⟨fresh, p.roleIds⟩
    else none
  | _ => none

/-- All names that are issued while some operations are carried out. -/
def issued : Lobby K τ → List (Operation K) → List Issue
  | _, [] => []
  | l, op :: ops => (l.issue? op).toList ++ issued (l.operate op) ops

variable {l : Lobby K τ} {issues : List Issue} {fresh : Fresh} {o : SessionOptions K}

/-- What the creator of a session learns is what was issued. -/
structure Tells (c : CreatedSession) (i : Issue) : Prop where
  session : c.session = i.fresh.session
  adminToken : c.adminToken = i.fresh.adminToken
  roleTokens : c.roleTokens = Table.ofList (i.roles.map fun role => (role, i.fresh.roleToken role))
  invites : c.invites = Table.ofList (i.roles.map fun role => (role, i.fresh.invite role))

theorem assemble_holds {p : SessionPlan K} {seed : String} {r : Room K τ}
    (h : l.assemble fresh p seed = .ok r) : r.Holds ⟨fresh, p.roleIds⟩ := by
  unfold assemble at h
  cases new : Simulation.new l.game.scene p.roles l.game.registry (Keystream.hashSeed seed) with
  | error e =>
    rw [new] at h
    cases h
  | ok s =>
    rw [new] at h
    cases h
    exact ⟨rfl, rfl, rfl⟩

omit [Scalar K] in
theorem SameWays.admitRoom {l₁ : Lobby K τ} (same : l.SameWays l₁) (id : String) (r : Room K τ) :
    (l.admitRoom id r).SameWays (l₁.admitRoom id r) where
  game := same.game
  rooms := congrArg (·.insert id r) same.rooms
  tokens := congrArg (·.insertAll (r.grants id)) same.tokens
  invites := congrArg (·.insertAll (r.invitations id)) same.invites

/-- A creation fails without having opened a session, or gets as far as the store. -/
theorem create_phases (l : Lobby K τ) (fresh : Fresh) (o : SessionOptions K) :
    (∃ e l₁, l.create fresh o = (.error e, l₁) ∧ l.SameWays l₁) ∨
      ∃ (p : SessionPlan K) (created : SessionEvent K) (l₁ : Lobby K τ) (r : Room K τ),
        l.plan o = .ok p ∧ l.rooms.contains fresh.session = false ∧ l.SameWays l₁ ∧
        r.Holds ⟨fresh, p.roleIds⟩ ∧
        l.create fresh o = (l₁.admitRoom fresh.session r).record fresh.session created
          ((l₁.admitRoom fresh.session r).created fresh.session r) := by
  unfold create
  cases planned : l.plan o with
  | error e => exact .inl ⟨e, l, rfl, rfl, rfl, rfl, rfl⟩
  | ok p =>
    dsimp only
    split
    · exact .inl ⟨_, l, rfl, rfl, rfl, rfl, rfl⟩
    · rename_i absent
      cases resolved : l.resolveSeed fresh o.seed (SessionEvent.metadata p.mode p.roleIds) with
      | error e => exact .inl ⟨e, l, rfl, rfl, rfl, rfl, rfl⟩
      | ok given =>
        obtain ⟨seed, l₁⟩ := given
        have reserved := resolveSeed_ok resolved
        have same : l.SameWays l₁ :=
          ⟨reserved.game, reserved.rooms, reserved.tokens, reserved.invites⟩
        dsimp only
        cases assembled : l₁.assemble fresh p seed with
        | error e => exact .inl ⟨_, l₁, rfl, same⟩
        | ok r =>
          exact .inr ⟨p, _, l₁, r, rfl, Bool.eq_false_iff.2 absent, same,
            assemble_holds assembled, rfl⟩

/-- A creation opens no session, or one with the names that were drawn for it. In the latter case it
may fail nevertheless, since the store may. -/
theorem create_admits (l : Lobby K τ) (fresh : Fresh) (o : SessionOptions K) :
    (l.issue? (.create fresh o) = none ∧ l.SameWays (l.create fresh o).2 ∧
      ∃ e, (l.create fresh o).1 = .error e) ∨
    ∃ i r, l.issue? (.create fresh o) = some i ∧ i.fresh = fresh ∧ r.Holds i ∧
      l.rooms.contains fresh.session = false ∧
      (l.admitRoom fresh.session r).SameWays (l.create fresh o).2 ∧
      ∀ created, (l.create fresh o).1 = .ok created → Tells created i := by
  rcases l.create_phases fresh o with
    ⟨e, l₁, failed, same⟩ | ⟨p, event, l₁, r, planned, absent, same, holds, created⟩
  · refine .inl ⟨?_, by rwa [failed], e, by rw [failed]⟩
    rw [issue?, failed]
    dsimp only
    rw [same.rooms]
    split <;> rfl
  · obtain ⟨store, left⟩ := record_store (l₁.admitRoom fresh.session r) fresh.session event
      ((l₁.admitRoom fresh.session r).created fresh.session r)
    have same' : (l.admitRoom fresh.session r).SameWays (l.create fresh o).2 := by
      have added := same.admitRoom fresh.session r
      rw [created, left]
      exact ⟨added.game, added.rooms, added.tokens, added.invites⟩
    refine .inr ⟨⟨fresh, p.roleIds⟩, r, ?_, rfl, holds, absent, same', fun c answer => ?_⟩
    · have there : (l.admitRoom fresh.session r).rooms.contains fresh.session = true := by
        rw [admitRoom, Table.contains_insert, beq_self_eq_true, Bool.or_true]
      rw [issue?, absent, same'.rooms, there, planned]
      rfl
    · rw [created] at answer
      rcases record_cases (l₁.admitRoom fresh.session r) fresh.session event
        ((l₁.admitRoom fresh.session r).created fresh.session r) with ok | ⟨cause, failed⟩
      · rw [ok] at answer
        cases answer
        exact ⟨rfl, holds.adminToken, holds.roleTokens, holds.invites⟩
      · rw [failed] at answer
        cases answer

/-- The game stays the same. -/
theorem operate_game (l : Lobby K τ) (op : Operation K) : (l.operate op).game = l.game := by
  cases op with
  | create fresh o =>
    rcases l.create_admits fresh o with ⟨-, same, -⟩ | ⟨i, r, -, -, -, -, same, -⟩
    · exact same.game
    · exact same.game
  | call c => exact (l.call_atomic c).game
  | remove session v => exact (l.remove_atomic session v).game
  | limit limits => rfl

/-- The names that an operation issues become known, and those of a session that it removes are
forgotten. -/
theorem operate_credited (credited : l.Credited issues) (op : Operation K)
    (distinct : Issue.Distinct (issues ++ (l.issue? op).toList)) :
    (l.operate op).Credited (issues ++ (l.issue? op).toList) := by
  cases op with
  | create fresh o =>
    rcases l.create_admits fresh o with ⟨none, same, -⟩ | ⟨i, r, new, rfl, holds, -, same, -⟩
    · rw [none, Option.toList_none, List.append_nil]
      exact credited.of_sameWays same
    · rw [new, Option.toList_some] at distinct ⊢
      exact (credited.admitRoom distinct holds).of_sameWays same
  | call c =>
    rw [show (l.issue? (.call c)).toList = [] from rfl, List.append_nil]
    exact credited.moved (l.call_moved c)
  | remove session v =>
    rw [show (l.issue? (.remove session v)).toList = [] from rfl, List.append_nil] at distinct ⊢
    show (l.remove session v).2.Credited issues
    rcases l.remove_cases session v with ⟨e, refused⟩ | ⟨r, room, -, removed⟩
    · rw [refused]
      exact credited
    · rw [removed]
      exact credited.revoke distinct room
  | limit limits =>
    rw [show (l.issue? (.limit limits)).toList = [] from rfl, List.append_nil]
    exact credited.of_sameWays ⟨rfl, rfl, rfl, rfl⟩

/-- A lobby in which distinct names are issued stays credited. -/
theorem credited_operated (credited : l.Credited issues) (ops : List (Operation K))
    (distinct : Issue.Distinct (issues ++ l.issued ops)) :
    (l.operated ops).Credited (issues ++ l.issued ops) := by
  induction ops generalizing l issues with
  | nil =>
    rw [issued, List.append_nil]
    exact credited
  | cons op ops ih =>
    rw [issued, ← List.append_assoc] at distinct ⊢
    exact ih (operate_credited credited op (Issue.distinct_append.1 distinct).1) distinct

end Lobby

end Playfield
