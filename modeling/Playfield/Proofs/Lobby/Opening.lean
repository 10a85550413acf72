import Playfield.Proofs.Lobby.Call

/-!
# What a new session starts with

* `selectRoles_logged`: the roles that take part are those of the scene that are in the log.
* `create_ok`: the room and the first event of a session that was created.
-/

namespace Playfield

variable {K τ : Type}

/-- The roles of the scene that are named. -/
def Scene.rolesOf (s : Scene K) (ids : List String) : List (Role K) :=
  s.roles.filter fun r => ids.contains r.id

theorem Scene.rolesOf_ids {s : Scene K} {p : Role K → Bool}
    (p_eq : ∀ r r' : Role K, r.id = r'.id → p r = p r') :
    s.rolesOf ((s.roles.filter p).map (·.id)) = s.roles.filter p := by
  unfold rolesOf
  refine List.filter_congr fun r mem => ?_
  rw [Bool.eq_iff_iff, List.contains_iff_mem, List.mem_map]
  constructor
  · rintro ⟨r', mem', same⟩
    rw [← p_eq r' r same]
    exact (List.mem_filter.1 mem').2
  · intro kept
    exact ⟨r, List.mem_filter.2 ⟨mem, kept⟩, rfl⟩

/-- The roles that take part can be told by their ids. -/
theorem Scene.selectRoles_logged {s : Scene K} {requested : Option (List String)}
    {roles : List (Role K)} (h : s.selectRoles requested = .ok roles) :
    s.rolesOf (roles.map (·.id)) = roles := by
  unfold selectRoles at h
  split at h
  · cases h
    have all := Scene.rolesOf_ids (s := s) (p := fun _ => true) fun _ _ _ => rfl
    simpa using all
  · split at h
    · cases h
    · split at h
      · cases h
      · cases h
        exact Scene.rolesOf_ids fun r r' same => by rw [same]

namespace Lobby

variable {l l' : Lobby K τ} {session seed : String} {metadata : Json K}

/-- Giving a seed away files no event, and no session is opened by it. -/
structure Reserved (l l' : Lobby K τ) : Prop where
  game : l'.game = l.game
  events : l'.store.events = l.store.events
  fault : l'.store.fault = l.store.fault
  rooms : l'.rooms = l.rooms
  tokens : l'.tokens = l.tokens
  invites : l'.invites = l.invites

theorem reserve_ok {s s' : Store K} (h : s.reserve session seed metadata = .ok s') :
    s'.events = s.events ∧ s'.fault = s.fault := by
  unfold Store.reserve at h
  repeat' split at h
  all_goals
    cases h
    try exact ⟨rfl, rfl⟩

theorem reserveSeed_ok (h : l.reserveSeed session seed metadata = .ok l') : Reserved l l' := by
  unfold reserveSeed at h
  split at h
  · cases h
  · split at h
    · cases h
    · cases h
    · split at h
      · cases h
      · rename_i store reserved
        cases h
        obtain ⟨events, fault⟩ := reserve_ok reserved
        exact ⟨rfl, events, fault, rfl, rfl, rfl⟩

theorem drawSeed_ok {seeds : Nat → String} {attempt left : Nat}
    (h : l.drawSeed session metadata seeds attempt left = .ok (seed, l')) : Reserved l l' := by
  induction left generalizing attempt with
  | zero => cases h
  | succ left ih =>
    unfold drawSeed at h
    split at h
    · rename_i reserved
      cases h
      exact reserveSeed_ok reserved
    · split at h
      · exact ih h
      · cases h

theorem resolveSeed_ok {fresh : Fresh} {requested : Option String}
    (h : l.resolveSeed fresh requested metadata = .ok (seed, l')) : Reserved l l' := by
  unfold resolveSeed at h
  split at h
  · split at h
    · cases h
    · rename_i wanted _
      cases reserved : l.reserveSeed fresh.session wanted metadata with
      | error e =>
        rw [reserved] at h
        cases h
      | ok l'' =>
        rw [reserved] at h
        cases h
        exact reserveSeed_ok reserved
  · exact drawSeed_ok h

variable [Scalar K] {fresh : Fresh} {o : SessionOptions K} {created : CreatedSession}

/-- The room of a new session and the event of its creation. -/
structure Opened (l l' : Lobby K τ) (id : String) (p : SessionPlan K) (seed : String)
    (s : Simulation K τ) (r : Room K τ) : Prop where
  simulation : Simulation.new l.game.scene p.roles l.game.registry (Keystream.hashSeed seed) = .ok s
  roles : l.game.scene.rolesOf p.roleIds = p.roles
  room : l'.rooms.get? id = some r
  session : r.session = .new { s with pace := p.pace } p.mode p.roles
  status : r.status = .created
  joined : r.joined = ∅
  filed : l'.store.eventsOf id = l.store.eventsOf id ++
    [SessionEvent.row id ((l.store.eventsOf id).length + 1) (.created seed p.mode p.roleIds)]

theorem roles_of_plan {p : SessionPlan K} (h : l.plan o = .ok p) :
    l.game.scene.rolesOf p.roleIds = p.roles := by
  unfold plan at h
  simp only [bind, Except.bind, pure, Except.pure] at h
  split at h
  · cases h
  · cases selected : l.game.scene.selectRoles o.roles with
    | error e =>
      rw [selected] at h
      cases h
    | ok roles =>
      rw [selected] at h
      dsimp only at h
      split at h
      · cases h
      · cases h
        exact Scene.selectRoles_logged selected

theorem assemble_ok {p : SessionPlan K} {r : Room K τ}
    (h : l.assemble fresh p seed = .ok r) : ∃ s,
      Simulation.new l.game.scene p.roles l.game.registry (Keystream.hashSeed seed) = .ok s ∧
      r.session = .new { s with pace := p.pace } p.mode p.roles ∧ r.seed = seed ∧
      r.status = .created ∧ r.joined = ∅ := by
  unfold assemble at h
  cases new : Simulation.new l.game.scene p.roles l.game.registry (Keystream.hashSeed seed) with
  | error e =>
    rw [new] at h
    cases h
  | ok s =>
    rw [new] at h
    cases h
    exact ⟨s, rfl, rfl, rfl, rfl, rfl⟩

/-- What is there of a session when its creator is answered. -/
theorem create_ok (h : l.create fresh o = (.ok created, l')) :
    ∃ p s r, l.Opened l' fresh.session p created.seed s r := by
  unfold create at h
  split at h
  · cases h
  · rename_i p planned
    split at h
    · cases h
    · split at h
      · cases h
      · rename_i seed l₁ resolved
        have reserved := resolveSeed_ok resolved
        split at h
        · cases h
        · rename_i r assembled
          obtain ⟨s, new, session, rfl, status, joined⟩ := assemble_ok assembled
          rcases record_cases (l₁.admitRoom fresh.session r) fresh.session
              (.created r.seed p.mode p.roleIds)
              ((l₁.admitRoom fresh.session r).created fresh.session r)
            with ok | ⟨cause, failed⟩
          · dsimp only at h
            rw [ok] at h
            cases h
            refine ⟨p, s, r, ?_, roles_of_plan planned, ?_, session, status, joined, ?_⟩
            · show Simulation.new _ _ _ (Keystream.hashSeed r.seed) = _
              rw [← reserved.game]
              exact new
            · simp [admitRoom, Table.get?_insert]
            · have before : l₁.store.eventsOf fresh.session = l.store.eventsOf fresh.session := by
                rw [Store.eventsOf, Store.eventsOf, reserved.events]
              have filed : ((l₁.admitRoom fresh.session r).store.file fresh.session
                  (.created r.seed p.mode p.roleIds)).eventsOf fresh.session = _ :=
                Store.eventsOf_file
              rw [show (l₁.admitRoom fresh.session r).store = l₁.store from rfl, before] at filed
              exact filed
          · dsimp only at h
            rw [failed] at h
            cases h

end Lobby

end Playfield
