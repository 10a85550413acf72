import Playfield.Proofs.Lobby.Change
import Playfield.Proofs.Lobby.Credentials

/-!
# Seeds that are given away

A seed is given away once. Each lobby remembers the seeds that it has given away itself; the store,
which it may share with others, remembers all of them.

* `Gives` says what a creation does that gives a seed away; `create_gives`: any other has done
  nothing at all.
* `drawSeed_error_iff`, `create_error_iff`: when no seed is left for a session.
* `Lobbies`: several lobbies with one store. `Lobbies.opened` are the seeds of the sessions that
  they open; `opened_new`: they are new and distinct.
* `seeds_are_never_given_twice` has all this of lobbies that have not given any seed away yet.

A creation may also fail before it comes to its seed, or with the store: `creation_fails_early`.
-/

namespace Playfield

variable {K τ : Type}

namespace Lobby

/-- The store knows all seeds that the lobby has given away. -/
def Backed (l : Lobby K τ) : Prop :=
  ∀ seed, l.seeds.contains seed = true → l.store.holds seed = true

/-- A seed that was free is given away to a session. -/
structure Gives (l : Lobby K τ) (session seed : String) (l' : Lobby K τ) : Prop where
  free : l.store.holds seed = false
  reservations : ∃ metadata,
    l'.store.reservations = l.store.reservations ++ [⟨seed, session, metadata⟩]
  seeds : l'.seeds = l.seeds.insert seed ()

section Reserve

variable {l l' : Lobby K τ} {session seed other : String} {metadata : Json K}
  {seeds : Nat → String} {attempt left : Nat}

theorem Gives.holds (gives : l.Gives session seed l') :
    l'.store.holds other = (l.store.holds other || seed == other) := by
  obtain ⟨metadata, reservations⟩ := gives.reservations
  rw [Store.holds, Store.holds, reservations, List.any_append, List.any_cons, List.any_nil,
    Bool.or_false]

theorem Gives.grows (gives : l.Gives session seed l') :
    l.store.reservations <+: l'.store.reservations := by
  obtain ⟨metadata, reservations⟩ := gives.reservations
  exact ⟨_, reservations.symm⟩

theorem Gives.backed (gives : l.Gives session seed l') (backed : l.Backed) : l'.Backed := by
  intro other known
  rw [gives.seeds, Table.contains_insert, Bool.or_eq_true] at known
  rw [gives.holds, Bool.or_eq_true]
  exact known.imp_left (backed other)

/-- What is done to a lobby apart from its seeds does not matter. -/
theorem Gives.of_eq {l'' : Lobby K τ} (gives : l.Gives session seed l')
    (reservations : l''.store.reservations = l'.store.reservations) (seeds : l''.seeds = l'.seeds) :
    l.Gives session seed l'' where
  free := gives.free
  reservations := reservations ▸ gives.reservations
  seeds := seeds.trans gives.seeds

theorem reserve_gives {s s' : Store K} (h : s.reserve session seed metadata = .ok s') :
    s.holds seed = false ∧ s'.reservations = s.reservations ++ [⟨seed, session, metadata⟩] := by
  unfold Store.reserve at h
  repeat' split at h
  all_goals
    cases h
    try exact ⟨Bool.eq_false_iff.2 ‹_›, rfl⟩

theorem reserveSeed_gives (h : l.reserveSeed session seed metadata = .ok l') :
    l.Gives session seed l' := by
  unfold reserveSeed at h
  split at h
  · cases h
  · split at h
    · cases h
    · cases h
    · split at h
      · cases h
      · rename_i store reserved
        cases h
        obtain ⟨free, reservations⟩ := reserve_gives reserved
        exact ⟨free, ⟨metadata, reservations⟩, rfl⟩

/-- Where the store is in order, nothing but a seed that is given away is refused. -/
theorem reserveSeed_of_free (backed : l.Backed) (sound : l.store.fault = none)
    (free : l.store.holds seed = false) :
    ∃ l', l.reserveSeed session seed metadata = .ok l' := by
  have unknown : l.seeds.contains seed = false := by
    refine Bool.eq_false_iff.2 fun known => ?_
    rw [backed seed known] at free
    cases free
  have reserved : l.store.reserve session seed metadata = .ok { l.store with
      reservations := l.store.reservations ++ [⟨seed, session, metadata⟩] } := by
    simp [Store.reserve, sound, free]
  have asked : l.store.isReserved seed = .ok false := by
    simp [Store.isReserved, sound, free]
  rw [reserveSeed, unknown, if_neg Bool.false_ne_true, asked]
  dsimp only
  rw [reserved]
  exact ⟨_, rfl⟩

theorem reserveSeed_seedTaken (sound : l.store.fault = none)
    (held : l.store.holds seed = true) :
    l.reserveSeed session seed metadata = .error (.seedTaken seed) := by
  cases known : l.seeds.contains seed <;>
    simp [reserveSeed, Store.isReserved, known, sound, held]

theorem drawSeed_gives (h : l.drawSeed session metadata seeds attempt left = .ok (seed, l')) :
    l.Gives session seed l' := by
  induction left generalizing attempt with
  | zero => cases h
  | succ left ih =>
    unfold drawSeed at h
    split at h
    · rename_i reserved
      cases h
      exact reserveSeed_gives reserved
    · split at h
      · exact ih h
      · cases h

/-- No seed is left just if all that are tried are given away. -/
theorem drawSeed_error_iff (backed : l.Backed) (sound : l.store.fault = none) :
    (∃ e, l.drawSeed session metadata seeds attempt left = .error e) ↔
      ∀ k, attempt ≤ k → k < attempt + left → l.store.holds (seeds k) = true := by
  induction left generalizing attempt with
  | zero => exact ⟨fun _ k le lt => by omega, fun _ => ⟨_, rfl⟩⟩
  | succ left ih =>
    unfold drawSeed
    cases held : l.store.holds (seeds attempt) with
    | false =>
      obtain ⟨l', reserved⟩ : ∃ l', l.reserveSeed session (seeds attempt) metadata = .ok l' :=
        reserveSeed_of_free backed sound held
      rw [reserved]
      constructor
      · rintro ⟨e, ⟨⟩⟩
      · intro all
        rw [all attempt (by omega) (by omega)] at held
        cases held
    | true =>
      -- With this error, and no other, the next seed is tried.
      rw [reserveSeed_seedTaken sound held]
      show (∃ e, l.drawSeed session metadata seeds (attempt + 1) left = .error e) ↔ _
      rw [ih]
      constructor
      · intro later k le lt
        rcases Nat.eq_or_lt_of_le le with rfl | lt'
        · exact held
        · exact later k lt' (by omega)
      · intro all k le lt
        exact all k (by omega) (by omega)

theorem resolveSeed_gives {fresh : Fresh} {requested : Option String}
    (h : l.resolveSeed fresh requested metadata = .ok (seed, l')) :
    l.Gives fresh.session seed l' ∧
      ∀ wanted, requested = some wanted → seed = wanted ∧ (Text.trim wanted).isEmpty = false := by
  unfold resolveSeed at h
  split at h
  · rename_i wanted
    split at h
    · cases h
    · rename_i blank
      cases reserved : l.reserveSeed fresh.session wanted metadata with
      | error e =>
        rw [reserved] at h
        cases h
      | ok l'' =>
        rw [reserved] at h
        cases h
        refine ⟨reserveSeed_gives reserved, fun w same => ?_⟩
        cases same
        exact ⟨rfl, Bool.eq_false_iff.2 blank⟩
  · exact ⟨drawSeed_gives h, nofun⟩

end Reserve

/-! ### Creations -/

section Create

variable [Scalar K] {l : Lobby K τ} {fresh : Fresh} {o : SessionOptions K}

/-- A creation has done nothing, or gives away the seed of the session that it opens. -/
theorem create_gives (l : Lobby K τ) (fresh : Fresh) (o : SessionOptions K) :
    (∃ e, l.create fresh o = (.error e, l)) ∨
      ∃ seed, l.Gives fresh.session seed (l.create fresh o).2 ∧
        l.rooms.contains fresh.session = false ∧
        (∀ wanted, o.seed = some wanted →
          seed = wanted ∧ (Text.trim wanted).isEmpty = false) ∧
        ((∃ e, (l.create fresh o).1 = .error e) ∧
            (l.create fresh o).2.rooms.get? fresh.session = none ∨
          (∃ r, (l.create fresh o).2.rooms.get? fresh.session = some r ∧ r.seed = seed) ∧
            ∀ created, (l.create fresh o).1 = .ok created → created.seed = seed) := by
  rcases l.create_inv fresh o with failed | ⟨p, seed, l₁, -, absent, resolved, phases⟩
  · exact .inl failed
  · obtain ⟨gives, wanted⟩ := resolveSeed_gives resolved
    refine .inr ⟨seed, ?_⟩
    rcases phases with ⟨e, -, failed⟩ | ⟨r, assembled, made⟩
    · have none : l₁.rooms.get? fresh.session = none := by
        rw [(resolveSeed_ok resolved).rooms]
        exact Option.not_isSome_iff_eq_none.1 (by rw [← Table.contains, absent]; simp)
      rw [failed]
      exact ⟨gives, absent, wanted, .inl ⟨⟨_, rfl⟩, none⟩⟩
    · obtain ⟨-, -, -, rfl, -, -⟩ := assemble_ok assembled
      have room : (l₁.admitRoom fresh.session r).rooms.get? fresh.session = some r :=
        Table.get?_insert_self ..
      rw [made]
      rcases record_cases (l₁.admitRoom fresh.session r) fresh.session
          (.created r.seed p.mode p.roleIds)
          ((l₁.admitRoom fresh.session r).created fresh.session r)
        with ok | ⟨cause, failed⟩
      · rw [ok]
        refine ⟨gives.of_eq rfl rfl, absent, wanted, .inr ⟨⟨r, room, rfl⟩, ?_⟩⟩
        rintro created ⟨⟩
        rfl
      · rw [failed]
        refine ⟨gives.of_eq rfl rfl, absent, wanted, .inr ⟨⟨r, room, rfl⟩, ?_⟩⟩
        rintro created ⟨⟩

/-- The seed of the session that an operation opens, if it opens one. -/
def opened? (l : Lobby K τ) : Operation K → Option String
  | .create fresh o =>
    if l.rooms.contains fresh.session then none
    else ((l.create fresh o).2.rooms.get? fresh.session).map (·.seed)
  | _ => none

/-- An operation gives away no seed, or one that was free and is that of the session opened. -/
theorem operate_gives (l : Lobby K τ) (op : Operation K) :
    (l.opened? op = none ∧ (l.operate op).store.reservations = l.store.reservations ∧
        (l.operate op).seeds = l.seeds) ∨
      ∃ session seed, l.Gives session seed (l.operate op) ∧
        ∀ s, l.opened? op = some s → s = seed := by
  cases op with
  | create fresh o =>
    rw [opened?]
    rcases l.create_gives fresh o with ⟨e, failed⟩ | ⟨seed, gives, absent, -, opened⟩
    · refine .inl ⟨?_, congrArg (·.2.store.reservations) failed, congrArg (·.2.seeds) failed⟩
      rw [failed]
      split
      · rfl
      · rename_i absent
        rw [Option.map_eq_none_iff]
        exact Option.not_isSome_iff_eq_none.1 absent
    · refine .inr ⟨fresh.session, seed, gives, fun s same => ?_⟩
      rw [absent] at same
      rcases opened with ⟨-, none⟩ | ⟨⟨r, room, rfl⟩, -⟩
      · rw [none] at same
        cases same
      · rw [room] at same
        cases same
        rfl
  | call c =>
    have around := l.call_around c
    exact .inl ⟨rfl, around.reservations, around.seeds⟩
  | remove session v =>
    refine .inl ⟨rfl, ?_⟩
    show (l.remove session v).2.store.reservations = _ ∧ (l.remove session v).2.seeds = _
    rcases l.remove_cases session v with ⟨e, refused⟩ | ⟨r, -, -, removed⟩
    · rw [refused]
      exact ⟨rfl, rfl⟩
    · rw [removed]
      exact ⟨rfl, rfl⟩
  | limit limits => exact .inl ⟨rfl, rfl, rfl⟩

/-- Where nothing else stands in the way, a creation fails just if no seed is to be had. -/
theorem create_error_iff {scene : Scene K} {registry : Registry K τ} {p : SessionPlan K}
    (accepted : Game.new scene registry = .ok l.game) (sound : l.store.fault = none)
    (planned : l.plan o = .ok p) (absent : l.rooms.contains fresh.session = false) :
    (∃ e, (l.create fresh o).1 = .error e) ↔ ∃ e,
      l.resolveSeed fresh o.seed (SessionEvent.metadata p.mode p.roleIds) = .error e := by
  unfold create
  rw [planned]
  dsimp only
  rw [absent, if_neg Bool.false_ne_true]
  cases resolved : l.resolveSeed fresh o.seed (SessionEvent.metadata p.mode p.roleIds) with
  | error e => exact ⟨fun _ => ⟨e, rfl⟩, fun _ => ⟨e, rfl⟩⟩
  | ok given =>
    obtain ⟨seed, l₁⟩ := given
    have reserved := resolveSeed_ok resolved
    rw [← reserved.game] at accepted
    obtain ⟨r, assembled⟩ := assemble_total accepted fresh p seed
    dsimp only
    rw [assembled]
    dsimp only
    have takes (type : String) : (l₁.admitRoom fresh.session r).store.refuses type = false := by
      show l₁.store.refuses type = false
      rw [Store.refuses, reserved.fault, sound]
    rw [record_answer, takes]
    constructor <;> rintro ⟨e, ⟨⟩⟩

/-- What a lobby does with seeds where it opens a session. -/
structure Sparing (l : Lobby K τ) : Prop where
  /-- A session gets a seed that is not given away, and the one that is wanted, if it is not
  blank. -/
  given : ∀ fresh o created, (l.create fresh o).1 = .ok created →
    l.opened? (.create fresh o) = some created.seed ∧ l.store.holds created.seed = false ∧
      ∀ wanted, o.seed = some wanted → created.seed = wanted ∧ (Text.trim wanted).isEmpty = false
  /-- One that is blank or given away is refused, and nothing has changed. -/
  refused : ∀ fresh o wanted, o.seed = some wanted →
    (Text.trim wanted).isEmpty = true ∨ l.store.holds wanted = true →
      ∃ e, l.create fresh o = (.error e, l)
  /-- Whatever else is refused has changed nothing either. -/
  kept : ∀ scene registry, Game.new scene registry = .ok l.game → ∀ fresh o e,
    (l.create fresh o).1 = .error e → e.kind ≠ .internal → (l.create fresh o).2 = l
  /-- Where no seed is wanted and the creation comes to draw one, it fails just if all that it may
  draw are given away. -/
  drawn : ∀ scene registry, Game.new scene registry = .ok l.game → l.store.fault = none →
    ∀ fresh o p, o.seed = none → l.plan o = .ok p → l.rooms.contains fresh.session = false →
      ((∃ e, (l.create fresh o).1 = .error e) ↔ ∀ attempt, 1 ≤ attempt →
        attempt ≤ l.maxSeedAttempts → l.store.holds (fresh.seed attempt) = true)

theorem Backed.sparing (backed : l.Backed) : l.Sparing where
  given fresh o created ok := by
    rcases l.create_gives fresh o with ⟨e, failed⟩ | ⟨seed, gives, absent, wanted, opened⟩
    · rw [failed] at ok
      cases ok
    · rcases opened with ⟨⟨e, failed⟩, -⟩ | ⟨⟨r, room, rfl⟩, told⟩
      · rw [failed] at ok
        cases ok
      · rw [told created ok]
        refine ⟨?_, gives.free, wanted⟩
        rw [opened?, absent, room]
        rfl
  refused fresh o wanted same bad := by
    rcases l.create_gives fresh o with failed | ⟨seed, gives, -, own, -⟩
    · exact failed
    · obtain ⟨rfl, visible⟩ := own wanted same
      rcases bad with blank | held
      · rw [blank] at visible
        cases visible
      · have free := gives.free
        rw [held] at free
        cases free
  kept scene registry accepted fresh o := (create_atomic accepted fresh o).refused
  drawn scene registry accepted sound fresh o p none planned absent := by
    rw [create_error_iff accepted sound planned absent, none]
    unfold resolveSeed
    dsimp only
    rw [drawSeed_error_iff backed sound]
    simp only [Nat.lt_one_add_iff]

end Create

end Lobby

/-! ### Several lobbies -/

/-- Lobbies with one store. -/
structure Lobbies (ι K τ : Type) where
  lobby : ι → Lobby K τ
  store : Store K

namespace Lobbies

variable {ι : Type}

/-- A lobby with the store that is shared. -/
def get (g : Lobbies ι K τ) (i : ι) : Lobby K τ := { g.lobby i with store := g.store }

variable [DecidableEq ι] [Scalar K]

/-- What one of the lobbies does. -/
def operate (g : Lobbies ι K τ) (op : ι × Lobby.Operation K) : Lobbies ι K τ :=
  let l := (g.get op.1).operate op.2
  { lobby := Function.update g.lobby op.1 l, store := l.store }

/-- The lobbies after some operations. -/
def operated (g : Lobbies ι K τ) (ops : List (ι × Lobby.Operation K)) : Lobbies ι K τ :=
  ops.foldl operate g

/-- The seeds of all sessions that are opened by some operations. -/
def opened : Lobbies ι K τ → List (ι × Lobby.Operation K) → List String
  | _, [] => []
  | g, op :: ops => ((g.get op.1).opened? op.2).toList ++ opened (g.operate op) ops

variable {g : Lobbies ι K τ} {seed : String}

theorem store_operate (g : Lobbies ι K τ) (op : ι × Lobby.Operation K) :
    (g.operate op).store = ((g.get op.1).operate op.2).store :=
  rfl

theorem get_operate_self (g : Lobbies ι K τ) (op : ι × Lobby.Operation K) :
    (g.operate op).get op.1 = (g.get op.1).operate op.2 := by
  have own : (g.operate op).lobby op.1 = (g.get op.1).operate op.2 := Function.update_self ..
  rw [get, own, store_operate]

theorem lobby_operate_of_ne {i : ι} {op : ι × Lobby.Operation K} (other : i ≠ op.1) :
    (g.operate op).lobby i = g.lobby i :=
  Function.update_of_ne other ..

/-- No reservation is taken back. -/
theorem operate_grows (g : Lobbies ι K τ) (op : ι × Lobby.Operation K) :
    g.store.reservations <+: (g.operate op).store.reservations := by
  rcases (g.get op.1).operate_gives op.2 with ⟨-, same, -⟩ | ⟨session, seed, gives, -⟩
  · rw [store_operate, same]
    exact List.prefix_rfl
  · exact gives.grows

theorem operated_grows (g : Lobbies ι K τ) (ops : List (ι × Lobby.Operation K)) :
    g.store.reservations <+: (g.operated ops).store.reservations := by
  induction ops generalizing g with
  | nil => exact List.prefix_rfl
  | cons op ops ih => exact (g.operate_grows op).trans (ih (g.operate op))

omit [DecidableEq ι] [Scalar K] in
theorem holds_of_grown {s s' : Store K} (le : s.reservations <+: s'.reservations)
    (held : s.holds seed = true) : s'.holds seed = true := by
  rw [Store.holds, List.any_eq_true] at held ⊢
  obtain ⟨r, mem, same⟩ := held
  exact ⟨r, le.subset mem, same⟩

/-- The store knows all seeds that the lobbies have given away. -/
theorem operate_backed (backed : ∀ i, (g.get i).Backed) (op : ι × Lobby.Operation K) (i : ι) :
    ((g.operate op).get i).Backed := by
  by_cases own : i = op.1
  · subst own
    rw [get_operate_self]
    rcases (g.get op.1).operate_gives op.2 with ⟨-, reservations, seeds⟩ | ⟨session, seed, gives, -⟩
    · intro seed known
      rw [seeds] at known
      rw [Store.holds, reservations]
      exact backed op.1 seed known
    · exact gives.backed (backed op.1)
  · -- Another lobby has the seeds that it had, and the store has not lost any.
    intro seed known
    have before : (g.lobby i).seeds.contains seed = true := by
      rw [← lobby_operate_of_ne own]
      exact known
    exact holds_of_grown (g.operate_grows op) (backed i seed before)

theorem operated_backed (backed : ∀ i, (g.get i).Backed) (ops : List (ι × Lobby.Operation K))
    (i : ι) : ((g.operated ops).get i).Backed := by
  induction ops generalizing g with
  | nil => exact backed i
  | cons op ops ih => exact ih (operate_backed backed op)

theorem opened_operate {op : ι × Lobby.Operation K}
    (opened : (g.get op.1).opened? op.2 = some seed) :
    g.store.holds seed = false ∧ (g.operate op).store.holds seed = true := by
  rcases (g.get op.1).operate_gives op.2 with ⟨none, -⟩ | ⟨session, given, gives, own⟩
  · rw [none] at opened
    cases opened
  · obtain rfl := own seed opened
    refine ⟨gives.free, ?_⟩
    rw [store_operate, gives.holds, beq_self_eq_true, Bool.or_true]

/-- The sessions that are opened have seeds that were not given away before, all distinct. -/
theorem opened_new (g : Lobbies ι K τ) (ops : List (ι × Lobby.Operation K)) :
    (g.opened ops).Nodup ∧ ∀ seed ∈ g.opened ops,
      g.store.holds seed = false ∧ (g.operated ops).store.holds seed = true := by
  induction ops generalizing g with
  | nil => exact ⟨List.nodup_nil, nofun⟩
  | cons op ops ih =>
    obtain ⟨nodup, new⟩ := ih (g.operate op)
    -- Seeds that are free after the operation were free before it.
    have later (seed : String) (mem : seed ∈ (g.operate op).opened ops) :
        g.store.holds seed = false ∧ (g.operated (op :: ops)).store.holds seed = true := by
      obtain ⟨free, held⟩ := new seed mem
      refine ⟨Bool.eq_false_iff.2 fun before => ?_, held⟩
      rw [holds_of_grown (g.operate_grows op) before] at free
      cases free
    rw [opened]
    cases now : (g.get op.1).opened? op.2 with
    | none => exact ⟨nodup, later⟩
    | some seed =>
      obtain ⟨free, held⟩ := opened_operate now
      have kept := holds_of_grown ((g.operate op).operated_grows ops) held
      refine ⟨List.nodup_cons.2 ⟨fun again => ?_, nodup⟩, fun other mem => ?_⟩
      · -- Were the seed given to a later session, it would be free now.
        have unused := (new seed again).1
        rw [held] at unused
        cases unused
      · rcases List.mem_cons.1 mem with rfl | mem
        · exact ⟨free, kept⟩
        · exact later other mem

/-- Whatever several lobbies with one store do, the sessions that they open have distinct seeds,
which no reservation from before has; no reservation is ever taken back or changes its owner; the
store knows the seeds that the lobbies have given away, and they are sparing with others. -/
theorem seeds_are_never_given_twice {g : Lobbies ι K τ} (unused : ∀ i, (g.lobby i).seeds = ∅)
    (ops : List (ι × Lobby.Operation K)) :
    let g' := g.operated ops
    (g.opened ops).Nodup ∧
      (∀ seed ∈ g.opened ops, g.store.holds seed = false ∧ g'.store.holds seed = true) ∧
      (∀ later, g'.store.reservations <+: (g'.operated later).store.reservations) ∧
      (∀ i seed, (g'.lobby i).seeds.contains seed = true → g'.store.holds seed = true) ∧
      ∀ i, (g'.get i).Sparing := by
  intro g'
  have none (i : ι) : (g.get i).Backed := by
    intro seed known
    rw [Lobbies.get, unused] at known
    cases known
  have backed : ∀ i, (g'.get i).Backed := operated_backed none ops
  obtain ⟨nodup, new⟩ := g.opened_new ops
  exact ⟨nodup, new, g'.operated_grows, backed, fun i => (backed i).sparing⟩

/-! ### Two lobbies -/

namespace Pair

/-- Two lobbies with a store. -/
def lobbies : Lobbies Bool Rat Empty := { lobby := fun _ => Lobby.Gate.lobby none, store := {} }

/-- One opens a session and removes it, the other opens one with a seed that it draws. -/
def ops : List (Bool × Lobby.Operation Rat) :=
  [(true, .create (Lobby.Gate.fresh "x") { seed := some "s" }), (true, .remove "x" .admin),
    (false, .create (Lobby.Gate.fresh "y") {})]

/-- The other lobby after that. -/
def second : Lobby Rat Empty := (lobbies.operated ops).get false

theorem accepted : Game.new second.game.scene second.game.registry = .ok second.game :=
  Lobby.game_of_isOk (by decide +kernel)

end Pair

/-- The seed of a session that was removed in one lobby is refused in the other, and is not drawn
there. -/
theorem removed_seed_stays_given :
    (∀ i, (Pair.lobbies.lobby i).seeds = ∅) ∧ Pair.lobbies.opened Pair.ops = ["s", "y"] ∧
      (∃ e, Pair.second.create (Lobby.Gate.fresh "z") { seed := some "s" } =
        (.error e, Pair.second)) ∧
      ∃ e, (Pair.second.create { Lobby.Gate.fresh "z" with seed := fun _ => "s" } {}).1 =
        .error e := by
  have unused (i : Bool) : (Pair.lobbies.lobby i).seeds = ∅ := rfl
  have held : Pair.second.store.holds "s" = true := by decide +kernel
  obtain ⟨-, -, -, -, sparing⟩ := seeds_are_never_given_twice unused Pair.ops
  refine ⟨unused, by decide +kernel, (sparing false).refused _ _ "s" rfl (.inr held), ?_⟩
  have planned : (Pair.second.plan {}).isOk = true := by decide +kernel
  cases plan : Pair.second.plan {} with
  | error e =>
    rw [plan] at planned
    cases planned
  | ok p =>
    exact ((sparing false).drawn _ _ Pair.accepted rfl _ _ p rfl plan (by decide +kernel)).2
      fun _ _ _ => held

/-- A creation may fail though none of the seeds that it may draw is given away: where there are as
many sessions as there may be, and where the store cannot be asked. -/
theorem creation_fails_early :
    let full : Lobby Rat Empty := { Lobby.Gate.left with limits := { maxSessions := 1 } }
    let broken := Lobby.Gate.lobby (some .noLookup)
    ((full.create (Lobby.Gate.fresh "z") {}).1 = .error (.sessionLimit 1) ∧
        ∀ attempt, full.store.holds ((Lobby.Gate.fresh "z").seed attempt) = false) ∧
      ((broken.create (Lobby.Gate.fresh "z") {}).1 = .error (.ofStore Store.outage) ∧
        ∀ attempt, broken.store.holds ((Lobby.Gate.fresh "z").seed attempt) = false) := by
  have free : Lobby.Gate.left.store.holds "z" = false := by decide +kernel
  refine ⟨⟨?_, fun _ => free⟩, ?_, fun _ => rfl⟩
  · rfl
  · rfl

end Lobbies

end Playfield
