import Mathlib.Order.Bounds.Basic
import Playfield.Proofs.World.Reuse

/-!
# The search for a free uid

When an actor is spawned, numbers are tried one after the other until one makes a uid that the index
of the live actors does not have. Nothing bounds the search but the number of live actors.

* `World.Search`: the numbers that are tried, and the one at which the search stops.
  `search_of_least`, `Search.unique`: it stops at the first free number, and there only.
* `isLeast_nextSpawn`, `nextSpawn_le_length`: what number that is, and how far it may be.
* `World.Listed`: the index has the uids of the live actors, distinct or not. Every operation that
  changes no uid keeps it so (`Listed.run`).
* `World.spawnings` are the spawnings among some operations; what one leaves is where the next one
  goes on (`spawnings_counted`).
-/

namespace Playfield

open World

variable {K : Type}

namespace World

/-! ### One search -/

/-- A search for the uid of a new actor, which goes on from the number after `last` until it finds
a uid that is not taken: the numbers that are tried, and the last of them. -/
inductive Search (taken : String → Prop) (type : String) : ℕ → List ℕ → ℕ → Prop
  | stop {last : ℕ} (free : ¬taken (spawnUid type (last + 1))) :
    Search taken type last [last + 1] (last + 1)
  | next {last n : ℕ} {tried : List ℕ} (closed : taken (spawnUid type (last + 1)))
    (more : Search taken type (last + 1) tried n) :
    Search taken type last ((last + 1) :: tried) n

variable {taken : String → Prop} {type : String} {last n n' : ℕ} {tried tried' : List ℕ}

/-- A search has no choice. -/
theorem Search.unique (h : Search taken type last tried n) (h' : Search taken type last tried' n') :
    tried' = tried ∧ n' = n := by
  induction h generalizing tried' with
  | stop free =>
    cases h' with
    | stop _ => exact ⟨rfl, rfl⟩
    | next closed _ => exact absurd closed free
  | next closed _ ih =>
    cases h' with
    | stop free => exact absurd closed free
    | next _ more' =>
      obtain ⟨rfl, rfl⟩ := ih more'
      exact ⟨rfl, rfl⟩

/-- A search tries the numbers up to the first free one. -/
theorem search_of_least (least : IsLeast {m | last < m ∧ ¬taken (spawnUid type m)} n) :
    Search taken type last (List.range' (last + 1) (n - last)) n := by
  obtain ⟨⟨later, free⟩, first⟩ := least
  induction left : n - last generalizing last with
  | zero => omega
  | succ k ih =>
    rw [List.range'_succ]
    by_cases closed : taken (spawnUid type (last + 1))
    · have ne : last + 1 ≠ n := fun same => free (same ▸ closed)
      have first' : n ∈ lowerBounds {m | last + 1 < m ∧ ¬taken (spawnUid type m)} :=
        fun m h => first ⟨(Nat.lt_succ_self last).trans h.1, h.2⟩
      exact .next closed (ih first' (by omega) (by omega))
    · have le : n ≤ last + 1 := first ⟨Nat.lt_succ_self last, closed⟩
      obtain rfl : n = last + 1 := by omega
      obtain rfl : k = 0 := by omega
      exact .stop closed

/-! ### The number that is found -/

theorem isLeast_nextSpawn (w : World K) (type : String) :
    IsLeast {m | w.spawned < m ∧ w.index.get? (spawnUid type m) = none} (w.nextSpawn type) :=
  ⟨⟨w.lt_nextSpawn type, w.nextSpawn_free type⟩, fun _ h => nextSpawn_le h.1 h.2⟩

/-- One number more than there are actors is enough. -/
theorem nextSpawn_le_length {w : World K} (filed : w.Filed) (type : String) :
    w.nextSpawn type ≤ w.spawned + w.actors.length + 1 := by
  have entries : w.index.entries.length ≤ w.actors.length := Table.Places.length_le filed
  unfold nextSpawn
  cases found : (List.range' (w.spawned + 1) (w.index.entries.length + 1)).find? fun n =>
      !w.index.contains (spawnUid type n) with
  | none =>
    rw [Option.getD_none]
    omega
  | some n =>
    have mem := List.mem_of_find?_eq_some found
    rw [List.mem_range'_1] at mem
    rw [Option.getD_some]
    omega

variable [Scalar K] {w : World K} {r : SpawnRequest K}

theorem spawned_spawn (known : w.scene.knowsType r.type = true) :
    (w.spawn r).2.spawned = w.nextSpawn r.type := by
  simp only [spawn, known, if_true]
  split <;> rfl

end World

/-! ### The index -/

namespace World

/-- The index has the uids of the live actors. -/
def Listed (w : World K) : Prop := ∀ uid, w.index.get? uid = none ↔ uid ∉ w.actors.map Actor.uid

variable {w w' : World K}

theorem get?_positions_eq_none_iff {names : List String} {name : String} :
    (positions names).get? name = none ↔ name ∉ names := by
  rw [← contains_positions, Table.contains, Option.not_isSome_iff_eq_none]

theorem Listed.of_uids (listed : w.Listed) (index : w'.index = w.index)
    (uids : w'.actors.map Actor.uid = w.actors.map Actor.uid) : w'.Listed := by
  rw [Listed, index, uids]
  exact listed

theorem Act.Effect.listed {a : Act K} (h : a.Effect w w') (keeps : a.KeepsUids)
    (listed : w.Listed) : w'.Listed := by
  cases h with
  | none _ actors index => exact listed.of_uids index (congrArg _ actors)
  | edit uid f edited => exact edited ▸ listed.of_uids rfl (map_modifyActor keeps)
  | setField uid name v v' edited =>
    exact edited ▸ listed.of_uids rfl (map_modifyActor fun _ => rfl)
  | spawn r b free actors index =>
    intro uid
    rw [index, actors, List.map_append, List.mem_append, List.map_singleton, List.mem_singleton,
      not_or, ← listed uid]
    by_cases same : uid = b.uid
    · simp [same, Table.get?_insert_self]
    · simp [same, Table.get?_insert_of_ne]
  | destroy found actors index =>
    intro uid
    rw [index]
    exact get?_positions_eq_none_iff

variable [Scalar K]

theorem listed_of_new {sc : Scene K} {roles : List (Role K)} (h : World.new sc roles = .ok w) :
    w.Listed := by
  intro uid
  rw [index_of_new h]
  exact get?_positions_eq_none_iff

theorem Listed.run (listed : w.Listed) {ops : List (Op K)} (keeps : ∀ op ∈ ops, op.KeepsUids) :
    (ops.foldl Op.apply w).Listed := by
  induction ops generalizing w with
  | nil => exact listed
  | cons op ops ih =>
    rw [List.forall_mem_cons] at keeps
    refine ih ?_ keeps.2
    cases op with
    | act a => exact (a.effect w).listed keeps.1 listed
    | _ => exact listed

end World

/-! ### All searches of a run -/

namespace World

variable [Scalar K] {w : World K} {ops : List (Op K)}

/-- The request to spawn an actor that an operation makes. -/
def Op.request? : Op K → Option (SpawnRequest K)
  | act (.spawn r) => some r
  | _ => none

omit [Scalar K] in
theorem Op.eq_of_request? {op : Op K} {r : SpawnRequest K} (h : op.request? = some r) :
    op = act (.spawn r) := by
  unfold request? at h
  split at h
  · exact congrArg (fun r => act (.spawn r)) (Option.some.inj h)
  · cases h

/-- The spawnings among some operations: what is asked for, and of which world. -/
def spawnings : World K → List (Op K) → List (World K × SpawnRequest K)
  | _, [] => []
  | w, op :: ops => (op.request?.map (w, ·)).toList ++ spawnings (op.apply w) ops

/-- The numbers at which the searches of some spawnings stop. For a type that is not known there is
no search. -/
def numbers (calls : List (World K × SpawnRequest K)) : List ℕ :=
  (calls.filter fun c => c.1.scene.knowsType c.2.type).map fun c => (c.1.spawn c.2).2.spawned

/-- The uids that some spawnings give. -/
def uidsGiven (calls : List (World K × SpawnRequest K)) : List String :=
  calls.filterMap fun c => (c.1.spawn c.2).1.toOption

/-- Each spawning finds the numbers of the earlier ones used up. -/
theorem spawnings_counted (w : World K) (ops : List (Op K)) :
    (∀ c ∈ w.spawnings ops, w.spawned ≤ c.1.spawned) ∧
      (w.spawnings ops).Pairwise fun c c' => (c.1.spawn c.2).2.spawned ≤ c'.1.spawned := by
  induction ops generalizing w with
  | nil => exact ⟨fun c mem => absurd mem List.not_mem_nil, .nil⟩
  | cons op ops ih =>
    obtain ⟨later, counted⟩ := ih (op.apply w)
    have more := w.spawned_apply_le op
    have after : ∀ c ∈ (op.apply w).spawnings ops, w.spawned ≤ c.1.spawned :=
      fun c mem => more.trans (later c mem)
    rw [spawnings]
    cases asked : op.request? with
    | none => exact ⟨after, counted⟩
    | some r =>
      obtain rfl := op.eq_of_request? asked
      exact ⟨List.forall_mem_cons.2 ⟨le_rfl, after⟩, .cons later counted⟩

/-- Successive searches stop at greater and greater numbers. -/
theorem numbers_increase (w : World K) (ops : List (Op K)) :
    (numbers (w.spawnings ops)).Pairwise (· < ·) := by
  refine List.pairwise_map.2 ?_
  refine ((w.spawnings_counted ops).2.sublist List.filter_sublist).imp_of_mem ?_
  intro c c' _ mem le
  rw [spawned_spawn (List.mem_filter.1 mem).2]
  exact le.trans_lt (c'.1.lt_nextSpawn c'.2.type)

/-- No two spawnings give the same uid. -/
theorem nodup_uidsGiven (w : World K) (ops : List (Op K)) :
    (uidsGiven (w.spawnings ops)).Nodup := by
  refine List.pairwise_filterMap.2 ((w.spawnings_counted ops).2.imp ?_)
  rintro c c' le uid given uid' given' rfl
  have number {v : World K} {r : SpawnRequest K} (given : (v.spawn r).1.toOption = some uid) :
      uid = spawnUid r.type (v.spawn r).2.spawned ∧ v.spawned < (v.spawn r).2.spawned := by
    obtain ⟨named, lt, -⟩ := spawn_number (Prod.ext (eq_ok_of_toOption given) rfl)
    exact ⟨named, lt⟩
  obtain ⟨same, -⟩ := number given
  obtain ⟨same', lt⟩ := number given'
  have := spawnUid_number (same.symm.trans same')
  omega

end World

variable [Scalar K]

namespace Purse

/-- A request for an actor of a type. -/
def request (type : String) : SpawnRequest Rat := ⟨type, 0, 0, 0, 0, none, ∅⟩

/-- A coin. -/
def coin (uid : String) : Placement Rat :=
  { uid, type := "coin", x := 0, y := 0, width := none, height := none, layer := none
    blockMask := none, vx := 0, vy := 0, parent := none, sprite := none, active := true
    physics := none, fields := ∅ }

/-- Two coins that look spawned, in a scene with a type that looks like the first of them. -/
def scene : Scene Rat :=
  { Scene.default with
    templates := Table.ofList [("coin", Template.default), ("coin_1", Template.default)]
    actors := [coin "coin_1", coin "coin_5"] }

/-- Actors of both types and of an unknown one are asked for, and a coin is destroyed. -/
def ops : List (Op Rat) :=
  [.act (.spawn (request "coin")), .act (.spawn (request "coin_1")), .act (.destroy "coin_1"),
    .act (.spawn (request "medal")), .act (.spawn (request "coin"))]

/-- The uids that are given, those of who is left, and that of one more coin. -/
def contents : Option (List String × List String × Option String) :=
  (World.new scene []).toOption.map fun w =>
    (uidsGiven (w.spawnings ops), (ops.foldl Op.apply w).actors.map Actor.uid,
      ((ops.foldl Op.apply w).spawn (request "coin")).1.toOption)

end Purse

end Playfield
