import Playfield.Proofs.Simulation.Start
import Playfield.Proofs.World.Ledger

/-!
# Uids that are given again

A spawned actor gets a number that none had before, and a uid that ends in it. So no uid of a
spawned actor is ever given again. The uids of declared actors have no such number: when a declared
actor is destroyed, its uid may look like that of the next actor to be spawned.

* `spawnUid_number`: the uid of a spawned actor tells its number, whatever its type.
* `created_run`: whoever was created since the start has a number that was given.
* `exists_spawns`: a free uid with a number to come is given sooner or later.
* `Scene.NamesOnce`: no spawned actor of the scene has the uid of an earlier one.
  `given_again_iff_declared` says when a uid is given again, and which scenes let that happen.
-/

namespace Playfield

open World

variable {K : Type}

/-- Actors of the type can be spawned. -/
def Scene.CanSpawn [Scalar K] (sc : Scene K) (type : String) : Prop :=
  sc.knowsType type = true ∧ ∃ own fields, sc.fieldsOf type own = .ok fields

namespace World

/-- The uid ends in a number that was given to a spawned actor. -/
def Numbered (w : World K) (uid : String) : Prop :=
  ∃ type n, uid = spawnUid type n ∧ n ≤ w.spawned

theorem toList_spawnUid (type : String) (n : ℕ) :
    (spawnUid type n).toList = (type.toList ++ ['_']) ++ Nat.toDigits 10 n := by
  unfold spawnUid
  simp [toString]

/-- The number of a uid consists of the digits after its last other character. -/
theorem takeWhile_spawnUid (type : String) (n : ℕ) :
    (spawnUid type n).toList.reverse.takeWhile Char.isDigit = (Nat.toDigits 10 n).reverse := by
  have digits : ∀ c ∈ (Nat.toDigits 10 n).reverse, c.isDigit = true := fun c mem =>
    Nat.isDigit_of_mem_toDigits (by omega) (by omega) (List.mem_reverse.1 mem)
  rw [toList_spawnUid, List.reverse_append, List.takeWhile_append_of_pos digits]
  simp

/-- The uid of a spawned actor tells its number, whatever its type. -/
theorem spawnUid_number {type type' : String} {n m : ℕ} (h : spawnUid type n = spawnUid type' m) :
    n = m := by
  have digits := takeWhile_spawnUid type n
  rw [h, takeWhile_spawnUid, List.reverse_inj] at digits
  rw [← Nat.ofDigitChars_toDigits (b := 10) (n := n) (by omega) (by omega), ← digits,
    Nat.ofDigitChars_toDigits (by omega) (by omega)]

/-! ### The numbers that are given -/

theorem lt_nextSpawn (w : World K) (type : String) : w.spawned < w.nextSpawn type := by
  unfold nextSpawn
  cases found : (List.range' (w.spawned + 1) (w.index.entries.length + 1)).find? fun n =>
      !w.index.contains (spawnUid type n) with
  | none =>
    rw [Option.getD_none]
    omega
  | some n =>
    have mem := List.mem_of_find?_eq_some found
    rw [List.mem_range'_1] at mem
    rw [Option.getD_some]
    omega

/-- No free number to come is passed over. -/
theorem nextSpawn_le {w : World K} {type : String} {n : ℕ} (later : w.spawned < n)
    (free : w.index.get? (spawnUid type n) = none) : w.nextSpawn type ≤ n := by
  have fits : (!w.index.contains (spawnUid type n)) = true := by
    rw [Table.contains, free]
    rfl
  unfold nextSpawn
  cases found : (List.range' (w.spawned + 1) (w.index.entries.length + 1)).find? fun n =>
      !w.index.contains (spawnUid type n) with
  | none =>
    by_contra less
    rw [Option.getD_none] at less
    have mem : n ∈ List.range' (w.spawned + 1) (w.index.entries.length + 1) := by
      rw [List.mem_range'_1]
      omega
    exact List.find?_eq_none.1 found n mem fits
  | some m =>
    obtain ⟨-, i, bound, rfl, before⟩ := List.find?_eq_some_iff_getElem.1 found
    rw [Option.getD_some, List.getElem_range', Nat.one_mul]
    by_contra less
    -- The number stands in the list before the one that was found.
    have passed := before (n - (w.spawned + 1)) (by omega)
    rw [List.getElem_range', Nat.one_mul, Nat.add_sub_cancel' later] at passed
    rw [fits] at passed
    cases passed

variable [Scalar K] {w w' : World K} {r : SpawnRequest K} {uid : String}

/-- A spawned actor has a new number. -/
theorem spawn_number (h : w.spawn r = (.ok uid, w')) :
    uid = spawnUid r.type w'.spawned ∧ w.spawned < w'.spawned ∧ w.scene.CanSpawn r.type := by
  simp only [spawn] at h
  repeat' split at h
  all_goals cases h
  rename_i known _ fields fits
  exact ⟨rfl, w.lt_nextSpawn r.type, known, r.fields, fields, fits⟩

/-- What is spawned where type and fields are right. -/
theorem spawn_of_fits {fields : Fields K} (known : w.scene.knowsType r.type = true)
    (fits : w.scene.fieldsOf r.type r.fields = .ok fields) :
    ∃ w', w.spawn r = (.ok (spawnUid r.type (w.nextSpawn r.type)), w') ∧
      w'.spawned = w.nextSpawn r.type ∧ w'.scene = w.scene ∧
      w'.index = w.index.insert (spawnUid r.type (w.nextSpawn r.type)) w.actors.length := by
  simp only [spawn, known, fits, if_true]
  exact ⟨_, rfl, rfl, rfl, rfl⟩

theorem spawned_spawn_le (w : World K) (r : SpawnRequest K) :
    w.spawned ≤ (w.spawn r).2.spawned := by
  have less := (w.lt_nextSpawn r.type).le
  simp only [spawn]
  repeat' split
  · exact less
  · exact less
  · exact le_rfl

/-- Numbers are never taken back. -/
theorem spawned_apply_le (w : World K) (op : Op K) : w.spawned ≤ (op.apply w).spawned := by
  cases op with
  | act a =>
    cases a with
    | spawn r => exact w.spawned_spawn_le r
    | destroy uid =>
      simp only [Op.apply, Act.apply, destroy]
      split <;> exact le_rfl
    | setField uid name v =>
      simp only [Op.apply, Act.apply, setField]
      repeat' split
      all_goals exact le_rfl
    | setRoleField role name v =>
      simp only [Op.apply, Act.apply, setRoleField]
      split <;> exact le_rfl
    | _ => exact le_rfl
  | _ => exact le_rfl

theorem scene_foldl (w : World K) (ops : List (Op K)) :
    (ops.foldl Op.apply w).scene = w.scene := by
  induction ops generalizing w with
  | nil => rfl
  | cons op ops ih =>
    have first : (op.apply w).scene = w.scene := by
      cases op with
      | act a => exact a.apply_scene w
      | _ => rfl
    exact (ih _).trans first

omit [Scalar K] in
theorem Numbered.mono (h : w.Numbered uid) (le : w.spawned ≤ w'.spawned) : w'.Numbered uid := by
  obtain ⟨type, n, rfl, given⟩ := h
  exact ⟨type, n, rfl, given.trans le⟩

theorem spawned_of_new {s : Scene K} {roles : List (Role K)} (h : World.new s roles = .ok w) :
    w.spawned = 0 := by
  obtain ⟨actors, -, rfl⟩ := eq_of_new h
  rfl

/-- A free uid with a number to come is given if its type is spawned often enough. -/
theorem exists_spawns {fields : Fields K} {n : ℕ} (known : w.scene.knowsType r.type = true)
    (fits : w.scene.fieldsOf r.type r.fields = .ok fields) (later : w.spawned < n)
    (free : w.index.get? (spawnUid r.type n) = none) :
    ∃ k, (((List.replicate k (Op.act (.spawn r))).foldl Op.apply w).spawn r).1 =
      .ok (spawnUid r.type n) := by
  induction left : n - w.spawned using Nat.strongRecOn generalizing w with
  | _ m ih =>
  obtain ⟨w', spawned, number, scene, index⟩ := spawn_of_fits known fits
  have le := nextSpawn_le later free
  have lt := w.lt_nextSpawn r.type
  by_cases now : w.nextSpawn r.type = n
  · refine ⟨0, ?_⟩
    rw [List.replicate_zero, List.foldl_nil, spawned, now]
  · -- The uid stays free, since another number was given.
    have free' : w'.index.get? (spawnUid r.type n) = none := by
      rw [index, Table.get?_insert_of_ne _ _ fun same => now (spawnUid_number same).symm]
      exact free
    rw [← scene] at known fits
    obtain ⟨k, given⟩ := ih (n - w'.spawned) (by omega) known fits (by omega) free' rfl
    refine ⟨k + 1, ?_⟩
    have first : Op.apply w (.act (.spawn r)) = w' := congrArg Prod.snd spawned
    rw [List.replicate_succ, List.foldl_cons, first]
    exact given

end World

/-! ### All actors that were ever created -/

namespace Ledger

variable [Scalar K]

/-- The list of all uids only grows, by uids with new numbers. -/
theorem created_enter (l : Ledger K) (op : Op K) :
    ∃ later, (l.enter op).created = l.created ++ later ∧
      ∀ uid ∈ later, (l.enter op).world.Numbered uid := by
  have same {l' : Ledger K} (h : l'.created = l.created) : ∃ later,
      l'.created = l.created ++ later ∧ ∀ uid ∈ later, l'.world.Numbered uid :=
    ⟨[], h.trans (List.append_nil _).symm, nofun⟩
  cases op with
  | act a =>
    cases a with
    | spawn r =>
      rcases spawned : l.world.spawn r with ⟨e | uid, w⟩ <;>
        simp only [enter, act, Act.apply, spawned]
      · exact ⟨[], (List.append_nil _).symm, nofun⟩
      · refine ⟨[uid], rfl, fun uid' mem => ?_⟩
        rw [List.mem_singleton.1 mem]
        exact ⟨r.type, w.spawned, (spawn_number spawned).1, le_rfl⟩
    | destroy uid =>
      simp only [enter, act]
      split <;> exact same rfl
    | _ => exact same rfl
  | _ => exact same rfl

/-- Whoever was created since has a number that was given. -/
theorem created_run (l : Ledger K) (ops : List (Op K)) :
    ∃ later, (l.run ops).created = l.created ++ later ∧
      ∀ uid ∈ later, (l.run ops).world.Numbered uid := by
  induction ops using List.reverseRecOn with
  | nil => exact ⟨[], (List.append_nil _).symm, nofun⟩
  | append_singleton ops op ih =>
    obtain ⟨later, created, numbered⟩ := ih
    obtain ⟨last, created', numbered'⟩ := (l.run ops).created_enter op
    have more : (l.run ops).world.spawned ≤ ((l.run ops).enter op).world.spawned := by
      have world := (l.run ops).world_run [op]
      rw [List.foldl_cons, List.foldl_nil] at world
      exact ((l.run ops).world.spawned_apply_le op).trans (congrArg World.spawned world).ge
    rw [run_append]
    refine ⟨later ++ last, ?_, fun uid mem => ?_⟩
    · rw [← List.append_assoc, ← created]
      exact created'
    · rcases List.mem_append.1 mem with earlier | new
      · exact (numbered uid earlier).mono more
      · exact numbered' uid new

/-- Of all uids that were given, a spawned actor can only get one that was there from the start. -/
theorem given_again_iff {l : Ledger K} {ops : List (Op K)} {r : SpawnRequest K} {uid : String}
    (spawned : ((l.run ops).world.spawn r).1 = .ok uid) :
    uid ∈ (l.run ops).created ↔ uid ∈ l.created := by
  obtain ⟨later, created, numbered⟩ := l.created_run ops
  rw [created, List.mem_append]
  refine ⟨fun mem => mem.resolve_right fun new => ?_, .inl⟩
  obtain ⟨type, n, rfl, given⟩ := numbered uid new
  have number := spawn_number (Prod.ext spawned rfl : (l.run ops).world.spawn r = (.ok _, _))
  have := spawnUid_number number.1
  have := number.2.1
  omega

end Ledger

variable [Scalar K]

/-- In no run on a world of the scene does a spawned actor get the uid of an actor that was there at
any time before. -/
def Scene.NamesOnce (sc : Scene K) : Prop :=
  ∀ (roles : List (Role K)) (w : World K), World.new sc roles = .ok w →
    ∀ ops : List (Op K), (∀ op ∈ ops, op.KeepsUids) → ∀ (r : SpawnRequest K) (uid : String),
      (((Ledger.ofWorld w).run ops).world.spawn r).1 = .ok uid →
        uid ∉ ((Ledger.ofWorld w).run ops).created

/-- A uid that looks like that of a spawned actor is given when enough actors have been spawned,
once no live actor has it. -/
theorem Scene.exists_given_again {sc : Scene K} {roles : List (Role K)} {w : World K}
    (new : World.new sc roles = .ok w) (distinct : (sc.actors.map Placement.uid).Nodup)
    {type : String} (can : sc.CanSpawn type) {n : ℕ} (positive : 0 < n) :
    ∃ ops : List (Op K), (∀ op ∈ ops, op.KeepsUids) ∧ ∃ r,
      (((Ledger.ofWorld w).run ops).world.spawn r).1 = .ok (spawnUid type n) := by
  obtain ⟨known, own, fields, fits⟩ := can
  let r : SpawnRequest K := ⟨type, 0.0, 0.0, 0.0, 0.0, none, own⟩
  let gone : World K := (w.destroy (spawnUid type n)).2
  have scene : gone.scene = sc := (Act.apply_scene w (.destroy _)).trans (World.new_ok new).1
  have none : gone.spawned = 0 := by
    refine Eq.trans ?_ (World.spawned_of_new new)
    show (w.destroy _).2.spawned = _
    unfold World.destroy
    split <;> rfl
  have free := (World.indexed_of_new new distinct).get?_destroy (spawnUid type n)
  obtain ⟨k, given⟩ := World.exists_spawns (w := gone) (r := r) (n := n)
    (scene.symm ▸ known) (scene.symm ▸ fits) (none.symm ▸ positive) free
  refine ⟨.act (.destroy (spawnUid type n)) :: List.replicate k (.act (.spawn r)), ?_, r, ?_⟩
  · intro op mem
    rcases List.mem_cons.1 mem with rfl | mem
    · trivial
    · rw [List.eq_of_mem_replicate mem]
      trivial
  · rw [Ledger.world_run, List.foldl_cons]
    exact given

/-- In every run on a world of a valid scene, a spawned actor has the uid of no live actor and of no
spawned one, live or not. It has the uid of an earlier actor if and only if that uid was declared,
so that a declared actor has been destroyed. The scenes that let this happen are those that declare
a uid made of a type that can be spawned, an underscore and a positive number. -/
theorem given_again_iff_declared {sc : Scene K} (valid : sc.validate = .ok ()) :
    (∀ (roles : List (Role K)) (w : World K), World.new sc roles = .ok w →
      ∀ ops : List (Op K), (∀ op ∈ ops, op.KeepsUids) → ∀ (r : SpawnRequest K) (uid : String),
        let l := (Ledger.ofWorld w).run ops
        (l.world.spawn r).1 = .ok uid →
          uid ∉ l.world.actors.map Actor.uid ∧
            (uid ∈ l.created ↔ uid ∈ sc.actors.map Placement.uid)) ∧
      (sc.NamesOnce ↔ ∀ p ∈ sc.actors, ∀ type n, 0 < n → sc.CanSpawn type →
        p.uid ≠ spawnUid type n) := by
  have declared {roles : List (Role K)} {w : World K} (new : World.new sc roles = .ok w) :
      (Ledger.ofWorld w).created = sc.actors.map Placement.uid := (World.new_ok new).2.1
  refine ⟨fun roles w new ops keeps r uid spawned => ⟨?_, ?_⟩,
    fun once p mem type n positive can => ?_,
    fun unlike roles w new ops _ r uid spawned again => ?_⟩
  · have start := World.indexed_of_new new (Scene.distinct_of_validate valid)
    have indexed : ((Ledger.ofWorld w).run ops).world.Indexed :=
      Ledger.world_run (.ofWorld w) ops ▸ start.run keeps
    rw [← Table.Locates.get?_eq_none_iff indexed]
    exact (World.spawn_ok (Prod.ext spawned rfl)).1
  · rw [Ledger.given_again_iff spawned, declared new]
  · intro same
    obtain ⟨w, new⟩ := World.new_of_validate valid []
    have mem' : spawnUid type n ∈ sc.actors.map Placement.uid := same ▸ List.mem_map_of_mem mem
    obtain ⟨ops, keeps, r, spawned⟩ :=
      Scene.exists_given_again new (Scene.distinct_of_validate valid) can positive
    refine once [] w new ops keeps r _ spawned ?_
    rwa [Ledger.given_again_iff spawned, declared new]
  · rw [Ledger.given_again_iff spawned, declared new] at again
    obtain ⟨p, mem, carries⟩ := List.mem_map.1 again
    obtain ⟨number, less, can⟩ := World.spawn_number (Prod.ext spawned rfl)
    rw [Ledger.world_run, World.scene_foldl,
      show (Ledger.ofWorld w).world.scene = sc from (World.new_ok new).1] at can
    exact unlike p mem _ _ (by omega) can (carries.trans number)

/-! ### A coin that looks spawned -/

namespace Coins

/-- A scene of one coin. -/
def scene (uid : String) : Scene Rat :=
  { Scene.default with
    templates := Table.ofList [("coin", Template.default)]
    actors := [{ uid, type := "coin", x := 0, y := 0, width := none, height := none, layer := none
                 blockMask := none, vx := 0, vy := 0, parent := none, sprite := none, active := true
                 physics := none, fields := ∅ }] }

/-- Another coin. -/
def request : SpawnRequest Rat := ⟨"coin", 0, 0, 0, 0, none, ∅⟩

/-- What the new coin is called when the first one has been destroyed. -/
def renamed (uid : String) : Option String :=
  match World.new (scene uid) [] with
  | .error _ => none
  | .ok w => ((w.destroy uid).2.spawn request).1.toOption

end Coins

/-- The uid of the only coin is given again when that coin has been destroyed. -/
theorem coin_is_given_again :
    (Coins.scene "coin_1").validate = .ok () ∧ ¬(Coins.scene "coin_1").NamesOnce := by
  refine ⟨by cbv, fun once => ?_⟩
  have renamed : Coins.renamed "coin_1" = some "coin_1" := by cbv
  unfold Coins.renamed at renamed
  split at renamed
  · cases renamed
  rename_i w new
  have given : (((Ledger.ofWorld w).run [.act (.destroy "coin_1")]).world.spawn
      Coins.request).1 = .ok "coin_1" := by
    rw [Ledger.world_run]
    show ((w.destroy "coin_1").2.spawn Coins.request).1 = _
    cases made : ((w.destroy "coin_1").2.spawn Coins.request).1 with
    | error e =>
      rw [made] at renamed
      cases renamed
    | ok uid =>
      rw [made] at renamed
      exact congrArg _ (Option.some.inj renamed)
  refine once [] w new [.act (.destroy "coin_1")] (by simp [Op.KeepsUids, Act.KeepsUids])
    Coins.request "coin_1" given ?_
  obtain ⟨later, created, -⟩ := (Ledger.ofWorld w).created_run [.act (.destroy "coin_1")]
  rw [created, show (Ledger.ofWorld w).created = w.actors.map Actor.uid from rfl,
    (World.new_ok new).2.1]
  exact List.mem_append_left _ (by decide)

/-- A coin whose uid does not end in a number keeps it for good. -/
theorem plain_coin_is_named_once :
    (Coins.scene "coin").validate = .ok () ∧ (Coins.scene "coin").NamesOnce := by
  refine ⟨by cbv, (given_again_iff_declared (by cbv)).2.2 fun p mem type n _ _ same => ?_⟩
  have carries : p.uid ∈ (Coins.scene "coin").actors.map Placement.uid := List.mem_map_of_mem mem
  have plain : p.uid = "coin" := List.mem_singleton.1 carries
  have underscore : '_' ∈ (spawnUid type n).toList := by simp [toList_spawnUid]
  rw [← same, plain] at underscore
  exact absurd underscore (by decide)

end Playfield
