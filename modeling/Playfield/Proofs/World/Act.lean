import Mathlib
import Playfield.Proofs.World.Index

/-!
# What actions ask of the world

Actions change the world through a few operations and nothing else.

* `World.Act` lists the operations, `Act.apply` carries one out.
* `World.Acted allowed w w'` says that operations of an allowed kind lead from `w` to `w'`;
  `Acted.induction` is the principle for what every such operation keeps.
* `Act.Effect`: what an operation can do to the list of actors and to its index. Scene and tick
  counter are never touched.
* A spawned actor always gets a uid that the index does not have (`nextSpawn_free`). So all
  operations keep a world filed, and those that change no uid keep it indexed (`Indexed.apply`).
-/

namespace Playfield.World

variable {K : Type}

/-- An operation of an action on the world. -/
inductive Act (K : Type) where
  | setGlobal (name : String) (v : FieldValue K)
  | edit (uid : String) (f : Actor K → Actor K)
  | setField (uid name : String) (v : FieldValue K)
  | setRoleField (role name : String) (v : FieldValue K)
  | spawn (r : SpawnRequest K)
  | destroy (uid : String)
  | setGravity (on : Bool)
  | advanceTurn

variable [Scalar K] {w w' w'' : World K}

/-- Carries out an operation; what it answers is left out. -/
def Act.apply (w : World K) : Act K → World K
  | setGlobal name v => w.setGlobal name v
  | edit uid f => w.modifyActor uid f
  | setField uid name v => (w.setField uid name v).2
  | setRoleField role name v => (w.setRoleField role name v).2
  | spawn r => (w.spawn r).2
  | destroy uid => (w.destroy uid).2
  | setGravity on => w.setGravity on
  | advanceTurn => w.advanceTurn

/-- Operations of an allowed kind lead from one world to another. -/
def Acted (allowed : Act K → Prop) (w w' : World K) : Prop :=
  ∃ acts : List (Act K), (∀ a ∈ acts, allowed a) ∧ w' = acts.foldl Act.apply w

theorem Acted.refl (allowed : Act K → Prop) (w : World K) : Acted allowed w w :=
  ⟨[], fun _ h => absurd h List.not_mem_nil, rfl⟩

theorem Acted.single {allowed : Act K → Prop} {a : Act K} (allow : allowed a) (w : World K) :
    Acted allowed w (a.apply w) :=
  ⟨[a], fun _ mem => List.mem_singleton.1 mem ▸ allow, rfl⟩

theorem Acted.trans {allowed : Act K → Prop} (h : Acted allowed w w')
    (h' : Acted allowed w' w'') : Acted allowed w w'' := by
  obtain ⟨acts, all, rfl⟩ := h
  obtain ⟨acts', all', rfl⟩ := h'
  refine ⟨acts ++ acts', fun a ha => ?_, List.foldl_append.symm⟩
  exact (List.mem_append.1 ha).elim (all a) (all' a)

/-- What every allowed operation keeps is kept. -/
theorem Acted.induction {allowed : Act K → Prop} {motive : World K → Prop}
    (step : ∀ w a, allowed a → motive w → motive (a.apply w)) (h : Acted allowed w w')
    (start : motive w) : motive w' := by
  obtain ⟨acts, all, rfl⟩ := h
  induction acts generalizing w with
  | nil => exact start
  | cons a acts ih =>
    have first := step w a (all a List.mem_cons_self) start
    exact ih first fun b hb => all b (List.mem_cons_of_mem _ hb)

/-! ### Scene and tick counter -/

theorem Act.apply_scene (w : World K) (a : Act K) : (a.apply w).scene = w.scene := by
  cases a with
  | setField uid name v =>
    simp only [apply, World.setField]
    repeat' split
    all_goals rfl
  | setRoleField role name v =>
    simp only [apply, World.setRoleField]
    split <;> rfl
  | spawn r =>
    simp only [apply, World.spawn]
    repeat' split
    all_goals rfl
  | destroy uid =>
    simp only [apply, World.destroy]
    split <;> rfl
  | _ => rfl

theorem Acted.scene {allowed : Act K → Prop} (h : Acted allowed w w') : w'.scene = w.scene :=
  h.induction (motive := fun v => v.scene = w.scene)
    (fun v a _ same => (a.apply_scene v).trans same) rfl

/-! ### Spawned actors -/

omit [Scalar K] in
theorem spawnUid_inj {type : String} {n m : Nat} :
    spawnUid type n = spawnUid type m ↔ n = m := by
  unfold spawnUid
  simp [Nat.repr_inj]

omit [Scalar K] in
/-- A spawned actor gets a uid that the index does not have. -/
theorem nextSpawn_free (w : World K) (type : String) :
    w.index.get? (spawnUid type (w.nextSpawn type)) = none := by
  rw [← Option.not_isSome_iff_eq_none, ← Table.contains]
  unfold nextSpawn
  cases found : (List.range' (w.spawned + 1) (w.index.entries.length + 1)).find? fun n =>
      !w.index.contains (spawnUid type n) with
  | some n => simpa using List.find?_some found
  | none =>
    -- All candidates would have entries, of which there are fewer.
    rw [List.find?_eq_none] at found
    have taken : (List.range' (w.spawned + 1) (w.index.entries.length + 1)).map (spawnUid type) ⊆
        w.index.entries.map Prod.fst := by
      intro uid h
      obtain ⟨n, hn, rfl⟩ := List.mem_map.1 h
      have := found n hn
      rw [Bool.not_eq_true', Bool.not_eq_false, Table.contains, Option.isSome_iff_exists] at this
      obtain ⟨i, entry⟩ := this
      exact List.mem_map.2 ⟨_, Table.mem_entries_iff.2 entry, rfl⟩
    have distinct : ((List.range' (w.spawned + 1) (w.index.entries.length + 1)).map
        (spawnUid type)).Nodup :=
      (List.nodup_range' 1).map fun _ _ => spawnUid_inj.1
    have := (distinct.subperm taken).length_le
    simp at this

/-! ### What an operation does to the actors -/

/-- What each operation can do to the list of actors and to its index. -/
inductive Act.Effect (w w' : World K) : Act K → Prop
  | none (a : Act K) (actors : w'.actors = w.actors) (index : w'.index = w.index) : Effect w w' a
  | edit (uid : String) (f : Actor K → Actor K) (edited : w' = w.modifyActor uid f) :
    Effect w w' (edit uid f)
  | setField (uid name : String) (v v' : FieldValue K)
    (edited : w' = w.modifyActor uid fun a => { a with fields := a.fields.insert name v' }) :
    Effect w w' (setField uid name v)
  | spawn (r : SpawnRequest K) (b : Actor K) (free : w.index.get? b.uid = .none)
    (actors : w'.actors = w.actors ++ [b])
    (index : w'.index = w.index.insert b.uid w.actors.length) : Effect w w' (spawn r)
  | destroy {uid : String} {i : ℕ} (found : w.index.get? uid = some i)
    (actors : w'.actors = w.actors.eraseIdx i)
    (index : w'.index = positions (w'.actors.map Actor.uid)) : Effect w w' (destroy uid)

theorem Act.effect (w : World K) (a : Act K) : a.Effect w (a.apply w) := by
  cases a with
  | edit uid f => exact .edit uid f rfl
  | setField uid name v =>
    simp only [apply, World.setField]
    split
    · exact .none _ rfl rfl
    · split
      · exact .none _ rfl rfl
      · exact .setField uid name v _ rfl
  | setRoleField role name v =>
    simp only [apply, World.setRoleField]
    split <;> exact .none _ rfl rfl
  | spawn r =>
    simp only [apply, World.spawn]
    split
    · split
      · exact .none _ rfl rfl
      · exact .spawn r _ (w.nextSpawn_free r.type) rfl rfl
    · exact .none _ rfl rfl
  | destroy uid =>
    simp only [apply, World.destroy]
    split
    · exact .none _ rfl rfl
    · rename_i i found
      exact .destroy found rfl rfl
  | _ => exact .none _ rfl rfl

/-- The operation changes no uid. -/
def Act.KeepsUids : Act K → Prop
  | edit _ f => ∀ a, (f a).uid = a.uid
  | _ => True

omit [Scalar K] in
theorem Act.Effect.filed {a : Act K} (h : a.Effect w w') (filed : w.Filed) : w'.Filed := by
  cases h with
  | none _ actors index => exact filed.of_length index (congrArg _ actors)
  | edit uid f edited => exact edited ▸ filed.modifyActor uid f
  | setField uid name v v' edited => exact edited ▸ filed.modifyActor uid _
  | spawn r b free actors index =>
    rw [Filed, index, actors, List.length_append, List.length_singleton]
    exact filed.insert free
  | destroy found actors index =>
    have places := places_positions (w'.actors.map Actor.uid)
    rwa [← index, List.length_map] at places

omit [Scalar K] in
theorem Act.Effect.indexed {a : Act K} (h : a.Effect w w') (keeps : a.KeepsUids)
    (indexed : w.Indexed) : w'.Indexed := by
  cases h with
  | none _ actors index => exact indexed.of_uids index (congrArg _ actors)
  | edit uid f edited => exact edited ▸ indexed.modifyActor uid keeps
  | setField uid name v v' edited => exact edited ▸ indexed.modifyActor uid fun _ => rfl
  | spawn r b free actors index =>
    have located := Table.Locates.insert indexed (Table.Locates.get?_eq_none_iff indexed |>.1 free)
    rw [List.length_map] at located
    rw [Indexed, index, actors, List.map_append]
    exact located
  | destroy found actors index =>
    rw [Indexed, index]
    refine locates_positions (indexed.distinct.sublist ?_)
    rw [actors]
    exact (List.eraseIdx_sublist _ _).map _

theorem Indexed.apply (indexed : w.Indexed) {a : Act K} (keeps : a.KeepsUids) :
    (a.apply w).Indexed :=
  (a.effect w).indexed keeps indexed

omit [Scalar K] in
/-- Nobody has the uid of an actor that was taken out. -/
theorem Indexed.get?_destroy (indexed : w.Indexed) (uid : String) :
    (w.destroy uid).2.index.get? uid = none := by
  unfold destroy
  split
  · assumption
  · rename_i i found
    have distinct := indexed.distinct
    obtain ⟨bound, carries⟩ := List.getElem?_eq_some_iff.1 ((indexed uid i).1 found)
    rw [List.length_map] at bound
    rw [List.getElem_map] at carries
    have split := (List.getElem_cons_eraseIdx_perm bound).map Actor.uid
    rw [List.map_cons, carries] at split
    have apart := List.nodup_cons.1 (split.nodup_iff.2 distinct)
    exact (locates_positions apart.2).get?_eq_none_iff.2 apart.1

theorem Acted.indexed {allowed : Act K → Prop} (h : Acted allowed w w')
    (keeps : ∀ a, allowed a → a.KeepsUids) (indexed : w.Indexed) : w'.Indexed :=
  h.induction (motive := Indexed) (fun _ a allow before => before.apply (keeps a allow)) indexed

end Playfield.World
