import Mathlib.Data.List.Forall2
import Playfield.Proofs.World.Act

/-!
# The ledger of actors

What becomes of the actors of a world. A uid does not say which actor is meant for good: when an
actor is destroyed, its uid may be given again. So the ledger numbers actors in the order of their
creation, and follows each number.

* `World.Op` lists the operations on a world: those of actions (`World.Act`), the start of a tick
  and the report of removed actors.
* A `Ledger` is a world with numbers for its actors, whether live or not.
* `Ledger.Sound` is what every operation that changes no uid keeps (`Sound.run`): uids are distinct
  and lead to their actors, as the index has them; live actors are in the order of their creation;
  and every number is in one place, which is the list of live actors, that of removed ones or one of
  the reports.
-/

namespace Playfield

variable {K : Type}

namespace World

/-- An operation on a world. -/
inductive Op (K : Type) where
  | act (a : Act K)
  | takeRemoved
  | beginTick

/-- The operation changes no uid. -/
def Op.KeepsUids : Op K → Prop
  | act a => a.KeepsUids
  | _ => True

variable [Scalar K] {w w' : World K}

/-- Carries out an operation; what it answers is left out. -/
def Op.apply (w : World K) : Op K → World K
  | act a => a.apply w
  | takeRemoved => w.takeRemoved.2
  | beginTick => w.beginTick

/-- The entries of the index stay those of live actors, whatever operations do. -/
theorem Filed.run (filed : w.Filed) (ops : List (Op K)) : (ops.foldl Op.apply w).Filed := by
  induction ops generalizing w with
  | nil => exact filed
  | cons op ops ih =>
    refine ih ?_
    cases op with
    | act a => exact (a.effect w).filed filed
    | _ => exact filed

/-- Uids find their actors after any operations that change none. -/
theorem Indexed.run (indexed : w.Indexed) {ops : List (Op K)} (keeps : ∀ op ∈ ops, op.KeepsUids) :
    (ops.foldl Op.apply w).Indexed := by
  induction ops generalizing w with
  | nil => exact indexed
  | cons op ops ih =>
    rw [List.forall_mem_cons] at keeps
    refine ih ?_ keeps.2
    cases op with
    | act a => exact indexed.apply keeps.1
    | _ => exact indexed

theorem spawn_ok {r : SpawnRequest K} {uid : String} (h : w.spawn r = (.ok uid, w')) :
    w.index.get? uid = none ∧ w'.removed = w.removed ∧
      w'.index = w.index.insert uid w.actors.length ∧
      ∃ a : Actor K, a.uid = uid ∧ w'.actors = w.actors ++ [a] := by
  simp only [spawn] at h
  repeat' split at h
  all_goals cases h
  exact ⟨w.nextSpawn_free r.type, rfl, rfl, _, rfl, rfl⟩

theorem spawn_error {r : SpawnRequest K} {e : SceneError} (h : w.spawn r = (.error e, w')) :
    w'.actors = w.actors ∧ w'.index = w.index ∧ w'.removed = w.removed := by
  simp only [spawn] at h
  repeat' split at h
  all_goals cases h
  all_goals exact ⟨rfl, rfl, rfl⟩

/-- Only spawned and destroyed actors come or go. -/
theorem Act.quiet (w : World K) {a : Act K} (keeps : a.KeepsUids) (spawns : ∀ r, a ≠ .spawn r)
    (destroys : ∀ uid, a ≠ .destroy uid) :
    (a.apply w).actors.map Actor.uid = w.actors.map Actor.uid ∧ (a.apply w).index = w.index ∧
      (a.apply w).removed = w.removed := by
  cases a with
  | edit uid f => exact ⟨map_modifyActor keeps, rfl, rfl⟩
  | setField uid name v =>
    simp only [Act.apply, World.setField]
    repeat' split
    · exact ⟨rfl, rfl, rfl⟩
    · exact ⟨rfl, rfl, rfl⟩
    · exact ⟨map_modifyActor fun _ => rfl, rfl, rfl⟩
  | setRoleField role name v =>
    simp only [Act.apply, World.setRoleField]
    split <;> exact ⟨rfl, rfl, rfl⟩
  | spawn r => exact absurd rfl (spawns r)
  | destroy uid => exact absurd rfl (destroys uid)
  | _ => exact ⟨rfl, rfl, rfl⟩

omit [Scalar K] in
/-- An actor is destroyed at the place that its uid has in the index. -/
theorem destroy_of_indexed {uid : String} {i : Nat} (indexed : w.Indexed)
    (found : w.index.get? uid = some i) :
    ∃ a, w.actors[i]? = some a ∧ a.uid = uid ∧
      (w.destroy uid).2.removed = w.removed ++ [{ a with active := false }] := by
  have stands := (indexed uid i).1 found
  rw [List.getElem?_map, Option.map_eq_some_iff] at stands
  obtain ⟨a, here, carries⟩ := stands
  refine ⟨a, here, carries, ?_⟩
  simp only [destroy, found, here]
  rfl

end World

open World

/-- A world with the numbers of its actors. -/
structure Ledger (K : Type) where
  world : World K
  /-- The uids of all actors that were ever created; the place in this list is the number. -/
  created : List String
  /-- The numbers of the live actors. -/
  live : List Nat
  /-- The numbers of the actors removed since the last report. -/
  pending : List Nat
  /-- The numbers in each report so far. -/
  handed : List (List Nat)
  /-- What was reported. -/
  reports : List (List (Actor K))

namespace Ledger

open scoped List

/-- The ledger of a world at its start. -/
def ofWorld (w : World K) : Ledger K :=
  { world := w
    created := w.actors.map Actor.uid
    live := List.range w.actors.length
    pending := []
    handed := []
    reports := [] }

section Operations

variable [Scalar K]

/-- Enters what an action does. -/
def act (l : Ledger K) (a : Act K) : Ledger K :=
  let world := a.apply l.world
  match a with
  | .spawn r =>
    match (l.world.spawn r).1 with
    | .error _ => { l with world }
    | .ok uid =>
      { l with
        world
        created := l.created ++ [uid]
        live := l.live ++ [l.created.length] }
  | .destroy uid =>
    match l.world.index.get? uid with
    | none => { l with world }
    | some i =>
      { l with
        world
        live := l.live.eraseIdx i
        pending := l.pending ++ l.live[i]?.toList }
  | _ => { l with world }

/-- Enters an operation. -/
def enter (l : Ledger K) : Op K → Ledger K
  | .act a => l.act a
  | .takeRemoved =>
    { l with
      world := l.world.takeRemoved.2
      pending := []
      handed := l.handed ++ [l.pending]
      reports := l.reports ++ [l.world.takeRemoved.1] }
  | .beginTick => { l with world := l.world.beginTick }

/-- Enters one operation after the other. -/
def run (l : Ledger K) (ops : List (Op K)) : Ledger K := ops.foldl enter l

theorem world_act (l : Ledger K) (a : Act K) : (l.act a).world = a.apply l.world := by
  unfold act
  repeat' split
  all_goals rfl

/-- The world of a ledger is the world that the operations leave. -/
theorem world_run (l : Ledger K) (ops : List (Op K)) :
    (l.run ops).world = ops.foldl Op.apply l.world := by
  induction ops generalizing l with
  | nil => rfl
  | cons op ops ih =>
    have first : (l.enter op).world = op.apply l.world := by
      cases op with
      | act a => exact l.world_act a
      | _ => rfl
    exact (ih (l.enter op)).trans (congrArg (ops.foldl Op.apply) first)

theorem run_append (l : Ledger K) (ops ops' : List (Op K)) :
    l.run (ops ++ ops') = (l.run ops).run ops' := List.foldl_append

/-- No report is handed out within operations of actions. -/
theorem run_acts (l : Ledger K) (acts : List (Act K)) :
    (l.run (acts.map .act)).handed = l.handed ∧ (l.run (acts.map .act)).reports = l.reports := by
  induction acts generalizing l with
  | nil => exact ⟨rfl, rfl⟩
  | cons a acts ih =>
    have first : (l.act a).handed = l.handed ∧ (l.act a).reports = l.reports := by
      unfold act
      repeat' split
      all_goals exact ⟨rfl, rfl⟩
    obtain ⟨handed, reports⟩ := ih (l.act a)
    exact ⟨handed.trans first.1, reports.trans first.2⟩

end Operations

/-- The number is that of an actor with this uid. -/
def Carries (l : Ledger K) (n : Nat) (a : Actor K) : Prop := l.created[n]? = some a.uid

/-- The number is that of a removed actor. -/
def Retired (l : Ledger K) (n : Nat) (a : Actor K) : Prop := l.Carries n a ∧ a.active = false

/-- The number is that of an actor that is no longer live. -/
def Destroyed (l : Ledger K) (n : Nat) : Prop := n < l.created.length ∧ n ∉ l.live

/-- What every operation that changes no uid keeps. -/
structure Sound (l : Ledger K) : Prop where
  distinct : (l.world.actors.map Actor.uid).Nodup
  found : ∀ uid a, l.world.actor? uid = some a ↔ a ∈ l.world.actors ∧ a.uid = uid
  indexed : l.world.Indexed
  ordered : l.live.Pairwise (· < ·)
  once : (l.live ++ l.pending ++ l.handed.flatten).Perm (List.range l.created.length)
  live : List.Forall₂ l.Carries l.live l.world.actors
  pending : List.Forall₂ l.Retired l.pending l.world.removed
  handed : List.Forall₂ (List.Forall₂ l.Retired) l.handed l.reports

variable {l : Ledger K}

/-- Where the index is right, uids lead to their actors. -/
theorem sound_of_indexed (indexed : l.world.Indexed) (ordered : l.live.Pairwise (· < ·))
    (once : (l.live ++ l.pending ++ l.handed.flatten).Perm (List.range l.created.length))
    (live : List.Forall₂ l.Carries l.live l.world.actors)
    (pending : List.Forall₂ l.Retired l.pending l.world.removed)
    (handed : List.Forall₂ (List.Forall₂ l.Retired) l.handed l.reports) : l.Sound :=
  ⟨indexed.distinct, fun _ _ => indexed.actor?_eq_some_iff, indexed, ordered, once, live, pending,
    handed⟩

/-- A world at its start is indexed, and nothing is removed yet. -/
theorem sound_ofWorld {w : World K} (indexed : w.Indexed) (removed : w.removed = []) :
    (ofWorld w).Sound := by
  refine sound_of_indexed indexed List.pairwise_lt_range ?_ ?_ ?_ .nil
  · simp [ofWorld]
  · rw [List.forall₂_iff_get]
    refine ⟨List.length_range, fun i _ (bound : i < w.actors.length) => ?_⟩
    simp only [ofWorld, Carries, List.get_eq_getElem, List.getElem_range, List.getElem?_map,
      List.getElem?_eq_getElem bound, Option.map_some]
  · exact removed ▸ .nil

/-- Nothing becomes of the actors of a ledger as long as their uids stay. -/
theorem Sound.of_uids (sound : l.Sound) {w : World K}
    (uids : w.actors.map Actor.uid = l.world.actors.map Actor.uid)
    (index : w.index = l.world.index) (removed : w.removed = l.world.removed) :
    Sound { l with world := w } := by
  refine sound_of_indexed (sound.indexed.of_uids index uids) sound.ordered sound.once ?_
    (removed ▸ sound.pending) sound.handed
  have carried : List.Forall₂ (l.created[·]? = some ·) l.live (l.world.actors.map Actor.uid) :=
    List.forall₂_map_right_iff.2 sound.live
  rw [← uids] at carried
  exact (List.forall₂_map_right_iff (R := (l.created[·]? = some ·))).1 carried

/-- A number keeps its uid when others are created. -/
theorem Carries.append {n : Nat} {a : Actor K} (h : l.Carries n a) (uid : String) :
    (l.created ++ [uid])[n]? = some a.uid :=
  (List.getElem?_append_left (List.getElem?_eq_some_iff.1 h).1).trans h

theorem Sound.lt_of_mem_live (sound : l.Sound) {n : Nat} (mem : n ∈ l.live) :
    n < l.created.length :=
  List.mem_range.1 (sound.once.subset (List.mem_append_left _ (List.mem_append_left _ mem)))

/-- An actor is created. -/
theorem Sound.create (sound : l.Sound) {w : World K} {a : Actor K} (indexed : w.Indexed)
    (actors : w.actors = l.world.actors ++ [a]) (removed : w.removed = l.world.removed) :
    Sound { l with
      world := w
      created := l.created ++ [a.uid]
      live := l.live ++ [l.created.length] } := by
  refine sound_of_indexed indexed ?_ ?_ ?_ ?_ ?_
  · refine List.pairwise_append.2
      ⟨sound.ordered, List.pairwise_singleton _ _, fun n mem m last => ?_⟩
    exact List.mem_singleton.1 last ▸ sound.lt_of_mem_live mem
  · -- The new number comes last.
    have moved : (l.live ++ [l.created.length] ++ l.pending ++ l.handed.flatten).Perm
        ((l.live ++ l.pending ++ l.handed.flatten) ++ [l.created.length]) := by
      simp only [List.append_assoc]
      exact (List.perm_append_comm.append_left l.live).trans (by simp)
    rw [List.length_append, List.length_singleton, List.range_succ]
    exact moved.trans (sound.once.append_right _)
  · rw [actors]
    refine List.rel_append (sound.live.imp fun n b carries => carries.append a.uid) (.cons ?_ .nil)
    exact List.getElem?_concat_length
  · exact removed ▸ sound.pending.imp fun n b retired => ⟨retired.1.append a.uid, retired.2⟩
  · exact sound.handed.imp fun _ _ report =>
      report.imp fun n b retired => ⟨retired.1.append a.uid, retired.2⟩

/-- The number of the actor at a place. -/
theorem Sound.number_at (sound : l.Sound) {i : Nat} {a : Actor K}
    (here : l.world.actors[i]? = some a) : ∃ n, l.live[i]? = some n ∧ l.Carries n a := by
  obtain ⟨bound, rfl⟩ := List.getElem?_eq_some_iff.1 here
  obtain ⟨lengths, carries⟩ := List.forall₂_iff_get.1 sound.live
  exact ⟨_, List.getElem?_eq_getElem (lengths ▸ bound), carries i (lengths ▸ bound) bound⟩

/-- The actor at a place is removed. -/
theorem Sound.retire (sound : l.Sound) {w : World K} {i : Nat} {a : Actor K} (indexed : w.Indexed)
    (here : l.world.actors[i]? = some a) (actors : w.actors = l.world.actors.eraseIdx i)
    (removed : w.removed = l.world.removed ++ [{ a with active := false }]) :
    Sound { l with
      world := w
      live := l.live.eraseIdx i
      pending := l.pending ++ l.live[i]?.toList } := by
  obtain ⟨n, number, carries⟩ := sound.number_at here
  refine sound_of_indexed indexed ?_ ?_ ?_ ?_ sound.handed
  · exact sound.ordered.sublist (List.eraseIdx_sublist _ _)
  · obtain ⟨bound, rfl⟩ := List.getElem?_eq_some_iff.1 number
    have taken := List.getElem_cons_eraseIdx_perm bound
    simp only [number, Option.toList_some]
    calc l.live.eraseIdx i ++ (l.pending ++ [l.live[i]]) ++ l.handed.flatten
      _ = l.live.eraseIdx i ++ l.pending ++ l.live[i] :: l.handed.flatten := by simp
      _ ~ l.live[i] :: (l.live.eraseIdx i ++ l.pending ++ l.handed.flatten) := List.perm_middle
      _ ~ l.live ++ l.pending ++ l.handed.flatten := (taken.append_right _).append_right _
      _ ~ List.range l.created.length := sound.once
  · rw [actors, List.eraseIdx_eq_take_drop_succ, List.eraseIdx_eq_take_drop_succ]
    exact List.rel_append (List.forall₂_take i sound.live) (List.forall₂_drop (i + 1) sound.live)
  · rw [number, removed]
    exact List.rel_append sound.pending (.cons ⟨carries, rfl⟩ .nil)

/-- The removed actors are reported. -/
theorem Sound.report (sound : l.Sound) [Scalar K] : (l.enter .takeRemoved).Sound := by
  refine sound_of_indexed sound.indexed sound.ordered ?_ sound.live .nil
    (List.rel_append sound.handed (.cons sound.pending .nil))
  refine List.Perm.trans ?_ sound.once
  simp only [enter, List.append_nil, List.flatten_append, List.flatten_singleton,
    List.append_assoc]
  exact List.perm_append_comm.append_left l.live

variable [Scalar K]

/-- What an action does keeps a ledger sound. -/
theorem Sound.act (sound : l.Sound) (a : Act K) (keeps : a.KeepsUids) : (l.act a).Sound := by
  have indexed : (a.apply l.world).Indexed := sound.indexed.apply keeps
  cases a with
  | spawn r =>
    simp only [Act.apply] at indexed
    rcases spawned : l.world.spawn r with ⟨e | uid, w⟩ <;> rw [spawned] at indexed <;>
      simp only [Ledger.act, Act.apply, spawned]
    · obtain ⟨actors, index, removed⟩ := spawn_error spawned
      exact sound.of_uids (congrArg (List.map Actor.uid) actors) index removed
    · obtain ⟨-, removed, -, b, rfl, actors⟩ := spawn_ok spawned
      exact sound.create indexed actors removed
  | destroy uid =>
    cases found : l.world.index.get? uid with
    | none =>
      simp only [Ledger.act, Act.apply, World.destroy, found]
      exact sound
    | some i =>
      obtain ⟨a, here, -, removed⟩ := destroy_of_indexed sound.indexed found
      have actors : (l.world.destroy uid).2.actors = l.world.actors.eraseIdx i := by
        simp only [World.destroy, found]
      simp only [Ledger.act, found]
      exact sound.retire indexed here actors removed
  | _ =>
    obtain ⟨uids, index, removed⟩ := Act.quiet l.world keeps (by simp) (by simp)
    exact sound.of_uids uids index removed

theorem Sound.enter (sound : l.Sound) (op : Op K) (keeps : op.KeepsUids) : (l.enter op).Sound := by
  cases op with
  | act a => exact sound.act a keeps
  | takeRemoved => exact sound.report
  | beginTick => exact sound.of_uids rfl rfl rfl

/-- Operations that change no uid keep a ledger sound. -/
theorem Sound.run (sound : l.Sound) {ops : List (Op K)} (keeps : ∀ op ∈ ops, op.KeepsUids) :
    (l.run ops).Sound := by
  induction ops generalizing l with
  | nil => exact sound
  | cons op ops ih =>
    have first := sound.enter op (keeps op List.mem_cons_self)
    exact ih first fun op' mem => keeps op' (List.mem_cons_of_mem _ mem)

/-- What is destroyed stays so. -/
theorem Destroyed.enter {n : Nat} (destroyed : l.Destroyed n) (op : Op K) :
    (l.enter op).Destroyed n := by
  obtain ⟨lt, gone⟩ := destroyed
  cases op with
  | act a =>
    simp only [Ledger.enter, Ledger.act]
    repeat' split
    · exact ⟨lt, gone⟩
    · refine ⟨?_, fun mem => ?_⟩
      · rw [List.length_append]
        exact Nat.lt_add_right _ lt
      · rcases List.mem_append.1 mem with mem | last
        · exact gone mem
        · exact lt.ne (List.mem_singleton.1 last)
    · exact ⟨lt, gone⟩
    · exact ⟨lt, fun mem => gone (List.mem_of_mem_eraseIdx mem)⟩
    · exact ⟨lt, gone⟩
  | takeRemoved => exact ⟨lt, gone⟩
  | beginTick => exact ⟨lt, gone⟩

theorem Destroyed.run {n : Nat} (destroyed : l.Destroyed n) (ops : List (Op K)) :
    (l.run ops).Destroyed n := by
  induction ops generalizing l with
  | nil => exact destroyed
  | cons op ops ih => exact ih (destroyed.enter op)

omit [Scalar K] in
/-- When nothing is pending, what is destroyed has been reported, and in one report only. -/
theorem Sound.mem_last_iff (sound : l.Sound) (pending : l.pending = []) {before : List (List Nat)}
    {now : List Nat} (handed : l.handed = before ++ [now]) {n : Nat} :
    n ∈ now ↔ l.Destroyed n ∧ n ∉ before.flatten := by
  have once := sound.once
  rw [pending, handed, List.append_nil, List.flatten_append, List.flatten_singleton] at once
  have apart : (l.live ++ (before.flatten ++ now)).Nodup := once.nodup_iff.2 List.nodup_range
  rw [List.nodup_append'] at apart
  obtain ⟨-, reported, disjoint⟩ := apart
  have numbered : n < l.created.length ↔ n ∈ l.live ∨ n ∈ before.flatten ∨ n ∈ now := by
    rw [← List.mem_range, ← once.mem_iff, List.mem_append, List.mem_append]
  constructor
  · intro mem
    have later : n ∈ before.flatten ++ now := List.mem_append_right _ mem
    exact ⟨⟨numbered.2 (.inr (.inr mem)), fun live => disjoint live later⟩, fun earlier =>
      (List.nodup_append'.1 reported).2.2 earlier mem⟩
  · rintro ⟨⟨lt, gone⟩, new⟩
    exact ((numbered.1 lt).resolve_left gone).resolve_left new

end Ledger

end Playfield
