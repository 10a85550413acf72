import Playfield.Proofs.Positions
import Playfield.World.Basic

/-!
# Who is found under a uid

An actor is found by its entry in the index of the world. The entry is not renewed when the uid of
the actor is overwritten, so that there are two notions.

* `World.Filed`: the entries of the index are of live actors, no two of the same one. No operation
  breaks this, whatever it does to uids. An edit shows where its uid is looked up, and nowhere else
  (`Filed.actor?_modifyActor`), also when it overwrites the uid (`Filed.actor?_of_renamed`).
* `World.Indexed`: the entries are the uids of the live actors, which are distinct. This is so as
  long as no uid is overwritten. An actor is then found under its own uid and under no other
  (`Indexed.actor?_eq_some_iff`).
-/

namespace Playfield.World

variable {K : Type} {w w' : World K} {uid other : String} {a : Actor K} {f : Actor K → Actor K}

/-- The entries of the index are of live actors, no two of the same one. -/
def Filed (w : World K) : Prop := w.index.Places w.actors.length

/-- The entries of the index are the uids of the live actors, each where its actor stands. -/
def Indexed (w : World K) : Prop := w.index.Locates (w.actors.map Actor.uid)

theorem actor?_eq_some_iff :
    w.actor? uid = some a ↔ ∃ i, w.index.get? uid = some i ∧ w.actors[i]? = some a :=
  Option.bind_eq_some_iff

theorem live_of_actor? (h : w.actor? uid = some a) : a ∈ w.actors := by
  obtain ⟨i, -, here⟩ := actor?_eq_some_iff.1 h
  exact List.mem_of_getElem? here

/-! ### Edits -/

/-- An edit changes the actor at the place of its uid. -/
theorem getElem?_modifyActor (i : Nat) : (w.modifyActor uid f).actors[i]? =
    w.actors[i]?.map fun a => if w.index.get? uid = some i then f a else a := by
  rw [modifyActor]
  cases w.index.get? uid with
  | none => simp
  | some j =>
    rw [Option.elim_some, List.getElem?_modify]
    simp only [Option.some.injEq]
    split <;> rfl

/-- What an edit does not touch stays as it is. -/
theorem map_modifyActor {β : Type} {g : Actor K → β} (keeps : ∀ a, g (f a) = g a) :
    (w.modifyActor uid f).actors.map g = w.actors.map g := by
  refine List.ext_getElem? fun i => ?_
  rw [List.getElem?_map, List.getElem?_map, getElem?_modifyActor, Option.map_map]
  refine Option.map_congr fun a _ => ?_
  rw [Function.comp_apply]
  split
  · exact keeps a
  · rfl

theorem length_modifyActor : (w.modifyActor uid f).actors.length = w.actors.length := by
  have same : (w.modifyActor uid f).actors.map (fun _ => ()) = w.actors.map fun _ => () :=
    map_modifyActor fun _ => rfl
  simpa using congrArg List.length same

theorem modifyActor_of_fixed (fixed : ∀ a, f a = a) : w.modifyActor uid f = w := by
  have same : (w.modifyActor uid f).actors.map id = w.actors.map id := map_modifyActor fixed
  rw [List.map_id, List.map_id] at same
  exact congrArg (fun actors => { w with actors }) same

/-- After an edit there is what was there before, and what was made of the actor that was found. -/
theorem mem_of_mem_modifyActor {b : Actor K} (mem : b ∈ (w.modifyActor uid f).actors) :
    b ∈ w.actors ∨ ∃ a, w.actor? uid = some a ∧ b = f a := by
  obtain ⟨i, here⟩ := List.mem_iff_getElem?.1 mem
  rw [getElem?_modifyActor] at here
  obtain ⟨a, stood, rfl⟩ := Option.map_eq_some_iff.1 here
  split
  · rename_i found
    exact .inr ⟨a, actor?_eq_some_iff.2 ⟨i, found, stood⟩, rfl⟩
  · exact .inl (List.mem_of_getElem? stood)

/-! ### Entries of live actors -/

theorem Filed.of_length (filed : w.Filed) (index : w'.index = w.index)
    (length : w'.actors.length = w.actors.length) : w'.Filed := by
  rw [Filed, index, length]
  exact filed

theorem Filed.modifyActor (filed : w.Filed) (uid : String) (f : Actor K → Actor K) :
    (w.modifyActor uid f).Filed :=
  filed.of_length rfl length_modifyActor

theorem Filed.actor?_eq_none_iff (filed : w.Filed) :
    w.actor? uid = none ↔ w.index.get? uid = none := by
  rw [actor?, Option.bind_eq_none_iff]
  refine ⟨fun h => ?_, fun h i found => ?_⟩
  · rw [Option.eq_none_iff_forall_ne_some]
    intro i found
    exact absurd (List.getElem?_eq_none_iff.1 (h i found)) (by have := filed.bound _ _ found; omega)
  · rw [h] at found
    cases found

/-- An edit shows where its uid is looked up, and nowhere else. -/
theorem Filed.actor?_modifyActor (filed : w.Filed) (uid : String) (f : Actor K → Actor K)
    (other : String) : (w.modifyActor uid f).actor? other =
      (w.actor? other).map fun a => if other = uid then f a else a := by
  rw [actor?, actor?, show (w.modifyActor uid f).index = w.index from rfl]
  cases found : w.index.get? other with
  | none => rfl
  | some i =>
    have here : w.index.get? uid = some i ↔ other = uid := by
      refine ⟨fun place => filed.apart _ _ _ found place, ?_⟩
      rintro rfl
      exact found
    rw [Option.bind_some, Option.bind_some, getElem?_modifyActor]
    simp only [here]

/-- An actor whose uid is overwritten is still found under the old one, and not under the new. -/
theorem Filed.actor?_of_renamed (filed : w.Filed) (found : w.actor? uid = some a)
    (free : w.actor? other = none) :
    (w.modifyActor uid ({ · with uid := other })).actor? uid = some { a with uid := other } ∧
      (w.modifyActor uid ({ · with uid := other })).actor? other = none := by
  rw [filed.actor?_modifyActor, filed.actor?_modifyActor, found, free, Option.map_some, if_pos rfl]
  exact ⟨rfl, rfl⟩

/-! ### Entries that are uids -/

theorem Indexed.distinct (indexed : w.Indexed) : (w.actors.map Actor.uid).Nodup :=
  Table.Locates.distinct indexed

theorem Indexed.filed (indexed : w.Indexed) : w.Filed := by
  have places := Table.places_of_stands fun name i => (indexed name i).1
  rwa [List.length_map] at places

theorem Indexed.of_uids (indexed : w.Indexed) (index : w'.index = w.index)
    (uids : w'.actors.map Actor.uid = w.actors.map Actor.uid) : w'.Indexed := by
  rw [Indexed, index, uids]
  exact indexed

/-- An edit that does not overwrite the uid needs no new index. -/
theorem Indexed.modifyActor (indexed : w.Indexed) (uid : String) (keeps : ∀ a, (f a).uid = a.uid) :
    (w.modifyActor uid f).Indexed :=
  indexed.of_uids rfl (map_modifyActor keeps)

/-- A uid finds the last actor that carries it. -/
theorem Indexed.find?_eq (indexed : w.Indexed) (uid : String) :
    Roster.find? Actor.uid uid w.actors = w.actor? uid :=
  Table.Locates.find?_eq indexed uid

/-- A uid finds the actor that carries it. -/
theorem Indexed.actor?_eq_some_iff (indexed : w.Indexed) :
    w.actor? uid = some a ↔ a ∈ w.actors ∧ a.uid = uid := by
  rw [← indexed.find?_eq]
  exact Roster.find?_eq_some_iff indexed.distinct

theorem Indexed.mem_of_actor? (indexed : w.Indexed) (h : w.actor? uid = some a) :
    a ∈ w.actors ∧ a.uid = uid :=
  indexed.actor?_eq_some_iff.1 h

theorem Indexed.actor?_uid (indexed : w.Indexed) (live : a ∈ w.actors) :
    w.actor? a.uid = some a :=
  indexed.actor?_eq_some_iff.2 ⟨live, rfl⟩

/-- In any order of the actors a uid finds the same one. -/
theorem Indexed.actor?_perm (indexed : w.Indexed) (indexed' : w'.Indexed)
    (order : w.actors.Perm w'.actors) (uid : String) : w'.actor? uid = w.actor? uid := by
  refine Option.ext fun a => ?_
  rw [indexed'.actor?_eq_some_iff, indexed.actor?_eq_some_iff, order.mem_iff]

/-- Who has another uid stays when the actor of a uid is taken out. -/
theorem Indexed.mem_eraseIdx (indexed : w.Indexed) {i : Nat} (found : w.index.get? uid = some i)
    (live : a ∈ w.actors) (ne : a.uid ≠ uid) : a ∈ w.actors.eraseIdx i := by
  obtain ⟨j, here⟩ := List.mem_iff_getElem?.1 live
  refine List.mem_eraseIdx_iff_getElem?.2 ⟨j, ?_, here⟩
  rintro rfl
  have stands := (indexed uid j).1 found
  rw [List.getElem?_map, here, Option.map_some, Option.some.injEq] at stands
  exact ne stands

theorem Indexed.link_of_actor? (indexed : w.Indexed) (h : w.actor? uid = some a) :
    (uid, a.parent) ∈ w.attachments.links := by
  obtain ⟨mem, rfl⟩ := indexed.mem_of_actor? h
  exact List.mem_map_of_mem mem

end Playfield.World
