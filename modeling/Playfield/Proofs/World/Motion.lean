import Playfield.Proofs.Attachment
import Playfield.Proofs.World.Index
import Playfield.World.Motion

/-!
# What actors inherit

How `World.propagate` shows in what uids find.

* `actor?_propagate`: the actor that is found under a uid is carried by the motion that the walk
  from the roots hands to the uid.
* `inherited_of_root`: an actor without a parent inherits nothing.
* `inherited_of_child`: what is attached to such an actor inherits its own motion.
-/

namespace Playfield

variable {K : Type}

namespace World

theorem uids_attachments (w : World K) : w.attachments.uids = w.actors.map Actor.uid := by
  rw [Attachments.uids, attachments, List.map_map]
  rfl

end World

variable [Scalar K]

/-- The actor after it was carried along. -/
def Actor.carried (a : Actor K) (m : Motion K) : Actor K := if m.isZero then a else a.shift m

theorem Actor.uid_carried (a : Actor K) (m : Motion K) : (a.carried m).uid = a.uid := by
  unfold carried
  split <;> rfl

namespace World

variable {w : World K} {uid root child : String} {m : Motion K} {before : Table String (Motion K)}

theorem inherit_eq (w : World K) (uid : String) (m : Motion K) :
    w.inherit uid m = w.modifyActor uid (·.carried m) := by
  unfold inherit Actor.carried
  by_cases still : m.isZero = true
  · simp only [still, if_true, modifyActor_of_fixed fun _ => rfl]
  · simp only [still, if_false, Bool.false_eq_true]

theorem index_inherit (w : World K) (uid : String) (m : Motion K) :
    (w.inherit uid m).index = w.index := by
  rw [inherit_eq]
  rfl

theorem Filed.inherit (filed : w.Filed) (uid : String) (m : Motion K) :
    (w.inherit uid m).Filed := by
  rw [inherit_eq]
  exact filed.modifyActor uid _

theorem Filed.actor?_inherit (filed : w.Filed) {other : String} : (w.inherit uid m).actor? other =
    (w.actor? other).map fun a => if other = uid then a.carried m else a := by
  rw [inherit_eq]
  exact filed.actor?_modifyActor uid _ other

theorem actor?_foldl_inherit_of_notMem (filed : w.Filed) {moves : List (String × Motion K)}
    (h : uid ∉ moves.map Prod.fst) :
    (moves.foldl (fun w' (u, m) => w'.inherit u m) w).actor? uid = w.actor? uid := by
  induction moves generalizing w with
  | nil => rfl
  | cons e rest ih =>
    rw [List.map_cons, List.mem_cons, not_or] at h
    rw [List.foldl_cons, ih (filed.inherit _ _) h.2, filed.actor?_inherit]
    simp only [h.1, if_false, Option.map_id']

/-- An actor is carried by the one motion that its uid is given. -/
theorem actor?_foldl_inherit (filed : w.Filed) {moves : List (String × Motion K)}
    (distinct : (moves.map Prod.fst).Nodup) (mem : (uid, m) ∈ moves) :
    (moves.foldl (fun w' (u, m) => w'.inherit u m) w).actor? uid =
      (w.actor? uid).map (·.carried m) := by
  induction moves generalizing w with
  | nil => cases mem
  | cons e rest ih =>
    rw [List.map_cons, List.nodup_cons] at distinct
    rw [List.foldl_cons]
    rcases List.mem_cons.1 mem with rfl | mem
    · rw [actor?_foldl_inherit_of_notMem (filed.inherit _ _) distinct.1, filed.actor?_inherit]
      simp only [if_true]
    · have ne : uid ≠ e.1 := fun same => distinct.1 (same ▸ List.mem_map_of_mem mem)
      rw [ih (filed.inherit _ _) distinct.2 mem, filed.actor?_inherit]
      simp only [ne, if_false, Option.map_id']

theorem actor?_propagate (filed : w.Filed) (mem : (uid, m) ∈ w.inherited before) :
    (w.propagate before).actor? uid = (w.actor? uid).map (·.carried m) :=
  actor?_foldl_inherit filed Attachments.visited_nodup mem

/-- Who is not visited from the roots is not carried. -/
theorem actor?_propagate_of_notMem (filed : w.Filed)
    (h : uid ∉ (w.inherited before).map Prod.fst) :
    (w.propagate before).actor? uid = w.actor? uid :=
  actor?_foldl_inherit_of_notMem filed h

/-- Who has no entry in the index is not carried. -/
theorem getElem?_propagate {i : Nat} (unnamed : ∀ uid, w.index.get? uid ≠ some i) :
    (w.propagate before).actors[i]? = w.actors[i]? := by
  unfold propagate
  induction w.inherited before generalizing w with
  | nil => rfl
  | cons e rest ih =>
    obtain ⟨u, m⟩ := e
    refine (ih (w := w.inherit u m) (by rwa [index_inherit])).trans ?_
    rw [inherit_eq, getElem?_modifyActor]
    simp only [unnamed, if_false, Option.map_id']

/-- What carrying does not touch stays as it is. -/
theorem map_propagate {β : Type} {g : Actor K → β} (keeps : ∀ a m, g (a.shift m) = g a) :
    (w.propagate before).actors.map g = w.actors.map g := by
  unfold propagate
  induction w.inherited before generalizing w with
  | nil => rfl
  | cons e rest ih =>
    obtain ⟨u, m⟩ := e
    rw [List.foldl_cons, ih]
    simp only [inherit]
    by_cases still : m.isZero = true
    · rw [if_pos still]
    · rw [if_neg still, map_modifyActor fun a => keeps a m]

theorem propagate_eq : w.propagate before = { w with actors := (w.propagate before).actors } := by
  unfold propagate
  induction w.inherited before generalizing w with
  | nil => rfl
  | cons e rest ih =>
    obtain ⟨u, m⟩ := e
    rw [List.foldl_cons, ih]
    simp only [inherit]
    split <;> rfl

theorem index_propagate : (w.propagate before).index = w.index := by
  rw [propagate_eq]

theorem Indexed.propagate (indexed : w.Indexed) (before : Table String (Motion K)) :
    (w.propagate before).Indexed :=
  indexed.of_uids index_propagate (map_propagate fun _ _ => rfl)

/-! ### Below a root -/

omit [Scalar K] in
theorem mem_roots (distinct : w.attachments.uids.Nodup)
    (link : (uid, none) ∈ w.attachments.links) : uid ∈ w.attachments.roots := by
  have parent := Attachments.parent?_of_mem distinct link
  refine List.mem_filter.2 ⟨List.mem_map_of_mem link, ?_⟩
  rw [parent]
  rfl

theorem visited_of_root (before : Table String (Motion K))
    (distinct : w.attachments.uids.Nodup)
    (link : (root, none) ∈ w.attachments.links) :
    root ∈ (w.inherited before).map Prod.fst :=
  Attachments.mem_visited_of_mem_stack (e := (root, Motion.zero))
    (List.mem_map.2 ⟨root, mem_roots distinct link, rfl⟩) (List.mem_map_of_mem link)

/-- Nothing comes down to a root, and its own motion to what is attached to it. -/
theorem inherited_values (distinct : w.attachments.uids.Nodup)
    (rootLink : (root, none) ∈ w.attachments.links) :
    ∀ e ∈ w.inherited before, (e.1 = root → e.2 = .zero) ∧
      ((e.1, some root) ∈ w.attachments.links → e.2 = (w.ownMotion before root).add .zero) := by
  refine Attachments.walk_values
    (P := fun u m => (u = root → m = .zero) ∧
      ((u, some root) ∈ w.attachments.links → m = (w.ownMotion before root).add .zero))
    (fun e he => ?_) (fun u a ha v attached => ?_)
  · obtain ⟨u, isRoot, rfl⟩ := List.mem_map.1 he
    refine ⟨fun _ => rfl, fun link => ?_⟩
    have live := Attachments.isLive_iff.2 (List.mem_map_of_mem rootLink)
    have orphan := (List.mem_filter.1 isRoot).2
    rw [Attachments.parent?_of_mem distinct link, Option.filter_some, if_pos live] at orphan
    cases orphan
  · have link := (Attachments.mem_children_iff.1 attached).2
    constructor
    · intro same
      cases Attachments.link_unique distinct (same ▸ link) rootLink
    · intro below
      cases Attachments.link_unique distinct link below
      rw [ha.1 rfl]

theorem inherited_of_root (before : Table String (Motion K))
    (distinct : w.attachments.uids.Nodup)
    (rootLink : (root, none) ∈ w.attachments.links) : (root, .zero) ∈ w.inherited before := by
  obtain ⟨⟨u, m⟩, mem, rfl⟩ := List.mem_map.1 (visited_of_root before distinct rootLink)
  have := (inherited_values distinct rootLink _ mem).1 rfl
  exact (show m = .zero from this) ▸ mem

theorem inherited_of_child (before : Table String (Motion K))
    (distinct : w.attachments.uids.Nodup)
    (rootLink : (root, none) ∈ w.attachments.links)
    (childLink : (child, some root) ∈ w.attachments.links) :
    (child, (w.ownMotion before root).add .zero) ∈ w.inherited before := by
  have visited := Attachments.mem_visited_of_child
    (visited_of_root before distinct rootLink)
    (Attachments.mem_children_iff.2 ⟨List.mem_map_of_mem rootLink, childLink⟩)
    (List.mem_map_of_mem childLink)
  obtain ⟨⟨u, m⟩, mem, rfl⟩ := List.mem_map.1 visited
  have := (inherited_values distinct rootLink _ mem).2 childLink
  exact (show m = _ from this) ▸ mem

end World

end Playfield
