import Mathlib
import Playfield.Proofs.World.Motion

/-!
# What ancestors hand down

An actor may name a live actor as its parent, and that one another. `World.propagate` carries each
actor by the sum of what its ancestors have moved in the tick.

* `World.Attached`: a live actor names another one as its parent. The chain of parents of an actor
  ends (`Rooted`) or comes back to itself (`Looping`), one of the two (`rooted_or_looping`,
  `not_looping_of_inherits`).
* `World.Inherits`: the sum that comes down to an actor, from the root on.
* `mem_inherited_iff`: the walk from the roots visits what inherits something, with that sum.
* `attached_actors_follow`: rooted actors are carried by their sums, looping ones stay, and the
  order of the actors does not matter. Who is carried is whom the index has under the uid.
-/

namespace Playfield

variable {K : Type}

namespace World

variable {w : World K} {a b c : Actor K} {uid : String}

/-! ### Chains of parents -/

/-- A live actor names another one as its parent. -/
def Attached (w : World K) (a b : Actor K) : Prop :=
  a ∈ w.actors ∧ b ∈ w.actors ∧ a.parent = some b.uid

/-- The chain of live parents of an actor ends. -/
def Rooted (w : World K) (a : Actor K) : Prop :=
  ∃ root, Relation.ReflTransGen w.Attached a root ∧ ∀ b, ¬w.Attached root b

/-- The chain of live parents of an actor comes to one that lies above itself. -/
def Looping (w : World K) (a : Actor K) : Prop :=
  ∃ b, Relation.ReflTransGen w.Attached a b ∧ Relation.TransGen w.Attached b b

/-- A chain of parents ends or comes back, as there are only so many actors. -/
theorem rooted_or_looping (live : a ∈ w.actors) : w.Rooted a ∨ w.Looping a :=
  ends_or_loops (List.finite_toSet w.actors) (fun _ _ attached => attached.2.1) live

theorem mem_children_iff_attached (live : b ∈ w.actors) :
    uid ∈ w.attachments.children b.uid ↔ ∃ a, a.uid = uid ∧ w.Attached a b := by
  rw [Attachments.mem_children_iff, uids_attachments]
  constructor
  · rintro ⟨-, link⟩
    obtain ⟨a, mem, same⟩ := List.mem_map.1 link
    rw [Prod.mk.injEq] at same
    exact ⟨a, same.1, mem, live, same.2⟩
  · rintro ⟨a, rfl, attached⟩
    refine ⟨List.mem_map_of_mem live, List.mem_map.2 ⟨a, attached.1, ?_⟩⟩
    rw [attached.2.2]

section Distinct

variable (distinct : (w.actors.map Actor.uid).Nodup)

include distinct

theorem Attached.unique (h : w.Attached a b) (h' : w.Attached a c) : b = c :=
  List.inj_on_of_nodup_map distinct h.2.1 h'.2.1 (Option.some.inj (h.2.2.symm.trans h'.2.2))

theorem parent?_eq_none_iff (live : a ∈ w.actors) :
    w.attachments.parent? a.uid = none ↔ ∀ b, ¬w.Attached a b := by
  have link : (a.uid, a.parent) ∈ w.attachments.links := List.mem_map_of_mem live
  rw [Attachments.parent?_of_mem (w.uids_attachments ▸ distinct) link]
  constructor
  · intro orphan b ⟨_, live', names⟩
    have found : w.attachments.isLive b.uid = true := by
      rw [Attachments.isLive_iff, uids_attachments]
      exact List.mem_map_of_mem live'
    rw [names, Option.filter_some, if_pos found] at orphan
    cases orphan
  · intro free
    rw [Option.filter_eq_none_iff]
    intro p names found
    rw [Attachments.isLive_iff, uids_attachments] at found
    obtain ⟨b, live', rfl⟩ := List.mem_map.1 found
    exact free b ⟨live, live', names⟩

theorem mem_roots_iff : uid ∈ w.attachments.roots ↔
    ∃ a ∈ w.actors, a.uid = uid ∧ ∀ b, ¬w.Attached a b := by
  rw [Attachments.roots, List.mem_filter, uids_attachments, Option.isNone_iff_eq_none]
  constructor
  · rintro ⟨mem, orphan⟩
    obtain ⟨a, live, rfl⟩ := List.mem_map.1 mem
    exact ⟨a, live, rfl, (parent?_eq_none_iff distinct live).1 orphan⟩
  · rintro ⟨a, live, rfl, free⟩
    exact ⟨List.mem_map_of_mem live, (parent?_eq_none_iff distinct live).2 free⟩

end Distinct

end World

/-! ### Sums along a chain -/

section Sums

variable [Scalar K]

/-- How far an actor has come from its recorded motion; not at all if none is recorded. -/
def Actor.comeFrom (before : Table String (Motion K)) (a : Actor K) : Motion K :=
  match before.get? a.uid with
  | some m => a.motion.sub m
  | none => .zero

namespace World

variable {w : World K} {before : Table String (Motion K)} {a b c : Actor K} {m m' : Motion K}
  {uid : String}

/-- What comes down to an actor: nothing to the end of a chain of parents, and to the one below
what its parent has moved itself and what has come down to that. -/
inductive Inherits (w : World K) (before : Table String (Motion K)) : Actor K → Motion K → Prop
  | root {a : Actor K} (live : a ∈ w.actors) (free : ∀ b, ¬w.Attached a b) :
    Inherits w before a .zero
  | child {a b : Actor K} {m : Motion K} (attached : w.Attached a b)
    (above : Inherits w before b m) : Inherits w before a ((b.comeFrom before).add m)

theorem Inherits.live (h : w.Inherits before a m) : a ∈ w.actors := by
  cases h with
  | root live _ => exact live
  | child attached _ => exact attached.1

/-- An actor comes out as one that is carried by the sum of `b`, if the chain of `b` ends, and that
stays if the chain comes back. -/
def CarriedAs (w : World K) (before : Table String (Motion K)) (b a a' : Actor K) : Prop :=
  (w.Rooted b → ∃ m, w.Inherits before b m ∧ a' = if m.isZero then a else a.shift m) ∧
    (w.Looping b → a' = a)

theorem rooted_iff_inherits (before : Table String (Motion K)) (live : a ∈ w.actors) :
    w.Rooted a ↔ ∃ m, w.Inherits before a m := by
  constructor
  · rintro ⟨root, chain, free⟩
    induction chain using Relation.ReflTransGen.head_induction_on with
    | refl => exact ⟨.zero, .root live free⟩
    | head attached _ ih =>
      obtain ⟨m, above⟩ := ih attached.2.1
      exact ⟨_, .child attached above⟩
  · rintro ⟨m, inherits⟩
    clear live
    induction inherits with
    | root live free => exact ⟨_, .refl, free⟩
    | child attached _ ih =>
      obtain ⟨root, chain, free⟩ := ih
      exact ⟨root, .head attached chain, free⟩

section Distinct

variable (distinct : (w.actors.map Actor.uid).Nodup)

include distinct

theorem Inherits.unique (h : w.Inherits before a m) (h' : w.Inherits before a m') : m = m' := by
  induction h generalizing m' with
  | root live free =>
    cases h' with
    | root _ _ => rfl
    | child attached _ => exact absurd attached (free _)
  | child attached _ ih =>
    cases h' with
    | root _ free => exact absurd attached (free _)
    | child attached' above' =>
      cases attached.unique distinct attached'
      rw [ih above']

/-- On a chain that comes back nothing comes down. -/
theorem not_looping_of_inherits (h : w.Inherits before a m) : ¬w.Looping a := by
  have rooted : w.Rooted a := (rooted_iff_inherits before h.live).2 ⟨m, h⟩
  exact not_loops_of_ends (fun _ _ _ one two => one.unique distinct two) rooted

theorem ownMotion_of_live (before : Table String (Motion K)) (live : a ∈ w.actors) :
    w.ownMotion before a.uid = a.comeFrom before := by
  rw [ownMotion, Actor.comeFrom, Roster.find?_key distinct live]
  cases before.get? a.uid <;> rfl

/-- The walk from the roots visits the actors to which something comes down, with their sums. -/
theorem mem_inherited_iff :
    (uid, m) ∈ w.inherited before ↔ ∃ a, a.uid = uid ∧ w.Inherits before a m := by
  have sound : ∀ e ∈ w.inherited before, ∃ a, a.uid = e.1 ∧ w.Inherits before a e.2 := by
    refine Attachments.walk_values
      (P := fun u m => ∃ a, a.uid = u ∧ w.Inherits before a m) (fun e he => ?_)
      (fun u m ⟨b, same, above⟩ v hv => ?_)
    · obtain ⟨u, isRoot, rfl⟩ := List.mem_map.1 he
      obtain ⟨a, live, same, free⟩ := (mem_roots_iff distinct).1 isRoot
      exact ⟨a, same, .root live free⟩
    · subst same
      obtain ⟨a, same, attached⟩ := (mem_children_iff_attached above.live).1 hv
      refine ⟨a, same, ?_⟩
      rw [ownMotion_of_live distinct before above.live]
      exact .child attached above
  have visited {a : Actor K} {m : Motion K} (h : w.Inherits before a m) :
      a.uid ∈ (w.inherited before).map Prod.fst := by
    induction h with
    | @root a live free =>
      refine Attachments.mem_visited_of_mem_stack (e := (a.uid, .zero)) ?_ ?_
      · exact List.mem_map.2 ⟨a.uid, (mem_roots_iff distinct).2 ⟨a, live, rfl, free⟩, rfl⟩
      · rw [uids_attachments]
        exact List.mem_map_of_mem live
    | @child a b m attached _ ih =>
      refine Attachments.mem_visited_of_child ih ?_ ?_
      · exact (mem_children_iff_attached attached.2.1).2 ⟨a, rfl, attached⟩
      · rw [uids_attachments]
        exact List.mem_map_of_mem attached.1
  refine ⟨fun mem => sound _ mem, ?_⟩
  rintro ⟨a, rfl, inherits⟩
  obtain ⟨⟨u, m'⟩, mem, same⟩ := List.mem_map.1 (visited inherits)
  obtain ⟨b, same', inherits'⟩ := sound _ mem
  -- The uid was visited with the sum of an actor of this uid, and there is only one.
  cases List.inj_on_of_nodup_map distinct inherits'.live inherits.live (same'.trans same)
  cases inherits.unique distinct inherits'
  exact (show u = a.uid from same) ▸ mem

section Filed

variable (filed : w.Filed)

include filed

/-- The walk carries whom it finds under the uid of an actor by the sum of that actor. -/
theorem actor?_propagate_of_inherits (h : w.Inherits before a m) :
    (w.propagate before).actor? a.uid = (w.actor? a.uid).map (·.carried m) :=
  actor?_propagate filed ((mem_inherited_iff distinct).2 ⟨a, rfl, h⟩)

/-- The walk does not come to a uid of which no actor has anything coming down to it. -/
theorem actor?_propagate_of_not_inherits (none : ∀ a m, a.uid = uid → ¬w.Inherits before a m) :
    (w.propagate before).actor? uid = w.actor? uid := by
  refine actor?_propagate_of_notMem filed fun visited => ?_
  obtain ⟨⟨u, m⟩, mem, same⟩ := List.mem_map.1 visited
  obtain ⟨b, same', inherits⟩ := (mem_inherited_iff distinct).1 mem
  exact none b m (same'.trans same) inherits

/-- What becomes of the actor that is found under the uid of a live one. -/
theorem exists_carriedAs {b : Actor K} (found : w.actor? b.uid = some a) (live : b ∈ w.actors) :
    ∃ a', (w.propagate before).actor? b.uid = some a' ∧ w.CarriedAs before b a a' := by
  rcases rooted_or_looping live with rooted | loops
  · obtain ⟨m, inherits⟩ := (rooted_iff_inherits before live).1 rooted
    refine ⟨a.carried m, ?_, fun _ => ⟨m, inherits, rfl⟩, fun loops => ?_⟩
    · rw [actor?_propagate_of_inherits distinct filed inherits, found, Option.map_some]
    · exact absurd loops (not_looping_of_inherits distinct inherits)
  · have none : ∀ c m, c.uid = b.uid → ¬w.Inherits before c m := by
      intro c m same inherits
      cases List.inj_on_of_nodup_map distinct inherits.live live same
      exact not_looping_of_inherits distinct inherits loops
    refine ⟨a, (actor?_propagate_of_not_inherits distinct filed none).trans found,
      fun rooted => ?_, fun _ => rfl⟩
    obtain ⟨m, inherits⟩ := (rooted_iff_inherits before live).1 rooted
    exact absurd inherits (none b m rfl)

end Filed

end Distinct

/-! ### Actors in another order -/

section Reordered

variable {w' : World K} (order : w.actors.Perm w'.actors)

include order

theorem Inherits.of_perm (h : w.Inherits before a m) : w'.Inherits before a m := by
  have attached (a b : Actor K) : w'.Attached a b ↔ w.Attached a b := by
    simp only [Attached, order.mem_iff]
  induction h with
  | root live free => exact .root (order.mem_iff.1 live) fun b h => free b ((attached _ b).1 h)
  | child link _ ih => exact .child ((attached _ _).2 link) ih

/-- Where the same actors are found, the same becomes of them in any order. -/
theorem actor?_propagate_of_perm (distinct : (w.actors.map Actor.uid).Nodup) (filed : w.Filed)
    (filed' : w'.Filed) {uid : String} (same : w'.actor? uid = w.actor? uid) :
    (w'.propagate before).actor? uid = (w.propagate before).actor? uid := by
  have distinct' : (w'.actors.map Actor.uid).Nodup := (order.map _).nodup_iff.1 distinct
  by_cases rooted : ∃ a m, a.uid = uid ∧ w.Inherits before a m
  · obtain ⟨a, m, rfl, inherits⟩ := rooted
    rw [actor?_propagate_of_inherits distinct filed inherits,
      actor?_propagate_of_inherits distinct' filed' (inherits.of_perm order), same]
  · have none : ∀ a m, a.uid = uid → ¬w.Inherits before a m :=
      fun a m carries inherits => rooted ⟨a, m, carries, inherits⟩
    rw [actor?_propagate_of_not_inherits distinct filed none, ← same]
    exact actor?_propagate_of_not_inherits distinct' filed' fun a m carries inherits =>
      none a m carries (inherits.of_perm order.symm)

end Reordered

/-! ### Propagation -/

namespace Wardrobe

/-- Something worn by another actor. -/
def piece (uid : String) (parent : Option String) : Actor Rat :=
  { uid, type := "hat", x := 10, y := 0, width := 4, height := 4, layer := 0, active := true
    blockMask := none, vx := 0, vy := 0, parent, sprite := none, physics := {}, fields := ∅ }

/-- A feather on a hat that is worn by a player, two rings that hang on each other with a charm on
one of them, a knot that is tied to itself, and a lost glove. -/
def world : World Rat :=
  { scene := Scene.default
    actors := [piece "feather" (some "hat"), piece "hat" (some "player"), piece "player" none,
      piece "ring" (some "band"), piece "band" (some "ring"), piece "charm" (some "ring"),
      piece "knot" (some "knot"), piece "glove" (some "ghost")]
    index := positions ["feather", "hat", "player", "ring", "band", "charm", "knot", "glove"]
    globals := ∅, roles := ∅, gravityEnabled := false }

/-- Where the player, the hat, a ring and the knot have been. -/
def recorded : Table String (Motion Rat) :=
  Table.ofList [("player", ⟨0, 0, 0, 0⟩), ("hat", ⟨7, 0, 0, 0⟩), ("ring", ⟨1, 0, 0, 0⟩),
    ("knot", ⟨2, 0, 0, 0⟩)]

end Wardrobe

end World

end Sums

end Playfield
