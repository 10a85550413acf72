import Mathlib
import Playfield.Proofs.Body.Clearance

/-!
# What goes back in a resolution

The list of the bodies that a resolution sends back names each of them once, and with a body all
that is attached to it.

* `Pushing.Whole` says so of a state of the resolution. `Whole.move` is the step: only the rollback
  of a subtree adds to the list.
* `Move.grows`: what went back stays in the list; `mem_rolledBack_of_inTile` puts the bodies in
  blocking tiles there.
* `rollback_takes_subtrees` is the result. It holds on any graph, also where chains of parents loop.
-/

namespace Playfield

variable {K : Type} [Scalar K]

namespace Pushing

variable {g : Attachments} {m : TileMap K} {s s' : Pushing K} {names more : List String}
  {uid : String}

omit [Scalar K] in
theorem nodup_addNames (once : names.Nodup) : (addNames names more).Nodup := by
  unfold addNames
  induction more generalizing names with
  | nil => exact once
  | cons u rest ih =>
    rw [List.foldl_cons]
    by_cases known : u ∈ names
    · rw [if_pos known]
      exact ih once
    · rw [if_neg known]
      exact ih (once.append (List.nodup_singleton u) (by simpa using known))

theorem nodup_rolledBack_all (s : Pushing K) (uids : List String) (once : s.rolledBack.Nodup) :
    (s.rollBackAll uids).rolledBack.Nodup := by
  unfold rollBackAll
  induction uids generalizing s with
  | nil => exact once
  | cons u rest ih =>
    rw [List.foldl_cons]
    refine ih _ ?_
    unfold rollBack
    split
    · exact nodup_addNames once
    · exact once

omit [Scalar K] in
theorem look_isSome_iff : (s.look uid).isSome ↔ uid ∈ s.bodies.map Body.uid := by
  rw [look, Roster.find?_isSome_iff, List.mem_map]

/-- The list of what went back names bodies, each once, and with each uid all that is attached to
it. -/
structure Whole (g : Attachments) (s : Pushing K) : Prop where
  once : s.rolledBack.Nodup
  named : s.rolledBack ⊆ s.bodies.map Body.uid
  closed : ∀ child parent, g.parent? child = some parent → parent ∈ s.rolledBack →
    child ∈ s.rolledBack

omit [Scalar K] in
/-- Along a chain of parents each uid follows its parent into the list. -/
theorem Whole.of_under (whole : s.Whole g) {child : String} (under : g.Under child uid)
    (back : uid ∈ s.rolledBack) : child ∈ s.rolledBack := by
  induction under using Relation.ReflTransGen.head_induction_on with
  | refl => exact back
  | head link _ ih => exact whole.closed _ _ link ih

theorem Whole.rollBackAll (whole : s.Whole g) (uids : s.bodies.map Body.uid = g.uids)
    (root : String) : (s.rollBackAll (g.subtree root)).Whole g where
  once := nodup_rolledBack_all s _ whole.once
  named u hu := by
    rw [Body.uids_of_starts (starts_rollBackAll s _)]
    rcases (mem_rolledBack_all s _).1 hu with before | ⟨-, has⟩
    · exact whole.named before
    · exact look_isSome_iff.1 has
  closed child parent link hu := by
    rw [mem_rolledBack_all] at hu ⊢
    rcases hu with before | ⟨inside, -⟩
    · exact .inl (whole.closed child parent link before)
    · -- The child is visited after its parent, and it has a body since it has a link.
      refine .inr ⟨Attachments.mem_subtree_of_parent? link inside, look_isSome_iff.2 ?_⟩
      rw [uids]
      exact List.mem_map_of_mem (Attachments.link_of_parent? link).1

theorem Whole.move (whole : s.Whole g) (uids : s.bodies.map Body.uid = g.uids)
    (move : Move g s s') : s'.Whole g := by
  have same := Body.uids_of_starts move.starts
  cases move with
  | rollBack heads => exact whole.rollBackAll uids _
  | shift heads axis amount => exact ⟨whole.once, fun u hu => same ▸ whole.named hu, whole.closed⟩
  | halt masked axis dir => exact ⟨whole.once, fun u hu => same ▸ whole.named hu, whole.closed⟩
  | hold held => exact ⟨whole.once, whole.named, whole.closed⟩

theorem Whole.moves (whole : s.Whole g) (uids : s.bodies.map Body.uid = g.uids)
    (moves : Moves g s s') : s'.Whole g := by
  induction moves with
  | refl => exact whole
  | tail before move ih =>
    exact ih.move ((Body.uids_of_starts (starts_moves before)).trans uids) move

omit [Scalar K] in
theorem whole_of_empty (none : s.rolledBack = []) : s.Whole g := by
  constructor <;> simp [none]

/-- What went back stays in the list. -/
theorem Move.grows (move : Move g s s') : s.rolledBack ⊆ s'.rolledBack := by
  cases move with
  | rollBack heads => exact fun u hu => (mem_rolledBack_all s _).2 (.inl hu)
  | shift heads axis amount => exact List.Subset.refl _
  | halt masked axis dir => exact List.Subset.refl _
  | hold held => exact List.Subset.refl _

theorem moves_grow (moves : Moves g s s') : s.rolledBack ⊆ s'.rolledBack := by
  induction moves with
  | refl => exact List.Subset.refl _
  | tail _ move ih => exact List.Subset.trans ih move.grows

/-- A body in a blocking tile goes back. -/
theorem mem_rolledBack_of_inTile {b : Body K} (mem : b ∈ s.bodies) (inTile : b.inTile m = true) :
    b.uid ∈ (s.rollBackTiles (some m) g).1.rolledBack := by
  have offends : b.uid ∈ offenders (some m) s.bodies :=
    List.mem_map.2 ⟨b, List.mem_filter.2 ⟨mem, inTile⟩, rfl⟩
  rw [show (s.rollBackTiles (some m) g).1 =
      s.rollBackAll ((offenders (some m) s.bodies).flatMap g.subtree) from
    foldl_rollBackAll _ s, mem_rolledBack_all]
  refine .inr ⟨List.mem_flatMap.2 ⟨b.uid, offends, Attachments.self_mem_subtree⟩, ?_⟩
  exact look_isSome_iff.2 (List.mem_map_of_mem mem)

end Pushing

namespace Physics

/-- The list of what a resolution sends back has no repeats and names only bodies. With a body it
has all whose chain of parents leads to it, and it has every solid body that was in a blocking
tile. -/
theorem rollback_takes_subtrees (p : Physics K) :
    p.resolve.1.rolledBack.Nodup ∧ p.resolve.1.rolledBack ⊆ p.bodies.map Body.uid ∧
      (∀ uid ∈ p.resolve.1.rolledBack, ∀ b ∈ p.bodies, p.attachments.Under b.uid uid →
        b.uid ∈ p.resolve.1.rolledBack) ∧
      ∀ m, p.map = some m → ∀ b ∈ p.bodies, b.inTile m = true →
        b.uid ∈ p.resolve.1.rolledBack := by
  obtain ⟨s, moves, bodies, rolledBack⟩ := Pushing.resolve_moves p
  have uids : p.bodies.map Body.uid = p.attachments.uids := by
    rw [Attachments.uids, attachments, List.map_map]
    rfl
  have whole : s.Whole p.attachments := (Pushing.whole_of_empty rfl).moves uids moves
  rw [← rolledBack]
  refine ⟨whole.once, fun u hu => ?_, fun uid back b _ under => whole.of_under under back,
    fun m map b mem inTile => ?_⟩
  · exact Body.uids_of_starts (Pushing.starts_moves moves) ▸ whole.named hu
  · rw [rolledBack, resolve, map]
    exact Pushing.moves_grow (Pushing.settle_moves (some m) maxPasses _)
      (Pushing.mem_rolledBack_of_inTile mem inTile)

namespace Yard

/-- A box of ten by ten that no force moves. -/
def box (uid : String) (parent : Option String) (mask : Option Int) (x start : Rat) : Body Rat :=
  { uid, type := "box", pos := ⟨x, 5⟩, vel := .zero, prevPos := ⟨start, 5⟩, prevVel := .zero
    half := ⟨5, 5⟩, flags := {}, active := true, blockMask := mask, parent, onGround := false }

/-- Ten cells in a row, of which the last holds a tile. -/
def corridor : TileMap Rat :=
  { width := 10, height := 1, tileSize := 10, tiles := #[#[0, 0, 0, 0, 0, 0, 0, 0, 0, 1]]
    defs := Table.ofList [(1, { blockMask := some 5 })] }

/-- Two boxes that are attached to each other, of which one is in the tile, and a third one attached
to the other. -/
def ring : Physics Rat :=
  { bodies := [box "a" (some "b") (some 1) 95 75, box "b" (some "a") none 45 45,
      box "c" (some "b") none 55 25]
    map := some corridor, bounds := none, gravity := 0 }

end Yard

/-- A chain of parents that loops goes back as a whole, with what is attached to it. -/
theorem ring_goes_back : Yard.ring.resolve.1.rolledBack = ["a", "b", "c"] ∧
    Yard.ring.attachments.rootOf? "a" = none ∧ "c" ∈ Yard.ring.resolve.1.rolledBack := by
  obtain ⟨-, -, closed, offends⟩ := rollback_takes_subtrees Yard.ring
  have inTile : (Yard.box "a" (some "b") (some 1) 95 75).inTile Yard.corridor = true := by cbv
  have back := offends Yard.corridor rfl _ List.mem_cons_self inTile
  have below : Yard.ring.attachments.parent? "c" = some "b" := by cbv
  have above : Yard.ring.attachments.parent? "b" = some "a" := by cbv
  refine ⟨by cbv, by cbv, closed "a" back (Yard.box "c" (some "b") none 55 25) ?_ ?_⟩
  · exact List.mem_cons_of_mem _ (List.mem_cons_of_mem _ List.mem_cons_self)
  · exact .head below (.single above)

end Physics

end Playfield
