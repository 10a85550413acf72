import Mathlib.Data.List.Nodup
import Playfield.Body.Contacts

/-!
# Collisions are found once

Where bodies have distinct uids, each query finds a pair of bodies, or a body and a cell of the map,
at most once.

* `Physics.nodup_pairs`: pairs of bodies, for overlaps and contacts alike.
* `Physics.nodup_tileContacts`: bodies and cells, since the cells in a box are walked once
  (`TileMap.nodup_maskedTiles`).
-/

namespace Playfield

variable {K : Type}

namespace Physics

variable {test : Body K → Body K → Bool} {bodies : List (Body K)}

theorem mem_of_mem_pairs {e : Party × Party} (h : e ∈ pairs test bodies) :
    ∃ a ∈ bodies, e.1 = a.party := by
  induction bodies with
  | nil => cases h
  | cons a rest ih =>
    rcases List.mem_append.1 h with first | later
    · split at first
      · obtain ⟨b, -, rfl⟩ := List.mem_map.1 first
        exact ⟨a, List.mem_cons_self, rfl⟩
      · cases first
    · obtain ⟨b, mem, party⟩ := ih later
      exact ⟨b, List.mem_cons_of_mem _ mem, party⟩

/-- A pair of bodies is found at most once. -/
theorem nodup_pairs (test : Body K → Body K → Bool) (distinct : (bodies.map Body.uid).Nodup) :
    ((pairs test bodies).map fun e => (e.1.uid, e.2.uid)).Nodup := by
  induction bodies with
  | nil => exact List.nodup_nil
  | cons a rest ih =>
    rw [List.map_cons, List.nodup_cons] at distinct
    rw [pairs, List.map_append, List.nodup_append']
    refine ⟨?_, ih distinct.2, fun uids first later => ?_⟩
    · split
      · have others := distinct.2.sublist
          ((List.filter_sublist (p := fun b => b.isSolid && test a b)).map Body.uid)
        have paired := others.map (f := (a.uid, ·)) fun _ _ same => congrArg Prod.snd same
        rwa [List.map_map] at paired ⊢
      · exact List.nodup_nil
    · -- The pairs of `a` come first, and `a` is no first party of the others.
      obtain ⟨e, mem, rfl⟩ := List.mem_map.1 first
      obtain ⟨e', mem', same⟩ := List.mem_map.1 later
      obtain ⟨b, memB, party⟩ := mem_of_mem_pairs mem'
      have uid : e.1.uid = a.uid := by
        split at mem
        · obtain ⟨c, -, rfl⟩ := List.mem_map.1 mem
          rfl
        · cases mem
      have uid' : e'.1.uid = b.uid := congrArg Party.uid party
      have : a.uid = b.uid := uid.symm.trans ((congrArg Prod.fst same).symm.trans uid')
      exact distinct.1 (this ▸ List.mem_map_of_mem memB)

end Physics

variable [Scalar K]

namespace TileMap

theorem nodup_span (m : TileMap K) (axis : Axis) (lo hi : K) : (m.span axis lo hi).Nodup :=
  List.nodup_range.map fun a b (h : _ + (a : Int) = _ + (b : Int)) => by omega

/-- A cell is found at most once in a box. -/
theorem nodup_maskedTiles (m : TileMap K) (min max : Vec K) :
    ((m.maskedTiles min max).map fun t => (t.col, t.row)).Nodup := by
  rw [maskedTiles, List.map_flatMap, List.nodup_flatMap]
  simp only [List.map_filterMap]
  have cell {row col : Int} {e : Int × Int}
      (h : e ∈ (if (m.maskAt col row).isSome then some ⟨col, row, m.tileAt col row⟩
        else none : Option TileHit).map fun t => (t.col, t.row)) : e = (col, row) := by
    split at h
    · exact (Option.some.inj h).symm
    · cases h
  refine ⟨fun row _ => (m.nodup_span .x _ _).filterMap fun c c' e h h' => ?_,
    (m.nodup_span .y _ _).imp fun {row row'} ne e h h' => ne ?_⟩
  · exact congrArg Prod.fst ((cell h).symm.trans (cell h'))
  · obtain ⟨c, -, h⟩ := List.mem_filterMap.1 h
    obtain ⟨c', -, h'⟩ := List.mem_filterMap.1 h'
    exact congrArg Prod.snd ((cell h).symm.trans (cell h'))

end TileMap

/-- A body and a cell are found at most once. -/
theorem Physics.nodup_tileContacts {p : Physics K} (distinct : (p.bodies.map Body.uid).Nodup) :
    (p.tileContacts.map fun e => (e.1.uid, e.2.col, e.2.row)).Nodup := by
  unfold tileContacts
  cases p.map with
  | none => exact List.nodup_nil
  | some m =>
    simp only
    have solid := distinct.sublist ((List.filter_sublist (p := (·.isSolid))).map Body.uid)
    rw [List.map_flatMap, List.nodup_flatMap]
    refine ⟨fun b _ => ?_, (List.pairwise_map.1 solid).imp fun {a b} ne e h h' => ne ?_⟩
    · have cells := (m.nodup_maskedTiles (b.min.sub ⟨contactSlack, contactSlack⟩)
        (b.max.add ⟨contactSlack, contactSlack⟩)).map (f := (b.uid, ·))
        fun _ _ same => congrArg Prod.snd same
      rwa [List.map_map] at cells ⊢
    · have uid {c : Body K} {hits : List TileHit} (h : e ∈ (hits.map fun hit => (c.party, hit)).map
          fun e => (e.1.uid, e.2.col, e.2.row)) : c.uid = e.1 := by
        rw [List.map_map] at h
        obtain ⟨_, -, rfl⟩ := List.mem_map.1 h
        rfl
      exact (uid h).trans (uid h').symm

end Playfield
