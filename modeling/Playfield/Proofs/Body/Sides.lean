import Playfield.Proofs.Body.Standing

/-!
# The two sides of a push

On exact scalars it does not matter which of two bodies is the first one.

* `of_overlap`, `of_moved`: overlaps and motions in terms of magnitudes.
* `direction_swap`, `shares_swap`, `firstPush_swap`: what a push is made of when the bodies change
  sides. Names are distinct, so that the last tie is always broken.
* `encounter_swap`: the result, for two bodies that do not tow each other.
-/

namespace Playfield

/-! ### Magnitudes -/

theorem Scalar.zero_eq : (0.0 : Rat) = 0 := by norm_num

theorem Scalar.abs_eq (x : Rat) : Scalar.abs x = |x| := by
  unfold Scalar.abs
  rw [zero_eq]
  split
  · rename_i neg
    exact (abs_of_neg neg).symm
  · rename_i nonneg
    exact (abs_of_nonneg (not_lt.1 nonneg)).symm

theorem Scalar.sign_neg {x : Rat} (ne : x ≠ 0) : Scalar.sign (-x) = -Scalar.sign x := by
  unfold Scalar.sign
  rw [zero_eq]
  rcases lt_or_gt_of_ne ne with neg | pos
  · rw [if_neg (by linarith), if_pos neg]
    norm_num
  · rw [if_pos (by linarith), if_neg (by linarith)]

theorem overlapSlack_nonneg : (0 : Rat) ≤ overlapSlack := by norm_num [overlapSlack]

variable {a b : Body Rat} {axis : Axis}

namespace Body

theorem of_overlap (axis : Axis) (a b : Body Rat) :
    axis.of (a.overlap b) = axis.of a.half + axis.of b.half - |axis.of a.pos - axis.of b.pos| := by
  cases axis <;> simp only [Axis.of, overlap, Vec.sub, Vec.add, Vec.abs, Scalar.abs_eq]

theorem of_sub (axis : Axis) (v w : Vec Rat) : axis.of (v.sub w) = axis.of v - axis.of w := by
  cases axis <;> rfl

theorem overlap_comm (a b : Body Rat) : a.overlap b = b.overlap a := by
  have comm (axis : Axis) : axis.of (a.overlap b) = axis.of (b.overlap a) := by
    rw [of_overlap, of_overlap, add_comm, abs_sub_comm]
  exact congrArg₂ Vec.mk (comm .x) (comm .y)

end Body

namespace Pushing

/-! ### What a push is made of -/

theorem direction_swap (ne : a.uid ≠ b.uid) (axis : Axis) :
    direction b a axis = -direction a b axis := by
  unfold direction
  simp only [Body.of_sub, Scalar.abs_eq, ← neg_sub (axis.of b.pos) (axis.of a.pos),
    ← neg_sub (axis.of b.prevPos) (axis.of a.prevPos), abs_neg]
  have far {d : Rat} (gt : overlapSlack < |d|) : d ≠ 0 :=
    abs_pos.1 (overlapSlack_nonneg.trans_lt gt)
  split
  · rename_i now
    exact Scalar.sign_neg (far now)
  · split
    · rename_i before
      exact Scalar.sign_neg (far before)
    · rcases le_total a.uid b.uid with le | le
      · rw [if_neg fun ge => ne (String.le_antisymm le ge), if_pos le]
      · rw [if_pos le, if_neg fun ge => ne (String.le_antisymm ge le), neg_neg]

theorem pushAxis_comm (a b : Body Rat) : pushAxis b a = pushAxis a b := by
  rw [pushAxis, pushAxis, Body.overlap_comm]

theorem firstPush_swap (ne : a.uid ≠ b.uid) (share : Rat) :
    firstPush b a share = secondPush a b share := by
  rw [firstPush, secondPush, pushAxis_comm, Body.overlap_comm, direction_swap ne, neg_neg]

theorem secondPush_swap (ne : a.uid ≠ b.uid) (share : Rat) :
    secondPush b a share = firstPush a b share := by
  rw [firstPush, secondPush, pushAxis_comm, Body.overlap_comm, direction_swap ne]

/-- Unless both are pinned, bodies that change their sides keep their shares. -/
theorem shares_swap {pinnedA pinnedB : Bool} (free : ¬(pinnedA = true ∧ pinnedB = true)) :
    shares b a axis pinnedB pinnedA = (shares a b axis pinnedA pinnedB).swap := by
  cases pinnedA with
  | true =>
    cases pinnedB with
    | true => exact absurd ⟨rfl, rfl⟩ free
    | false => rfl
  | false =>
    cases pinnedB with
    | true => rfl
    | false =>
      simp only [shares, Bool.false_eq_true, if_false]
      rw [add_comm (Scalar.abs (axis.of b.moved))]
      split
      · rfl
      · cases a.flags.dynamic <;> cases b.flags.dynamic <;> rfl

theorem haltSide_swap (ne : a.uid ≠ b.uid) : haltSide b a = haltSide a b := by
  funext c
  simp only [haltSide, pushAxis_comm, direction_swap ne, neg_neg]
  by_cases isA : c.uid = a.uid
  · simp [isA, Body.uid_eq_of_start (start_halt c), ne]
  · by_cases isB : c.uid = b.uid
    · simp [isB, Body.uid_eq_of_start (start_halt c), ne.symm]
    · simp [isA, isB]

/-! ### Pushes from either side -/

variable {g : Attachments} {s : Pushing Rat} {e : Pushing Rat × Nat} {x y uid : String}

theorem partBoth_swap (distinct : g.uids.Nodup) (ne : a.uid ≠ b.uid)
    (apart : (g.towed a.uid).Disjoint (g.towed b.uid))
    (free : ¬(pinned g s a.uid = true ∧ pinned g s b.uid = true)) :
    (partBoth g s b a).standing uid = (partBoth g s a b).standing uid := by
  have shares : sharesOf g s b a = (sharesOf g s a b).swap := by
    rw [sharesOf, pushAxis_comm, shares_swap free]
    rfl
  simp only [partBoth, shares, Prod.fst_swap, Prod.snd_swap, pushAxis_comm, firstPush_swap ne,
    secondPush_swap ne]
  have first := part_local (K := Rat) distinct a.uid
  have second := part_local (K := Rat) distinct b.uid
  exact ((first _ _ _).comm (second _ _ _) (fun _ mem mem' => apart mem mem') trivial uid).symm

theorem shoved_swap (distinct : g.uids.Nodup) (ne : a.uid ≠ b.uid)
    (apart : (g.towed a.uid).Disjoint (g.towed b.uid))
    (free : ¬(pinned g s a.uid = true ∧ pinned g s b.uid = true)) :
    (shoved g s b a).standing uid = (shoved g s a b).standing uid := by
  have parts : (partBoth g s b a).standing uid = (partBoth g s a b).standing uid :=
    partBoth_swap distinct ne apart free
  refine Standing.ext ?_ (propext (back_congr parts :)) (propext ?_)
  · change (shoved g s b a).look uid = (shoved g s a b).look uid
    rw [look_shoved, look_shoved, look_congr parts, haltSide_swap ne]
  · change uid ∈ addNames _ _ ↔ uid ∈ addNames _ _
    rw [mem_addNames, mem_addNames, mem_heldWith, mem_heldWith, back_congr parts]
    tauto

theorem mustPart_comm (a b : Body Rat) : mustPart g b a = mustPart g a b := by
  have masks : b.masksBlock a = a.masksBlock b := by
    rw [Bool.eq_iff_iff]
    simp only [Body.masksBlock, Bool.and_eq_true, beq_iff_eq]
    constructor
    · rintro ⟨has, same⟩
      exact ⟨same ▸ has, same.symm⟩
    · rintro ⟨has, same⟩
      exact ⟨same ▸ has, same.symm⟩
  have attached : g.directlyAttached b.uid a.uid = g.directlyAttached a.uid b.uid :=
    Bool.or_comm _ _
  rw [mustPart, mustPart, masks, attached, Body.overlap_comm, Bool.and_comm b.isSolid]

theorem clash?_swap (g : Attachments) (s : Pushing Rat) (x y : String) :
    clash? g s (y, x) = (clash? g s (x, y)).map Prod.swap := by
  refine Option.ext fun ⟨b, a⟩ => ?_
  rw [Option.map_eq_some_iff, clash?_eq_some_iff]
  constructor
  · rintro ⟨foundB, foundA, part, free⟩
    exact ⟨(a, b), clash?_eq_some_iff.2 ⟨foundA, foundB, mustPart_comm b a ▸ part,
      fun both => free both.symm⟩, rfl⟩
  · rintro ⟨⟨a', b'⟩, clash, same⟩
    cases same
    obtain ⟨foundA, foundB, part, free⟩ := clash?_eq_some_iff.1 clash
    exact ⟨foundB, foundA, mustPart_comm a' b' ▸ part, fun both => free both.symm⟩

/-- Two bodies that meet may change their sides, if they tow nothing in common. -/
theorem encounter_swap (distinct : g.uids.Nodup) (ne : x ≠ y)
    (apart : clash? g e.1 (x, y) ≠ none → (g.towed x).Disjoint (g.towed y)) :
    Alike (encounter g e (y, x)) (encounter g e (x, y)) := by
  have swapped := clash?_swap g e.1 x y
  cases clash : clash? g e.1 (x, y) with
  | none =>
    rw [clash, Option.map_none] at swapped
    rw [encounter_of_none clash, encounter_of_none swapped]
    exact Alike.refl e
  | some ab =>
    obtain ⟨a, b⟩ := ab
    rw [clash, Option.map_some, Prod.swap_prod_mk] at swapped
    rw [encounter, encounter, met_of_clash clash, met_of_clash swapped, clash, swapped]
    obtain ⟨-, -, -, free⟩ := clash?_eq_some_iff.1 clash
    have apart := apart (clash ▸ Option.some_ne_none _)
    obtain ⟨rfl, rfl⟩ := Prod.mk.inj (uids_of_clash clash)
    exact ⟨fun uid => shoved_swap distinct ne apart free, rfl⟩

end Pushing

end Playfield
