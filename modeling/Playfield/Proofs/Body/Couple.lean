import Playfield.Proofs.Body.Reordering

/-!
# Two free bodies

Two bodies that stand alone and block each other are parted by a resolution, without a rollback.

* `Couple`: an engine that holds just two such bodies.
* `pushedFirst`, `pushedSecond`: the two after a push. `pass_of_not_parted`: a pass over a couple
  that is not parted is one push.
* `Outward`: a push along an axis would go the way the centres lie. `parted_of_outward`: such a push
  parts the couple. `outward_of_not_outward`: any other one, which near centres allow, makes the
  next one along the axis such a push.
* `inward`: the number of axes along which that has not come about. `endsQuiet_pair`: so three
  pushes are enough, and the last of the passes pushes nothing.
* `free_couple_is_parted` is the result.
-/

namespace Playfield

/-! ### Trees of one -/

namespace Attachments

variable {g : Attachments} {uid : String}

variable (distinct : g.uids.Nodup) (free : ∀ u v, g.parent? u ≠ some v)

include distinct free

theorem towed_of_free (uid : String) : g.towed uid = [uid] := by
  have orphan : g.parent? uid = none := Option.eq_none_iff_forall_ne_some.2 (free uid)
  rw [towed, rootOf?_of_parent?_none orphan]
  exact subtree_of_childless distinct fun u => free u uid

omit distinct in
theorem not_directlyAttached_of_free (x y : String) : g.directlyAttached x y = false := by
  simp [directlyAttached, free]

end Attachments

namespace Pushing

/-! ### A push of two -/

section Push

variable {K : Type} [Scalar K] {g : Attachments} {a b : Body K} {axis : Axis} {share amount : K}

/-- A body takes its part of a push. -/
def take (axis : Axis) (share amount : K) (b : Body K) : Body K :=
  if 0.0 < share then shift axis amount b else b

/-- The parts of a push that two bodies take if none is pinned. -/
def freeShares (a b : Body K) : K × K := shares a b (pushAxis a b) false false

/-- The first of two bodies after a push. -/
def pushedFirst (a b : Body K) : Body K :=
  halt (pushAxis a b) (direction a b (pushAxis a b))
    (take (pushAxis a b) (freeShares a b).1 (firstPush a b (freeShares a b).1) a)

/-- The second of two bodies after a push. -/
def pushedSecond (a b : Body K) : Body K :=
  halt (pushAxis a b) (-direction a b (pushAxis a b))
    (take (pushAxis a b) (freeShares a b).2 (secondPush a b (freeShares a b).2) b)

theorem start_take (b : Body K) : (take axis share amount b).start = b.start := by
  unfold take
  split
  · exact start_shift b
  · rfl

theorem start_pushedFirst (a b : Body K) : (pushedFirst a b).start = a.start :=
  (start_halt _).trans (start_take a)

theorem start_pushedSecond (a b : Body K) : (pushedSecond a b).start = b.start :=
  (start_halt _).trans (start_take b)

/-- Which way two near centres are pushed: as they lay at the start of the tick, else by name. -/
def tieBreak (a b : Body K) (axis : Axis) : K :=
  let before := axis.of (b.prevPos.sub a.prevPos)
  if overlapSlack < Scalar.abs before then Scalar.sign before
  else if a.uid ≤ b.uid then 1.0 else -1.0

theorem tieBreak_of_starts {a' b' : Body K} (startA : a'.start = a.start)
    (startB : b'.start = b.start) : tieBreak a' b' axis = tieBreak a b axis := by
  rw [show tieBreak a' b' axis = tieBreak a'.start b'.start axis from rfl, startA, startB]
  rfl

/-- Two bodies of which nothing is said but where they are. -/
def pair (a b : Body K) : Pushing K := ⟨[a, b], [], []⟩

omit [Scalar K] in
theorem not_pinned_pair (uid : String) : pinned g (pair a b) uid = false := by
  refine Bool.eq_false_iff.2 fun pin => ?_
  obtain ⟨u, -, holds⟩ := pinned_iff.1 pin
  cases holds

variable (distinct : g.uids.Nodup) (free : ∀ u v, g.parent? u ≠ some v) (ne : a.uid ≠ b.uid)

include distinct free ne

omit ne in
/-- A body that stands alone takes its part of a push by itself. -/
theorem part_of_free (s : Pushing K) (uid : String) : part g s uid axis share amount =
    { s with bodies := Roster.modify Body.uid uid (take axis share amount) s.bodies } := by
  have one : g.towed uid = [uid] := Attachments.towed_of_free distinct free uid
  have calm : fights g s uid axis amount = false := by simp [fights, one]
  unfold part take
  split
  · rw [shiftTree_eq, calm, one]
    rfl
  · rw [Roster.modify_of_fixed fun _ => rfl]

omit [Scalar K] distinct free in
theorem modify_first (f : Body K → Body K) :
    Roster.modify Body.uid a.uid f [a, b] = [f a, b] := by
  have names : ([a, b].map Body.uid).Nodup := by simpa using ne
  have stands : ([a, b].map Body.uid)[0]? = some a.uid := rfl
  exact Roster.modify_eq names stands

omit [Scalar K] distinct free in
theorem modify_second (f : Body K → Body K) :
    Roster.modify Body.uid b.uid f [a, b] = [a, f b] := by
  have names : ([a, b].map Body.uid).Nodup := by simpa using ne
  have stands : ([a, b].map Body.uid)[1]? = some b.uid := rfl
  exact Roster.modify_eq names stands

theorem partBoth_pair : partBoth g (pair a b) a b =
    pair (take (pushAxis a b) (freeShares a b).1 (firstPush a b (freeShares a b).1) a)
      (take (pushAxis a b) (freeShares a b).2 (secondPush a b (freeShares a b).2) b) := by
  have shares : sharesOf g (pair a b) a b = freeShares a b := by
    rw [sharesOf, not_pinned_pair, not_pinned_pair]
    rfl
  have ne' (axis : Axis) (share amount : K) : (take axis share amount a).uid ≠ b.uid :=
    Body.uid_eq_of_start (start_take a) ▸ ne
  unfold partBoth
  simp only [shares, part_of_free distinct free]
  simp only [pair, modify_first ne, modify_second (ne' _ _ _)]

theorem pushed_pair : pushed g (pair a b) 0 1 a b = pair (pushedFirst a b) (pushedSecond a b) := by
  have held : heldWith g (pair a b) a b = [] := by
    rw [heldWith, not_pinned_pair, not_pinned_pair]
    rfl
  unfold pushed
  simp only [partBoth_pair distinct free ne, held]
  rfl

/-- A pass over two bodies that block each other is one push, unless they are parted. -/
theorem pass_of_not_parted (against : opposed g a b = true) (meet : ¬a.Parted b) :
    (pair a b).pass g = (pair (pushedFirst a b) (pushedSecond a b), 1) := by
  change visit g (pair a b, 0) (0, 1) = _
  rw [visit_eq rfl rfl, mustPart_iff.2 ⟨against, meet⟩, not_pinned_pair,
    pushed_pair distinct free ne]
  rfl

omit distinct free ne in
theorem pass_of_parted (parted : a.Parted b) : (pair a b).pass g = (pair a b, 0) := by
  have still : mustPart g a b = false :=
    Bool.eq_false_iff.2 fun part => (mustPart_iff.1 part).2 parted
  change visit g (pair a b, 0) (0, 1) = _
  rw [visit_eq rfl rfl, still]
  rfl

end Push

/-! ### Where a push leads -/

section Exact

variable {a b : Body Rat} {axis : Axis} {share amount : Rat}

/-- How far the centre of the second body lies up the axis from that of the first one. -/
def offset (axis : Axis) (a b : Body Rat) : Rat := axis.of b.pos - axis.of a.pos

theorem of_overlap_eq (axis : Axis) (a b : Body Rat) :
    axis.of (a.overlap b) = axis.of a.half + axis.of b.half - |offset axis a b| := by
  rw [Body.of_overlap, offset, abs_sub_comm]

/-- The parts of a push make up all of it. -/
theorem freeShares_spec (a b : Body Rat) :
    0 ≤ (freeShares a b).1 ∧ 0 ≤ (freeShares a b).2 ∧
      (freeShares a b).1 + (freeShares a b).2 = 1 := by
  simp only [freeShares, shares, Bool.false_eq_true, if_false, Scalar.abs_eq]
  split
  · rename_i moved
    have pos := overlapSlack_nonneg.trans_lt moved
    refine ⟨by positivity, by positivity, ?_⟩
    rw [← add_div, div_self pos.ne']
  · cases a.flags.dynamic <;> cases b.flags.dynamic <;> norm_num

theorem of_take (nonneg : 0 ≤ share) (b : Body Rat) :
    axis.of (take axis share (amount * share) b).pos = axis.of b.pos + amount * share := by
  unfold take
  rw [Scalar.zero_eq]
  split
  · exact Axis.of_set _ _ _
  · rename_i none
    rw [le_antisymm (not_lt.1 none) nonneg, mul_zero, add_zero]

theorem other_of_take (b : Body Rat) :
    axis.other.of (take axis share amount b).pos = axis.other.of b.pos := by
  unfold take
  split
  · exact Axis.of_other_set _ _ _
  · rfl

theorem offset_pushed (a b : Body Rat) :
    offset (pushAxis a b) (pushedFirst a b) (pushedSecond a b) = offset (pushAxis a b) a b +
      direction a b (pushAxis a b) * (pushAxis a b).of (a.overlap b) := by
  obtain ⟨nonneg, nonneg', sum⟩ := freeShares_spec a b
  rw [offset, pushedFirst, pushedSecond, pos_halt, pos_halt, firstPush, secondPush,
    of_take nonneg, of_take nonneg', offset]
  linear_combination direction a b (pushAxis a b) * (pushAxis a b).of (a.overlap b) * sum

theorem other_offset_pushed (a b : Body Rat) :
    offset (pushAxis a b).other (pushedFirst a b) (pushedSecond a b) =
      offset (pushAxis a b).other a b := by
  rw [offset, pushedFirst, pushedSecond, pos_halt, pos_halt, other_of_take, other_of_take, offset]

theorem direction_eq (a b : Body Rat) (axis : Axis) : direction a b axis =
    if overlapSlack < |offset axis a b| then Scalar.sign (offset axis a b)
    else tieBreak a b axis := by
  rw [direction, Body.of_sub, Scalar.abs_eq]
  by_cases far : overlapSlack < |offset axis a b|
  · rw [if_pos far]
    exact if_pos far
  · rw [if_neg far]
    exact if_neg far

theorem sign_eq (x : Rat) : Scalar.sign x = 1 ∧ 0 ≤ x ∨ Scalar.sign x = -1 ∧ x < 0 := by
  unfold Scalar.sign
  rw [Scalar.zero_eq]
  split
  · rename_i neg
    exact .inr ⟨by norm_num, neg⟩
  · rename_i nonneg
    exact .inl ⟨by norm_num, not_lt.1 nonneg⟩

theorem direction_cases (a b : Body Rat) (axis : Axis) :
    direction a b axis = 1 ∨ direction a b axis = -1 := by
  rw [direction_eq, tieBreak]
  split
  · exact (sign_eq _).imp And.left And.left
  · split
    · exact (sign_eq _).imp And.left And.left
    · split
      · exact .inl (by norm_num)
      · exact .inr (by norm_num)

/-- A push along the axis would go the way the centres lie. -/
def Outward (axis : Axis) (a b : Body Rat) : Prop := 0 ≤ direction a b axis * offset axis a b

theorem outward_of_far (far : overlapSlack < |offset axis a b|) : Outward axis a b := by
  rw [Outward, direction_eq, if_pos far]
  rcases sign_eq (offset axis a b) with ⟨sign, pos⟩ | ⟨sign, neg⟩
  · rw [sign]
    linarith
  · rw [sign]
    linarith

theorem parted_iff : a.Parted b ↔ ∃ axis : Axis, axis.of (a.overlap b) ≤ overlapSlack := by
  constructor
  · rintro (x | y)
    · exact ⟨.x, x⟩
    · exact ⟨.y, y⟩
  · rintro ⟨axis, parted⟩
    cases axis with
    | x => exact .inl parted
    | y => exact .inr parted

theorem overlapSlack_lt_of_not_parted (meet : ¬a.Parted b) (axis : Axis) :
    overlapSlack < axis.of (a.overlap b) :=
  not_le.1 fun parted => meet (parted_iff.2 ⟨axis, parted⟩)

theorem of_overlap_pushed (axis : Axis) (a b : Body Rat) :
    axis.of ((pushedFirst a b).overlap (pushedSecond a b)) =
      axis.of a.half + axis.of b.half - |offset axis (pushedFirst a b) (pushedSecond a b)| := by
  have halfA : (pushedFirst a b).half = a.half := (congrArg Body.half (start_pushedFirst a b) :)
  have halfB : (pushedSecond a b).half = b.half := (congrArg Body.half (start_pushedSecond a b) :)
  rw [of_overlap_eq, halfA, halfB]

/-- A push the way the centres lie parts two bodies. -/
theorem parted_of_outward (meet : ¬a.Parted b) (outward : Outward (pushAxis a b) a b) :
    (pushedFirst a b).Parted (pushedSecond a b) := by
  have deep := overlapSlack_lt_of_not_parted meet (pushAxis a b)
  have pos := overlapSlack_nonneg.trans_lt deep
  refine parted_iff.2 ⟨pushAxis a b, le_trans (le_of_eq ?_) overlapSlack_nonneg⟩
  rw [of_overlap_pushed, offset_pushed]
  have depth := of_overlap_eq (pushAxis a b) a b
  unfold Outward at outward
  rcases direction_cases a b (pushAxis a b) with up | down
  · rw [up, one_mul] at outward ⊢
    rw [abs_of_nonneg outward] at depth
    rw [abs_of_nonneg (by linarith)]
    linarith
  · rw [down, neg_one_mul] at outward ⊢
    rw [abs_of_nonpos (by linarith)] at depth
    rw [abs_of_nonpos (by linarith)]
    linarith

/-- A push against the way the centres lie takes them past each other, since they are near. The next
one along the axis goes on the same way. -/
theorem outward_of_not_outward (meet : ¬a.Parted b) (inward : ¬Outward (pushAxis a b) a b) :
    Outward (pushAxis a b) (pushedFirst a b) (pushedSecond a b) := by
  have deep := overlapSlack_lt_of_not_parted meet (pushAxis a b)
  have near : ¬overlapSlack < |offset (pushAxis a b) a b| := fun far => inward (outward_of_far far)
  -- If the centres are far apart after it there is nothing to show. Else the tie is broken as
  -- before, and the push went further than they had lain the other way.
  by_contra again
  have near' : ¬overlapSlack < |offset (pushAxis a b) (pushedFirst a b) (pushedSecond a b)| :=
    fun far => again (outward_of_far far)
  have same : direction (pushedFirst a b) (pushedSecond a b) (pushAxis a b) =
      direction a b (pushAxis a b) := by
    rw [direction_eq, direction_eq, if_neg near, if_neg near']
    exact tieBreak_of_starts (start_pushedFirst a b) (start_pushedSecond a b)
  refine again ?_
  rw [Outward, same, offset_pushed]
  rcases direction_cases a b (pushAxis a b) with up | down
  · rw [up]
    have := neg_abs_le (offset (pushAxis a b) a b)
    linarith
  · rw [down]
    have := le_abs_self (offset (pushAxis a b) a b)
    linarith

/-- A push leaves the other axis as it is. -/
theorem outward_other_iff :
    Outward (pushAxis a b).other (pushedFirst a b) (pushedSecond a b) ↔
      Outward (pushAxis a b).other a b := by
  rw [Outward, Outward, direction_eq, direction_eq, other_offset_pushed,
    tieBreak_of_starts (start_pushedFirst a b) (start_pushedSecond a b)]

/-! ### How many pushes it takes -/

instance : Decidable (Outward axis a b) :=
  inferInstanceAs (Decidable (0 ≤ direction a b axis * offset axis a b))

/-- The number of axes along which a push would go against the way the centres lie. -/
def inward (a b : Body Rat) : Nat := [Axis.x, Axis.y].countP fun axis => !decide (Outward axis a b)

theorem inward_le : inward a b + 2 ≤ maxPasses :=
  Nat.add_le_add_right List.countP_le_length 2

theorem inward_pushed (meet : ¬a.Parted b) (against : ¬Outward (pushAxis a b) a b) :
    inward (pushedFirst a b) (pushedSecond a b) + 1 = inward a b := by
  have here := outward_of_not_outward meet against
  have there := @outward_other_iff a b
  unfold inward
  cases axis : pushAxis a b with
  | x =>
    rw [axis] at against here there
    simp [against, here, List.countP_cons, show Outward .y _ _ ↔ Outward .y a b from there]
  | y =>
    rw [axis] at against here there
    simp [against, here, List.countP_cons, show Outward .x _ _ ↔ Outward .x a b from there,
      Nat.add_comm]

variable {g : Attachments} (distinct : g.uids.Nodup) (free : ∀ u v, g.parent? u ≠ some v)

include distinct free

/-- A couple is parted after one push more than there are axes along which one goes inward. -/
theorem endsQuiet_pair (ne : a.uid ≠ b.uid) (against : opposed g a b = true) {n : Nat}
    (enough : inward a b + 2 ≤ n) : EndsQuiet g n (pair a b) := by
  induction n generalizing a b with
  | zero => omega
  | succ n ih =>
    by_cases parted : a.Parted b
    · exact .inl (by rw [pass_of_parted parted])
    · refine .inr ?_
      rw [pass_of_not_parted distinct free ne against parted]
      -- Either this push parts the two, or one axis less is left to go inward along.
      by_cases outward : Outward (pushAxis a b) a b
      · obtain ⟨m, rfl⟩ : ∃ m, n = m + 1 := ⟨n - 1, by omega⟩
        exact .inl (by rw [pass_of_parted (parted_of_outward parted outward)])
      · have startA := start_pushedFirst a b
        have startB := start_pushedSecond a b
        have fewer := inward_pushed parted outward
        refine ih ?_ ?_ (by omega)
        · rw [Body.uid_eq_of_start startA, Body.uid_eq_of_start startB]
          exact ne
        · rw [opposed_of_starts startA startB]
          exact against

theorem passes_pair (ne : a.uid ≠ b.uid) (against : opposed g a b = true) (n : Nat) :
    ∃ a' b', a'.start = a.start ∧ b'.start = b.start ∧ (passes g n (pair a b)).1 = pair a' b' := by
  induction n generalizing a b with
  | zero => exact ⟨a, b, rfl, rfl, rfl⟩
  | succ n ih =>
    rw [passes_succ]
    by_cases parted : a.Parted b
    · rw [pass_of_parted parted, if_pos rfl]
      exact ⟨a, b, rfl, rfl, rfl⟩
    · rw [pass_of_not_parted distinct free ne against parted, if_neg one_ne_zero]
      have startA := start_pushedFirst a b
      have startB := start_pushedSecond a b
      obtain ⟨a', b', startA', startB', ends⟩ := @ih (pushedFirst a b) (pushedSecond a b)
        (by rwa [Body.uid_eq_of_start startA, Body.uid_eq_of_start startB])
        (by rwa [opposed_of_starts startA startB])
      exact ⟨a', b', startA'.trans startA, startB'.trans startB, ends⟩

end Exact

end Pushing

namespace Physics

open Pushing

/-- An engine without a map that holds just two bodies, which block each other and are attached to
none. -/
structure Couple {K : Type} (p : Physics K) (a b : Body K) : Prop where
  bodies : p.bodies = [a, b]
  unmapped : p.map = none
  names : a.uid ≠ b.uid
  solid : a.isSolid = true ∧ b.isSolid = true
  masks : a.masksBlock b = true
  unattached : ∀ x ∈ p.bodies, ∀ y ∈ p.bodies, x.parent ≠ some y.uid

namespace Couple

variable {K : Type} {p : Physics K} {a b : Body K} (couple : p.Couple a b)

include couple

theorem distinct : (p.bodies.map Body.uid).Nodup := by
  rw [couple.bodies]
  simpa using couple.names

theorem free (u v : String) : p.attachments.parent? u ≠ some v := by
  intro link
  obtain ⟨mem, live⟩ := Attachments.link_of_parent? link
  obtain ⟨x, memX, same⟩ := List.mem_map.1 mem
  rw [Attachments.uids, attachments, List.map_map] at live
  obtain ⟨y, memY, rfl⟩ := List.mem_map.1 live
  exact couple.unattached x memX y memY (congrArg Prod.snd same)

theorem against : opposed p.attachments a b = true := by
  simp [opposed, couple.solid, couple.masks,
    Attachments.not_directlyAttached_of_free couple.free]

variable [Scalar K]

/-- The two clash only with each other. -/
theorem eq_of_clash {x y : String} (clash : p.Clash x y) :
    (x, y) = (a.uid, b.uid) ∨ (x, y) = (b.uid, a.uid) := by
  obtain ⟨s, a', b', reach, ne, foundA, foundB, -⟩ := clash
  have names : s.bodies.map Body.uid = [a.uid, b.uid] := by
    rw [Body.uids_of_starts (starts_moves (moves_of_reaches reach)), couple.bodies]
    rfl
  have memX : x ∈ [a.uid, b.uid] := names ▸ look_isSome_iff.1 (Option.isSome_of_mem foundA)
  have memY : y ∈ [a.uid, b.uid] := names ▸ look_isSome_iff.1 (Option.isSome_of_mem foundB)
  simp only [List.mem_cons, List.not_mem_nil, or_false] at memX memY
  rcases memX with rfl | rfl
  · rcases memY with rfl | rfl
    · exact absurd rfl ne
    · exact .inl rfl
  · rcases memY with rfl | rfl
    · exact .inr rfl
    · exact absurd rfl ne

theorem unshared : p.Unshared := by
  constructor
  · rintro x y ⟨-, -, -, -, ne, -⟩
    rw [Attachments.towed_of_free (nodup_links couple.distinct) couple.free,
      Attachments.towed_of_free (nodup_links couple.distinct) couple.free]
    simpa using ne.symm
  · intro x y z w u first second _ _
    rcases couple.eq_of_clash first with here | here <;>
      rcases couple.eq_of_clash second with there | there <;> cases here <;> cases there <;> simp

theorem settled_eq : p.settled.1 = ((pair a b).separate p.attachments).1 := by
  have clear (s : Pushing K) : s.rollBackTiles none p.attachments = (s, 0) := rfl
  rw [settled, couple.unmapped, couple.bodies, clear, maxPasses, settle_succ]
  simp only [clear, if_true]
  split
  · rfl
  · rfl

end Couple

end Physics

/-- A resolution parts two bodies that block each other and are attached to none, wherever they are
and have been, whatever their velocities and flags. It sends none of them back, and does the same to
each of them if they are listed the other way round. -/
theorem free_couple_is_parted {p : Physics Rat} {a b : Body Rat} (couple : p.Couple a b) :
    (∃ a' b', p.resolve.2.bodies = [a', b'] ∧ a'.start = a.start ∧ b'.start = b.start ∧
      a'.Parted b') ∧
    p.resolve.1.rolledBack = [] ∧
    ∀ uid, { p with bodies := [b, a] }.resolve.2.body? uid = p.resolve.2.body? uid := by
  have linked := Physics.nodup_links couple.distinct
  have against := couple.against
  obtain ⟨a', b', startA, startB, ends⟩ :=
    Pushing.passes_pair linked couple.free couple.names against maxPasses
  have last : p.settled.1 = Pushing.pair a' b' := couple.settled_eq.trans ends
  refine ⟨⟨a', b', congrArg Pushing.bodies last, startA, startB, ?_⟩,
    congrArg Pushing.rolledBack last, fun uid => ?_⟩
  · have quiet : Pushing.EndsQuiet p.attachments maxPasses (Pushing.pair a b) :=
      Pushing.endsQuiet_pair linked couple.free couple.names against Pushing.inward_le
    have apart := Pushing.parted_of_none_back (s := Pushing.pair a b) quiet
      (congrArg Pushing.rolledBack ends)
    rw [show ((Pushing.pair a b).separate p.attachments).1 = Pushing.pair a' b' from ends] at apart
    refine (List.pairwise_cons.1 apart).1 b' List.mem_cons_self ?_
    rwa [Pushing.opposed_of_starts startA startB]
  · have order : p.bodies.Perm [b, a] := couple.bodies ▸ List.Perm.swap b a []
    have map : { p with bodies := [b, a] }.map = p.map := rfl
    have twin := (Physics.settled_twin couple.distinct couple.unshared order map).1
    exact (Pushing.look_congr (twin.standing uid)).symm

namespace Physics.Heap

/-- A box that was up and right of the other one at the start of the tick. -/
def first : Body Rat := { box "a" none (some 1) true 0 0 with prevPos := ⟨1, 1⟩ }

/-- A box that is now up and right of the first one, but by less than the slack. -/
def second : Body Rat :=
  { box "b" none (some 1) true 8e-10 8e-10 with prevPos := ⟨0, 0⟩, vel := ⟨1, 0⟩ }

/-- Two boxes with nearly the same centre. -/
def nearCouple : Physics Rat :=
  { bodies := [first, second], map := none, bounds := none, gravity := 0 }

theorem couple_first_second : nearCouple.Couple first second where
  bodies := rfl
  unmapped := rfl
  names := by decide
  solid := ⟨rfl, rfl⟩
  masks := rfl
  unattached x memX y _ := by
    have none : x.parent = none := by
      rcases List.mem_cons.1 memX with rfl | memX
      · rfl
      · rw [List.mem_singleton.1 memX]
        rfl
    rw [none]
    nofun

end Physics.Heap

open Physics.Heap in
/-- The first push takes the boxes through each other, and leaves them on one another. -/
theorem near_couple_is_pushed_twice : nearCouple.resolve.1.pushes = 2 ∧
    (∃ a' b', nearCouple.resolve.2.bodies = [a', b'] ∧ a'.Parted b') ∧
    { nearCouple with bodies := [second, first] }.resolve.2.body? "a" =
      nearCouple.resolve.2.body? "a" := by
  obtain ⟨⟨a', b', bodies, -, -, parted⟩, -, same⟩ := free_couple_is_parted couple_first_second
  exact ⟨by cbv, ⟨a', b', bodies, parted⟩, same "a"⟩

end Playfield
