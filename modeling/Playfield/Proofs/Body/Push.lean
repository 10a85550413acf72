import Playfield.Proofs.Body.Restoration

/-!
# A push

What is done when two bodies are pushed apart, and when it is done.

* `Parted`: two bodies overlap by no more than the slack on some axis. `mustPart_iff`: those that
  block each other must be parted.
* `pushed` is the state after a push, put together from the parts of the two sides.
  `pushApart?_eq`: no push is made just if both trees are pinned.
* `held_pushed`: of what is held after a push.
-/

namespace Playfield

variable {K : Type} [Scalar K]

/-- Two bodies overlap by no more than the slack on some axis. -/
def Body.Parted (a b : Body K) : Prop :=
  (a.overlap b).x ≤ overlapSlack ∨ (a.overlap b).y ≤ overlapSlack

namespace Pushing

variable {g : Attachments} {s s' : Pushing K} {a b : Body K} {i j : Nat} {uid : String}

theorem mustPart_iff : mustPart g a b = true ↔ opposed g a b = true ∧ ¬a.Parted b := by
  simp only [mustPart, opposed, Body.Parted, Bool.and_eq_true, Bool.not_eq_true',
    decide_eq_false_iff_not, not_or, and_assoc]

omit [Scalar K] in
theorem pinned_iff : pinned g s uid = true ↔ ∃ u ∈ g.treeOf uid, u ∈ s.held := by
  simp [pinned]

/-- The axis of least overlap. -/
def pushAxis (a b : Body K) : Axis := if (a.overlap b).x ≤ (a.overlap b).y then .x else .y

/-- How far the first of two bodies is pushed along the axis of least overlap, for its share. -/
def firstPush (a b : Body K) (share : K) : K :=
  -direction a b (pushAxis a b) * (pushAxis a b).of (a.overlap b) * share

/-- How far the second of two bodies is pushed along the axis of least overlap, for its share. -/
def secondPush (a b : Body K) (share : K) : K :=
  direction a b (pushAxis a b) * (pushAxis a b).of (a.overlap b) * share

/-- What two bodies take of a push, as their trees are pinned. -/
def sharesOf (g : Attachments) (s : Pushing K) (a b : Body K) : K × K :=
  shares a b (pushAxis a b) (pinned g s a.uid) (pinned g s b.uid)

/-- Both sides have taken their parts of a push. -/
def partBoth (g : Attachments) (s : Pushing K) (a b : Body K) : Pushing K :=
  let share := sharesOf g s a b
  part g (part g s a.uid (pushAxis a b) share.1 (firstPush a b share.1)) b.uid (pushAxis a b)
    share.2 (secondPush a b share.2)

/-- What is held once one side of a push is pinned. -/
def heldWith (g : Attachments) (s : Pushing K) (a b : Body K) : List String :=
  if pinned g s a.uid then addNames s.held (g.treeOf b.uid)
  else if pinned g s b.uid then addNames s.held (g.treeOf a.uid)
  else s.held

/-- The state after a push. -/
def pushed (g : Attachments) (s : Pushing K) (i j : Nat) (a b : Body K) : Pushing K :=
  let t := partBoth g s a b
  let axis := pushAxis a b
  { bodies := (t.bodies.modify i (halt axis (direction a b axis))).modify j
      (halt axis (-direction a b axis))
    rolledBack := t.rolledBack
    held := addNames (heldWith g s a b) t.rolledBack }

theorem held_rollBackAll (s : Pushing K) (uids : List String) :
    (s.rollBackAll uids).held = s.held := by
  unfold rollBackAll
  induction uids generalizing s with
  | nil => rfl
  | cons u rest ih =>
    rw [List.foldl_cons, ih]
    unfold rollBack
    split <;> rfl

theorem held_part (s : Pushing K) (head : String) (axis : Axis) (share amount : K) :
    (part g s head axis share amount).held = s.held := by
  unfold part
  split
  · rcases shiftTree_cases g s head axis amount with back | shifted
    · rw [back, held_rollBackAll]
    · rw [shifted]
      rfl
  · rfl

/-- No push is made just if both trees are pinned. -/
theorem pushApart?_eq : s.pushApart? g i j a b =
    if pinned g s a.uid && pinned g s b.uid then none else some (pushed g s i j a b) := by
  have held : (partBoth g s a b).held = s.held := (held_part ..).trans (held_part ..)
  rw [pushed, heldWith, ← held]
  rfl

theorem eq_pushed (h : s.pushApart? g i j a b = some s') : s' = pushed g s i j a b := by
  rw [pushApart?_eq] at h
  split at h
  · cases h
  · exact (Option.some.inj h).symm

theorem visit_eq {e : Pushing K × Nat} (foundA : e.1.bodies[i]? = some a)
    (foundB : e.1.bodies[j]? = some b) : visit g e (i, j) =
      if mustPart g a b && !(pinned g e.1 a.uid && pinned g e.1 b.uid) then
        (pushed g e.1 i j a b, e.2 + 1)
      else e := by
  unfold visit
  simp only [foundA, foundB, pushApart?_eq]
  cases mustPart g a b with
  | false => rfl
  | true => cases pinned g e.1 a.uid && pinned g e.1 b.uid <;> rfl

/-- After a push a uid is held if it was so before, went back, or was in a tree that was taken off a
pinned one. -/
theorem held_pushed (holds : uid ∈ (pushed g s i j a b).held) :
    uid ∈ s.held ∨ uid ∈ (pushed g s i j a b).rolledBack ∨
      (pinned g s a.uid = true ∧ uid ∈ g.treeOf b.uid ∨
        pinned g s b.uid = true ∧ uid ∈ g.treeOf a.uid) := by
  rcases mem_addNames.1 holds with before | back
  · unfold heldWith at before
    split at before
    · rename_i pinnedA
      exact (mem_addNames.1 before).imp id fun inTree => .inr (.inl ⟨pinnedA, inTree⟩)
    · split at before
      · rename_i pinnedB
        exact (mem_addNames.1 before).imp id fun inTree => .inr (.inr ⟨pinnedB, inTree⟩)
      · exact .inl before
  · exact .inr (.inl back)

end Pushing

end Playfield
