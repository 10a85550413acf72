import Playfield.Proofs.Body.Quiet

/-!
# What a push hangs on

The order of the body list shows in a state, but not in what the state says of each uid.

* `standing`: what a state says of a uid. `Local`: operations that are a matter of some uids.
  `Local.comm`: those that have no uid in common may be done in either order.
* `part_congr`, `part_local`: one side of a push is a matter of the tree that it tows, and so is a
  whole push of both trees (`shoved_congr`, `standing_shoved_of_away`).
* `encounter`: how two bodies meet, told by their uids. `visit_eq_encounter`: a visit of two
  positions is an encounter. `Concerns`: the uids that the trees of two bodies tow.
* `encounter_comm`: pairs that do not concern the same uids may meet in either order.
-/

namespace Playfield

namespace Attachments

variable {g g' : Attachments} {head : String}

theorem towed_perm (order : g.links.Perm g'.links) (distinct : g.uids.Nodup) (head : String) :
    (g'.towed head).Perm (g.towed head) := by
  unfold towed
  rw [rootOf?_of_perm order distinct]
  exact subtree_perm order distinct _

theorem self_mem_towed : head ∈ g.towed head := by
  cases root : g.rootOf? head with
  | none =>
    rw [towed, root]
    exact self_mem_subtree
  | some r =>
    rw [towed, root]
    exact mem_subtree_of_rootOf? root

theorem treeOf_subset_towed : g.treeOf head ⊆ g.towed head := by
  cases root : g.rootOf? head with
  | none =>
    rw [treeOf, root]
    exact List.cons_subset.2 ⟨self_mem_towed, List.nil_subset _⟩
  | some r =>
    rw [treeOf, towed, root]
    exact List.Subset.refl _

/-- No other uid tows one that stands alone. -/
theorem eq_of_mem_towed {uid : String} (distinct : g.uids.Nodup) (orphan : g.parent? uid = none)
    (childless : ∀ u, g.parent? u ≠ some uid) (mem : uid ∈ g.towed head) : head = uid := by
  have first {root : String} (mem : uid ∈ g.subtree root) : root = uid := by
    rcases (under_of_mem_subtree distinct mem).cases_head with same | ⟨u, link, -⟩
    · exact same.symm
    · rw [orphan] at link
      cases link
  rw [towed] at mem
  cases root : g.rootOf? head with
  | none =>
    rw [root, Option.getD_none] at mem
    exact first mem
  | some r =>
    rw [root, Option.getD_some] at mem
    obtain rfl := first mem
    have below := mem_subtree_of_rootOf? root
    rwa [subtree_of_childless distinct childless, List.mem_singleton] at below

end Attachments

variable {K : Type}

/-- What a state says of a uid: its body, and whether it went back and is held. -/
@[ext]
structure Standing (K : Type) where
  body : Option (Body K)
  back : Prop
  held : Prop

namespace Pushing

variable {g g' : Attachments} {s s' : Pushing K} {e e' : Pushing K × Nat} {a b : Body K}
  {uid head : String} {xy zw : String × String} {axis : Axis} {share amount : K}

/-- What a state says of a uid. -/
def standing (s : Pushing K) (uid : String) : Standing K :=
  ⟨s.look uid, uid ∈ s.rolledBack, uid ∈ s.held⟩

theorem look_congr (same : s.standing uid = s'.standing uid) : s.look uid = s'.look uid :=
  congrArg Standing.body same

theorem back_congr (same : s.standing uid = s'.standing uid) :
    uid ∈ s.rolledBack ↔ uid ∈ s'.rolledBack :=
  iff_of_eq (congrArg Standing.back same)

theorem held_congr (same : s.standing uid = s'.standing uid) : uid ∈ s.held ↔ uid ∈ s'.held :=
  iff_of_eq (congrArg Standing.held same)

/-- An operation leaves alone what is not its own, and what it makes of its own hangs only on that,
if the state is fit for it. -/
structure Local (fit : Pushing K → Prop) (own : String → Prop) (f : Pushing K → Pushing K) :
    Prop where
  keeps : ∀ {s}, fit s → fit (f s)
  away : ∀ {s uid}, fit s → ¬own uid → (f s).standing uid = s.standing uid
  hangs : ∀ {s s' uid}, (∀ u, own u → s.standing u = s'.standing u) → own uid →
    (f s).standing uid = (f s').standing uid

/-- Operations that have nothing in common may be done in either order. -/
theorem Local.comm {fit : Pushing K → Prop} {own own' : String → Prop}
    {f f' : Pushing K → Pushing K} (first : Local fit own f) (second : Local fit own' f')
    (apart : ∀ u, own u → ¬own' u) (isFit : fit s) (uid : String) :
    (f' (f s)).standing uid = (f (f' s)).standing uid := by
  -- Neither of the two changes what the other one hangs on.
  have same (u : String) (mem : own u) : (f' s).standing u = s.standing u :=
    second.away isFit (apart u mem)
  have same' (u : String) (mem : own' u) : (f s).standing u = s.standing u :=
    first.away isFit fun other => apart u other mem
  by_cases mem : own uid
  · rw [second.away (first.keeps isFit) (apart uid mem)]
    exact (first.hangs same mem).symm
  · rw [first.away (second.keeps isFit) mem]
    by_cases mem' : own' uid
    · exact second.hangs same' mem'
    · rw [second.away (first.keeps isFit) mem', first.away isFit mem, second.away isFit mem']

variable [Scalar K]

/-! ### One side of a push -/

/-- What is said of a uid that goes back to the start of the tick, if it has a body. -/
def sentBack (t : Standing K) : Standing K :=
  { t with body := t.body.map Body.rollBack, back := t.back ∨ t.body.isSome }

/-- What is said of a uid whose body is shifted. -/
def shifted (axis : Axis) (amount : K) (t : Standing K) : Standing K :=
  { t with body := t.body.map (shift axis amount) }

/-- A tree of several bodies has a root that moves against a push. -/
def fights (g : Attachments) (s : Pushing K) (head : String) (axis : Axis) (amount : K) : Bool :=
  let motion := ((s.look ((g.rootOf? head).getD head)).map fun b => axis.of b.moved).getD 0.0
  (g.towed head).length > 1 && decide (motion * amount < 0.0)

theorem shiftTree_eq (g : Attachments) (s : Pushing K) (head : String) (axis : Axis) (amount : K) :
    s.shiftTree g head axis amount =
      if fights g s head axis amount then s.rollBackAll (g.towed head)
      else s.shiftAll (g.towed head) axis amount := rfl

theorem standing_rollBackAll (s : Pushing K) (uids : List String) :
    (s.rollBackAll uids).standing uid =
      if uid ∈ uids then sentBack (s.standing uid) else s.standing uid := by
  unfold standing
  rw [look_rollBackAll, mem_rolledBack_all, held_rollBackAll]
  split
  · rename_i mem
    simp [sentBack, mem]
  · rename_i away
    simp [away]

theorem standing_shiftAll (s : Pushing K) {uids : List String} (distinct : uids.Nodup) :
    (s.shiftAll uids axis amount).standing uid =
      if uid ∈ uids then shifted axis amount (s.standing uid) else s.standing uid := by
  unfold standing
  rw [look_shiftAll s distinct]
  split
  · rfl
  · rw [Option.map_id']
    rfl

/-- The root that a push is measured by is towed itself. -/
theorem fights_congr (order : g.links.Perm g'.links) (distinct : g.uids.Nodup)
    (agree : ∀ u ∈ g.towed head, s.standing u = s'.standing u) :
    fights g s head axis amount = fights g' s' head axis amount := by
  unfold fights
  rw [Attachments.rootOf?_of_perm order distinct,
    (Attachments.towed_perm order distinct head).length_eq,
    look_congr (agree _ Attachments.self_mem_subtree)]

theorem standing_part (s : Pushing K) (uid : String) :
    (part g s head axis share amount).standing uid =
      if 0.0 < share ∧ uid ∈ g.towed head then
        if fights g s head axis amount then sentBack (s.standing uid)
        else shifted axis amount (s.standing uid)
      else s.standing uid := by
  unfold part
  by_cases takes : 0.0 < share
  · rw [if_pos takes, shiftTree_eq]
    by_cases back : fights g s head axis amount = true
    · rw [if_pos back, if_pos back, standing_rollBackAll]
      simp only [takes, true_and]
    · have once : (g.towed head).Nodup := Attachments.nodup_subtree
      rw [if_neg back, if_neg back, standing_shiftAll s once]
      simp only [takes, true_and]
  · rw [if_neg takes, if_neg fun h => takes h.1]

theorem part_congr (order : g.links.Perm g'.links) (distinct : g.uids.Nodup)
    (agree : ∀ u ∈ g.towed head, s.standing u = s'.standing u)
    (here : s.standing uid = s'.standing uid) :
    (part g s head axis share amount).standing uid =
      (part g' s' head axis share amount).standing uid := by
  rw [standing_part, standing_part, fights_congr order distinct agree, here]
  simp only [(Attachments.towed_perm order distinct head).mem_iff]

theorem standing_part_of_away (away : uid ∉ g.towed head) :
    (part g s head axis share amount).standing uid = s.standing uid := by
  rw [standing_part, if_neg fun h => away h.2]

theorem part_local (distinct : g.uids.Nodup) (head : String) (axis : Axis) (share amount : K) :
    Local (fun _ => True) (· ∈ g.towed head) (part g · head axis share amount) where
  keeps _ := trivial
  away _ away := standing_part_of_away away
  hangs agree mem := part_congr (.refl _) distinct agree (agree _ mem)

/-! ### Both sides of a push -/

/-- A uid is in the tree that one of two bodies tows. -/
def Concerns (g : Attachments) (xy : String × String) (uid : String) : Prop :=
  uid ∈ g.towed xy.1 ∨ uid ∈ g.towed xy.2

omit [Scalar K] in
theorem pinned_congr (order : g.links.Perm g'.links) (distinct : g.uids.Nodup)
    (agree : ∀ u ∈ g.towed head, s.standing u = s'.standing u) :
    pinned g s head = pinned g' s' head := by
  rw [Bool.eq_iff_iff, pinned_iff, pinned_iff]
  have tree := Attachments.treeOf_perm order distinct head
  have iff (u : String) (mem : u ∈ g.treeOf head) :=
    held_congr (agree u (Attachments.treeOf_subset_towed mem))
  constructor
  · rintro ⟨u, mem, holds⟩
    exact ⟨u, tree.mem_iff.2 mem, (iff u mem).1 holds⟩
  · rintro ⟨u, mem, holds⟩
    exact ⟨u, tree.mem_iff.1 mem, (iff u (tree.mem_iff.1 mem)).2 holds⟩

/-- The state after a push of two bodies, told by their uids. -/
def shoved (g : Attachments) (s : Pushing K) (a b : Body K) : Pushing K :=
  let t := partBoth g s a b
  let axis := pushAxis a b
  { bodies := Roster.modify Body.uid b.uid (halt axis (-direction a b axis))
      (Roster.modify Body.uid a.uid (halt axis (direction a b axis)) t.bodies)
    rolledBack := t.rolledBack
    held := addNames (heldWith g s a b) t.rolledBack }

theorem partBoth_congr (order : g.links.Perm g'.links) (distinct : g.uids.Nodup)
    (agree : ∀ u, Concerns g (a.uid, b.uid) u → s.standing u = s'.standing u)
    (here : s.standing uid = s'.standing uid) :
    (partBoth g s a b).standing uid = (partBoth g' s' a b).standing uid := by
  have shares : sharesOf g s a b = sharesOf g' s' a b := by
    unfold sharesOf
    rw [pinned_congr order distinct fun u mem => agree u (.inl mem),
      pinned_congr order distinct fun u mem => agree u (.inr mem)]
  have first (u : String) (here : s.standing u = s'.standing u) (share amount : K) :
      (part g s a.uid (pushAxis a b) share amount).standing u =
        (part g' s' a.uid (pushAxis a b) share amount).standing u :=
    part_congr order distinct (fun v mem => agree v (.inl mem)) here
  unfold partBoth
  rw [← shares]
  exact part_congr order distinct (fun u mem => first u (agree u (.inr mem)) _ _)
    (first uid here _ _)

omit [Scalar K] in
theorem mem_heldWith : uid ∈ heldWith g s a b ↔ uid ∈ s.held ∨
    pinned g s a.uid = true ∧ uid ∈ g.treeOf b.uid ∨
      ¬pinned g s a.uid = true ∧ pinned g s b.uid = true ∧ uid ∈ g.treeOf a.uid := by
  unfold heldWith
  split
  · rename_i pinnedA
    simp [mem_addNames, pinnedA]
  · rename_i free
    split
    · rename_i pinnedB
      simp [mem_addNames, free, pinnedB]
    · rename_i free'
      simp [free, free']

/-- What a push does to the velocity of one of its two sides. -/
def haltSide (a b c : Body K) : Body K :=
  let axis := pushAxis a b
  let c := if c.uid = a.uid then halt axis (direction a b axis) c else c
  if c.uid = b.uid then halt axis (-direction a b axis) c else c

theorem look_shoved :
    (shoved g s a b).look uid = ((partBoth g s a b).look uid).map (haltSide a b) := by
  have keeps (axis : Axis) (dir : K) (c : Body K) : (halt axis dir c).uid = c.uid :=
    Body.uid_eq_of_start (start_halt c)
  unfold look shoved
  rw [Roster.find?_modify (keeps _ _), Roster.find?_modify (keeps _ _), Option.map_map]
  rfl

theorem shoved_congr (order : g.links.Perm g'.links) (distinct : g.uids.Nodup)
    (agree : ∀ u, Concerns g (a.uid, b.uid) u → s.standing u = s'.standing u)
    (here : s.standing uid = s'.standing uid) :
    (shoved g s a b).standing uid = (shoved g' s' a b).standing uid := by
  have parts := partBoth_congr order distinct agree here
  have pinnedA : pinned g s a.uid = pinned g' s' a.uid :=
    pinned_congr order distinct fun u mem => agree u (.inl mem)
  have pinnedB : pinned g s b.uid = pinned g' s' b.uid :=
    pinned_congr order distinct fun u mem => agree u (.inr mem)
  refine Standing.ext ?_ (propext (back_congr parts :)) (propext ?_)
  · change (shoved g s a b).look uid = (shoved g' s' a b).look uid
    rw [look_shoved, look_shoved, look_congr parts]
  · change uid ∈ addNames _ _ ↔ uid ∈ addNames _ _
    rw [mem_addNames, mem_addNames, mem_heldWith, mem_heldWith, pinnedA, pinnedB, held_congr here,
      (Attachments.treeOf_perm order distinct _).mem_iff,
      (Attachments.treeOf_perm order distinct _).mem_iff, back_congr parts]

theorem standing_partBoth_of_away (away : ¬Concerns g (a.uid, b.uid) uid) :
    (partBoth g s a b).standing uid = s.standing uid :=
  (standing_part_of_away fun h => away (.inr h)).trans
    (standing_part_of_away fun h => away (.inl h))

/-- A push leaves alone the bodies that it does not concern. -/
theorem look_shoved_of_away (away : ¬Concerns g (a.uid, b.uid) uid) :
    (shoved g s a b).look uid = s.look uid := by
  rw [look_shoved, look_congr (standing_partBoth_of_away away)]
  refine (Option.map_congr fun c found => ?_).trans Option.map_id'
  have carries : c.uid = uid := (Roster.mem_of_find?_eq_some found).2
  have neA : c.uid ≠ a.uid := fun same =>
    away (.inl (carries.symm.trans same ▸ Attachments.self_mem_towed))
  have neB : c.uid ≠ b.uid := fun same =>
    away (.inr (carries.symm.trans same ▸ Attachments.self_mem_towed))
  simp [haltSide, neA, neB]

theorem back_shoved_of_away (away : ¬Concerns g (a.uid, b.uid) uid) :
    uid ∈ (shoved g s a b).rolledBack ↔ uid ∈ s.rolledBack :=
  (back_congr (standing_partBoth_of_away away) :)

/-- A push leaves alone what it does not concern, if what went back was held before. -/
theorem standing_shoved_of_away (tied : s.rolledBack ⊆ s.held)
    (away : ¬Concerns g (a.uid, b.uid) uid) : (shoved g s a b).standing uid = s.standing uid := by
  refine Standing.ext (look_shoved_of_away away) (propext (back_shoved_of_away away)) (propext ?_)
  change uid ∈ addNames _ _ ↔ uid ∈ s.held
  rw [mem_addNames, mem_heldWith, back_congr (standing_partBoth_of_away away)]
  constructor
  · rintro ((held | ⟨-, mem⟩ | ⟨-, -, mem⟩) | back)
    · exact held
    · exact absurd (.inr (Attachments.treeOf_subset_towed mem)) away
    · exact absurd (.inl (Attachments.treeOf_subset_towed mem)) away
    · exact tied back
  · exact fun held => .inl (.inl held)

/-! ### Encounters -/

/-- The bodies of two uids, if they must be pushed apart and are not both pinned. -/
def clash? (g : Attachments) (s : Pushing K) (xy : String × String) : Option (Body K × Body K) :=
  match s.look xy.1, s.look xy.2 with
  | some a, some b =>
    if mustPart g a b && !(pinned g s a.uid && pinned g s b.uid) then some (a, b) else none
  | _, _ => none

/-- The state after the bodies of two uids have met. -/
def met (g : Attachments) (s : Pushing K) (xy : String × String) : Pushing K :=
  match clash? g s xy with
  | some (a, b) => shoved g s a b
  | none => s

/-- What comes of it when the bodies of two uids meet; a push counts. -/
def encounter (g : Attachments) (e : Pushing K × Nat) (xy : String × String) : Pushing K × Nat :=
  (met g e.1 xy, e.2 + (clash? g e.1 xy).toList.length)

theorem clash?_eq_some_iff : clash? g s xy = some (a, b) ↔ s.look xy.1 = some a ∧
    s.look xy.2 = some b ∧ mustPart g a b = true ∧
      ¬(pinned g s a.uid = true ∧ pinned g s b.uid = true) := by
  unfold clash?
  constructor
  · intro h
    split at h
    · rename_i a' b' foundA foundB
      split at h
      · rename_i part
        cases h
        rw [Bool.and_eq_true, Bool.not_eq_true', ← Bool.not_eq_true, Bool.and_eq_true] at part
        exact ⟨foundA, foundB, part.1, part.2⟩
      · cases h
    · cases h
  · rintro ⟨foundA, foundB, part, free⟩
    rw [← Bool.and_eq_true, Bool.not_eq_true] at free
    simp only [foundA, foundB, part, free, Bool.not_false, Bool.and_self, if_true]

theorem uids_of_clash (clash : clash? g s xy = some (a, b)) : (a.uid, b.uid) = xy := by
  obtain ⟨foundA, foundB, -, -⟩ := clash?_eq_some_iff.1 clash
  exact Prod.ext (Roster.mem_of_find?_eq_some foundA).2 (Roster.mem_of_find?_eq_some foundB).2

theorem met_of_clash (clash : clash? g s xy = some (a, b)) : met g s xy = shoved g s a b := by
  rw [met, clash]

theorem met_of_none (calm : clash? g s xy = none) : met g s xy = s := by
  rw [met, calm]

theorem encounter_of_none (calm : clash? g e.1 xy = none) : encounter g e xy = e := by
  rw [encounter, met_of_none calm, calm]
  rfl

theorem mustPart_of_perm (order : g.links.Perm g'.links) (distinct : g.uids.Nodup) (a b : Body K) :
    mustPart g' a b = mustPart g a b := by
  unfold mustPart
  rw [Attachments.directlyAttached_of_perm order distinct]

theorem clash?_congr (order : g.links.Perm g'.links) (distinct : g.uids.Nodup)
    (agree : ∀ u, Concerns g xy u → s.standing u = s'.standing u) :
    clash? g s xy = clash? g' s' xy := by
  have pins (u : String) (mem : u = xy.1 ∨ u = xy.2) : pinned g s u = pinned g' s' u := by
    refine pinned_congr order distinct fun v towed => agree v ?_
    rcases mem with rfl | rfl
    · exact .inl towed
    · exact .inr towed
  refine Option.ext fun ⟨a, b⟩ => ?_
  rw [clash?_eq_some_iff, clash?_eq_some_iff, mustPart_of_perm order distinct,
    look_congr (agree xy.1 (.inl Attachments.self_mem_towed)),
    look_congr (agree xy.2 (.inr Attachments.self_mem_towed))]
  refine and_congr_right fun foundA => and_congr_right fun foundB => ?_
  rw [pins a.uid (.inl (Roster.mem_of_find?_eq_some foundA).2),
    pins b.uid (.inr (Roster.mem_of_find?_eq_some foundB).2)]

theorem met_congr (order : g.links.Perm g'.links) (distinct : g.uids.Nodup)
    (agree : ∀ u, Concerns g xy u → s.standing u = s'.standing u)
    (here : s.standing uid = s'.standing uid) :
    (met g s xy).standing uid = (met g' s' xy).standing uid := by
  have same := clash?_congr order distinct agree
  cases clash : clash? g s xy with
  | none => rwa [met_of_none clash, met_of_none (same ▸ clash)]
  | some ab =>
    rw [met_of_clash clash, met_of_clash (same ▸ clash)]
    exact shoved_congr order distinct (uids_of_clash clash ▸ agree) here

theorem standing_met_of_away (tied : s.rolledBack ⊆ s.held) (away : ¬Concerns g xy uid) :
    (met g s xy).standing uid = s.standing uid := by
  cases clash : clash? g s xy with
  | none => rw [met_of_none clash]
  | some ab =>
    rw [met_of_clash clash]
    exact standing_shoved_of_away tied (uids_of_clash clash ▸ away)

theorem met_tied (tied : s.rolledBack ⊆ s.held) :
    (met g s xy).rolledBack ⊆ (met g s xy).held := by
  cases clash : clash? g s xy with
  | none => rwa [met_of_none clash]
  | some ab =>
    rw [met_of_clash clash]
    exact fun u back => mem_addNames.2 (.inr back)

/-- What comes of two bodies is a matter of their trees, if what went back was held before. -/
theorem met_local (distinct : g.uids.Nodup) (xy : String × String) :
    Local (fun s : Pushing K => s.rolledBack ⊆ s.held) (Concerns g xy) (met g · xy) where
  keeps := met_tied
  away := standing_met_of_away
  hangs agree mem := met_congr (.refl _) distinct agree (agree _ mem)

/-- Two states say the same of each uid, and count the same. -/
def Alike (e e' : Pushing K × Nat) : Prop :=
  (∀ uid, e.1.standing uid = e'.1.standing uid) ∧ e.2 = e'.2

omit [Scalar K] in
theorem Alike.refl (e : Pushing K × Nat) : Alike e e := ⟨fun _ => rfl, rfl⟩

omit [Scalar K] in
theorem Alike.symm (alike : Alike e e') : Alike e' e :=
  ⟨fun uid => (alike.1 uid).symm, alike.2.symm⟩

omit [Scalar K] in
theorem Alike.trans {e'' : Pushing K × Nat} (alike : Alike e e') (alike' : Alike e' e'') :
    Alike e e'' :=
  ⟨fun uid => (alike.1 uid).trans (alike'.1 uid), alike.2.trans alike'.2⟩

theorem Alike.encounter (order : g.links.Perm g'.links) (distinct : g.uids.Nodup)
    (alike : Alike e e') (xy : String × String) :
    Alike (encounter g e xy) (encounter g' e' xy) := by
  refine ⟨fun uid => met_congr order distinct (fun u _ => alike.1 u) (alike.1 uid), ?_⟩
  rw [Pushing.encounter, Pushing.encounter, alike.2,
    clash?_congr order distinct fun u _ => alike.1 u]

/-- Pairs that do not concern the same uids may meet in either order. -/
theorem encounter_comm (distinct : g.uids.Nodup) (tied : e.1.rolledBack ⊆ e.1.held)
    (apart : ∀ u, Concerns g xy u → ¬Concerns g zw u) :
    Alike (encounter g (encounter g e xy) zw) (encounter g (encounter g e zw) xy) := by
  have first := met_local (K := K) distinct xy
  have second := met_local (K := K) distinct zw
  have clash : clash? g (met g e.1 xy) zw = clash? g e.1 zw :=
    clash?_congr (.refl _) distinct fun u mem => first.away tied fun other => apart u other mem
  have clash' : clash? g (met g e.1 zw) xy = clash? g e.1 xy :=
    clash?_congr (.refl _) distinct fun u mem => second.away tied (apart u mem)
  refine ⟨first.comm second apart tied, ?_⟩
  simp only [encounter, clash, clash']
  omega

/-! ### Visits -/

theorem starts_part (s : Pushing K) :
    (part g s head axis share amount).bodies.map Body.start = s.bodies.map Body.start := by
  unfold part
  split
  · rcases shiftTree_cases g s head axis amount with back | shifted
    · rw [back, starts_rollBackAll]
    · rw [shifted, starts_shiftAll]
  · rfl

theorem pushed_eq_shoved (distinct : (s.bodies.map Body.uid).Nodup) {i j : Nat}
    (foundA : s.bodies[i]? = some a) (foundB : s.bodies[j]? = some b) :
    pushed g s i j a b = shoved g s a b := by
  have names : (partBoth g s a b).bodies.map Body.uid = s.bodies.map Body.uid :=
    Body.uids_of_starts ((starts_part _).trans (starts_part s))
  have named {k : Nat} {c : Body K} (found : s.bodies[k]? = some c) :
      (s.bodies.map Body.uid)[k]? = some c.uid := by
    rw [List.getElem?_map, found, Option.map_some]
  have first (f : Body K → Body K) : Roster.modify Body.uid a.uid f (partBoth g s a b).bodies =
      (partBoth g s a b).bodies.modify i f :=
    Roster.modify_eq (names ▸ distinct) (names ▸ named foundA)
  have second (axis : Axis) (dir : K) (f : Body K → Body K) :
      Roster.modify Body.uid b.uid f ((partBoth g s a b).bodies.modify i (halt axis dir)) =
        ((partBoth g s a b).bodies.modify i (halt axis dir)).modify j f := by
    have names' := (Body.uids_of_starts (starts_halt (partBoth g s a b).bodies i axis dir)).trans
      names
    exact Roster.modify_eq (names' ▸ distinct) (names' ▸ named foundB)
  simp only [pushed, shoved, first, second]

/-- A visit of two positions is an encounter of the uids that stand there. -/
theorem visit_eq_encounter (distinct : (e.1.bodies.map Body.uid).Nodup) {i j : Nat} {x y : String}
    (standsX : (e.1.bodies.map Body.uid)[i]? = some x)
    (standsY : (e.1.bodies.map Body.uid)[j]? = some y) :
    visit g e (i, j) = encounter g e (x, y) := by
  rw [List.getElem?_map, Option.map_eq_some_iff] at standsX standsY
  obtain ⟨a, foundA, rfl⟩ := standsX
  obtain ⟨b, foundB, rfl⟩ := standsY
  have lookA : e.1.look a.uid = some a := Roster.find?_key distinct (List.mem_of_getElem? foundA)
  have lookB : e.1.look b.uid = some b := Roster.find?_key distinct (List.mem_of_getElem? foundB)
  rw [visit_eq foundA foundB, pushed_eq_shoved distinct foundA foundB]
  unfold encounter met clash?
  simp only [lookA, lookB]
  split
  · rfl
  · rfl

end Pushing

end Playfield
