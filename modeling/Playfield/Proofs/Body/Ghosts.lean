import Playfield.Body.Contacts
import Playfield.Proofs.Body.Bystanders
import Playfield.Proofs.Body.Reordering

/-!
# Ghosts

A body that has no mask, or takes no part in collisions, is not met by others. Such bodies may be
left out of a world, if no link leads from one of them to another body or back.

* `Body.isGhost`, and what tests of two bodies say if one of them is a ghost.
* `Pushing.Haunted`: a state that differs from another one by a crowd of bodies. It is a relation
  that each operation of a separation keeps: `Haunted.rollBack` and the others up to
  `Haunted.shoved`, then `haunted_encounter`, `haunted_pass`, `haunted_separate`, `haunted_settle`.
* `Physics.Haunts`: uids of ghosts that are linked to one another only.
* `integrate_without`, `contacts_without`, `resolve_without`, and `ghosts_do_not_interfere` of the
  three together.
-/

namespace Playfield

variable {K : Type}

namespace Attachments

theorem towed_only {g : Attachments} {keep : String → Bool} {uid : String} (distinct : g.uids.Nodup)
    (apart : ∀ {child parent}, g.parent? child = some parent → keep child = keep parent)
    (kept : keep uid = true) : (g.only keep).towed uid = g.towed uid := by
  unfold towed
  rw [rootOf?_only distinct apart kept]
  cases h : g.rootOf? uid with
  | none => exact subtree_only distinct apart kept
  | some root => exact subtree_only distinct apart (keep_of_rootOf? apart kept h)

theorem keep_of_mem_towed {g : Attachments} {keep : String → Bool} {uid head : String}
    (distinct : g.uids.Nodup)
    (apart : ∀ {child parent}, g.parent? child = some parent → keep child = keep parent)
    (kept : keep head = true) (mem : uid ∈ g.towed head) : keep uid = true := by
  unfold towed at mem
  cases h : g.rootOf? head with
  | none => exact keep_of_mem_subtree distinct apart kept (by rwa [h] at mem)
  | some root =>
    exact keep_of_mem_subtree distinct apart (keep_of_rootOf? apart kept h) (by rwa [h] at mem)

end Attachments

namespace Body

/-- The body has no mask, or takes no part in collisions. -/
def isGhost (b : Body K) : Bool := b.blockMask.isNone || !b.isSolid

variable {a b : Body K}

theorem not_isObstacle_of_isGhost (ghost : b.isGhost = true) : b.isObstacle = false := by
  simp only [isGhost, isObstacle, Bool.or_eq_true, Bool.not_eq_true'] at ghost ⊢
  rcases ghost with maskless | loose
  · rw [Option.isNone_iff_eq_none.1 maskless, Option.isSome_none, Bool.and_false]
  · rw [loose, Bool.false_and, Bool.false_and]

/-- Two bodies do not block each other if one of them is a ghost. -/
theorem not_block_of_isGhost (ghost : a.isGhost = true ∨ b.isGhost = true) :
    (a.isSolid && b.isSolid && a.masksBlock b) = false := by
  simp only [isGhost, masksBlock, Bool.or_eq_true, Bool.not_eq_true', Option.isNone_iff_eq_none]
    at ghost ⊢
  rcases ghost with (maskless | loose) | (maskless | loose)
  · simp [maskless]
  · simp [loose]
  · cases a.blockMask <;> simp [maskless]
  · simp [loose]

theorem not_inTile_of_isGhost [Scalar K] (m : TileMap K) (ghost : b.isGhost = true) :
    b.inTile m = false := by
  simp only [isGhost, inTile, TileMap.footprintBlocked, Bool.or_eq_true, Bool.not_eq_true',
    Option.isNone_iff_eq_none] at ghost ⊢
  rcases ghost with maskless | loose
  · rw [maskless, Option.isSome_none, Bool.false_and, Bool.and_false]
  · rw [loose, Bool.false_and]

end Body

variable [Scalar K]

namespace Pushing

theorem not_mustPart_of_isGhost {a b : Body K} (g : Attachments)
    (ghost : a.isGhost = true ∨ b.isGhost = true) : mustPart g a b = false := by
  rw [mustPart, Body.not_block_of_isGhost ghost, Bool.false_and, Bool.false_and, Bool.false_and]

/-- The second state lacks the bodies of the uids that are not kept, which make up a crowd. -/
structure Haunted (keep : String → Bool) (crowd : List (Body K)) (s s' : Pushing K) : Prop where
  bodies : s'.bodies = s.bodies.filter (keep ·.uid)
  crowd : s.bodies.filter (!keep ·.uid) = crowd
  rolledBack : s'.rolledBack = s.rolledBack
  held : s'.held = s.held

variable {keep : String → Bool} {crowd : List (Body K)} {g : Attachments} {s s' : Pushing K}
  {a b : Body K} {uid head : String} {axis : Axis} {share amount : K}

namespace Haunted

omit [Scalar K] in
theorem look_eq (haunted : Haunted keep crowd s s') (kept : keep uid = true) :
    s'.look uid = s.look uid := by
  unfold look
  rw [haunted.bodies]
  exact Roster.find?_filter keep kept

omit [Scalar K] in
theorem mem_crowd (haunted : Haunted keep crowd s s') (found : s.look uid = some b)
    (gone : keep uid = false) : b ∈ crowd := by
  obtain ⟨mem, rfl⟩ := Roster.mem_of_find?_eq_some found
  rw [← haunted.crowd, List.mem_filter, gone]
  exact ⟨mem, rfl⟩

omit [Scalar K] in
theorem modify {f : Body K → Body K} (haunted : Haunted keep crowd s s')
    (keeps : ∀ b, (f b).uid = b.uid) (kept : keep uid = true) :
    Haunted keep crowd { s with bodies := Roster.modify Body.uid uid f s.bodies }
      { s' with bodies := Roster.modify Body.uid uid f s'.bodies } where
  bodies := haunted.bodies ▸ Roster.modify_filter keep keeps kept
  crowd := (Roster.filter_modify (!keep ·) keeps (by rw [kept]; rfl)).trans haunted.crowd
  rolledBack := haunted.rolledBack
  held := haunted.held

theorem rollBack (haunted : Haunted keep crowd s s') (kept : keep uid = true) :
    Haunted keep crowd (s.rollBack uid) (s'.rollBack uid) := by
  have same : Roster.modify? Body.uid uid Body.rollBack s'.bodies =
      (Roster.modify? Body.uid uid Body.rollBack s.bodies).map (·.filter (keep ·.uid)) :=
    haunted.bodies ▸ Roster.modify?_filter keep (fun _ => rfl) kept
  unfold Pushing.rollBack
  rw [same]
  cases changed : Roster.modify? Body.uid uid Body.rollBack s.bodies with
  | none => exact haunted
  | some bodies =>
    have others := Roster.filter_modify? (!keep ·) (f := Body.rollBack) (fun _ => rfl)
      (by rw [kept]; rfl) changed
    exact ⟨rfl, others.trans haunted.crowd, congrArg (addNames · [uid]) haunted.rolledBack,
      haunted.held⟩

theorem rollBackAll (haunted : Haunted keep crowd s s') {uids : List String}
    (kept : ∀ u ∈ uids, keep u = true) :
    Haunted keep crowd (s.rollBackAll uids) (s'.rollBackAll uids) := by
  unfold Pushing.rollBackAll
  induction uids generalizing s s' with
  | nil => exact haunted
  | cons u rest ih =>
    rw [List.forall_mem_cons] at kept
    exact ih (haunted.rollBack kept.1) kept.2

theorem shiftAll (haunted : Haunted keep crowd s s') {uids : List String}
    (kept : ∀ u ∈ uids, keep u = true) :
    Haunted keep crowd (s.shiftAll uids axis amount) (s'.shiftAll uids axis amount) := by
  unfold Pushing.shiftAll
  induction uids generalizing s s' with
  | nil => exact haunted
  | cons u rest ih =>
    rw [List.forall_mem_cons] at kept
    exact ih (haunted.modify (f := Pushing.shift axis amount) (fun _ => rfl) kept.1) kept.2

section Linked

variable (distinct : g.uids.Nodup)
  (apart : ∀ {child parent}, g.parent? child = some parent → keep child = keep parent)

include distinct apart

/-! ### A push -/

theorem fights_eq (haunted : Haunted keep crowd s s') (kept : keep head = true) :
    fights (g.only keep) s' head axis amount = fights g s head axis amount := by
  have root : keep ((g.rootOf? head).getD head) = true := by
    cases h : g.rootOf? head with
    | none => exact kept
    | some root => exact Attachments.keep_of_rootOf? apart kept h
  unfold fights
  rw [Attachments.rootOf?_only distinct apart kept, Attachments.towed_only distinct apart kept,
    haunted.look_eq root]

theorem part (haunted : Haunted keep crowd s s') (kept : keep head = true) :
    Haunted keep crowd (part g s head axis share amount)
      (part (g.only keep) s' head axis share amount) := by
  have tree (u : String) : u ∈ g.towed head → keep u = true :=
    Attachments.keep_of_mem_towed distinct apart kept
  unfold Pushing.part
  rw [shiftTree_eq, shiftTree_eq, haunted.fights_eq distinct apart kept,
    Attachments.towed_only distinct apart kept]
  split
  · split
    · exact haunted.rollBackAll tree
    · exact haunted.shiftAll tree
  · exact haunted

omit [Scalar K] in
theorem pinned_eq (haunted : Haunted keep crowd s s') (kept : keep head = true) :
    pinned (g.only keep) s' head = pinned g s head := by
  unfold pinned
  rw [Attachments.treeOf_only distinct apart kept, haunted.held]

variable (keptA : keep a.uid = true) (keptB : keep b.uid = true)

include keptA keptB

theorem partBoth (haunted : Haunted keep crowd s s') :
    Haunted keep crowd (partBoth g s a b) (partBoth (g.only keep) s' a b) := by
  have shares : sharesOf (g.only keep) s' a b = sharesOf g s a b := by
    unfold sharesOf
    rw [haunted.pinned_eq distinct apart keptA, haunted.pinned_eq distinct apart keptB]
  unfold Pushing.partBoth
  rw [shares]
  exact (haunted.part distinct apart keptA).part distinct apart keptB

omit [Scalar K] in
theorem heldWith_eq (haunted : Haunted keep crowd s s') :
    heldWith (g.only keep) s' a b = heldWith g s a b := by
  unfold heldWith
  rw [haunted.pinned_eq distinct apart keptA, haunted.pinned_eq distinct apart keptB, haunted.held,
    Attachments.treeOf_only distinct apart keptA, Attachments.treeOf_only distinct apart keptB]

theorem shoved (haunted : Haunted keep crowd s s') :
    Haunted keep crowd (shoved g s a b) (shoved (g.only keep) s' a b) := by
  have keeps (axis : Axis) (dir : K) (c : Body K) : (halt axis dir c).uid = c.uid :=
    Body.uid_eq_of_start (start_halt c)
  have parts := haunted.partBoth distinct apart keptA keptB
  have halted := (parts.modify (keeps (pushAxis a b) (direction a b (pushAxis a b))) keptA).modify
    (keeps (pushAxis a b) (-direction a b (pushAxis a b))) keptB
  refine ⟨halted.bodies, halted.crowd, parts.rolledBack, ?_⟩
  unfold Pushing.shoved
  simp only
  rw [haunted.heldWith_eq distinct apart keptA keptB, parts.rolledBack]

end Linked

end Haunted

/-! ### Encounters and passes -/

section Run

variable {e e' : Pushing K × Nat} (distinct : g.uids.Nodup)
  (apart : ∀ {child parent}, g.parent? child = some parent → keep child = keep parent)
  (ghosts : ∀ b ∈ crowd, b.isGhost = true)

include ghosts

/-- Nobody meets a ghost. -/
theorem clash?_of_gone (haunted : Haunted keep crowd s s') {xy : String × String}
    (gone : (keep xy.1 && keep xy.2) = false) : clash? g s xy = none := by
  refine Option.eq_none_iff_forall_ne_some.2 fun ab clash => ?_
  obtain ⟨a, b⟩ := ab
  obtain ⟨foundA, foundB, part, -⟩ := clash?_eq_some_iff.1 clash
  have ghost : a.isGhost = true ∨ b.isGhost = true := by
    rw [Bool.and_eq_false_iff] at gone
    exact gone.imp (fun gone => ghosts a (haunted.mem_crowd foundA gone))
      fun gone => ghosts b (haunted.mem_crowd foundB gone)
  rw [not_mustPart_of_isGhost g ghost] at part
  cases part

include distinct apart

omit ghosts in
theorem clash?_only (haunted : Haunted keep crowd s s') {xy : String × String}
    (kept : (keep xy.1 && keep xy.2) = true) : clash? (g.only keep) s' xy = clash? g s xy := by
  rw [Bool.and_eq_true] at kept
  refine Option.ext fun ⟨a, b⟩ => ?_
  rw [clash?_eq_some_iff, clash?_eq_some_iff, haunted.look_eq kept.1, haunted.look_eq kept.2]
  refine and_congr_right fun foundA => and_congr_right fun foundB => ?_
  have keptA : keep a.uid = true := (Roster.mem_of_find?_eq_some foundA).2 ▸ kept.1
  have keptB : keep b.uid = true := (Roster.mem_of_find?_eq_some foundB).2 ▸ kept.2
  rw [mustPart, mustPart, Attachments.directlyAttached_only distinct apart keptA keptB,
    haunted.pinned_eq distinct apart keptA, haunted.pinned_eq distinct apart keptB]

omit ghosts in
/-- The others meet as they would among themselves. -/
theorem haunted_encounter (haunted : Haunted keep crowd e.1 e'.1) (count : e'.2 = e.2)
    {xy : String × String} (kept : (keep xy.1 && keep xy.2) = true) :
    Haunted keep crowd (encounter g e xy).1 (encounter (g.only keep) e' xy).1 ∧
      (encounter (g.only keep) e' xy).2 = (encounter g e xy).2 := by
  have same := clash?_only distinct apart haunted kept
  unfold encounter
  rw [same, count]
  refine ⟨?_, rfl⟩
  cases clash : clash? g e.1 xy with
  | none => rwa [met_of_none clash, met_of_none (same.trans clash)]
  | some ab =>
    obtain ⟨a, b⟩ := ab
    obtain rfl := uids_of_clash clash
    rw [Bool.and_eq_true] at kept
    rw [met_of_clash clash, met_of_clash (same.trans clash)]
    exact haunted.shoved distinct apart kept.1 kept.2

theorem haunted_foldl (e e' : Pushing K × Nat) (haunted : Haunted keep crowd e.1 e'.1)
    (count : e'.2 = e.2) (l : List (String × String)) :
    let met := l.foldl (encounter g) e
    let met' := (l.filter fun xy => keep xy.1 && keep xy.2).foldl (encounter (g.only keep)) e'
    Haunted keep crowd met.1 met'.1 ∧ met'.2 = met.2 := by
  induction l generalizing e e' with
  | nil => exact ⟨haunted, count⟩
  | cons xy rest ih =>
    cases kept : keep xy.1 && keep xy.2 with
    | true =>
      rw [List.filter_cons, if_pos kept]
      obtain ⟨haunted, count⟩ := haunted_encounter distinct apart haunted count kept
      exact ih _ _ haunted count
    | false =>
      rw [List.filter_cons, kept, List.foldl_cons,
        encounter_of_none (clash?_of_gone ghosts haunted kept)]
      exact ih _ _ haunted count

omit [Scalar K] distinct apart ghosts in
theorem couples_filter (keep : String → Bool) (names : List String) :
    couples (names.filter keep) = (couples names).filter fun xy => keep xy.1 && keep xy.2 := by
  induction names with
  | nil => rfl
  | cons x rest ih =>
    rw [couples, List.filter_append, ← ih, List.filter_map]
    cases kept : keep x with
    | true =>
      rw [List.filter_cons, kept, if_pos rfl, couples]
      refine congrArg (· ++ _) (congrArg _ (List.filter_congr fun y _ => ?_))
      simp [kept]
    | false =>
      rw [List.filter_cons, kept, if_neg Bool.false_ne_true]
      refine (List.nil_append _).symm.trans (congrArg (· ++ _) ?_)
      rw [List.filter_eq_nil_iff.2 fun y _ => by simp [kept], List.map_nil]

theorem haunted_pass (names : s.Distinct) (haunted : Haunted keep crowd s s') :
    Haunted keep crowd (s.pass g).1 (s'.pass (g.only keep)).1 ∧
      (s'.pass (g.only keep)).2 = (s.pass g).2 := by
  have names' : s'.bodies.map Body.uid = (s.bodies.map Body.uid).filter keep := by
    rw [haunted.bodies, List.filter_map]
    rfl
  rw [pass_eq names, pass_eq (names' ▸ names.filter keep), names', couples_filter]
  exact haunted_foldl distinct apart ghosts (s, 0) (s', 0) haunted rfl _

theorem haunted_passes (n : Nat) (names : s.Distinct) (haunted : Haunted keep crowd s s') :
    Haunted keep crowd (passes g n s).1 (passes (g.only keep) n s').1 ∧
      (passes (g.only keep) n s').2 = (passes g n s).2 := by
  induction n generalizing s s' with
  | zero => exact ⟨haunted, rfl⟩
  | succ n ih =>
    obtain ⟨first, count⟩ := haunted_pass distinct apart ghosts names haunted
    obtain ⟨rest, more⟩ := ih (names.of_moves (pass_moves s)) first
    rw [passes_succ, passes_succ, count, more]
    split
    · exact ⟨first, count⟩
    · exact ⟨rest, rfl⟩

omit [Scalar K] distinct apart ghosts in
theorem Haunted.begun (haunted : Haunted keep crowd s s') : Haunted keep crowd s.begun s'.begun :=
  ⟨haunted.bodies, haunted.crowd, haunted.rolledBack, congrArg (addNames []) haunted.rolledBack⟩

theorem haunted_separate (names : s.Distinct) (haunted : Haunted keep crowd s s') :
    Haunted keep crowd (s.separate g).1 (s'.separate (g.only keep)).1 ∧
      (s'.separate (g.only keep)).2 = (s.separate g).2 :=
  haunted_passes distinct apart ghosts maxPasses names haunted.begun

/-! ### Rollback and rounds -/

omit distinct apart in
/-- No tile stops a ghost. -/
theorem offenders_eq (map : Option (TileMap K)) (haunted : Haunted keep crowd s s') :
    offenders map s'.bodies = offenders map s.bodies := by
  unfold offenders
  cases map with
  | none => rfl
  | some m =>
    simp only
    rw [haunted.bodies, List.filter_filter]
    refine congrArg _ (List.filter_congr fun b mem => ?_)
    cases kept : keep b.uid with
    | true => rw [Bool.and_true]
    | false =>
      rw [Bool.and_false]
      refine (Body.not_inTile_of_isGhost m (ghosts b ?_)).symm
      rw [← haunted.crowd, List.mem_filter, kept]
      exact ⟨mem, rfl⟩

theorem haunted_rollBackTiles (map : Option (TileMap K)) (haunted : Haunted keep crowd s s') :
    Haunted keep crowd (s.rollBackTiles map g).1 (s'.rollBackTiles map (g.only keep)).1 ∧
      (s'.rollBackTiles map (g.only keep)).2 = (s.rollBackTiles map g).2 := by
  have same := offenders_eq ghosts map haunted
  have kept (u : String) (mem : u ∈ offenders map s'.bodies) : keep u = true := by
    obtain ⟨b, mem, carries, -⟩ := masked_of_offender mem
    rw [haunted.bodies] at mem
    exact carries ▸ (List.mem_filter.1 mem).2
  rw [same] at kept
  have trees : (offenders map s.bodies).flatMap (g.only keep).subtree =
      (offenders map s.bodies).flatMap g.subtree :=
    List.flatMap_congr fun u mem => Attachments.subtree_only distinct apart (kept u mem)
  unfold rollBackTiles
  simp only [same, foldl_rollBackAll, trees]
  refine ⟨haunted.rollBackAll fun u mem => ?_, trivial⟩
  obtain ⟨v, offends, mem⟩ := List.mem_flatMap.1 mem
  exact Attachments.keep_of_mem_subtree distinct apart (kept v offends) mem

theorem haunted_settle (map : Option (TileMap K)) (n : Nat) (names : s.Distinct)
    (haunted : Haunted keep crowd s s') :
    Haunted keep crowd (settle map g n s).1 (settle map (g.only keep) n s').1 ∧
      (settle map (g.only keep) n s').2 = (settle map g n s).2 := by
  induction n generalizing s s' with
  | zero => exact ⟨haunted, rfl⟩
  | succ n ih =>
    obtain ⟨parted, count⟩ := haunted_separate distinct apart ghosts names haunted
    obtain ⟨clear, calm⟩ := haunted_rollBackTiles distinct apart ghosts map parted
    have moves := (separate_moves (g := g) s).trans (rollBackTiles_moves map (s.separate g).1)
    obtain ⟨rest, more⟩ := ih (names.of_moves moves) clear
    rw [settle_succ, settle_succ]
    simp only [count, calm, more]
    split
    · exact ⟨parted, count⟩
    · split
      · exact ⟨clear, rfl⟩
      · exact ⟨rest, rfl⟩

end Run

end Pushing

namespace Physics

/-- The bodies of some uids are left out. -/
def without (p : Physics K) (uids : List String) : Physics K :=
  { p with bodies := p.bodies.filter (·.uid ∉ uids) }

/-- The bodies of some uids. -/
def crowd (p : Physics K) (uids : List String) : List (Body K) := p.bodies.filter (·.uid ∈ uids)

/-- The bodies of some uids are ghosts, and linked to one another only. -/
structure Haunts (ghosts : List String) (p : Physics K) : Prop where
  ghostly : ∀ b ∈ p.bodies, b.uid ∈ ghosts → b.isGhost = true
  apart : ∀ a ∈ p.bodies, ∀ b ∈ p.bodies, a.parent = some b.uid → (a.uid ∈ ghosts ↔ b.uid ∈ ghosts)

variable {p p' : Physics K} {ghosts : List String} {dt : K} {on : Bool}

/-- What it hangs on whether a body haunts others. -/
def nature (b : Body K) : String × Option String × Bool := (b.uid, b.parent, b.isGhost)

omit [Scalar K] in
theorem Haunts.of_nature (haunts : p.Haunts ghosts)
    (same : p'.bodies.map nature = p.bodies.map nature) : p'.Haunts ghosts := by
  have exists_alike {b' : Body K} (mem : b' ∈ p'.bodies) : ∃ b ∈ p.bodies,
      b.uid = b'.uid ∧ b.parent = b'.parent ∧ b.isGhost = b'.isGhost := by
    obtain ⟨b, mem, alike⟩ := List.mem_map.1 (same ▸ List.mem_map_of_mem mem)
    simp only [nature, Prod.mk.injEq] at alike
    exact ⟨b, mem, alike⟩
  refine ⟨fun b mem haunting => ?_, fun a memA b memB link => ?_⟩
  · obtain ⟨c, memC, uid, -, ghost⟩ := exists_alike mem
    exact ghost ▸ haunts.ghostly c memC (uid ▸ haunting)
  · obtain ⟨a', memA', uidA, parentA, -⟩ := exists_alike memA
    obtain ⟨b', memB', uidB, -, -⟩ := exists_alike memB
    rw [← uidA, ← uidB]
    exact haunts.apart a' memA' b' memB' (by rw [parentA, uidB, link])

omit [Scalar K] in
theorem Haunts.of_starts (haunts : p.Haunts ghosts)
    (starts : p'.bodies.map Body.start = p.bodies.map Body.start) : p'.Haunts ghosts := by
  have alike := congrArg (List.map nature) starts
  rw [List.map_map, List.map_map] at alike
  exact haunts.of_nature alike

omit [Scalar K] in
theorem Haunts.beginTick (haunts : p.Haunts ghosts) : p.beginTick.Haunts ghosts :=
  haunts.of_nature (List.map_map ..)

/-! ### Motion -/

omit [Scalar K] in
theorem beginTick_without (p : Physics K) (ghosts : List String) :
    (p.without ghosts).beginTick = p.beginTick.without ghosts := by
  unfold without Physics.beginTick
  rw [List.filter_map]
  rfl

theorem integrate_without (haunts : p.Haunts ghosts) (dt : K) (on : Bool) :
    (p.without ghosts).integrate dt on = (p.integrate dt on).without ghosts := by
  have bodies : ((p.without ghosts).integrate dt on).bodies =
      (p.integrate dt on).bodies.filter (·.uid ∉ ghosts) := by
    rw [integrate_eq, integrate_eq, travelAmong_filter]
    · exact travelAmong_with ..
    · exact fun b b' start => by rw [Body.uid_eq_of_start start]
    · intro b mem haunting
      refine Body.not_isObstacle_of_isGhost (haunts.ghostly b mem ?_)
      simpa using haunting
  exact congrArg (fun bodies => { p with bodies }) bodies

/-! ### Contacts -/

theorem not_touching_of_isGhost {a b : Body K} (ghost : a.isGhost = true ∨ b.isGhost = true)
    (solid : a.isSolid = true) : (b.isSolid && touching a b) = false := by
  have apart := Body.not_block_of_isGhost ghost
  rw [solid, Bool.true_and] at apart
  simp only [touching, ← Bool.and_assoc, apart, Bool.false_and]

theorem pairs_filter {keep : Body K → Bool} {bodies : List (Body K)}
    (ghosts : ∀ b ∈ bodies, keep b = false → b.isGhost = true) :
    pairs touching (bodies.filter keep) = pairs touching bodies := by
  induction bodies with
  | nil => rfl
  | cons a rest ih =>
    rw [List.forall_mem_cons] at ghosts
    rw [pairs, List.filter_cons]
    cases kept : keep a with
    | true =>
      rw [if_pos rfl, pairs, ih ghosts.2]
      split
      · rename_i solid
        have met : (rest.filter keep).filter (fun b => b.isSolid && touching a b) =
            rest.filter fun b => b.isSolid && touching a b := by
          rw [List.filter_filter]
          refine List.filter_congr fun b mem => ?_
          cases keptB : keep b with
          | true => rw [Bool.and_true]
          | false =>
            rw [Bool.and_false, not_touching_of_isGhost (.inr (ghosts.2 b mem keptB)) solid]
        rw [met]
      · rfl
    | false =>
      rw [if_neg Bool.false_ne_true, ih ghosts.2]
      split
      · rename_i solid
        rw [List.filter_eq_nil_iff.2 fun b _ => by
          rw [not_touching_of_isGhost (.inl (ghosts.1 kept)) solid]
          exact Bool.false_ne_true]
        rfl
      · rfl

theorem contacts_without (haunts : p.Haunts ghosts) :
    (p.without ghosts).contacts = p.contacts :=
  pairs_filter fun b mem haunting => haunts.ghostly b mem (by simpa using haunting)

/-! ### Resolution -/

omit [Scalar K] in
theorem attachments_without (p : Physics K) (ghosts : List String) :
    (p.without ghosts).attachments = p.attachments.only (· ∉ ghosts) := by
  unfold without attachments Attachments.only
  rw [List.filter_map]
  rfl

omit [Scalar K] in
theorem Haunts.linked_apart (haunts : p.Haunts ghosts) {child parent : String}
    (link : p.attachments.parent? child = some parent) :
    decide (child ∉ ghosts) = decide (parent ∉ ghosts) := by
  obtain ⟨mem, live⟩ := Attachments.link_of_parent? link
  obtain ⟨a, memA, same⟩ := List.mem_map.1 mem
  rw [attachments, Attachments.uids, List.map_map] at live
  obtain ⟨b, memB, rfl⟩ := List.mem_map.1 live
  rw [Prod.mk.injEq] at same
  rw [decide_eq_decide, ← same.1]
  exact not_congr (haunts.apart a memA b memB same.2)

theorem resolve_without (distinct : (p.bodies.map Body.uid).Nodup) (haunts : p.Haunts ghosts) :
    (p.without ghosts).resolve = (p.resolve.1, p.resolve.2.without ghosts) ∧
      p.resolve.2.crowd ghosts = p.crowd ghosts := by
  have linked := nodup_links distinct
  have names : Pushing.Distinct ⟨p.bodies, [], []⟩ := distinct
  have alone : ∀ b ∈ p.crowd ghosts, b.isGhost = true := fun b mem =>
    haunts.ghostly b (List.mem_of_mem_filter mem) (by simpa using (List.mem_filter.1 mem).2)
  have start : Pushing.Haunted (· ∉ ghosts) (p.crowd ghosts)
      ⟨p.bodies, [], []⟩ ⟨(p.without ghosts).bodies, [], []⟩ := by
    refine ⟨rfl, ?_, rfl, rfl⟩
    simp only [decide_not, Bool.not_not]
    rfl
  obtain ⟨clear, -⟩ := Pushing.haunted_rollBackTiles linked haunts.linked_apart alone p.map start
  obtain ⟨settled, count⟩ := Pushing.haunted_settle linked haunts.linked_apart alone p.map
    maxPasses (names.of_moves (Pushing.rollBackTiles_moves p.map _)) clear
  rw [← attachments_without] at settled count
  refine ⟨?_, ?_⟩
  · refine Prod.ext ?_ ?_
    · exact congrArg₂ Resolution.mk settled.rolledBack count
    · exact congrArg (fun bodies => { p with bodies }) settled.bodies
  · refine Eq.trans ?_ settled.crowd
    simp only [decide_not, Bool.not_not]
    rfl

/-- Ghosts that are linked to one another only may be left out of a world: the others move, touch
and are resolved as if they were alone. A resolution leaves the ghosts where they are. -/
theorem ghosts_do_not_interfere (p : Physics K) (dt : K) (on : Bool) {ghosts : List String}
    (distinct : (p.bodies.map Body.uid).Nodup) (haunts : p.Haunts ghosts) :
    let q := p.beginTick.integrate dt on
    let q' := (p.without ghosts).beginTick.integrate dt on
    q' = q.without ghosts ∧ q'.resolve = (q.resolve.1, q.resolve.2.without ghosts) ∧
      ((p.without ghosts).contacts = p.contacts ∧ q'.contacts = q.contacts ∧
        q'.resolve.2.contacts = q.resolve.2.contacts) ∧
      p.resolve.2.crowd ghosts = p.crowd ghosts ∧ q.resolve.2.crowd ghosts = q.crowd ghosts := by
  intro q q'
  have haunted : q.Haunts ghosts := haunts.beginTick.of_starts (starts_integrate ..)
  have names : (q.bodies.map Body.uid).Nodup := by
    rw [Body.uids_of_starts (starts_integrate ..), beginTick, List.map_map]
    exact distinct
  have moved : q' = q.without ghosts :=
    (congrArg (integrate · dt on) (beginTick_without p ghosts)).trans
      (integrate_without haunts.beginTick dt on)
  obtain ⟨resolved, still⟩ := resolve_without names haunted
  have after : q.resolve.2.Haunts ghosts := haunted.of_starts (Pushing.starts_resolve q)
  refine ⟨moved, moved ▸ resolved, ⟨contacts_without haunts, ?_, ?_⟩,
    (resolve_without distinct haunts).2, still⟩
  · rw [moved, contacts_without haunted]
  · rw [moved, resolved, contacts_without after]

namespace Crossing

/-- A crate on its way to another one, with a banner between the two and a tassel on it that is not
collidable. -/
def hall : Physics Rat :=
  { plane with
    bodies := [crate "a" 0 8 true, { crate "banner" 5 0 true with blockMask := none },
      { crate "tassel" 10 0 false with
        flags := { collidable := false }, parent := some "banner" },
      crate "b" 16 0 true] }

end Crossing

open Crossing in
/-- The crates are pushed apart as they are without the banner. -/
theorem crates_meet_through_a_banner :
    (hall.bodies.map Body.uid).Nodup ∧ hall.Haunts ["banner", "tassel"] ∧
      (hall.beginTick.integrate 1 false).resolve.1.pushes = 1 ∧
      ((hall.without ["banner", "tassel"]).beginTick.integrate 1 false).resolve.1.pushes = 1 := by
  have distinct : (hall.bodies.map Body.uid).Nodup := by decide
  have haunts : hall.Haunts ["banner", "tassel"] := ⟨by decide, by decide⟩
  have pushes : (hall.beginTick.integrate 1 false).resolve.1.pushes = 1 := by cbv
  refine ⟨distinct, haunts, pushes, ?_⟩
  rw [(hall.ghosts_do_not_interfere 1 false distinct haunts).2.1, pushes]

end Physics

end Playfield
