import Mathlib.Logic.Relation
import Playfield.Body.Separation
import Playfield.Proofs.Body.System

/-!
# The moves of a resolution

Whatever a resolution does to bodies is a series of a few moves.

* `Pushing.Move`: a tree goes back, a tree is shifted, a masked body is halted, or something is
  held. The trees start at roots or at masked bodies.
* `Pushing.Moves`: a series of moves; `resolve_moves` finds one for a whole resolution.
* `starts_moves`: no move touches what bodies were at the start of the tick.
* `look_rollBackAll`, `look_shiftAll`: what names find after a move.
-/

namespace Playfield

variable {K : Type} [Scalar K]

namespace Body

theorem start_rollBack (b : Body K) : b.rollBack.start = b.start := rfl

theorem rollBack_rollBack (b : Body K) : b.rollBack.rollBack = b.rollBack := rfl

end Body

namespace Pushing

variable {g : Attachments} {s s' s'' : Pushing K} {uid root : String} {axis : Axis} {amount : K}

/-- The body of a uid. -/
def look (s : Pushing K) (uid : String) : Option (Body K) := Roster.find? Body.uid uid s.bodies

/-- Shifts bodies along an axis. -/
def shiftAll (s : Pushing K) (uids : List String) (axis : Axis) (amount : K) : Pushing K :=
  { s with
    bodies := uids.foldl (fun bs u => Roster.modify Body.uid u (shift axis amount) bs) s.bodies }

/-- The body of a uid has a mask. -/
def Masked (s : Pushing K) (uid : String) : Prop :=
  ∃ b ∈ s.bodies, b.uid = uid ∧ b.blockMask.isSome

/-- The body at a position has a mask. -/
def MaskedAt (s : Pushing K) (i : Nat) : Prop :=
  ∃ b, s.bodies[i]? = some b ∧ b.blockMask.isSome

/-- A uid at which a moved tree may start: it has no parent or a mask. -/
def Heads (g : Attachments) (s : Pushing K) (root : String) : Prop :=
  g.parent? root = none ∨ s.Masked root

/-- What happens to bodies at once. -/
inductive Move (g : Attachments) (s : Pushing K) : Pushing K → Prop
  | rollBack {root : String} (heads : Heads g s root) : Move g s (s.rollBackAll (g.subtree root))
  | shift {root : String} (heads : Heads g s root) (axis : Axis) (amount : K) :
    Move g s (s.shiftAll (g.subtree root) axis amount)
  | halt {i : Nat} (masked : s.MaskedAt i) (axis : Axis) (dir : K) :
    Move g s { s with bodies := s.bodies.modify i (Pushing.halt axis dir) }
  | hold (held : List String) : Move g s { s with held }

/-- A series of moves. -/
abbrev Moves (g : Attachments) : Pushing K → Pushing K → Prop := Relation.ReflTransGen (Move g)

/-! ### What moves do to bodies -/

theorem start_shift (b : Body K) : (shift axis amount b).start = b.start := rfl

theorem start_halt {dir : K} (b : Body K) : (halt axis dir b).start = b.start := by
  unfold halt
  split <;> rfl

/-- What a change of bodies does not touch stays as it is. -/
theorem starts_rollBack (s : Pushing K) (uid : String) :
    (s.rollBack uid).bodies.map Body.start = s.bodies.map Body.start := by
  unfold rollBack
  split
  · rename_i bodies h
    exact Roster.map_modify? Body.start_rollBack h
  · rfl

theorem starts_rollBackAll (s : Pushing K) (uids : List String) :
    (s.rollBackAll uids).bodies.map Body.start = s.bodies.map Body.start := by
  unfold rollBackAll
  induction uids generalizing s with
  | nil => rfl
  | cons u rest ih => rw [List.foldl_cons, ih, starts_rollBack]

theorem starts_shiftAll (s : Pushing K) (uids : List String) :
    (s.shiftAll uids axis amount).bodies.map Body.start = s.bodies.map Body.start := by
  unfold shiftAll
  simp only
  induction uids generalizing s with
  | nil => rfl
  | cons u rest ih =>
    rw [List.foldl_cons]
    refine (ih { s with bodies := _ }).trans ?_
    exact Roster.map_modify start_shift

theorem starts_halt (bodies : List (Body K)) (i : Nat) (axis : Axis) (dir : K) :
    (bodies.modify i (halt axis dir)).map Body.start = bodies.map Body.start := by
  induction bodies generalizing i with
  | nil => rw [List.modify_nil]
  | cons b rest ih =>
    cases i with
    | zero => rw [List.modify_zero_cons, List.map_cons, List.map_cons, start_halt]
    | succ i => rw [List.modify_succ_cons, List.map_cons, List.map_cons, ih]

theorem Move.starts (h : Move g s s') : s'.bodies.map Body.start = s.bodies.map Body.start := by
  cases h with
  | rollBack => exact starts_rollBackAll s _
  | shift => exact starts_shiftAll s _
  | halt => exact starts_halt s.bodies _ _ _
  | hold => rfl

/-- No move touches what bodies were at the start of the tick. -/
theorem starts_moves (h : Moves g s s') :
    s'.bodies.map Body.start = s.bodies.map Body.start := by
  induction h with
  | refl => rfl
  | tail _ move ih => exact move.starts.trans ih

omit [Scalar K] in
theorem Masked.of_starts (starts : s'.bodies.map Body.start = s.bodies.map Body.start)
    (masked : s.Masked uid) : s'.Masked uid := by
  obtain ⟨b, mem, carries, has⟩ := masked
  have : b.start ∈ s'.bodies.map Body.start := starts ▸ List.mem_map_of_mem mem
  obtain ⟨b', mem', same⟩ := List.mem_map.1 this
  exact ⟨b', mem', (Body.uid_eq_of_start same).trans carries,
    Body.blockMask_eq_of_start same ▸ has⟩

omit [Scalar K] in
theorem MaskedAt.of_starts {i : Nat}
    (starts : s'.bodies.map Body.start = s.bodies.map Body.start) (masked : s.MaskedAt i) :
    s'.MaskedAt i := by
  obtain ⟨b, found, has⟩ := masked
  have same : (s'.bodies.map Body.start)[i]? = (s.bodies.map Body.start)[i]? := by rw [starts]
  rw [List.getElem?_map, List.getElem?_map, found, Option.map_some, Option.map_eq_some_iff] at same
  obtain ⟨b', found', same⟩ := same
  exact ⟨b', found', Body.blockMask_eq_of_start same ▸ has⟩

omit [Scalar K] in
theorem MaskedAt.masked {i : Nat} {b : Body K} (found : s.bodies[i]? = some b)
    (masked : b.blockMask.isSome) : s.Masked b.uid :=
  ⟨b, List.mem_of_getElem? found, rfl, masked⟩

/-! ### The moves of each operation -/

theorem shiftTree_moves (masked : s.Masked uid) : Moves g s (s.shiftTree g uid axis amount) := by
  have heads : Heads g s ((g.rootOf? uid).getD uid) := by
    cases h : g.rootOf? uid with
    | none => exact .inr masked
    | some root => exact .inl (Attachments.parent?_of_rootOf? h)
  unfold shiftTree
  simp only
  split
  · exact .single (.rollBack heads)
  · exact .single (.shift heads axis amount)

/-- One of the two parts of a push. -/
theorem part_moves {share : K} (masked : s.Masked uid) :
    Moves g s (if 0.0 < share then s.shiftTree g uid axis amount else s) := by
  split
  · exact shiftTree_moves masked
  · exact .refl

theorem halts_moves {i j : Nat} {dir dir' : K} {held : List String} (moved : Moves g s s')
    (maskedI : s.MaskedAt i) (maskedJ : s.MaskedAt j) :
    Moves g s { s' with
      held, bodies := (s'.bodies.modify i (halt axis dir)).modify j (halt axis dir') } := by
  have first := moved.tail (.halt (maskedI.of_starts (starts_moves moved)) axis dir)
  have second := first.tail (.halt (maskedJ.of_starts (starts_moves first)) axis dir')
  exact second.tail (.hold held)

theorem pushApart?_moves {i j : Nat} {a b : Body K} (foundA : s.bodies[i]? = some a)
    (foundB : s.bodies[j]? = some b) (maskedA : a.blockMask.isSome)
    (maskedB : b.blockMask.isSome) (h : s.pushApart? g i j a b = some s') : Moves g s s' := by
  unfold pushApart? at h
  simp only at h
  split at h
  · cases h
  · cases h
    have uidA : s.Masked a.uid := MaskedAt.masked foundA maskedA
    have uidB : s.Masked b.uid := MaskedAt.masked foundB maskedB
    refine halts_moves (.trans ?_ (part_moves ?_)) ⟨a, foundA, maskedA⟩ ⟨b, foundB, maskedB⟩
    · exact part_moves uidA
    · exact uidB.of_starts (starts_moves (part_moves uidA))

theorem masked_of_mustPart {a b : Body K} (h : mustPart g a b = true) :
    a.blockMask.isSome ∧ b.blockMask.isSome := by
  simp only [mustPart, Body.masksBlock, Bool.and_eq_true, beq_iff_eq] at h
  obtain ⟨⟨⟨⟨_, has, same⟩, _⟩, _⟩, _⟩ := h
  exact ⟨has, same ▸ has⟩

theorem visit_moves (e : Pushing K × Nat) (ij : Nat × Nat) : Moves g e.1 (visit g e ij).1 := by
  unfold visit
  split
  · rename_i a b foundA foundB
    split
    · rename_i part
      obtain ⟨maskedA, maskedB⟩ := masked_of_mustPart part
      split
      · rename_i s' pushed
        exact pushApart?_moves foundA foundB maskedA maskedB pushed
      · exact .refl
    · exact .refl
  · exact .refl

theorem pass_moves (s : Pushing K) : Moves g s (s.pass g).1 := by
  unfold pass
  suffices ∀ (e : Pushing K × Nat) (l : List (Nat × Nat)),
      Moves g e.1 (l.foldl (visit g) e).1 from this (s, 0) _
  intro e l
  induction l generalizing e with
  | nil => exact .refl
  | cons ij rest ih => exact (visit_moves e ij).trans (ih _)

theorem passes_moves (n : Nat) (s : Pushing K) : Moves g s (passes g n s).1 := by
  induction n generalizing s with
  | zero => exact .refl
  | succ n ih =>
    have first := pass_moves (g := g) s
    unfold passes
    split
    · rename_i s' h
      rw [h] at first
      exact first
    · rename_i s' pushes _ h
      rw [h] at first
      exact first.trans (ih s')

theorem separate_moves (s : Pushing K) : Moves g s (s.separate g).1 :=
  .head (.hold _) (passes_moves _ _)

theorem masked_of_offender {map : Option (TileMap K)} (h : uid ∈ offenders map s.bodies) :
    s.Masked uid := by
  unfold offenders at h
  cases map with
  | none => cases h
  | some m =>
    obtain ⟨b, mem, carries⟩ := List.mem_map.1 h
    obtain ⟨mem, inTile⟩ := List.mem_filter.1 mem
    simp only [TileMap.footprintBlocked, Bool.and_eq_true] at inTile
    exact ⟨b, mem, carries, inTile.2.1⟩

theorem rollBackTiles_moves (map : Option (TileMap K)) (s : Pushing K) :
    Moves g s (s.rollBackTiles map g).1 := by
  unfold rollBackTiles
  suffices ∀ (found : List String) (s : Pushing K), (∀ u ∈ found, s.Masked u) →
      Moves g s (found.foldl (fun s uid => s.rollBackAll (g.subtree uid)) s) from
    this _ s fun u hu => masked_of_offender hu
  intro found
  induction found with
  | nil => exact fun s _ => .refl
  | cons u rest ih =>
    -- The other offenders keep their masks when a tree goes back.
    intro s masked
    refine .head (.rollBack (.inr (masked u List.mem_cons_self))) (ih _ fun v hv => ?_)
    exact (masked v (List.mem_cons_of_mem _ hv)).of_starts (starts_rollBackAll s _)

theorem settle_moves (map : Option (TileMap K)) (n : Nat) (s : Pushing K) :
    Moves g s (settle map g n s).1 := by
  induction n generalizing s with
  | zero => exact .refl
  | succ n ih =>
    have separated := separate_moves (g := g) s
    unfold settle
    split
    · rename_i s' h
      rw [h] at separated
      exact separated
    · rename_i s' pushes _ h
      rw [h] at separated
      have cleared := rollBackTiles_moves (g := g) map s'
      split
      · rename_i s'' h'
        rw [h'] at cleared
        exact separated.trans cleared
      · rename_i s'' _ _ h'
        rw [h'] at cleared
        exact (separated.trans cleared).trans (ih s'')

/-- A resolution is a series of moves. -/
theorem resolve_moves (p : Physics K) : ∃ s : Pushing K,
    Moves p.attachments ⟨p.bodies, [], []⟩ s ∧ s.bodies = p.resolve.2.bodies ∧
      s.rolledBack = p.resolve.1.rolledBack := by
  refine ⟨_, ?_, rfl, rfl⟩
  exact (rollBackTiles_moves p.map _).trans (settle_moves p.map maxPasses _)

theorem starts_resolve (p : Physics K) :
    p.resolve.2.bodies.map Body.start = p.bodies.map Body.start := by
  obtain ⟨s, moves, bodies, _⟩ := resolve_moves p
  rw [← bodies]
  exact starts_moves moves

/-! ### What names find after a move -/

theorem look_rollBack (s : Pushing K) (u : String) :
    (s.rollBack u).look uid = (s.look uid).map fun b => if b.uid = u then b.rollBack else b := by
  unfold rollBack look
  split
  · rename_i bodies h
    exact Roster.find?_modify? (fun _ => rfl) h
  · rename_i h
    have absent := Roster.find?_eq_none_iff.1 (Roster.modify?_eq_none_iff.1 h)
    refine (Option.map_congr fun b hb => ?_).trans Option.map_id' |>.symm
    rw [if_neg (absent b (Roster.mem_of_find?_eq_some hb).1)]

theorem look_rollBackAll (s : Pushing K) (uids : List String) :
    (s.rollBackAll uids).look uid =
      (s.look uid).map fun b => if uid ∈ uids then b.rollBack else b := by
  unfold rollBackAll
  induction uids generalizing s with
  | nil => simp
  | cons u rest ih =>
    rw [List.foldl_cons, ih, look_rollBack, Option.map_map]
    refine Option.map_congr fun b hb => ?_
    rw [Function.comp_apply, (Roster.mem_of_find?_eq_some hb).2]
    by_cases here : uid = u <;> by_cases later : uid ∈ rest <;>
      simp [here, later, Body.rollBack_rollBack]

/-- In a shift of distinct uids each of them is shifted once. -/
theorem look_shiftAll (s : Pushing K) {uids : List String} (distinct : uids.Nodup) :
    (s.shiftAll uids axis amount).look uid =
      (s.look uid).map fun b => if uid ∈ uids then shift axis amount b else b := by
  unfold shiftAll look
  simp only
  generalize s.bodies = bodies
  induction uids generalizing bodies with
  | nil => simp
  | cons u rest ih =>
    rw [List.nodup_cons] at distinct
    rw [List.foldl_cons, ih distinct.2, Roster.find?_modify (by intro b; rfl), Option.map_map]
    refine Option.map_congr fun b hb => ?_
    rw [Function.comp_apply, (Roster.mem_of_find?_eq_some hb).2]
    by_cases here : uid = u
    · subst here
      simp [distinct.1]
    · simp [here]

/-- Halting a masked body does not show where a body without a mask is looked up. -/
theorem look_halt {i : Nat} {b : Body K} {dir : K} (distinct : (s.bodies.map Body.uid).Nodup)
    (masked : s.MaskedAt i) (found : s.look uid = some b) (maskless : b.blockMask = none) :
    Roster.find? Body.uid uid (s.bodies.modify i (halt axis dir)) = some b := by
  obtain ⟨b', found', has⟩ := masked
  obtain ⟨mem, carries⟩ := Roster.mem_of_find?_eq_some found
  have other : b' ≠ b := by
    rintro rfl
    rw [maskless] at has
    cases has
  rw [Roster.find?_eq_some_iff (Body.uids_of_starts (starts_halt s.bodies i axis dir) ▸ distinct)]
  obtain ⟨k, at'⟩ := List.mem_iff_getElem?.1 mem
  have elsewhere : i ≠ k := by
    rintro rfl
    rw [found'] at at'
    exact other (Option.some.inj at')
  refine ⟨List.mem_iff_getElem?.2 ⟨k, ?_⟩, carries⟩
  simp [at', elsewhere]

/-! ### What went back -/

omit [Scalar K] in
theorem mem_addNames {names more : List String} :
    uid ∈ addNames names more ↔ uid ∈ names ∨ uid ∈ more := by
  unfold addNames
  induction more generalizing names with
  | nil => simp
  | cons u rest ih =>
    rw [List.foldl_cons, ih]
    by_cases known : u ∈ names
    · rw [if_pos known, List.mem_cons]
      refine ⟨fun h => h.imp id .inr, fun h => ?_⟩
      rcases h with h | rfl | h
      · exact .inl h
      · exact .inl known
      · exact .inr h
    · rw [if_neg known, List.mem_append, List.mem_singleton, List.mem_cons, or_assoc]

theorem mem_rolledBack (s : Pushing K) (u : String) :
    uid ∈ (s.rollBack u).rolledBack ↔ uid ∈ s.rolledBack ∨ uid = u ∧ (s.look uid).isSome := by
  unfold rollBack look
  split
  · rename_i bodies h
    have found : Roster.find? Body.uid u s.bodies ≠ none := fun none => by
      rw [Roster.modify?_eq_none_iff.2 none] at h
      cases h
    rw [mem_addNames, List.mem_singleton]
    refine or_congr_right ⟨fun same => ⟨same, ?_⟩, And.left⟩
    rw [same]
    exact Option.isSome_iff_ne_none.2 found
  · rename_i h
    have absent := Roster.modify?_eq_none_iff.1 h
    refine ⟨.inl, fun h => h.resolve_right fun ⟨same, has⟩ => ?_⟩
    rw [same, absent] at has
    cases has

/-- What went back after a rollback: what did before, and those of the uids that have a body. -/
theorem mem_rolledBack_all (s : Pushing K) (uids : List String) :
    uid ∈ (s.rollBackAll uids).rolledBack ↔
      uid ∈ s.rolledBack ∨ uid ∈ uids ∧ (s.look uid).isSome := by
  unfold rollBackAll
  induction uids generalizing s with
  | nil => simp
  | cons u rest ih =>
    rw [List.foldl_cons, ih, mem_rolledBack, look_rollBack, Option.isSome_map, List.mem_cons]
    tauto

end Pushing

end Playfield
