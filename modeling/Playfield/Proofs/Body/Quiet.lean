import Playfield.Proofs.Body.Push

/-!
# What a quiet pass leaves

A separation ends with a pass that pushes nothing, unless it runs out of passes.

* `EndsQuiet`: one of some passes pushes nothing. `quiet_passes`: so would one more pass over what
  they leave. `parted_or_pinned`: that is, each two bodies that block each other are parted, or
  both of their trees are pinned.
* `Pushes`: pushes one after the other, of which a separation is made (`separate_pushes`).
* `PushedOff`: in the course of a separation a tree was taken off a pinned one. `held_of_pushes`:
  only such trees are held, and what went back.
* `separation_ends_when_done` is the result. If nothing goes back it is one about a whole resolution
  (`resolve_of_none_back`).
-/

namespace Playfield

variable {K : Type} [Scalar K]

namespace Pushing

variable {g : Attachments} {s s' : Pushing K} {a b : Body K} {i j n : Nat} {uid : String}

/-! ### Quiet passes -/

omit [Scalar K] in
theorem mem_positions : (i, j) ∈ positions n ↔ i < j ∧ j < n := by
  unfold positions
  simp only [List.mem_flatMap, List.mem_range, List.mem_map, List.mem_range'_1, Prod.mk.injEq]
  constructor
  · rintro ⟨i', _, j', _, rfl, rfl⟩
    omega
  · exact fun _ => ⟨i, by omega, j, by omega, rfl, rfl⟩

/-- In a fold that counts no push every visit finds the state that there was at the start. -/
theorem visit_of_quiet {e : Pushing K × Nat} {l : List (Nat × Nat)}
    (quiet : (l.foldl (visit g) e).2 = e.2) {ij : Nat × Nat} (mem : ij ∈ l) :
    visit g e ij = e := by
  induction l with
  | nil => cases mem
  | cons kl rest ih =>
    rw [List.foldl_cons] at quiet
    have first : visit g e kl = e := by
      rcases visit_count (g := g) e kl with same | more
      · exact same
      · have := (foldl_visit_count (g := g) (visit g e kl) rest).1
        omega
    rcases List.mem_cons.1 mem with rfl | mem
    · exact first
    · rw [first] at quiet
      exact ih quiet mem

/-- Where a pass pushes nothing, bodies that block each other are parted or both pinned. -/
theorem parted_or_pinned (quiet : (s.pass g).2 = 0) :
    s.bodies.Pairwise fun a b => opposed g a b = true →
      a.Parted b ∨ pinned g s a.uid = true ∧ pinned g s b.uid = true := by
  rw [List.pairwise_iff_getElem]
  intro i j hi hj lt against
  have still : visit g (s, 0) (i, j) = (s, 0) := visit_of_quiet quiet (mem_positions.2 ⟨lt, hj⟩)
  by_cases parted : s.bodies[i].Parted s.bodies[j]
  · exact .inl parted
  · have counted := congrArg Prod.snd still
    rw [visit_eq (List.getElem?_eq_getElem hi) (List.getElem?_eq_getElem hj),
      mustPart_iff.2 ⟨against, parted⟩, Bool.true_and] at counted
    split at counted
    · cases counted
    · rename_i both
      exact .inr (by simpa using both)

/-- One of the next passes, at most the given number, pushes nothing. -/
def EndsQuiet (g : Attachments) : Nat → Pushing K → Prop
  | 0, _ => False
  | n + 1, s => (s.pass g).2 = 0 ∨ EndsQuiet g n (s.pass g).1

/-- After passes of which the last pushed nothing, one more would push nothing. -/
theorem quiet_passes (ends : EndsQuiet g n s) : ((passes g n s).1.pass g).2 = 0 := by
  induction n generalizing s with
  | zero => cases ends
  | succ n ih =>
    have still := pass_still (g := g) (s := s)
    unfold passes
    split
    · rename_i s' first
      rw [first] at still
      rw [still rfl, first]
    · rename_i s' pushes pushed first
      rw [EndsQuiet, first] at ends
      exact ih (ends.resolve_left pushed)

/-! ### Pushes in the course of a separation -/

/-- Two overlapping bodies that block each other are pushed apart. -/
inductive Push (g : Attachments) (s : Pushing K) : Pushing K → Prop
  | mk {i j : Nat} {a b : Body K} {s' : Pushing K} (ne : i ≠ j) (foundA : s.bodies[i]? = some a)
    (foundB : s.bodies[j]? = some b) (part : mustPart g a b = true)
    (pushed : s.pushApart? g i j a b = some s') : Push g s s'

/-- Pushes one after the other. -/
abbrev Pushes (g : Attachments) : Pushing K → Pushing K → Prop := Relation.ReflTransGen (Push g)

theorem visit_pushes (e : Pushing K × Nat) {ij : Nat × Nat} (ne : ij.1 ≠ ij.2) :
    Pushes g e.1 (visit g e ij).1 := by
  unfold visit
  split
  · rename_i a b foundA foundB
    split
    · rename_i part
      split
      · rename_i s' pushed
        exact .single ⟨ne, foundA, foundB, part, pushed⟩
      · exact .refl
    · exact .refl
  · exact .refl

theorem pass_pushes (s : Pushing K) : Pushes g s (s.pass g).1 := by
  unfold pass
  suffices ∀ (l : List (Nat × Nat)) (e : Pushing K × Nat), (∀ ij ∈ l, ij.1 ≠ ij.2) →
      Pushes g e.1 (l.foldl (visit g) e).1 from
    this _ (s, 0) fun ij mem => (lt_of_mem_positions mem).ne
  intro l
  induction l with
  | nil => exact fun _ _ => .refl
  | cons ij rest ih =>
    intro e proper
    rw [List.forall_mem_cons] at proper
    exact (visit_pushes e proper.1).trans (ih _ proper.2)

theorem passes_pushes (n : Nat) (s : Pushing K) : Pushes g s (passes g n s).1 := by
  induction n generalizing s with
  | zero => exact .refl
  | succ n ih =>
    have first := pass_pushes (g := g) s
    unfold passes
    split
    · rename_i s' h
      rw [h] at first
      exact first
    · rename_i s' pushes _ h
      rw [h] at first
      exact first.trans (ih s')

/-- The state with which a separation begins: what went back is held, and nothing else. -/
def begun (s : Pushing K) : Pushing K := { s with held := addNames [] s.rolledBack }

theorem separate_pushes (s : Pushing K) : Pushes g s.begun (s.separate g).1 := passes_pushes _ _

theorem Push.moves (push : Push g s s') : Moves g s s' := by
  obtain ⟨-, foundA, foundB, part, pushed⟩ := push
  obtain ⟨maskedA, maskedB⟩ := masked_of_mustPart part
  exact pushApart?_moves foundA foundB maskedA maskedB pushed

/-! ### What is held -/

/-- A push takes the tree of a uid off a pinned one. -/
def TakesOff (g : Attachments) (s s' : Pushing K) (uid : String) : Prop :=
  ∃ i j a b, i ≠ j ∧ s.bodies[i]? = some a ∧ s.bodies[j]? = some b ∧ mustPart g a b = true ∧
    s.pushApart? g i j a b = some s' ∧
    (pinned g s a.uid = true ∧ uid ∈ g.treeOf b.uid ∨
      pinned g s b.uid = true ∧ uid ∈ g.treeOf a.uid)

/-- In the course of pushes the tree of a uid was taken off a pinned one. -/
def PushedOff (g : Attachments) (s s' : Pushing K) (uid : String) : Prop :=
  ∃ t t', Pushes g s t ∧ TakesOff g t t' uid ∧ Pushes g t' s'

/-- The tree of a uid has a member that went back, or was taken off a pinned tree. -/
def HasHeld (g : Attachments) (s s' : Pushing K) (uid : String) : Prop :=
  ∃ u ∈ g.treeOf uid, u ∈ s'.rolledBack ∨ PushedOff g s s' u

/-- In the course of a separation only what went back is held, and trees that were taken off pinned
ones. -/
theorem held_of_pushes (pushes : Pushes g s.begun s') (holds : uid ∈ s'.held) :
    uid ∈ s'.rolledBack ∨ PushedOff g s.begun s' uid := by
  induction pushes with
  | refl => exact .inl ((mem_addNames.1 holds).resolve_left List.not_mem_nil)
  | @tail t t' before push ih =>
    have grows := moves_grow push.moves
    obtain ⟨ne, foundA, foundB, part, pushed⟩ := push
    obtain rfl := eq_pushed pushed
    rcases held_pushed holds with held | back | off
    · refine (ih held).imp (fun back => grows back) ?_
      rintro ⟨u, u', first, takes, rest⟩
      exact ⟨u, u', first, takes, rest.tail ⟨ne, foundA, foundB, part, pushed⟩⟩
    · exact .inl back
    · exact .inr ⟨t, _, before, ⟨_, _, _, _, ne, foundA, foundB, part, pushed, off⟩, .refl⟩

/-- Where nothing went back nothing is pinned. -/
theorem not_pinned_of_pushes (pushes : Pushes g s.begun s') (none : s'.rolledBack = []) :
    ¬pinned g s' uid = true := by
  suffices s'.held = [] by
    rw [pinned_iff, this]
    simp
  induction pushes with
  | refl =>
    change addNames [] s.rolledBack = []
    rw [show s.rolledBack = [] from none]
    rfl
  | @tail t t' _ push ih =>
    have before : t.rolledBack = [] := List.subset_nil.1 (none ▸ moves_grow push.moves)
    obtain ⟨_, _, _, _, pushed⟩ := push
    obtain rfl := eq_pushed pushed
    have unheld := ih before
    have free (x : String) : ¬pinned g t x = true := by
      rw [pinned_iff, unheld]
      simp
    refine List.eq_nil_iff_forall_not_mem.2 fun u holds => ?_
    rcases held_pushed holds with held | back | ⟨pin, -⟩ | ⟨pin, -⟩
    · exact List.not_mem_nil (unheld ▸ held)
    · exact List.not_mem_nil (none ▸ back)
    · exact free _ pin
    · exact free _ pin

theorem hasHeld_of_pinned (pushes : Pushes g s.begun s') (pin : pinned g s' uid = true) :
    HasHeld g s.begun s' uid := by
  obtain ⟨u, inTree, holds⟩ := pinned_iff.1 pin
  exact ⟨u, inTree, held_of_pushes pushes holds⟩

/-- A separation in which nothing goes back parts all that block each other, if its last pass pushes
nothing. -/
theorem parted_of_none_back (ends : EndsQuiet g maxPasses s.begun)
    (none : (s.separate g).1.rolledBack = []) :
    (s.separate g).1.bodies.Pairwise fun a b => opposed g a b = true → a.Parted b := by
  refine (parted_or_pinned (quiet_passes ends)).imp fun left against => ?_
  exact (left against).resolve_right fun pins =>
    not_pinned_of_pushes (separate_pushes s) none pins.1

/-! ### Resolutions in which nothing goes back -/

theorem rollBackTiles_of_none_back {map : Option (TileMap K)}
    (none : (s.rollBackTiles map g).1.rolledBack = []) : s.rollBackTiles map g = (s, 0) := by
  have clear : offenders map s.bodies = [] := by
    refine List.eq_nil_iff_forall_not_mem.2 fun uid offends => ?_
    have back := (mem_rolledBack_all s ((offenders map s.bodies).flatMap g.subtree)).2
      (.inr ⟨List.mem_flatMap.2 ⟨uid, offends, Attachments.self_mem_subtree⟩, ?_⟩)
    · rw [← foldl_rollBackAll] at back
      exact List.not_mem_nil (none ▸ back)
    · obtain ⟨b, mem, carries, -⟩ := masked_of_offender offends
      exact look_isSome_iff.2 (carries ▸ List.mem_map_of_mem mem)
  rw [rollBackTiles, clear]
  rfl

theorem settle_of_none_back {map : Option (TileMap K)}
    (none : (settle map g (n + 1) s).1.rolledBack = []) :
    (settle map g (n + 1) s).1 = (s.separate g).1 := by
  rw [settle] at none ⊢
  split at none
  · rename_i s' first
    rw [first]
  · rename_i s' pushes _ first
    rw [first]
    split at none
    · rename_i s'' cleared
      have same := rollBackTiles_of_none_back (s := s')
        ((congrArg (·.1.rolledBack) cleared).trans none)
      rw [cleared] at same
      exact (Prod.mk.inj same).1
    · rename_i s'' count more cleared
      -- A rollback that counts a body has sent it back, and it stays in the list.
      have grows := moves_grow (settle_moves (g := g) map n s'')
      rw [none] at grows
      have same := rollBackTiles_of_none_back (s := s')
        ((congrArg (·.1.rolledBack) cleared).trans (List.subset_nil.1 grows))
      rw [cleared] at same
      exact absurd (Prod.mk.inj same).2 more

end Pushing

namespace Physics

/-- A resolution in which nothing goes back is one separation. -/
theorem resolve_of_none_back (p : Physics K) (none : p.resolve.1.rolledBack = []) :
    let s := ((Pushing.mk p.bodies [] []).separate p.attachments).1
    p.resolve.2.bodies = s.bodies ∧ s.rolledBack = [] := by
  have first : (Pushing.mk p.bodies [] []).rollBackTiles p.map p.attachments =
      (⟨p.bodies, [], []⟩, 0) := by
    have grows := Pushing.moves_grow (Pushing.settle_moves (g := p.attachments) p.map maxPasses
      ((Pushing.mk p.bodies [] []).rollBackTiles p.map p.attachments).1)
    exact Pushing.rollBackTiles_of_none_back (List.subset_nil.1 (fun u hu => none ▸ grows hu))
  unfold resolve at none ⊢
  simp only [first] at none ⊢
  have one := Pushing.settle_of_none_back none
  exact ⟨congrArg Pushing.bodies one, one ▸ none⟩

end Physics

/-- A separation whose last pass pushes nothing leaves each two bodies that block each other parted,
or with a member that is held in the trees of both: one that went back, or one of a tree that was
taken off a pinned one. One that counts no push leaves everything as it is. So where nothing goes
back, and a last pass pushes nothing, a separation parts all that block each other, and so does a
resolution. -/
theorem separation_ends_when_done (g : Attachments) (s : Pushing K) (p : Physics K) :
    let s' := (s.separate g).1
    (Pushing.EndsQuiet g maxPasses s.begun →
      s'.bodies.Pairwise fun a b => Pushing.opposed g a b = true →
        a.Parted b ∨ Pushing.HasHeld g s.begun s' a.uid ∧ Pushing.HasHeld g s.begun s' b.uid) ∧
    ((s.separate g).2 = 0 → s'.bodies = s.bodies ∧ s'.rolledBack = s.rolledBack) ∧
    (Pushing.EndsQuiet g maxPasses s.begun → s'.rolledBack = [] →
      s'.bodies.Pairwise fun a b => Pushing.opposed g a b = true → a.Parted b) ∧
    (Pushing.EndsQuiet p.attachments maxPasses ⟨p.bodies, [], []⟩ → p.resolve.1.rolledBack = [] →
      p.resolve.2.bodies.Pairwise fun a b =>
        Pushing.opposed p.attachments a b = true → a.Parted b) := by
  intro s'
  refine ⟨fun ends => ?_, fun still => ?_, ?_, fun ends none => ?_⟩
  · refine (Pushing.parted_or_pinned (Pushing.quiet_passes ends)).imp fun left against => ?_
    refine (left against).imp_right fun ⟨pinnedA, pinnedB⟩ => ⟨?_, ?_⟩
    · exact Pushing.hasHeld_of_pinned (Pushing.separate_pushes s) pinnedA
    · exact Pushing.hasHeld_of_pinned (Pushing.separate_pushes s) pinnedB
  · rw [show s' = s.begun from Pushing.passes_still still]
    exact ⟨rfl, rfl⟩
  · exact Pushing.parted_of_none_back
  · obtain ⟨bodies, back⟩ := p.resolve_of_none_back none
    rw [bodies]
    exact Pushing.parted_of_none_back ends back

namespace Physics.Yard

/-- A box that overlaps two others, which went back and are held. -/
def wedge : Pushing Rat :=
  { bodies := [box "b" none (some 1) 8 8, box "c" none (some 1) 0 0, box "d" none (some 1) 16 16]
    rolledBack := ["c", "d"], held := [] }

/-- The boxes of the wedge stand alone. -/
def alone : Attachments := ⟨[("b", none), ("c", none), ("d", none)]⟩

/-- Two boxes that overlap. -/
def couple : Physics Rat :=
  { bodies := [box "a" none (some 1) 0 0, box "b" none (some 1) 6 6]
    map := none, bounds := none, gravity := 0 }

end Physics.Yard

open Physics.Yard in
/-- A box that was pushed off a held one is left in another one that is held. -/
theorem wedge_stays_between :
    let s' := (wedge.separate alone).1
    Pushing.EndsQuiet alone maxPasses wedge.begun ∧
      (∃ b c d, s'.bodies = [b, c, d] ∧ ¬b.Parted d ∧
        Pushing.HasHeld alone wedge.begun s' b.uid ∧ Pushing.HasHeld alone wedge.begun s' d.uid) ∧
      couple.resolve.1.rolledBack = [] ∧
      couple.resolve.2.bodies.Pairwise fun a b =>
        Pushing.opposed couple.attachments a b = true → a.Parted b := by
  have ends : Pushing.EndsQuiet alone maxPasses wedge.begun := .inr (.inl (by cbv))
  have ends' : Pushing.EndsQuiet couple.attachments maxPasses ⟨couple.bodies, [], []⟩ :=
    .inr (.inl (by cbv))
  have back : couple.resolve.1.rolledBack = [] := by cbv
  obtain ⟨left, -, -, parted⟩ := separation_ends_when_done alone wedge couple
  have bodies : (wedge.separate alone).1.bodies = [box "b" none (some 1) 10 8,
    box "c" none (some 1) 0 0, box "d" none (some 1) 16 16] := by cbv
  have inside : ¬(box "b" none (some 1) 10 8).Parted (box "d" none (some 1) 16 16) := by
    norm_num [Body.Parted, box, Body.overlap, Vec.add, Vec.sub, Vec.abs, Scalar.abs, overlapSlack]
  have held := left ends
  rw [bodies] at held
  refine ⟨ends, ⟨_, _, _, bodies, inside, ?_⟩, back, parted ends' back⟩
  refine ((List.pairwise_cons.1 held).1 _ ?_ (by cbv)).resolve_left inside
  exact List.mem_cons_of_mem _ List.mem_cons_self

end Playfield
