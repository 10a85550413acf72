import Playfield.Proofs.Body.Rollback
import Playfield.Proofs.Scalar

/-!
# What goes back stays back

A body that a resolution sends back ends at rest. It also ends where it was at the start of the
tick, unless a later push takes it off with its tree.

* `Attachments.towed`: the uids that are shifted when a uid is pushed.
* `Pushing.Anchored`: no push can take a uid off after it went back. `anchored_of_root`: so it is in
  a tree of which no two bodies block each other.
* `pushApart?_inv`: what a push does. `home_push`: it leaves an anchored body that went back where
  it is, since the trees of such bodies are held.
* `rolled_back_is_restored` is the result.
-/

namespace Playfield

/-- The uids that are shifted when a uid is pushed. -/
def Attachments.towed (g : Attachments) (uid : String) : List String :=
  g.subtree ((g.rootOf? uid).getD uid)

variable {K : Type} [Scalar K]

namespace Pushing

variable {g : Attachments} {s s' : Pushing K} {bodies : List (Body K)} {a b : Body K}
  {uid head : String} {axis : Axis} {amount share dir : K}

/-! ### Rest -/

theorem forall₂_halt (bodies : List (Body K)) (i : Nat) (axis : Axis) (dir : K) :
    List.Forall₂ (fun b b' => b' = b ∨ b' = halt axis dir b) bodies
      (bodies.modify i (halt axis dir)) := by
  induction bodies generalizing i with
  | nil =>
    rw [List.modify_nil]
    exact .nil
  | cons b rest ih =>
    cases i with
    | zero =>
      rw [List.modify_zero_cons]
      exact .cons (.inr rfl) (List.forall₂_same.2 fun _ _ => .inl rfl)
    | succ i =>
      rw [List.modify_succ_cons]
      exact .cons (.inl rfl) (ih i)

/-- A body that is found after one has been halted was there before, or has been halted. -/
theorem look_of_halted {i : Nat} {b' : Body K}
    (found : Roster.find? Body.uid uid (bodies.modify i (halt axis dir)) = some b') :
    ∃ b, Roster.find? Body.uid uid bodies = some b ∧ (b' = b ∨ b' = halt axis dir b) := by
  have same (b b' : Body K) (h : b' = b ∨ b' = halt axis dir b) : b'.uid = b.uid := by
    rcases h with rfl | rfl
    · rfl
    · exact Body.uid_eq_of_start (start_halt b)
  have related : Option.Rel _ (Roster.find? Body.uid uid bodies)
      (Roster.find? Body.uid uid (bodies.modify i (halt axis dir))) :=
    Roster.find?_of_forall₂ same (forall₂_halt bodies i axis dir)
  rw [found] at related
  generalize Roster.find? Body.uid uid bodies = old at related ⊢
  cases related with
  | some related => exact ⟨_, rfl, related⟩

theorem vel_halt (rests : b.vel = .zero) : (halt axis dir b).vel = .zero := by
  unfold halt
  split
  · rw [rests]
    cases axis <;> rfl
  · exact rests

theorem pos_halt : (halt axis dir b).pos = b.pos := by
  unfold halt
  split <;> rfl

/-- Every body that went back is at rest. -/
def Rests (s : Pushing K) : Prop :=
  ∀ uid ∈ s.rolledBack, ∀ b, s.look uid = some b → b.vel = .zero

theorem Rests.move (rests : s.Rests) (move : Move g s s') : s'.Rests := by
  intro uid back b' found
  cases move with
  | @rollBack root heads =>
    rw [look_rollBackAll] at found
    obtain ⟨b, old, rfl⟩ := Option.map_eq_some_iff.1 found
    by_cases inside : uid ∈ g.subtree root
    · rw [if_pos inside]
      rfl
    · rw [if_neg inside]
      exact rests uid (((mem_rolledBack_all s _).1 back).resolve_right fun h => inside h.1) b old
  | shift heads axis amount =>
    rw [look_shiftAll s Attachments.nodup_subtree] at found
    obtain ⟨b, old, rfl⟩ := Option.map_eq_some_iff.1 found
    have still := rests uid back b old
    split
    · exact still
    · exact still
  | halt masked axis dir =>
    obtain ⟨b, old, rfl | rfl⟩ := look_of_halted found
    · exact rests uid back b' old
    · exact vel_halt (rests uid back b old)
  | hold held => exact rests uid back b' found

theorem Rests.moves (rests : s.Rests) (moves : Moves g s s') : s'.Rests := by
  induction moves with
  | refl => exact rests
  | tail _ move ih => exact ih.move move

/-! ### Home -/

/-- The body of a uid is where it was at the start of the tick, if it went back. -/
def HomeAt (s : Pushing K) (uid : String) : Prop :=
  uid ∈ s.rolledBack → ∀ b, s.look uid = some b → b.pos = b.prevPos

theorem HomeAt.rollBackAll (home : s.HomeAt uid) (uids : List String) :
    (s.rollBackAll uids).HomeAt uid := by
  intro back b' found
  rw [look_rollBackAll] at found
  obtain ⟨b, old, rfl⟩ := Option.map_eq_some_iff.1 found
  by_cases inside : uid ∈ uids
  · rw [if_pos inside]
    rfl
  · rw [if_neg inside]
    exact home (((mem_rolledBack_all s _).1 back).resolve_right fun h => inside h.1) b old

theorem HomeAt.halt (home : s.HomeAt uid) (i : Nat) (axis : Axis) (dir : K) (held : List String) :
    HomeAt { s with held, bodies := s.bodies.modify i (halt axis dir) } uid := by
  intro back b' found
  obtain ⟨b, old, rfl | rfl⟩ := look_of_halted found
  · exact home back b' old
  · rw [pos_halt]
    exact (home back b old).trans (congrArg Body.pos (start_halt b) :).symm

/-- A push sends the tree back or shifts it. -/
theorem shiftTree_cases (g : Attachments) (s : Pushing K) (head : String) (axis : Axis)
    (amount : K) : s.shiftTree g head axis amount = s.rollBackAll (g.towed head) ∨
      s.shiftTree g head axis amount = s.shiftAll (g.towed head) axis amount := by
  unfold shiftTree
  simp only
  split
  · exact .inl rfl
  · exact .inr rfl

/-- The part of a push that one of the two bodies takes. -/
def part (g : Attachments) (s : Pushing K) (head : String) (axis : Axis) (share amount : K) :
    Pushing K :=
  if 0.0 < share then s.shiftTree g head axis amount else s

/-- A push leaves alone what it does not tow. -/
theorem part_away (s : Pushing K) (away : uid ∉ g.towed head) (axis : Axis) (share amount : K) :
    (part g s head axis share amount).look uid = s.look uid ∧
      (uid ∈ (part g s head axis share amount).rolledBack ↔ uid ∈ s.rolledBack) := by
  unfold part
  split
  · rcases shiftTree_cases g s head axis amount with back | shifted
    · rw [back, look_rollBackAll, mem_rolledBack_all]
      simp [away]
    · have once : (g.towed head).Nodup := Attachments.nodup_subtree
      rw [shifted, look_shiftAll s once]
      simp [away, shiftAll]
  · exact ⟨rfl, Iff.rfl⟩

theorem HomeAt.part_away (home : s.HomeAt uid) (away : uid ∉ g.towed head) :
    (part g s head axis share amount).HomeAt uid := by
  obtain ⟨look, back⟩ := Pushing.part_away s away axis share amount
  rw [HomeAt, look, back]
  exact home

/-- What goes back only now is home. -/
theorem home_part_of_new (new : uid ∉ s.rolledBack) :
    (part g s head axis share amount).HomeAt uid := by
  have home : s.HomeAt uid := fun back => absurd back new
  unfold part
  split
  · rcases shiftTree_cases g s head axis amount with back | shifted
    · rw [back]
      exact home.rollBackAll _
    · rw [shifted]
      exact fun back => absurd back new
  · exact home

/-! ### Pushes -/

/-- The tree of a uid has a member that is held. -/
def pinned (g : Attachments) (s : Pushing K) (uid : String) : Bool :=
  (g.treeOf uid).any (· ∈ s.held)

/-- What a push does: each side takes its part, none if its tree is held, and both are halted. -/
theorem pushApart?_inv {i j : Nat} (h : s.pushApart? g i j a b = some s') :
    ∃ (axis : Axis) (shareA amountA shareB amountB dir : K) (held : List String),
      (pinned g s a.uid = true → shareA = 0.0) ∧ (pinned g s b.uid = true → shareB = 0.0) ∧
      let s₁ := part g s a.uid axis shareA amountA
      let s₂ := part g s₁ b.uid axis shareB amountB
      s' = { s₂ with
        held := addNames held s₂.rolledBack
        bodies := (s₂.bodies.modify i (halt axis dir)).modify j (halt axis (-dir)) } := by
  unfold pushApart? at h
  simp only at h
  split at h
  · cases h
  · rename_i movable
    refine ⟨_, _, _, _, _, _, _, fun pinnedA => ?_, fun pinnedB => ?_, (Option.some.inj h).symm⟩
    · simp only [pinned] at pinnedA
      simp [shares, pinnedA]
    · simp only [pinned] at pinnedB
      rw [pinnedB, Bool.and_true, Bool.not_eq_true] at movable
      simp [shares, pinnedB, movable]

/-- Two bodies block each other. -/
def opposed (g : Attachments) (a b : Body K) : Bool :=
  a.isSolid && b.isSolid && a.masksBlock b && !g.directlyAttached a.uid b.uid

theorem opposed_of_mustPart (h : mustPart g a b = true) : opposed g a b = true := by
  simp only [mustPart, Bool.and_eq_true] at h
  simp only [opposed, Bool.and_eq_true]
  exact h.1.1

/-- No push takes a uid off after it went back: who is pushed has those it tows in its tree, and no
two bodies that block each other both tow the uid. -/
structure Anchored (g : Attachments) (bodies : List (Body K)) (uid : String) : Prop where
  counted : ∀ a ∈ bodies, ∀ b ∈ bodies, a.uid ≠ b.uid → opposed g a b = true →
    (uid ∈ g.towed a.uid → uid ∈ g.treeOf a.uid) ∧ (uid ∈ g.towed b.uid → uid ∈ g.treeOf b.uid)
  apart : ∀ a ∈ bodies, ∀ b ∈ bodies, a.uid ≠ b.uid → opposed g a b = true →
    uid ∈ g.towed a.uid → uid ∉ g.towed b.uid

omit [Scalar K] in
theorem exists_of_starts {l : List (Body K)} (starts : l.map Body.start = bodies.map Body.start)
    (mem : a ∈ l) : ∃ b ∈ bodies, b.start = a.start :=
  List.mem_map.1 (starts ▸ List.mem_map_of_mem mem)

omit [Scalar K] in
theorem opposed_of_starts {a' b' : Body K} (startA : a'.start = a.start)
    (startB : b'.start = b.start) : opposed g a' b' = opposed g a b := by
  rw [show opposed g a' b' = opposed g a'.start b'.start from rfl, startA, startB]
  rfl

omit [Scalar K] in
/-- Whether a uid is anchored hangs on what does not change in a resolution. -/
theorem Anchored.of_starts (anchored : Anchored g bodies uid)
    (starts : s.bodies.map Body.start = bodies.map Body.start) : Anchored g s.bodies uid := by
  constructor <;> intro a memA b memB ne against
  all_goals
    obtain ⟨a', memA', startA⟩ := exists_of_starts starts memA
    obtain ⟨b', memB', startB⟩ := exists_of_starts starts memB
    rw [← opposed_of_starts startA startB] at against
    rw [← Body.uid_eq_of_start startA, ← Body.uid_eq_of_start startB] at ne ⊢
  · exact anchored.counted a' memA' b' memB' ne against
  · exact anchored.apart a' memA' b' memB' ne against

omit [Scalar K] in
/-- A uid whose chain of parents ends is anchored if no two bodies with the same end block each
other. -/
theorem anchored_of_root (distinct : g.uids.Nodup) {root : String}
    (rooted : g.rootOf? uid = some root)
    (apart : ∀ a ∈ bodies, ∀ b ∈ bodies, a.uid ≠ b.uid → opposed g a b = true →
      g.rootOf? a.uid = some root → g.rootOf? b.uid ≠ some root) : Anchored g bodies uid := by
  have towing {x : String} (tows : uid ∈ g.towed x) :
      g.rootOf? x = some root ∧ uid ∈ g.treeOf x := by
    have under := Attachments.under_of_mem_subtree distinct tows
    have same := Attachments.rootOf?_of_under under rooted
    cases h : g.rootOf? x with
    | none =>
      rw [h, Option.getD_none, h] at same
      cases same
    | some r =>
      -- The head of the tree is a root, so it is the end of its own chain.
      rw [h, Option.getD_some,
        Attachments.rootOf?_of_parent?_none (Attachments.parent?_of_rootOf? h)] at same
      rw [Attachments.towed, h, Option.getD_some] at tows
      rw [Attachments.treeOf, h]
      exact ⟨same, tows⟩
  constructor <;> intro a memA b memB ne against
  · exact ⟨fun tows => (towing tows).2, fun tows => (towing tows).2⟩
  · exact fun towsA towsB => apart a memA b memB ne against (towing towsA).1 (towing towsB).1

/-- What is carried through a separation about a uid: it stays home if it went back, since what went
back is held. -/
structure Kept (bodies : List (Body K)) (uid : String) (s : Pushing K) : Prop where
  starts : s.bodies.map Body.start = bodies.map Body.start
  home : s.HomeAt uid
  tied : s.rolledBack ⊆ s.held

variable [Scalar.Strict K]

/-- Who takes no share of a push stays. -/
theorem part_none : part g s head axis 0.0 amount = s :=
  if_neg Scalar.Strict.zero_lt_zero

/-- A push leaves an anchored body that went back where it is. -/
theorem home_push {i j : Nat} (anchored : Anchored g s.bodies uid) (memA : a ∈ s.bodies)
    (memB : b ∈ s.bodies) (ne : a.uid ≠ b.uid) (against : opposed g a b = true)
    (home : s.HomeAt uid) (tied : s.rolledBack ⊆ s.held)
    (h : s.pushApart? g i j a b = some s') : s'.HomeAt uid ∧ s'.rolledBack ⊆ s'.held := by
  obtain ⟨axis, shareA, amountA, shareB, amountB, dir, held, stayA, stayB, rfl⟩ := pushApart?_inv h
  refine ⟨((?_ : HomeAt _ uid).halt i axis dir held).halt j axis (-dir) _, fun u hu => ?_⟩
  · obtain ⟨countedA, countedB⟩ := anchored.counted a memA b memB ne against
    -- Whose tree has the uid is pinned if the uid went back.
    have new {x : String} (counted : uid ∈ g.treeOf x) (free : pinned g s x = false) :
        uid ∉ s.rolledBack := fun back => by
      have : pinned g s x = true := List.any_eq_true.2 ⟨uid, counted, by simpa using tied back⟩
      rw [free] at this
      cases this
    by_cases towsA : uid ∈ g.towed a.uid
    · have awayB := anchored.apart a memA b memB ne against towsA
      cases free : pinned g s a.uid with
      | true =>
        rw [stayA free, part_none]
        exact home.part_away awayB
      | false => exact (home_part_of_new (new (countedA towsA) free)).part_away awayB
    · by_cases towsB : uid ∈ g.towed b.uid
      · cases free : pinned g s b.uid with
        | true =>
          rw [stayB free, part_none]
          exact home.part_away towsA
        | false =>
          refine home_part_of_new fun back => new (countedB towsB) free ?_
          exact (part_away s towsA _ _ _).2.1 back
      · exact (home.part_away towsA).part_away towsB
  · exact mem_addNames.2 (.inr hu)

/-! ### The whole resolution -/

omit [Scalar K] [Scalar.Strict K] in
theorem lt_of_mem_positions {n : Nat} {ij : Nat × Nat} (mem : ij ∈ positions n) : ij.1 < ij.2 := by
  obtain ⟨i, -, later⟩ := List.mem_flatMap.1 mem
  obtain ⟨j, hj, rfl⟩ := List.mem_map.1 later
  exact (List.mem_range'_1.1 hj).1

omit [Scalar K] [Scalar.Strict K] in
theorem uid_ne_of_lt (distinct : (bodies.map Body.uid).Nodup) {i j : Nat} (lt : i < j)
    (foundA : bodies[i]? = some a) (foundB : bodies[j]? = some b) : a.uid ≠ b.uid := by
  intro same
  obtain ⟨bound, -⟩ := List.getElem?_eq_some_iff.1 foundB
  refine List.nodup_iff_getElem?_ne_getElem?.1 distinct i j lt (by simpa using bound) ?_
  rw [List.getElem?_map, List.getElem?_map, foundA, foundB, Option.map_some, Option.map_some, same]

section Run

variable (anchored : Anchored g bodies uid) (distinct : (bodies.map Body.uid).Nodup)

include anchored distinct

theorem Kept.visit {e : Pushing K × Nat} {ij : Nat × Nat} (kept : Kept bodies uid e.1)
    (lt : ij.1 < ij.2) : Kept bodies uid (visit g e ij).1 := by
  have starts := (starts_moves (visit_moves (g := g) e ij)).trans kept.starts
  unfold Pushing.visit at starts ⊢
  split
  · rename_i a b foundA foundB
    split
    · rename_i part
      split
      · rename_i s' pushed
        have distinct' := Body.uids_of_starts kept.starts ▸ distinct
        obtain ⟨home, tied⟩ := home_push (anchored.of_starts kept.starts)
          (List.mem_of_getElem? foundA) (List.mem_of_getElem? foundB)
          (uid_ne_of_lt distinct' lt foundA foundB) (opposed_of_mustPart part) kept.home kept.tied
          pushed
        simp only [foundA, foundB, part, if_true, pushed] at starts
        exact ⟨starts, home, tied⟩
      · exact kept
    · exact kept
  · exact kept

theorem Kept.pass (kept : Kept bodies uid s) : Kept bodies uid (s.pass g).1 := by
  unfold Pushing.pass
  suffices ∀ (l : List (Nat × Nat)) (e : Pushing K × Nat), (∀ ij ∈ l, ij.1 < ij.2) →
      Kept bodies uid e.1 → Kept bodies uid (l.foldl (Pushing.visit g) e).1 from
    this _ _ (fun _ => lt_of_mem_positions) kept
  intro l
  induction l with
  | nil => exact fun _ _ kept => kept
  | cons ij rest ih =>
    intro e ordered kept
    exact ih _ (fun ij h => ordered ij (List.mem_cons_of_mem _ h))
      (kept.visit anchored distinct (ordered ij List.mem_cons_self))

theorem Kept.passes (n : Nat) (kept : Kept bodies uid s) : Kept bodies uid (passes g n s).1 := by
  induction n generalizing s with
  | zero => exact kept
  | succ n ih =>
    have first := kept.pass anchored distinct
    unfold Pushing.passes
    split
    · rename_i s' h
      rw [h] at first
      exact first
    · rename_i s' pushes _ h
      rw [h] at first
      exact ih first

theorem Kept.separate (starts : s.bodies.map Body.start = bodies.map Body.start)
    (home : s.HomeAt uid) : Kept bodies uid (s.separate g).1 :=
  Kept.passes anchored distinct maxPasses
    ⟨starts, home, fun _ hu => mem_addNames.2 (.inr hu)⟩

omit anchored distinct [Scalar.Strict K] in
theorem HomeAt.rollBackTiles (home : s.HomeAt uid) (map : Option (TileMap K)) :
    (s.rollBackTiles map g).1.HomeAt uid := by
  rw [Pushing.rollBackTiles, foldl_rollBackAll]
  exact home.rollBackAll _

theorem home_settle (map : Option (TileMap K)) (n : Nat)
    (starts : s.bodies.map Body.start = bodies.map Body.start) (home : s.HomeAt uid) :
    (settle map g n s).1.HomeAt uid := by
  induction n generalizing s with
  | zero => exact home
  | succ n ih =>
    have kept := Kept.separate anchored distinct starts home
    unfold settle
    split
    · rename_i s' h
      rw [h] at kept
      exact kept.home
    · rename_i s' pushes _ h
      rw [h] at kept
      have cleared := kept.home.rollBackTiles (g := g) map
      have starts' := (starts_moves (rollBackTiles_moves (g := g) map s')).trans kept.starts
      split
      · rename_i s'' h'
        rw [h'] at cleared
        exact cleared
      · rename_i s'' _ _ h'
        rw [h'] at cleared starts'
        exact ih starts' cleared

end Run

end Pushing

namespace Physics

theorem body?_resolve (p : Physics K) (uid : String) :
    (p.resolve.2.body? uid).map Body.start = (p.body? uid).map Body.start := by
  have keeps (b : Body K) : b.start.uid = b.uid := rfl
  rw [body?, body?, ← Roster.find?_map keeps, ← Roster.find?_map keeps, Pushing.starts_resolve]

variable [Scalar.Strict K]

theorem home_resolve {p : Physics K} (distinct : (p.bodies.map Body.uid).Nodup) {uid : String}
    (anchored : Pushing.Anchored p.attachments p.bodies uid)
    (back : uid ∈ p.resolve.1.rolledBack) {b : Body K} (found : p.resolve.2.body? uid = some b) :
    b.pos = b.prevPos := by
  have start : Pushing.HomeAt ⟨p.bodies, [], []⟩ uid := fun h => absurd h List.not_mem_nil
  exact Pushing.home_settle anchored distinct p.map maxPasses
    (Pushing.starts_moves (Pushing.rollBackTiles_moves p.map _))
    (start.rollBackTiles p.map) back b found

/-- A body that a resolution sends back is at rest afterwards. If no push can take it off it is
where it was at the start of the tick. -/
theorem rolled_back_is_restored {p : Physics K} (distinct : (p.bodies.map Body.uid).Nodup) :
    ∀ uid ∈ p.resolve.1.rolledBack, ∃ b b', p.body? uid = some b ∧
      p.resolve.2.body? uid = some b' ∧ b'.prevPos = b.prevPos ∧ b'.vel = .zero ∧
      (Pushing.Anchored p.attachments p.bodies uid → b'.pos = b'.prevPos) := by
  intro uid back
  obtain ⟨s, moves, bodies, rolledBack⟩ := Pushing.resolve_moves p
  have rests : s.Rests := Pushing.Rests.moves (fun _ h => absurd h List.not_mem_nil) moves
  obtain ⟨b, mem, carries⟩ := List.mem_map.1 ((rollback_takes_subtrees p).2.1 back)
  have found : p.body? uid = some b := (Roster.find?_eq_some_iff distinct).2 ⟨mem, carries⟩
  obtain ⟨b', found', start⟩ := Option.map_eq_some_iff.1
    ((p.body?_resolve uid).trans (congrArg (Option.map Body.start) found))
  refine ⟨b, b', found, found', (congrArg Body.prevPos start :), ?_,
    fun anchored => home_resolve distinct anchored back found'⟩
  refine rests uid (rolledBack ▸ back) b' ?_
  rw [Pushing.look, bodies]
  exact found'

/-! ### A crate, and trees that are taken off -/

namespace Crate

open Yard

/-- A crate with a flag that has been put into the tile, and a box where it came from. -/
def physics : Physics Rat :=
  { bodies := [box "c" none (some 1) 95 75, box "f" (some "c") none 95 75,
      box "d" none (some 1) 70 70]
    map := some corridor, bounds := none, gravity := 0 }

/-- No two bodies of the crate's tree block each other. -/
def isApart : Bool :=
  physics.bodies.all fun a => physics.bodies.all fun b =>
    a.uid == b.uid || !Pushing.opposed physics.attachments a b ||
      physics.attachments.rootOf? a.uid != some "c" || physics.attachments.rootOf? b.uid != some "c"

/-- A cart that has driven on with two boxes on it, which overlap. -/
def cart : Physics Rat :=
  { bodies := [box "r" none none 10 0, box "a" (some "r") (some 1) 20 10,
      box "b" (some "r") (some 1) 25 15]
    map := none, bounds := none, gravity := 0 }

/-- A box that has been put into the tile, attached to a loop of which another box pushes a part. -/
def loop : Physics Rat :=
  { bodies := [box "a" (some "b") (some 1) 15 15, box "b" (some "a") none 45 45,
      box "c" (some "a") (some 1) 95 75, box "d" none (some 1) 18 18]
    map := some corridor, bounds := none, gravity := 0 }

end Crate

theorem crate_takes_its_flag_back : Crate.physics.resolve.1.rolledBack = ["c", "f"] ∧
    ∃ b, Crate.physics.resolve.2.body? "f" = some b ∧ b.vel = .zero ∧ b.pos = b.prevPos := by
  have back : Crate.physics.resolve.1.rolledBack = ["c", "f"] := by cbv
  have apart : Crate.isApart = true := by cbv
  obtain ⟨-, b, -, found, -, rests, home⟩ :=
    rolled_back_is_restored (p := Crate.physics) (by decide) "f" (by rw [back]; decide)
  have rooted : Crate.physics.attachments.rootOf? "f" = some "c" := by cbv
  refine ⟨back, b, found, rests, home (Pushing.anchored_of_root (by decide) rooted ?_)⟩
  simpa [Crate.isApart, or_assoc, imp_iff_not_or] using apart

theorem exists_off_start {found : Option (Body Rat)} {x start : Rat}
    (off : found.map (fun b => (b.pos.x, b.prevPos.x)) = some (x, start)) (ne : x ≠ start) :
    ∃ b, found = some b ∧ b.pos ≠ b.prevPos := by
  obtain ⟨b, rfl, places⟩ := Option.map_eq_some_iff.1 off
  rw [Prod.mk.injEq] at places
  refine ⟨b, rfl, fun same => ne ?_⟩
  rw [← places.1, ← places.2, same]

/-- The first part of a push may send a tree back and the second one take it off again, as it does
with the cart. A push of the loop takes the box along that went back alone. -/
theorem rolled_back_may_be_taken_off :
    ((Crate.cart.bodies.map Body.uid).Nodup ∧ "r" ∈ Crate.cart.resolve.1.rolledBack ∧
      ∃ b, Crate.cart.resolve.2.body? "r" = some b ∧ b.pos ≠ b.prevPos) ∧
    (Crate.loop.bodies.map Body.uid).Nodup ∧ "c" ∈ Crate.loop.resolve.1.rolledBack ∧
      ∃ b, Crate.loop.resolve.2.body? "c" = some b ∧ b.pos ≠ b.prevPos := by
  have cart : Crate.cart.resolve.1.rolledBack = ["r", "a", "b"] := by cbv
  have loop : Crate.loop.resolve.1.rolledBack = ["c"] := by cbv
  have cartOff : (Crate.cart.resolve.2.body? "r").map (fun b => (b.pos.x, b.prevPos.x)) =
      some (5 / 2, 0) := by cbv
  have loopOff : (Crate.loop.resolve.2.body? "c").map (fun b => (b.pos.x, b.prevPos.x)) =
      some (143 / 2, 75) := by cbv
  refine ⟨⟨by decide, ?_, exists_off_start cartOff (by norm_num)⟩, by decide, ?_,
    exists_off_start loopOff (by norm_num)⟩
  · rw [cart]
    decide
  · rw [loop]
    decide

end Physics

end Playfield
