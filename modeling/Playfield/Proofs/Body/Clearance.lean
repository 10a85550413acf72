import Playfield.Proofs.Body.Separation

/-!
# A resolution clears the tiles

If every body was clear of the tiles at the start of the tick, then a resolution leaves every body
clear of them.

* `clear_rollBackTiles`: after a rollback every body is where it was, and clear, or at its start.
* `separate_still`: a separation that counts no push has moved nothing.
* `clear_settle`: each round of separation and rollback keeps all bodies clear, however it ends.
* `clear_resolve` is the result.
-/

namespace Playfield

variable {K : Type} [Scalar K]

/-- A tile blocks the body where it is. -/
def Body.inTile (m : TileMap K) (b : Body K) : Bool :=
  b.isSolid && m.footprintBlocked b.blockMask b.min b.max

theorem Body.inTile_rollBack (m : TileMap K) (b : Body K) :
    b.rollBack.inTile m = b.start.inTile m := rfl

namespace Pushing

variable {g : Attachments} {m : TileMap K} {s : Pushing K}

/-- Every body is clear of the tiles. -/
def Clear (m : TileMap K) (s : Pushing K) : Prop := ∀ b ∈ s.bodies, b.inTile m = false

/-- Every body was clear of the tiles at the start of the tick. -/
def HomeClear (m : TileMap K) (s : Pushing K) : Prop := ∀ b ∈ s.bodies, b.start.inTile m = false

/-- The uids are distinct. -/
def Distinct (s : Pushing K) : Prop := (s.bodies.map Body.uid).Nodup

theorem Distinct.of_moves {s' : Pushing K} (moves : Moves g s s') (distinct : s.Distinct) :
    s'.Distinct := by
  rw [Distinct, Body.uids_of_starts (starts_moves moves)]
  exact distinct

theorem HomeClear.of_moves {s' : Pushing K} (moves : Moves g s s') (home : s.HomeClear m) :
    s'.HomeClear m := by
  intro b mem
  have : b.start ∈ s.bodies.map Body.start := starts_moves moves ▸ List.mem_map_of_mem mem
  obtain ⟨b', mem', same⟩ := List.mem_map.1 this
  exact same ▸ home b' mem'

/-! ### Rollback -/

theorem foldl_rollBackAll (found : List String) (s : Pushing K) :
    found.foldl (fun s uid => s.rollBackAll (g.subtree uid)) s =
      s.rollBackAll (found.flatMap g.subtree) := by
  rw [rollBackAll, List.foldl_flatMap]
  rfl

/-- After a rollback every body is where it was, and clear, or at its start. -/
theorem clear_rollBackTiles (distinct : s.Distinct) (home : s.HomeClear m) :
    (s.rollBackTiles (some m) g).1.Clear m := by
  intro b' mem'
  have distinct' := distinct.of_moves (rollBackTiles_moves (g := g) (some m) s)
  have found' := Roster.find?_key distinct' mem'
  rw [show (s.rollBackTiles (some m) g).1 =
      s.rollBackAll ((offenders (some m) s.bodies).flatMap g.subtree) from
    foldl_rollBackAll _ s] at found'
  have looked : some b' = _ :=
    found'.symm.trans (look_rollBackAll s ((offenders (some m) s.bodies).flatMap g.subtree))
  obtain ⟨b, found, came⟩ := Option.map_eq_some_iff.1 looked.symm
  obtain ⟨mem, carries⟩ := Roster.mem_of_find?_eq_some found
  -- Either the body is one of those that went back, or it offended no tile.
  by_cases back : b'.uid ∈ (offenders (some m) s.bodies).flatMap g.subtree
  · rw [if_pos back] at came
    rw [← came, Body.inTile_rollBack]
    exact home b mem
  · rw [if_neg back] at came
    subst came
    by_contra inTile
    rw [Bool.not_eq_false] at inTile
    have offends : b.uid ∈ offenders (some m) s.bodies :=
      List.mem_map.2 ⟨b, List.mem_filter.2 ⟨mem, inTile⟩, rfl⟩
    exact back (List.mem_flatMap.2 ⟨b.uid, offends, Attachments.self_mem_subtree⟩)

/-! ### Separation -/

theorem visit_count (e : Pushing K × Nat) (ij : Nat × Nat) :
    visit g e ij = e ∨ (visit g e ij).2 = e.2 + 1 := by
  unfold visit
  split
  · split
    · split
      · exact .inr rfl
      · exact .inl rfl
    · exact .inl rfl
  · exact .inl rfl

theorem foldl_visit_count (e : Pushing K × Nat) (l : List (Nat × Nat)) :
    e.2 ≤ (l.foldl (visit g) e).2 ∧ ((l.foldl (visit g) e).2 = e.2 → l.foldl (visit g) e = e) := by
  induction l generalizing e with
  | nil => exact ⟨Nat.le_refl _, fun _ => rfl⟩
  | cons ij rest ih =>
    rw [List.foldl_cons]
    obtain ⟨grows, still⟩ := ih (visit g e ij)
    rcases visit_count (g := g) e ij with same | more
    · rw [same] at grows still ⊢
      exact ⟨grows, still⟩
    · refine ⟨by omega, fun h => ?_⟩
      omega

theorem pass_still (h : (s.pass g).2 = 0) : (s.pass g).1 = s := by
  unfold pass at h ⊢
  rw [(foldl_visit_count (s, 0) _).2 h]

theorem passes_still {n : Nat} (h : (passes g n s).2 = 0) : (passes g n s).1 = s := by
  cases n with
  | zero => rfl
  | succ n =>
    unfold passes at h ⊢
    split at h
    · rename_i s' first
      have := pass_still (g := g) (s := s) (by rw [first])
      rw [first] at this
      exact this
    · rename_i s' pushes pushed first
      exact absurd (Nat.eq_zero_of_add_eq_zero_right h) pushed

/-- A separation that counts no push has moved nothing. -/
theorem separate_still (h : (s.separate g).2 = 0) : (s.separate g).1.bodies = s.bodies := by
  unfold separate at h ⊢
  rw [passes_still h]

/-! ### Rounds -/

/-- Each round of separation and rollback keeps all bodies clear, however it ends. -/
theorem clear_settle (n : Nat) (distinct : s.Distinct) (home : s.HomeClear m) (clear : s.Clear m) :
    (settle (some m) g n s).1.Clear m := by
  induction n generalizing s with
  | zero => exact clear
  | succ n ih =>
    have separated := separate_moves (g := g) s
    have still := separate_still (g := g) (s := s)
    unfold settle
    split
    · -- No push was counted, so the round ends with the bodies that it found.
      rename_i s' h
      rw [h] at still
      rw [Clear, still rfl]
      exact clear
    · -- After some pushes the rollback clears whatever they did.
      rename_i s' pushes _ h
      rw [h] at separated
      have distinct' := distinct.of_moves separated
      have home' := home.of_moves separated
      have back := rollBackTiles_moves (g := g) (some m) s'
      have cleared := clear_rollBackTiles (g := g) distinct' home'
      split
      · rename_i s'' h'
        rw [h'] at cleared
        exact cleared
      · rename_i s'' _ _ h'
        rw [h'] at cleared back
        exact ih (distinct'.of_moves back) (home'.of_moves back) cleared

end Pushing

/-- If every body was clear of the tiles at the start of the tick, a resolution leaves every body
clear of them. -/
theorem Physics.clear_resolve {p : Physics K} {m : TileMap K} (map : p.map = some m)
    (distinct : (p.bodies.map Body.uid).Nodup)
    (home : ∀ b ∈ p.bodies, b.start.inTile m = false) :
    ∀ b ∈ p.resolve.2.bodies, b.inTile m = false := by
  have first := Pushing.rollBackTiles_moves (g := p.attachments) (some m) ⟨p.bodies, [], []⟩
  have start : Pushing.Distinct (K := K) ⟨p.bodies, [], []⟩ := distinct
  have home' : Pushing.HomeClear m ⟨p.bodies, [], []⟩ := home
  rw [resolve, map]
  exact Pushing.clear_settle maxPasses (start.of_moves first) (home'.of_moves first)
    (Pushing.clear_rollBackTiles start home')

end Playfield
