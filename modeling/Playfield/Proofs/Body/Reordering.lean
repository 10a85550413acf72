import Playfield.Proofs.Body.Sides

/-!
# Bodies in another order

A resolution goes through its bodies in the order in which they are listed. When that does not show.

* `couples`: the pairs of uids that a pass looks at. `pass_eq`: a pass is made of their encounters.
* `Reaches`: the states that may come about if bodies are looked at in whatever order. `Clash`: two
  bodies come to be pushed apart in one of them. `Unshared`: clashes have no tree in common.
* `rivals`, `isUnshared`: a test of masks and links by which trees are unshared.
* `encounters_commute`: the step. `foldl_perm`, `couples_perm`: the lists that are made of it.
* `Twin`: states of two orders that say the same. `pass_alike`, `passes_twin`, `settle_twin`: they
  stay so from pass to pass.
* `resolution_ignores_order` is the result. `order_may_show`: it is not so for all bodies.
-/

namespace Playfield

variable {K : Type} [Scalar K]

namespace Pushing

variable {g g' : Attachments} {map : Option (TileMap K)} {s s' t t' : Pushing K}
  {e e' : Pushing K × Nat} {n : Nat}

/-! ### Couples -/

/-- The pairs of names that a pass looks at. -/
def couples : List String → List (String × String)
  | [] => []
  | x :: rest => rest.map (x, ·) ++ couples rest

theorem couples_proper {names : List String} (distinct : names.Nodup) :
    ∀ xy ∈ couples names, xy.1 ≠ xy.2 := by
  induction names with
  | nil => exact fun _ mem => absurd mem List.not_mem_nil
  | cons x rest ih =>
    rw [List.nodup_cons] at distinct
    rw [couples, List.forall_mem_append, List.forall_mem_map]
    refine ⟨fun y mem same => distinct.1 ?_, ih distinct.2⟩
    rwa [show x = y from same]

omit [Scalar K] in
theorem positions_succ (n : Nat) : positions (n + 1) =
    (List.range n).map (fun j => (0, j + 1)) ++ (positions n).map (Prod.map (· + 1) (· + 1)) := by
  unfold positions
  rw [List.range_succ_eq_map, List.flatMap_cons, List.flatMap_map, List.map_flatMap]
  congr 1
  · simp [List.range'_eq_map_range, Nat.add_comm]
  · refine List.flatMap_congr fun i _ => ?_
    simp [List.range'_eq_map_range, Nat.add_right_comm]

/-- The names that stand at two positions. -/
def Stand (names : List String) (ij : Nat × Nat) (xy : String × String) : Prop :=
  names[ij.1]? = some xy.1 ∧ names[ij.2]? = some xy.2

theorem positions_stand (names : List String) :
    List.Forall₂ (Stand names) (positions names.length) (couples names) := by
  induction names with
  | nil => exact .nil
  | cons x rest ih =>
    rw [List.length_cons, positions_succ, couples]
    refine List.rel_append ?_ ?_
    · rw [List.forall₂_map_left_iff, List.forall₂_map_right_iff, List.forall₂_iff_get]
      refine ⟨List.length_range, fun i _ bound => ⟨rfl, ?_⟩⟩
      simp
    · rw [List.forall₂_map_left_iff]
      exact ih

/-- A pass is made of the encounters of all couples. -/
theorem pass_eq (distinct : (s.bodies.map Body.uid).Nodup) :
    s.pass g = (couples (s.bodies.map Body.uid)).foldl (encounter g) (s, 0) := by
  have stand := positions_stand (s.bodies.map Body.uid)
  unfold pass
  rw [List.length_map] at stand
  -- The names stay where they stand, so positions mean the same all along.
  suffices ∀ {l : List (Nat × Nat)} {l' : List (String × String)},
      List.Forall₂ (Stand (s.bodies.map Body.uid)) l l' → ∀ e : Pushing K × Nat,
      e.1.bodies.map Body.uid = s.bodies.map Body.uid →
      l.foldl (visit g) e = l'.foldl (encounter g) e from this stand _ rfl
  intro l l' stand
  induction stand with
  | nil => exact fun _ _ => rfl
  | @cons ij xy _ _ here _ ih =>
    intro e names
    have step : visit g e ij = encounter g e xy :=
      visit_eq_encounter (names ▸ distinct) (names ▸ here.1) (names ▸ here.2)
    rw [List.foldl_cons, List.foldl_cons, ← step]
    exact ih _ ((Body.uids_of_starts (starts_moves (visit_moves e ij))).trans names)

theorem foldl_alike (order : g.links.Perm g'.links) (distinct : g.uids.Nodup) (alike : Alike e e')
    (l : List (String × String)) :
    Alike (l.foldl (encounter g) e) (l.foldl (encounter g') e') := by
  induction l generalizing e e' with
  | nil => exact alike
  | cons xy rest ih => exact ih (alike.encounter order distinct xy)

/-! ### States that say the same -/

/-- Two states list the same uids, in any order, and say the same of each. -/
structure Twin (s s' : Pushing K) : Prop where
  names : (s.bodies.map Body.uid).Perm (s'.bodies.map Body.uid)
  standing : ∀ uid, s.standing uid = s'.standing uid

theorem Twin.of_moves (twin : Twin s s') (moves : Moves g s t) (moves' : Moves g' s' t')
    (standing : ∀ uid, t.standing uid = t'.standing uid) : Twin t t' := by
  refine ⟨?_, standing⟩
  rw [Body.uids_of_starts (starts_moves moves), Body.uids_of_starts (starts_moves moves')]
  exact twin.names

omit [Scalar K] in
theorem Twin.begun (twin : Twin s s') : Twin s.begun s'.begun := by
  refine ⟨twin.names, fun uid => Standing.ext (look_congr (twin.standing uid) :)
    (propext (back_congr (twin.standing uid)) :) (propext ?_)⟩
  change uid ∈ addNames _ _ ↔ uid ∈ addNames _ _
  rw [mem_addNames, mem_addNames, back_congr (twin.standing uid)]

/-- Whether a body lies in a blocking tile can be told from what its uid finds. -/
theorem mem_offenders (distinct : (s.bodies.map Body.uid).Nodup) {uid : String} :
    uid ∈ offenders map s.bodies ↔
      ∃ m b, map = some m ∧ s.look uid = some b ∧ b.inTile m = true := by
  cases map with
  | none => simp [offenders]
  | some m =>
    simp only [offenders, List.mem_map, List.mem_filter, Option.some.injEq, exists_and_left,
      exists_eq_left', look, Roster.find?_eq_some_iff distinct, Body.inTile]
    tauto

theorem Twin.rollBackTiles (map : Option (TileMap K)) (order : g.links.Perm g'.links)
    (distinct : g.uids.Nodup) (names : (s.bodies.map Body.uid).Nodup) (twin : Twin s s') :
    Twin (s.rollBackTiles map g).1 (s'.rollBackTiles map g').1 ∧
      ((s.rollBackTiles map g).2 = 0 ↔ (s'.rollBackTiles map g').2 = 0) := by
  have found (uid : String) : uid ∈ offenders map s.bodies ↔ uid ∈ offenders map s'.bodies := by
    rw [mem_offenders names, mem_offenders (twin.names.nodup_iff.1 names),
      look_congr (twin.standing uid)]
  constructor
  · refine twin.of_moves (rollBackTiles_moves map s) (rollBackTiles_moves map s') fun uid => ?_
    have back : uid ∈ (offenders map s.bodies).flatMap g.subtree ↔
        uid ∈ (offenders map s'.bodies).flatMap g'.subtree := by
      simp only [List.mem_flatMap, found, (Attachments.subtree_perm order distinct _).mem_iff]
    unfold Pushing.rollBackTiles
    simp only [foldl_rollBackAll, standing_rollBackAll, back, twin.standing uid]
  · have empty : offenders map s.bodies = [] ↔ offenders map s'.bodies = [] := by
      simp only [List.eq_nil_iff_forall_not_mem, found]
    unfold Pushing.rollBackTiles
    simpa using empty

/-! ### One round more -/

theorem passes_succ (n : Nat) (s : Pushing K) : passes g (n + 1) s =
    if (s.pass g).2 = 0 then s.pass g
    else ((passes g n (s.pass g).1).1, (s.pass g).2 + (passes g n (s.pass g).1).2) := by
  rw [passes]
  split
  · rename_i t calm
    rw [calm, if_pos rfl]
  · rename_i t pushes ne first
    rw [first, if_neg ne]

theorem settle_succ (n : Nat) (s : Pushing K) : settle map g (n + 1) s =
    let t := s.separate g
    let u := t.1.rollBackTiles map g
    if t.2 = 0 then t
    else if u.2 = 0 then (u.1, t.2)
    else ((settle map g n u.1).1, t.2 + (settle map g n u.1).2) := by
  rw [settle]
  split
  · rename_i t calm
    simp only [calm, if_true]
  · rename_i t pushes ne first
    simp only [first, if_neg ne]
    split
    · rename_i u calm
      simp only [calm, if_true]
    · rename_i u count ne' clear
      simp only [clear, if_neg ne']

/-! ### What may come about -/

/-- What may happen to bodies that are taken apart, in whatever order they are looked at: two of
them are pushed, or those in tiles go back and a separation begins. -/
inductive Turn (map : Option (TileMap K)) (g : Attachments) (s : Pushing K) : Pushing K → Prop
  | push {s' : Pushing K} (push : Push g s s') : Turn map g s s'
  | clear : Turn map g s (s.rollBackTiles map g).1.begun

end Pushing

namespace Physics

open Pushing

/-- The state in which the first separation of a resolution begins. -/
def opening (p : Physics K) : Pushing K :=
  ((Pushing.mk p.bodies [] []).rollBackTiles p.map p.attachments).1.begun

/-- The state in which a resolution ends, and the number of pushes. -/
def settled (p : Physics K) : Pushing K × Nat :=
  settle p.map p.attachments maxPasses
    ((Pushing.mk p.bodies [] []).rollBackTiles p.map p.attachments).1

/-- The bodies may come into a state, if they are looked at in some order. -/
def Reaches (p : Physics K) : Pushing K → Prop :=
  Relation.ReflTransGen (Turn p.map p.attachments) p.opening

/-- Two bodies may come to be pushed apart. -/
def Clash (p : Physics K) (x y : String) : Prop :=
  ∃ s a b, p.Reaches s ∧ x ≠ y ∧ s.look x = some a ∧ s.look y = some b ∧
    mustPart p.attachments a b = true

/-- No tree comes to be on both sides of a push, or to be part of two. -/
structure Unshared (p : Physics K) : Prop where
  sides : ∀ {x y}, p.Clash x y → (p.attachments.towed x).Disjoint (p.attachments.towed y)
  pairs : ∀ {x y z w u}, p.Clash x y → p.Clash z w → Concerns p.attachments (x, y) u →
    Concerns p.attachments (z, w) u → (z, w) = (x, y) ∨ (z, w) = (y, x)

variable {p : Physics K} {s s' : Pushing K}

theorem moves_of_reaches (reach : p.Reaches s) : Moves p.attachments ⟨p.bodies, [], []⟩ s := by
  have clears (t : Pushing K) :
      Moves p.attachments t (t.rollBackTiles p.map p.attachments).1.begun :=
    (rollBackTiles_moves p.map t).tail (.hold _)
  induction reach with
  | refl => exact clears _
  | tail _ turn ih =>
    cases turn with
    | push push => exact ih.trans push.moves
    | clear => exact ih.trans (clears _)

/-- Whatever went back is held. -/
theorem tied_of_reaches (reach : p.Reaches s) : s.rolledBack ⊆ s.held := by
  have begun (t : Pushing K) : t.begun.rolledBack ⊆ t.begun.held :=
    fun _ back => mem_addNames.2 (.inr back)
  cases reach with
  | refl => exact begun _
  | tail _ turn =>
    cases turn with
    | push push =>
      obtain ⟨-, -, -, -, pushed⟩ := push
      obtain rfl := eq_pushed pushed
      exact fun _ back => mem_addNames.2 (.inr back)
    | clear => exact begun _

omit [Scalar K] in
theorem nodup_links (distinct : (p.bodies.map Body.uid).Nodup) : p.attachments.uids.Nodup := by
  rwa [Attachments.uids, attachments, List.map_map]

theorem distinct_of_reaches (distinct : (p.bodies.map Body.uid).Nodup) (reach : p.Reaches s) :
    (s.bodies.map Body.uid).Nodup :=
  (Body.uids_of_starts (starts_moves (moves_of_reaches reach))).symm ▸ distinct

/-- An encounter of two bodies is a push of them, or nothing. -/
theorem reaches_encounter (distinct : (p.bodies.map Body.uid).Nodup) {e : Pushing K × Nat}
    (reach : p.Reaches e.1) {xy : String × String} (ne : xy.1 ≠ xy.2) :
    p.Reaches (encounter p.attachments e xy).1 := by
  cases clash : clash? p.attachments e.1 xy with
  | none => rwa [encounter_of_none clash]
  | some ab =>
    obtain ⟨a, b⟩ := ab
    rw [encounter, met_of_clash clash]
    obtain ⟨foundA, foundB, part, free⟩ := clash?_eq_some_iff.1 clash
    obtain rfl := uids_of_clash clash
    obtain ⟨i, atA⟩ := List.mem_iff_getElem?.1 (Roster.mem_of_find?_eq_some foundA).1
    obtain ⟨j, atB⟩ := List.mem_iff_getElem?.1 (Roster.mem_of_find?_eq_some foundB).1
    have ij : i ≠ j := by
      rintro rfl
      exact ne (congrArg Body.uid (Option.some.inj (atA.symm.trans atB)))
    refine reach.tail (.push (.mk ij atA atB part ?_))
    rw [pushApart?_eq, if_neg (by simpa using free),
      pushed_eq_shoved (distinct_of_reaches distinct reach) atA atB]

theorem reaches_foldl (distinct : (p.bodies.map Body.uid).Nodup) {e : Pushing K × Nat}
    (reach : p.Reaches e.1) {l : List (String × String)} (proper : ∀ xy ∈ l, xy.1 ≠ xy.2) :
    p.Reaches (l.foldl (encounter p.attachments) e).1 := by
  induction l generalizing e with
  | nil => exact reach
  | cons xy rest ih =>
    rw [List.forall_mem_cons] at proper
    exact ih (reaches_encounter distinct reach proper.1) proper.2

theorem reaches_pushes (reach : p.Reaches s) (pushes : Pushes p.attachments s s') : p.Reaches s' :=
  reach.trans (Relation.ReflTransGen.mono (fun _ _ => Turn.push) _ _ pushes)

theorem clash_of_clash? (reach : p.Reaches s) {x y : String} (ne : x ≠ y)
    (clash : clash? p.attachments s (x, y) ≠ none) : p.Clash x y := by
  obtain ⟨⟨a, b⟩, clash⟩ := Option.ne_none_iff_exists'.1 clash
  obtain ⟨foundA, foundB, part, -⟩ := clash?_eq_some_iff.1 clash
  exact ⟨s, a, b, reach, ne, foundA, foundB, part⟩

/-! ### Rivals -/

/-- The pairs of uids whose bodies block each other. -/
def rivals (p : Physics K) : List (String × String) :=
  p.bodies.flatMap fun a => (p.bodies.filter fun b =>
    a.uid != b.uid && opposed p.attachments a b).map fun b => (a.uid, b.uid)

/-- No tree has both of two rivals, or is part of two pairs of them. -/
def isUnshared (p : Physics K) : Bool :=
  let towed := p.attachments.towed
  p.rivals.all fun (x, y) => (towed x).all (· ∉ towed y) && p.rivals.all fun (z, w) =>
    (z, w) == (x, y) || (z, w) == (y, x) ||
      (towed x ++ towed y).all (· ∉ towed z ++ towed w)

/-- Only rivals may clash, since who blocks whom does not change. -/
theorem mem_rivals_of_clash {x y : String} (clash : p.Clash x y) : (x, y) ∈ p.rivals := by
  obtain ⟨s, a, b, reach, ne, foundA, foundB, part⟩ := clash
  obtain ⟨memA, rfl⟩ := Roster.mem_of_find?_eq_some foundA
  obtain ⟨memB, rfl⟩ := Roster.mem_of_find?_eq_some foundB
  have starts := starts_moves (moves_of_reaches reach)
  obtain ⟨a', memA', startA⟩ := exists_of_starts starts memA
  obtain ⟨b', memB', startB⟩ := exists_of_starts starts memB
  have against := opposed_of_mustPart part
  rw [← opposed_of_starts startA startB] at against
  rw [← Body.uid_eq_of_start startA, ← Body.uid_eq_of_start startB] at ne ⊢
  refine List.mem_flatMap.2 ⟨a', memA', List.mem_map.2 ⟨b', List.mem_filter.2 ⟨memB', ?_⟩, rfl⟩⟩
  simpa [against] using ne

theorem unshared_of_isUnshared (check : p.isUnshared = true) : p.Unshared := by
  simp only [isUnshared, List.all_eq_true, Bool.and_eq_true, Bool.or_eq_true, beq_iff_eq,
    decide_eq_true_eq, Prod.forall, List.mem_append] at check
  constructor
  · exact fun clash u here there => (check _ _ (mem_rivals_of_clash clash)).1 u here there
  · intro x y z w u first second here there
    have := (check _ _ (mem_rivals_of_clash first)).2 _ _ (mem_rivals_of_clash second)
    exact this.resolve_right fun apart => apart u here there

/-! ### Encounters in another order -/

/-- Bodies that do not clash are not brought to it by others, with which they share nothing. -/
theorem calm_encounter (distinct : (p.bodies.map Body.uid).Nodup) {e : Pushing K × Nat}
    (reach : p.Reaches e.1) {x y z w : String} (ne : x ≠ y) (ne' : z ≠ w)
    (apart : p.Clash x y → p.Clash z w →
      ∀ u, Concerns p.attachments (x, y) u → ¬Concerns p.attachments (z, w) u)
    (calm : clash? p.attachments e.1 (x, y) = none) :
    clash? p.attachments (encounter p.attachments e (z, w)).1 (x, y) = none := by
  by_contra clash
  by_cases still : clash? p.attachments e.1 (z, w) = none
  · rw [encounter_of_none still] at clash
    exact clash calm
  · have apart := apart (clash_of_clash? (reaches_encounter distinct reach ne') ne clash)
      (clash_of_clash? reach ne' still)
    refine clash ((clash?_congr (.refl _) (nodup_links distinct) fun u here => ?_).trans calm)
    exact standing_met_of_away (tied_of_reaches reach) (apart u here)

section Unshared

variable {p : Physics Rat} {s s' : Pushing Rat} {e e' : Pushing Rat × Nat}
  (distinct : (p.bodies.map Body.uid).Nodup) (unshared : p.Unshared)

include distinct unshared

theorem encounter_turned (reach : p.Reaches e.1) {x y : String} (ne : x ≠ y) :
    Alike (encounter p.attachments e (y, x)) (encounter p.attachments e (x, y)) :=
  encounter_swap (nodup_links distinct) ne fun clash =>
    unshared.sides (clash_of_clash? reach ne clash)

/-- In a state that may come about two pairs may meet in either order. -/
theorem encounters_commute (reach : p.Reaches e.1) {xy zw : String × String} (ne : xy.1 ≠ xy.2)
    (ne' : zw.1 ≠ zw.2) :
    Alike (encounter p.attachments (encounter p.attachments e xy) zw)
      (encounter p.attachments (encounter p.attachments e zw) xy) := by
  have linked : p.attachments.uids.Nodup := nodup_links distinct
  have order := List.Perm.refl p.attachments.links
  obtain ⟨x, y⟩ := xy
  obtain ⟨z, w⟩ := zw
  by_cases same : (z, w) = (x, y) ∨ (z, w) = (y, x)
  · rcases same with same | same
    · rw [same]
      exact Alike.refl _
    · cases same
      have after := encounter_turned distinct unshared (reaches_encounter distinct reach ne) ne
      have before := encounter_turned distinct unshared reach ne
      exact after.trans (before.symm.encounter order linked _)
  · have apart (first : p.Clash x y) (second : p.Clash z w) (u : String)
        (here : Concerns p.attachments (x, y) u) : ¬Concerns p.attachments (z, w) u :=
      fun there => same (unshared.pairs first second here there)
    by_cases calm : clash? p.attachments e.1 (x, y) = none
    · have after := calm_encounter distinct reach ne ne' apart calm
      rw [encounter_of_none calm, encounter_of_none after]
      exact Alike.refl _
    · by_cases calm' : clash? p.attachments e.1 (z, w) = none
      · have after := calm_encounter distinct reach ne' ne
          (fun second first u there here => apart first second u here there) calm'
        rw [encounter_of_none calm', encounter_of_none after]
        exact Alike.refl _
      · exact encounter_comm linked (tied_of_reaches reach)
          (apart (clash_of_clash? reach ne calm) (clash_of_clash? reach ne' calm'))

/-- A list of pairs may be looked at in any order. -/
theorem foldl_perm {l l' : List (String × String)} (perm : l.Perm l')
    (proper : ∀ xy ∈ l, xy.1 ≠ xy.2) (reach : p.Reaches e.1) :
    Alike (l.foldl (encounter p.attachments) e) (l'.foldl (encounter p.attachments) e) := by
  have linked : p.attachments.uids.Nodup := nodup_links distinct
  induction perm generalizing e with
  | nil => exact Alike.refl e
  | cons xy _ ih =>
    rw [List.forall_mem_cons] at proper
    exact ih proper.2 (reaches_encounter distinct reach proper.1)
  | swap xy zw rest =>
    -- The step: two neighbours change their places, and the rest begins in a like state.
    rw [List.forall_mem_cons, List.forall_mem_cons] at proper
    exact foldl_alike (.refl _) linked
      (encounters_commute distinct unshared reach proper.1 proper.2.1) rest
  | trans perm _ ih ih' =>
    exact (ih proper reach).trans (ih' (fun xy mem => proper xy (perm.mem_iff.2 mem)) reach)

/-- The names may be listed in any order. -/
theorem couples_perm {names names' : List String} (perm : names.Perm names')
    (proper : names.Nodup) (reach : p.Reaches e.1) :
    Alike ((couples names).foldl (encounter p.attachments) e)
      ((couples names').foldl (encounter p.attachments) e) := by
  have linked : p.attachments.uids.Nodup := nodup_links distinct
  have order := List.Perm.refl p.attachments.links
  induction perm generalizing e with
  | nil => exact Alike.refl e
  | @cons x l l' perm ih =>
    have ne := couples_proper proper
    rw [couples, List.forall_mem_append] at ne
    rw [couples, couples, List.foldl_append, List.foldl_append]
    refine (ih proper.of_cons (reaches_foldl distinct reach ne.1)).trans ?_
    exact foldl_alike order linked (foldl_perm distinct unshared (perm.map _) ne.1 reach) _
  | swap x y l =>
    -- The first two change their sides, and the pairs of each with the others their places.
    have ne := couples_proper proper
    simp only [couples, List.map_cons, List.cons_append, List.forall_mem_cons] at ne
    simp only [couples, List.map_cons, List.cons_append, List.foldl_cons]
    have turned := encounter_turned distinct unshared reach ne.1.symm
    refine (foldl_alike order linked turned _).trans ?_
    refine foldl_perm distinct unshared ?_ ne.2 (reaches_encounter distinct reach ne.1.symm)
    rw [← List.append_assoc, ← List.append_assoc]
    exact List.perm_append_comm.append_right _
  | trans perm _ ih ih' =>
    exact (ih proper reach).trans (ih' (perm.nodup_iff.1 proper) reach)

/-! ### Resolutions in another order -/

variable {p' : Physics Rat} (order : p.bodies.Perm p'.bodies)

include order

omit distinct unshared in
theorem links_perm : p.attachments.links.Perm p'.attachments.links := order.map _

theorem pass_alike (reach : p.Reaches s) (twin : Twin s s') :
    Alike (s.pass p.attachments) (s'.pass p'.attachments) := by
  have names := distinct_of_reaches distinct reach
  rw [pass_eq names, pass_eq (twin.names.nodup_iff.1 names)]
  have across : Alike (s, 0) (s', 0) := ⟨twin.standing, rfl⟩
  refine (couples_perm distinct unshared twin.names names reach).trans ?_
  exact foldl_alike (links_perm order) (nodup_links distinct) across _

theorem passes_twin (n : Nat) (reach : p.Reaches s) (twin : Twin s s') :
    Twin (passes p.attachments n s).1 (passes p'.attachments n s').1 ∧
      (passes p.attachments n s).2 = (passes p'.attachments n s').2 := by
  induction n generalizing s s' with
  | zero => exact ⟨twin, rfl⟩
  | succ n ih =>
    obtain ⟨standing, count⟩ := pass_alike distinct unshared order reach twin
    have first := twin.of_moves (pass_moves s) (pass_moves s') standing
    have rest := ih (reaches_pushes reach (pass_pushes s)) first
    rw [passes_succ, passes_succ, ← count]
    split
    · exact ⟨first, count⟩
    · exact ⟨rest.1, congrArg ((s.pass p.attachments).2 + ·) rest.2⟩

theorem separate_twin (reach : p.Reaches s.begun) (twin : Twin s s') :
    Twin (s.separate p.attachments).1 (s'.separate p'.attachments).1 ∧
      (s.separate p.attachments).2 = (s'.separate p'.attachments).2 :=
  passes_twin distinct unshared order maxPasses reach twin.begun

theorem settle_twin (n : Nat) (reach : p.Reaches s.begun) (twin : Twin s s') :
    Twin (settle p.map p.attachments n s).1 (settle p.map p'.attachments n s').1 ∧
      (settle p.map p.attachments n s).2 = (settle p.map p'.attachments n s').2 := by
  induction n generalizing s s' with
  | zero => exact ⟨twin, rfl⟩
  | succ n ih =>
    obtain ⟨apart, count⟩ := separate_twin distinct unshared order reach twin
    have reach' := reaches_pushes reach (separate_pushes s)
    obtain ⟨clear, calm⟩ := apart.rollBackTiles p.map (links_perm order) (nodup_links distinct)
      (distinct_of_reaches distinct reach')
    -- The next separation begins in a state that may come about.
    obtain ⟨rest, more⟩ := ih (reach'.tail .clear) clear
    rw [settle_succ, settle_succ]
    simp only [← count, ← calm, ← more]
    split
    · exact ⟨apart, count⟩
    · split
      · exact ⟨clear, rfl⟩
      · exact ⟨rest, rfl⟩

theorem settled_twin (map : p'.map = p.map) :
    Twin p.settled.1 p'.settled.1 ∧ p.settled.2 = p'.settled.2 := by
  have start : Twin (Pushing.mk p.bodies [] []) (Pushing.mk p'.bodies [] []) := by
    refine ⟨order.map _, fun uid => Standing.ext ?_ rfl rfl⟩
    exact Roster.find?_perm order distinct
  have clear := (start.rollBackTiles p.map (links_perm order) (nodup_links distinct) distinct).1
  rw [settled, settled, map]
  exact settle_twin distinct unshared order maxPasses .refl clear

end Unshared

/-- If no tree comes to be on both sides of a push, or to be part of two, then a resolution does the
same to each body in whatever order they are listed. -/
theorem resolution_ignores_order {p p' : Physics Rat} (distinct : (p.bodies.map Body.uid).Nodup)
    (unshared : p.Unshared) (order : p.bodies.Perm p'.bodies) (map : p'.map = p.map) :
    (∀ uid, p'.resolve.2.body? uid = p.resolve.2.body? uid) ∧
      (∀ uid, uid ∈ p'.resolve.1.rolledBack ↔ uid ∈ p.resolve.1.rolledBack) ∧
      p'.resolve.1.pushes = p.resolve.1.pushes := by
  obtain ⟨twin, count⟩ := settled_twin distinct unshared order map
  refine ⟨fun uid => ?_, fun uid => ?_, count.symm⟩
  · exact (look_congr (twin.standing uid)).symm
  · exact (back_congr (twin.standing uid)).symm

/-! ### Boxes in a row and in a heap -/

namespace Heap

/-- A box of ten by ten that has not moved in the tick. -/
def box (uid : String) (parent : Option String) (mask : Option Int) (dynamic : Bool) (x y : Rat) :
    Body Rat :=
  { uid, type := "box", pos := ⟨x, y⟩, vel := .zero, prevPos := ⟨x, y⟩, prevVel := .zero
    half := ⟨5, 5⟩, flags := { dynamic }, active := true, blockMask := mask, parent
    onGround := false }

/-- Two couples of boxes on one another, each with a mask of its own, and a flag on one of them. -/
def piles : Physics Rat :=
  { bodies := [box "a" none (some 1) true 0 0, box "f" (some "a") none false 0 (-5),
      box "b" none (some 1) false 6 2, box "c" none (some 2) true 3 4,
      box "d" none (some 2) false 8 1]
    map := none, bounds := none, gravity := 0 }

/-- A box that overlaps two others. -/
def heap : Physics Rat :=
  { bodies := [box "a" none (some 1) false (-8) (-7), box "b" none (some 1) true 0 0,
      box "c" none (some 1) false (-7) 8]
    map := none, bounds := none, gravity := 0 }

/-- The bodies, listed the other way round. -/
def turned (p : Physics Rat) : Physics Rat := { p with bodies := p.bodies.reverse }

end Heap

open Heap in
theorem piles_are_parted_alike : (piles.bodies.map Body.uid).Nodup ∧ piles.Unshared ∧
    piles.bodies.Perm (turned piles).bodies ∧
    piles.resolve.2.body? "f" ≠ piles.body? "f" ∧
    (turned piles).resolve.2.body? "f" = piles.resolve.2.body? "f" := by
  have distinct : (piles.bodies.map Body.uid).Nodup := by decide
  have unshared : piles.Unshared := unshared_of_isUnshared (by cbv)
  have order : piles.bodies.Perm (turned piles).bodies := (List.reverse_perm _).symm
  have before : (piles.body? "f").map (fun b => b.pos.x) = some 0 := by cbv
  have after : (piles.resolve.2.body? "f").map (fun b => b.pos.x) = some (-4) := by cbv
  refine ⟨distinct, unshared, order, fun same => ?_,
    (resolution_ignores_order distinct unshared order rfl).1 "f"⟩
  rw [same, before] at after
  norm_num at after

open Heap in
/-- A box that overlaps two others ends at different places when the boxes are listed the other way
round: the first push takes it off its way to the second one. -/
theorem order_may_show : (heap.bodies.map Body.uid).Nodup ∧
    heap.bodies.Perm (turned heap).bodies ∧
    (heap.resolve.2.body? "b").map Body.pos ≠ ((turned heap).resolve.2.body? "b").map Body.pos := by
  have first : (heap.resolve.2.body? "b").map (fun b => (b.pos.x, b.pos.y)) = some (3, 0) := by cbv
  have second : ((turned heap).resolve.2.body? "b").map (fun b => (b.pos.x, b.pos.y)) =
      some (2, -2) := by cbv
  refine ⟨by decide, (List.reverse_perm _).symm, fun same => ?_⟩
  have same' := congrArg (Option.map fun v : Vec Rat => (v.x, v.y)) same
  rw [Option.map_map, Option.map_map] at same'
  rw [show (fun v : Vec Rat => (v.x, v.y)) ∘ Body.pos = fun b : Body Rat => (b.pos.x, b.pos.y)
    from rfl, first, second] at same'
  norm_num at same'

end Physics

end Playfield
