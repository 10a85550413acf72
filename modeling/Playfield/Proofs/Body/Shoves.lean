import Playfield.Proofs.Body.Reordering

/-!
# The pushes of a resolution

The pushes of a resolution, in order, and where a body ends that none of them shifts.

* `Shove`: a push, with its axis and the sides whose trees it shifts. `Shove.Shifts`: it shifts a
  uid along an axis.
* `shovesOf`: the pushes that are made when pairs meet one after the other. `passShoves`,
  `passesShoves`, `settleShoves` and `Physics.shoves` are made of it.
* `mem_rivals_of_shove`: each push is one of two bodies that block each other.
* `Spared`: along an axis a body is where it was, or has gone back. Rollbacks keep it so, and so do
  pushes that do not shift it along the axis.
* `body?_resolve_of_spared`: where a body ends that no push shifts along an axis.
-/

namespace Playfield

variable {K : Type} [Scalar K]

/-- A push of two bodies along an axis, with the sides whose trees it shifts. -/
structure Shove where
  pair : String × String
  axis : Axis
  first : Bool
  second : Bool
  deriving DecidableEq, Repr

/-- The push shifts a uid along an axis. -/
def Shove.Shifts (g : Attachments) (m : Shove) (axis : Axis) (uid : String) : Prop :=
  m.axis = axis ∧
    (m.first = true ∧ uid ∈ g.towed m.pair.1 ∨ m.second = true ∧ uid ∈ g.towed m.pair.2)

namespace Pushing

variable {g : Attachments} {map : Option (TileMap K)} {s : Pushing K} {a b c : Body K}
  {axis along : Axis} {share amount : K} {head : String} {uids : List String}
  {xy : String × String} {l : List (String × String)}

/-- One side of a push is shifted, not sent back. -/
def gives (g : Attachments) (s : Pushing K) (head : String) (axis : Axis) (share amount : K) :
    Bool :=
  decide (0.0 < share) && !fights g s head axis amount

/-- The push of two bodies. -/
def shove (g : Attachments) (s : Pushing K) (a b : Body K) : Shove :=
  let axis := pushAxis a b
  let share := sharesOf g s a b
  let t := part g s a.uid axis share.1 (firstPush a b share.1)
  { pair := (a.uid, b.uid)
    axis
    first := gives g s a.uid axis share.1 (firstPush a b share.1)
    second := gives g t b.uid axis share.2 (secondPush a b share.2) }

/-- The pushes that are made when some pairs meet one after the other. -/
def shovesOf (g : Attachments) : List (String × String) → Pushing K → List Shove
  | [], _ => []
  | xy :: rest, s =>
    match clash? g s xy with
    | some (a, b) => shove g s a b :: shovesOf g rest (met g s xy)
    | none => shovesOf g rest s

/-- The pushes of a pass. -/
def passShoves (g : Attachments) (s : Pushing K) : List Shove :=
  shovesOf g (couples (s.bodies.map Body.uid)) s

/-- The pushes of at most the given number of passes. -/
def passesShoves (g : Attachments) : Nat → Pushing K → List Shove
  | 0, _ => []
  | n + 1, s =>
    passShoves g s ++ if (s.pass g).2 = 0 then [] else passesShoves g n (s.pass g).1

/-- The pushes of at most the given number of rounds. -/
def settleShoves (map : Option (TileMap K)) (g : Attachments) : Nat → Pushing K → List Shove
  | 0, _ => []
  | n + 1, s =>
    let t := s.separate g
    let u := t.1.rollBackTiles map g
    passesShoves g maxPasses s.begun ++
      if t.2 = 0 ∨ u.2 = 0 then [] else settleShoves map g n u.1

/-! ### Who is spared -/

/-- Along an axis a body is where it was, or has gone back. -/
def Spared (b : Body K) (axis : Axis) (s : Pushing K) : Prop :=
  ∃ c, s.look b.uid = some c ∧ c.prevPos = b.prevPos ∧
    axis.of c.pos = axis.of (if b.uid ∈ s.rolledBack then b.prevPos else b.pos)

theorem Spared.rollBackAll (spared : Spared b axis s) (uids : List String) :
    Spared b axis (s.rollBackAll uids) := by
  obtain ⟨c, found, start, place⟩ := spared
  have isBack : b.uid ∈ (s.rollBackAll uids).rolledBack ↔ b.uid ∈ s.rolledBack ∨ b.uid ∈ uids := by
    rw [mem_rolledBack_all, found]
    simp
  by_cases now : b.uid ∈ uids
  · refine ⟨c.rollBack, ?_, start, ?_⟩
    · rw [look_rollBackAll, found, Option.map_some, if_pos now]
    · rw [if_pos (isBack.2 (.inr now)), ← start]
      rfl
  · refine ⟨c, ?_, start, ?_⟩
    · rw [look_rollBackAll, found, Option.map_some, if_neg now]
    · simp only [place, isBack, now, or_false]

theorem Spared.rollBackTiles (spared : Spared b axis s) (map : Option (TileMap K))
    (g : Attachments) : Spared b axis (s.rollBackTiles map g).1 := by
  rw [Pushing.rollBackTiles, foldl_rollBackAll]
  exact spared.rollBackAll _

/-- A side of a push that does not shift a body along an axis spares it. -/
theorem Spared.part (spared : Spared b axis s)
    (away : ¬(along = axis ∧ gives g s head along share amount = true ∧ b.uid ∈ g.towed head)) :
    Spared b axis (part g s head along share amount) := by
  unfold Pushing.part
  split
  · rename_i takes
    rw [shiftTree_eq]
    split
    · exact spared.rollBackAll _
    · rename_i ahead
      obtain ⟨c, found, start, place⟩ := spared
      have once : (g.towed head).Nodup := Attachments.nodup_subtree
      by_cases inside : b.uid ∈ g.towed head
      · have ne : axis ≠ along := by
          rintro rfl
          exact away ⟨rfl, by simp [gives, takes, ahead], inside⟩
        refine ⟨shift along amount c, ?_, start, ?_⟩
        · rw [look_shiftAll s once, found, Option.map_some, if_pos inside]
        · exact (Axis.of_set_of_ne ne c.pos _).trans place
      · refine ⟨c, ?_, start, place⟩
        rw [look_shiftAll s once, found, Option.map_some, if_neg inside]
  · exact spared

theorem pos_haltSide (a b c : Body K) :
    (haltSide a b c).pos = c.pos ∧ (haltSide a b c).prevPos = c.prevPos := by
  unfold haltSide halt
  simp only
  repeat' split
  all_goals exact ⟨rfl, rfl⟩

theorem Spared.met (spared : Spared b axis s)
    (away : ∀ a c, clash? g s xy = some (a, c) → ¬(shove g s a c).Shifts g axis b.uid) :
    Spared b axis (met g s xy) := by
  cases clash : clash? g s xy with
  | none => rwa [met_of_none clash]
  | some ac =>
    obtain ⟨a, c⟩ := ac
    have away := away a c clash
    rw [met_of_clash clash]
    have first := spared.part fun h => away ⟨h.1, .inl h.2⟩
    have second : Spared b axis (partBoth g s a c) :=
      first.part fun h => away ⟨h.1, .inr h.2⟩
    obtain ⟨d, found, start, place⟩ := second
    have halted := pos_haltSide a c d
    refine ⟨haltSide a c d, ?_, halted.2.trans start, ?_⟩
    · rw [look_shoved, found, Option.map_some]
    · rw [halted.1]
      exact place

theorem Spared.foldl {e : Pushing K × Nat} (spared : Spared b axis e.1)
    (away : ∀ m ∈ shovesOf g l e.1, ¬m.Shifts g axis b.uid) :
    Spared b axis (l.foldl (encounter g) e).1 := by
  induction l generalizing e with
  | nil => exact spared
  | cons xy rest ih =>
    rw [shovesOf] at away
    rw [List.foldl_cons]
    cases clash : clash? g e.1 xy with
    | none =>
      simp only [clash] at away
      rw [encounter_of_none clash]
      exact ih spared away
    | some ac =>
      obtain ⟨a, c⟩ := ac
      simp only [clash, List.forall_mem_cons] at away
      refine ih (spared.met fun a' c' same => ?_) away.2
      cases clash.symm.trans same
      exact away.1

theorem Spared.pass (spared : Spared b axis s) (names : s.Distinct)
    (away : ∀ m ∈ passShoves g s, ¬m.Shifts g axis b.uid) : Spared b axis (s.pass g).1 := by
  rw [pass_eq names]
  exact Spared.foldl (e := (s, 0)) spared away

theorem Spared.passes (n : Nat) (spared : Spared b axis s) (names : s.Distinct)
    (away : ∀ m ∈ passesShoves g n s, ¬m.Shifts g axis b.uid) :
    Spared b axis (passes g n s).1 := by
  induction n generalizing s with
  | zero => exact spared
  | succ n ih =>
    rw [passesShoves, List.forall_mem_append] at away
    have first := spared.pass names away.1
    rw [passes_succ]
    split
    · exact first
    · rename_i pushes
      rw [if_neg pushes] at away
      exact ih first (names.of_moves (pass_moves s)) away.2

theorem Spared.settle (n : Nat) (spared : Spared b axis s) (names : s.Distinct)
    (away : ∀ m ∈ settleShoves map g n s, ¬m.Shifts g axis b.uid) :
    Spared b axis (settle map g n s).1 := by
  induction n generalizing s with
  | zero => exact spared
  | succ n ih =>
    rw [settleShoves, List.forall_mem_append] at away
    have first : Spared b axis (s.separate g).1 := Spared.passes maxPasses spared names away.1
    have moves := (separate_moves (g := g) s).trans (rollBackTiles_moves map (s.separate g).1)
    have second := first.rollBackTiles map g
    rw [settle_succ]
    simp only
    split
    · exact first
    · rename_i pushes
      split
      · exact second
      · rename_i blocked
        rw [if_neg (not_or.2 ⟨pushes, blocked⟩)] at away
        exact ih second (names.of_moves moves) away.2

end Pushing

namespace Physics

open Pushing

variable {p : Physics K} {uid : String} {b : Body K}

/-- The pushes of a resolution, in order. -/
def shoves (p : Physics K) : List Shove :=
  settleShoves p.map p.attachments maxPasses
    ((Pushing.mk p.bodies [] []).rollBackTiles p.map p.attachments).1

/-! ### Who is pushed -/

section Reaching

variable {s : Pushing K} {m : Shove}

theorem clash_of_mem_shovesOf (distinct : (p.bodies.map Body.uid).Nodup) {e : Pushing K × Nat}
    (reach : p.Reaches e.1) {l : List (String × String)} (proper : ∀ zw ∈ l, zw.1 ≠ zw.2)
    (mem : m ∈ shovesOf p.attachments l e.1) : p.Clash m.pair.1 m.pair.2 := by
  induction l generalizing e with
  | nil => cases mem
  | cons zw rest ih =>
    rw [List.forall_mem_cons] at proper
    rw [shovesOf] at mem
    cases clash : clash? p.attachments e.1 zw with
    | none =>
      simp only [clash] at mem
      exact ih reach proper.2 mem
    | some ab =>
      simp only [clash, List.mem_cons] at mem
      rcases mem with rfl | mem
      · rw [shove, uids_of_clash clash]
        exact clash_of_clash? reach proper.1 (by simp [clash])
      · exact ih (reaches_encounter distinct reach proper.1) proper.2 mem

theorem clash_of_mem_passesShoves (distinct : (p.bodies.map Body.uid).Nodup) (n : Nat)
    (reach : p.Reaches s) (mem : m ∈ passesShoves p.attachments n s) :
    p.Clash m.pair.1 m.pair.2 := by
  induction n generalizing s with
  | zero => cases mem
  | succ n ih =>
    rw [passesShoves, List.mem_append] at mem
    rcases mem with mem | mem
    · exact clash_of_mem_shovesOf (e := (s, 0)) distinct reach
        (couples_proper (distinct_of_reaches distinct reach)) mem
    · split at mem
      · cases mem
      · exact ih (reaches_pushes reach (pass_pushes s)) mem

theorem clash_of_mem_settleShoves (distinct : (p.bodies.map Body.uid).Nodup) (n : Nat)
    (reach : p.Reaches s.begun) (mem : m ∈ settleShoves p.map p.attachments n s) :
    p.Clash m.pair.1 m.pair.2 := by
  induction n generalizing s with
  | zero => cases mem
  | succ n ih =>
    rw [settleShoves, List.mem_append] at mem
    rcases mem with mem | mem
    · exact clash_of_mem_passesShoves distinct maxPasses reach mem
    · split at mem
      · cases mem
      · exact ih ((reaches_pushes reach (separate_pushes s)).tail .clear) mem

/-- Only rivals are pushed apart. -/
theorem mem_rivals_of_shove (distinct : (p.bodies.map Body.uid).Nodup) (mem : m ∈ p.shoves) :
    m.pair ∈ p.rivals :=
  mem_rivals_of_clash (clash_of_mem_settleShoves distinct maxPasses .refl mem)

end Reaching

/-- A body that no push shifts along an axis is there after a resolution where it was, or has gone
back. -/
theorem body?_resolve_of_spared {axis : Axis} (distinct : (p.bodies.map Body.uid).Nodup)
    (found : p.body? uid = some b) (away : ∀ m ∈ p.shoves, ¬m.Shifts p.attachments axis uid) :
    ∃ c, p.resolve.2.body? uid = some c ∧
      axis.of c.pos = axis.of (if uid ∈ p.resolve.1.rolledBack then b.prevPos else b.pos) := by
  have names : Distinct ⟨p.bodies, [], []⟩ := distinct
  obtain rfl := (Roster.mem_of_find?_eq_some found).2
  have start : Spared b axis ⟨p.bodies, [], []⟩ := ⟨b, found, rfl, rfl⟩
  obtain ⟨c, found', -, place⟩ := (start.rollBackTiles p.map p.attachments).settle maxPasses
    (names.of_moves (rollBackTiles_moves p.map _)) away
  exact ⟨c, found', place⟩

end Physics

end Playfield
