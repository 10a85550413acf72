import Mathlib
import Playfield.Proofs.Body.Travel

/-!
# Bodies that stop no one

A body on its way is stopped only by solid bodies that have a mask and that no force moves. Whoever
else there is does not show in where it comes to.

* `Body.isObstacle`: the bodies that may stop others. `Physics.travel_congr`: the travel of a body
  hangs on no others.
* `Physics.travelAmong`: bodies that travel one after the other, among some that have done so and
  some that have not yet. It is taken apart by `travelAmong_append`, and `travelAmong_congr` says
  that only obstacles count of those around.
* `travelAmong_filter`: bystanders may be left out before the bodies travel or after it.
* `moving_bodies_are_unseen`: a body that forces move may be left out, put in the place of another
  one or change places with its neighbour.
-/

namespace Playfield

variable {K : Type}

namespace Body

/-- The body may stop others on their way: it is solid, has a mask, and no force moves it. -/
def isObstacle (b : Body K) : Bool := b.isSolid && !b.flags.dynamic && b.blockMask.isSome

theorem isObstacle_of_start {b b' : Body K} (h : b'.start = b.start) :
    b'.isObstacle = b.isObstacle :=
  (congrArg isObstacle h :)

theorem not_isObstacle_of_dynamic {b : Body K} (moving : b.flags.dynamic = true) :
    b.isObstacle = false := by
  simp [isObstacle, moving]

variable [Scalar K] {b o : Body K} {map : Option (TileMap K)} {others others' : List (Body K)}
  {axis : Axis} {delta dt : K}

theorem isObstacle_of_mayStop (h : b.mayStop o axis = true) : o.isObstacle = true := by
  simp only [mayStop, isStationary, masksBlock, Bool.and_eq_true, beq_iff_eq] at h
  obtain ⟨⟨⟨⟨solid, static, -⟩, masked, same⟩, -⟩, -⟩ := h
  rw [isObstacle, solid, static, ← same, masked]
  rfl

theorem filter_mayStop (b : Body K) (others : List (Body K)) (axis : Axis) :
    others.filter (b.mayStop · axis) =
      (others.filter isObstacle).filter (b.mayStop · axis) := by
  rw [List.filter_filter]
  refine List.filter_congr fun o _ => ?_
  cases stops : b.mayStop o axis with
  | false => rfl
  | true => rw [isObstacle_of_mayStop stops, Bool.and_self]

section Congr

variable (same : others.filter isObstacle = others'.filter isObstacle)

include same

theorem stationaryStop?_congr :
    b.stationaryStop? others axis delta = b.stationaryStop? others' axis delta := by
  unfold stationaryStop?
  rw [filter_mayStop, same, ← filter_mayStop]

theorem stepAxis_congr : b.stepAxis map others axis dt = b.stepAxis map others' axis dt := by
  unfold stepAxis destination
  simp only [stationaryStop?_congr same]

end Congr

end Body

namespace Physics

variable [Scalar K] {p : Physics K} {dt : K} {on : Bool} {b : Body K}
  {others others' before before' after after' : List (Body K)}

/-- The travel of a body hangs on the obstacles among the others. -/
theorem travel_congr (same : others.filter Body.isObstacle = others'.filter Body.isObstacle) :
    p.travel dt on others b = p.travel dt on others' b := by
  unfold travel
  simp only [Body.stepAxis_congr same]

theorem isObstacle_travel (p : Physics K) (dt : K) (on : Bool) (others : List (Body K))
    (b : Body K) : (p.travel dt on others b).isObstacle = b.isObstacle :=
  Body.isObstacle_of_start (p.start_travel dt on others b)

/-! ### One after the other -/

/-- Where bodies come to that travel one after the other, among those before and after them. -/
def travelAmong (p : Physics K) (dt : K) (on : Bool) (before after : List (Body K)) :
    List (Body K) → List (Body K)
  | [] => []
  | b :: rest =>
    let b' := p.travel dt on (before ++ rest ++ after) b
    b' :: travelAmong p dt on (before ++ [b']) after rest

theorem travelAll_eq (p : Physics K) (dt : K) (on : Bool) (before bodies : List (Body K)) :
    p.travelAll dt on before bodies = before ++ p.travelAmong dt on before [] bodies := by
  induction bodies generalizing before with
  | nil => exact (List.append_nil before).symm
  | cons b rest ih =>
    rw [travelAll, ih, travelAmong, List.append_nil, List.append_assoc, List.singleton_append]

theorem integrate_eq (p : Physics K) (dt : K) (on : Bool) :
    (p.integrate dt on).bodies = p.travelAmong dt on [] [] p.bodies := by
  rw [integrate, travelAll_eq, List.nil_append]

theorem length_travelAmong (p : Physics K) (dt : K) (on : Bool)
    (before after bodies : List (Body K)) :
    (p.travelAmong dt on before after bodies).length = bodies.length := by
  induction bodies generalizing before with
  | nil => rfl
  | cons b rest ih => rw [travelAmong, List.length_cons, List.length_cons, ih]

theorem travelAmong_append (before after l r : List (Body K)) :
    p.travelAmong dt on before after (l ++ r) =
      p.travelAmong dt on before (r ++ after) l ++
        p.travelAmong dt on (before ++ p.travelAmong dt on before (r ++ after) l) after r := by
  induction l generalizing before with
  | nil => rw [travelAmong, List.append_nil, List.nil_append, List.nil_append]
  | cons b rest ih =>
    have around : before ++ (rest ++ r) ++ after = before ++ rest ++ (r ++ after) := by
      simp only [List.append_assoc]
    rw [List.cons_append, travelAmong, travelAmong, ih, around]
    simp only [List.cons_append, List.append_assoc, List.nil_append]

/-- Of the bodies around only the obstacles count. -/
theorem travelAmong_congr (same : before.filter Body.isObstacle = before'.filter Body.isObstacle)
    (same' : after.filter Body.isObstacle = after'.filter Body.isObstacle)
    (bodies : List (Body K)) :
    p.travelAmong dt on before after bodies = p.travelAmong dt on before' after' bodies := by
  induction bodies generalizing before before' with
  | nil => rfl
  | cons b rest ih =>
    have around : p.travel dt on (before ++ rest ++ after) b =
        p.travel dt on (before' ++ rest ++ after') b := by
      refine travel_congr ?_
      rw [List.filter_append, List.filter_append, List.filter_append, List.filter_append, same,
        same']
    rw [travelAmong, travelAmong, around, ih]
    rw [List.filter_append, List.filter_append, same]

/-- Bystanders may be left out before the bodies travel or after it, if they can be told by what
does not change on the way. -/
theorem travelAmong_filter {keep : Body K → Bool}
    (keeps : ∀ b b' : Body K, b'.start = b.start → keep b' = keep b) (before after : List (Body K))
    {bodies : List (Body K)} (idle : ∀ b ∈ bodies, keep b = false → b.isObstacle = false) :
    (p.travelAmong dt on before after bodies).filter keep =
      p.travelAmong dt on before after (bodies.filter keep) := by
  induction bodies generalizing before with
  | nil => rfl
  | cons b rest ih =>
    rw [List.forall_mem_cons] at idle
    have kept := keeps b _ (p.start_travel dt on (before ++ rest ++ after) b)
    rw [travelAmong]
    cases stays : keep b with
    | true =>
      -- The body goes the same way, since those that are left out are no obstacles.
      have rest_eq : (rest.filter keep).filter Body.isObstacle = rest.filter Body.isObstacle := by
        rw [List.filter_filter]
        refine List.filter_congr fun o mem => ?_
        cases ho : keep o with
        | true => rw [Bool.and_true]
        | false => rw [idle.2 o mem ho, Bool.and_false]
      have around : p.travel dt on (before ++ rest.filter keep ++ after) b =
          p.travel dt on (before ++ rest ++ after) b := by
        refine travel_congr ?_
        rw [List.filter_append, List.filter_append, List.filter_append, List.filter_append, rest_eq]
      rw [List.filter_cons_of_pos (kept.trans stays), List.filter_cons_of_pos stays, travelAmong,
        around, ih _ idle.2]
    | false =>
      have gone : ([p.travel dt on (before ++ rest ++ after) b] : List (Body K)).filter
          Body.isObstacle = [] := by
        rw [List.filter_singleton, isObstacle_travel, idle.1 stays]
        rfl
      rw [List.filter_cons_of_neg (by rw [kept, stays]; exact Bool.false_ne_true),
        List.filter_cons_of_neg (by rw [stays]; exact Bool.false_ne_true), ih _ idle.2]
      refine travelAmong_congr ?_ rfl _
      rw [List.filter_append, gone, List.append_nil]

/-! ### Bodies that forces move -/

/-- The bodies after a tick of motion, if the given ones are in the place of those there are. -/
def outcome (p : Physics K) (dt : K) (on : Bool) (bodies : List (Body K)) : List (Body K) :=
  ({ p with bodies }.integrate dt on).bodies

theorem travelAmong_with (before after bodies rest : List (Body K)) :
    { p with bodies }.travelAmong dt on before after rest =
      p.travelAmong dt on before after rest := by
  induction rest generalizing before with
  | nil => rfl
  | cons b rest ih => exact congrArg (_ :: ·) (ih _)

theorem outcome_eq (p : Physics K) (dt : K) (on : Bool) (bodies : List (Body K)) :
    p.outcome dt on bodies = p.travelAmong dt on [] [] bodies :=
  (integrate_eq ..).trans (travelAmong_with ..)

section Moving

variable {moved : List (Body K)} (moving : ∀ d ∈ moved, d.flags.dynamic = true)

include moving

omit [Scalar K] in
theorem obstacles_of_moving : moved.filter Body.isObstacle = [] :=
  List.filter_eq_nil_iff.mpr fun d mem => by
    rw [Body.not_isObstacle_of_dynamic (moving d mem)]
    exact Bool.false_ne_true

theorem obstacles_of_travelled (p : Physics K) (dt : K) (on : Bool) (others : List (Body K)) :
    (moved.map (p.travel dt on others)).filter Body.isObstacle = [] := by
  refine List.filter_eq_nil_iff.mpr fun d' mem => ?_
  obtain ⟨d, from_d, rfl⟩ := List.mem_map.mp mem
  rw [isObstacle_travel, Body.not_isObstacle_of_dynamic (moving d from_d)]
  exact Bool.false_ne_true

/-- Each goes its way as if the others of its kind were not there. -/
theorem travelAmong_of_moving (before after : List (Body K)) :
    p.travelAmong dt on before after moved = moved.map (p.travel dt on (before ++ after)) := by
  induction moved generalizing before with
  | nil => rfl
  | cons d rest ih =>
    have later : ∀ e ∈ rest, e.flags.dynamic = true := (List.forall_mem_cons.mp moving).2
    have first : p.travel dt on (before ++ rest ++ after) d =
        p.travel dt on (before ++ after) d := by
      refine travel_congr ?_
      rw [List.filter_append, List.filter_append, obstacles_of_moving later, List.append_nil,
        ← List.filter_append]
    rw [travelAmong, ih later, first, List.map_cons]
    refine congrArg (_ :: ·) (List.map_congr_left fun e _ => travel_congr ?_)
    have gone := obstacles_of_travelled
      (List.forall_mem_singleton.mpr (moving d List.mem_cons_self)) p dt on (before ++ after)
    rw [List.filter_append, List.filter_append]
    rw [List.map_singleton] at gone
    rw [gone, List.append_nil, ← List.filter_append]

/-- The others go their ways as if the bodies that forces move were not among them, and those go
theirs as if there were no others of their kind. -/
theorem outcome_of_moving (p : Physics K) (dt : K) (on : Bool) (l r : List (Body K)) :
    ∃ l' r', l'.length = l.length ∧ p.outcome dt on (l ++ r) = l' ++ r' ∧
      p.outcome dt on (l ++ (moved ++ r)) =
        l' ++ (moved.map (p.travel dt on (l' ++ r)) ++ r') := by
  have first : p.travelAmong dt on [] (moved ++ r) l = p.travelAmong dt on [] r l := by
    refine travelAmong_congr rfl ?_ l
    rw [List.filter_append, obstacles_of_moving moving, List.nil_append]
  refine ⟨p.travelAmong dt on [] r l, p.travelAmong dt on (p.travelAmong dt on [] r l) [] r,
    length_travelAmong .., ?_, ?_⟩
  · rw [outcome_eq, travelAmong_append, List.append_nil, List.nil_append]
  · rw [outcome_eq, travelAmong_append, List.append_nil, List.nil_append, first,
      travelAmong_append, List.append_nil, travelAmong_of_moving moving]
    refine congrArg (_ ++ ·) (congrArg (_ ++ ·) (travelAmong_congr ?_ rfl r))
    rw [List.filter_append, obstacles_of_travelled moving, List.append_nil]

end Moving

/-- While bodies travel, the others come to the same end without a body that forces move, and with
any other such body in its place. Two neighbours of this kind may change places. -/
theorem moving_bodies_are_unseen (p : Physics K) (dt : K) (on : Bool) (l r : List (Body K))
    {d : Body K} (moving : d.flags.dynamic = true) :
    (p.outcome dt on (l ++ d :: r)).eraseIdx l.length = p.outcome dt on (l ++ r) ∧
    (∀ d' : Body K, d'.flags.dynamic = true →
      (p.outcome dt on (l ++ d' :: r)).eraseIdx l.length =
        (p.outcome dt on (l ++ d :: r)).eraseIdx l.length) ∧
    ∀ e : Body K, e.flags.dynamic = true → ∃ l' d' e' r', l'.length = l.length ∧
      p.outcome dt on (l ++ d :: e :: r) = l' ++ d' :: e' :: r' ∧
      p.outcome dt on (l ++ e :: d :: r) = l' ++ e' :: d' :: r' := by
  have erased {c : Body K} (moving : c.flags.dynamic = true) :
      (p.outcome dt on (l ++ c :: r)).eraseIdx l.length = p.outcome dt on (l ++ r) := by
    obtain ⟨l', r', length, without, among⟩ :=
      outcome_of_moving (List.forall_mem_singleton.mpr moving) p dt on l r
    rw [List.singleton_append, List.map_singleton, List.singleton_append] at among
    rw [without, among, ← length, List.eraseIdx_append_of_length_le (Nat.le_refl _), Nat.sub_self,
      List.eraseIdx_cons_zero]
  refine ⟨erased moving, fun d' moving' => (erased moving').trans (erased moving).symm,
    fun e moving' => ?_⟩
  have both : ∀ c ∈ [d, e], c.flags.dynamic = true :=
    List.forall_mem_cons.mpr ⟨moving, List.forall_mem_singleton.mpr moving'⟩
  have both' : ∀ c ∈ [e, d], c.flags.dynamic = true :=
    List.forall_mem_cons.mpr ⟨moving', List.forall_mem_singleton.mpr moving⟩
  obtain ⟨l', r', length, without, among⟩ := outcome_of_moving both p dt on l r
  obtain ⟨l₂, r₂, length₂, without₂, among₂⟩ := outcome_of_moving both' p dt on l r
  -- What is left and right of the two is the same in both runs.
  obtain ⟨rfl, rfl⟩ := List.append_inj (without₂.symm.trans without) (length₂.trans length.symm)
  exact ⟨_, _, _, _, length, among, among₂⟩

namespace Crossing

/-- The open plane. -/
def plane : Physics Rat := { map := none, bounds := none, gravity := 0 }

/-- A crate on its way along the ground. -/
def crate (uid : String) (x vx : Rat) (dynamic : Bool) : Body Rat :=
  { uid, type := "crate", pos := ⟨x, 5⟩, vel := ⟨vx, 0⟩, prevPos := ⟨x, 5⟩, prevVel := ⟨vx, 0⟩
    half := ⟨5, 5⟩, flags := { dynamic }, active := true, blockMask := some 1, parent := none
    onGround := false }

end Crossing

open Crossing in
/-- Two crates that forces move cross. The one in front of the wall is stopped by the wall alone. -/
theorem crates_cross :
    (crate "d" 20 (-30) true).flags.dynamic = true ∧
      (plane.outcome 1 false [crate "a" 0 40 true, crate "d" 20 (-30) true,
        crate "wall" 50 0 false]).map (·.pos.x) = [40, -10, 50] ∧
      (plane.outcome 1 false [crate "a" 0 40 true, crate "d" 20 (-30) true,
        crate "wall" 50 0 false]).eraseIdx 1 =
        plane.outcome 1 false [crate "a" 0 40 true, crate "wall" 50 0 false] :=
  ⟨rfl, by cbv, (plane.moving_bodies_are_unseen 1 false [crate "a" 0 40 true]
    [crate "wall" 50 0 false] (d := crate "d" 20 (-30) true) rfl).1⟩

end Physics

end Playfield
