import Mathlib.Data.List.Induction
import Playfield.Animation
import Playfield.Proofs.Table

/-!
# What animations tell of motion

An animator keeps one state for each active body and carries it from tick to tick. What a state
shows is told by the ticks since its body came, and by nothing else.

* `Frame`: what an animator is updated with. `after`: the animator after some frames.
* `Sight`: an active body in a frame. `sights`: those of a body since it was last absent or
  inactive, the last one first.
* `state?_update`: one update continues the state of each active body and drops all others.
* `Told`: a state shows what the sights of its body tell. `told_next`: so does the next one.
* `states_tell_motion` says it of all frames.
-/

namespace Playfield

variable {K : Type}

/-- What an animator is updated with. -/
structure Frame (K : Type) where
  scene : Scene K
  bodies : List (Body K)
  dt : K

/-- An active body in a frame. -/
structure Sight (K : Type) where
  scene : Scene K
  body : Body K
  dt : K

namespace Frame

/-- The active body of a uid. -/
def sight? (f : Frame K) (uid : String) : Option (Sight K) :=
  (f.bodies.find? fun b => b.active && b.uid == uid).map fun b => ⟨f.scene, b, f.dt⟩

/-- Bodies have distinct uids. -/
def Distinct (f : Frame K) : Prop := (f.bodies.map Body.uid).Nodup

theorem isSome_sight?_iff {f : Frame K} {uid : String} :
    (f.sight? uid).isSome = true ↔ ∃ b ∈ f.bodies, b.active = true ∧ b.uid = uid := by
  simp [sight?]

end Frame

/-- The sights of a uid up to a frame without one. The frames and the sights are listed from the
last one back. -/
def sights (uid : String) : List (Frame K) → List (Sight K)
  | [] => []
  | f :: earlier =>
    match f.sight? uid with
    | none => []
    | some s => s :: sights uid earlier

variable [Scalar K]

namespace Sight

/-- The clip of the motion that is seen. -/
def clip (s : Sight K) : Clip := .ofMotion s.body.vel s.body.isAirborne

/-- The side to which the body moves, unless its horizontal velocity is zero. -/
def side? (s : Sight K) : Option Facing :=
  if 0.0 < s.body.vel.x then some .right else if s.body.vel.x < 0.0 then some .left else none

end Sight

theorem Facing.turned_eq (f : Facing) (s : Sight K) :
    f.turned s.body.vel.x = s.side?.getD f := by
  unfold Facing.turned Sight.side?
  split
  · rfl
  · split <;> rfl

namespace AnimationState

/-- A state shows what sights tell: the clip is that of the last one, the side that of the last
motion to a side, and the time that of the frames after the one in which the clip began. -/
structure Told (a : AnimationState K) (last : Sight K) (earlier : List (Sight K)) : Prop where
  clip : a.clip = last.clip
  name : a.name = last.clip.nameFor last.scene last.body.type
  facing : a.facing = ((last :: earlier).findSome? Sight.side?).getD .right
  time : ∃ later first before, last :: earlier = later ++ first :: before ∧
    (∀ s ∈ later ++ [first], s.clip = last.clip) ∧ (∀ s ∈ before.head?, s.clip ≠ last.clip) ∧
    a.time = later.foldr (fun s time => time + s.dt) 0.0

/-- The first state of a body tells what is seen of it. -/
theorem told_first (s : Sight K) : (next s.scene s.dt s.body none).Told s [] where
  clip := rfl
  name := rfl
  facing := by
    refine (Facing.turned_eq Facing.right s).trans ?_
    rw [List.findSome?_singleton]
  time := ⟨[], s, [], rfl, by simp, by simp, rfl⟩

/-- The next state of a body tells what is seen of it now and was seen before. -/
theorem told_next {a : AnimationState K} {last : Sight K} {earlier : List (Sight K)}
    (told : a.Told last earlier) (s : Sight K) :
    (next s.scene s.dt s.body (some a)).Told s (last :: earlier) where
  clip := rfl
  name := rfl
  facing := by
    refine (Facing.turned_eq a.facing s).trans ?_
    rw [List.findSome?_cons, told.facing]
    cases s.side? <;> rfl
  time := by
    by_cases same : last.clip = s.clip
    · -- The clip goes on, and its time grows.
      obtain ⟨later, first, before, split, within, ended, time⟩ := told.time
      refine ⟨s :: later, first, before, congrArg (s :: ·) split, ?_, same ▸ ended, ?_⟩
      · exact List.forall_mem_cons.2 ⟨rfl, fun t mem => (within t mem).trans same⟩
      · refine (if_pos (told.clip.trans same)).trans ?_
        rw [time]
        rfl
    · refine ⟨[], s, last :: earlier, rfl, by simp, ?_, if_neg fun h => same (told.clip ▸ h)⟩
      rintro t ⟨⟩
      exact same

end AnimationState

namespace Animator

/-- An animator after some frames. -/
def after (frames : List (Frame K)) : Animator K :=
  frames.foldl (fun a f => a.update f.scene f.bodies f.dt) {}

theorem after_concat (frames : List (Frame K)) (f : Frame K) :
    after (frames ++ [f]) = (after frames).update f.scene f.bodies f.dt := List.foldl_concat ..

variable {uid : String}

/-- Of bodies with distinct uids each continues its own state. -/
theorem get?_carry {sc : Scene K} {dt : K} {bodies : List (Body K)}
    (distinct : (bodies.map Body.uid).Nodup) (previous next : Table String (AnimationState K)) :
    (carry sc dt previous next bodies).get? uid =
      ((bodies.find? (·.uid == uid)).map fun b => .next sc dt b (previous.get? uid)).or
        (next.get? uid) := by
  induction bodies generalizing previous next with
  | nil => rfl
  | cons b rest ih =>
    obtain ⟨new, distinct⟩ := List.nodup_cons.1 distinct
    rw [carry, ih distinct]
    by_cases here : b.uid = uid
    · have none : rest.find? (·.uid == uid) = none := by
        refine List.find?_eq_none.2 fun b' mem same => new ?_
        exact List.mem_map.2 ⟨b', mem, (eq_of_beq same).trans here.symm⟩
      rw [none, List.find?_cons_of_pos (by simpa using here), ← here, Table.get?_insert_self]
      rfl
    · have erased : (previous.erase b.uid).get? uid = previous.get? uid :=
        Option.ext fun state => by
          rw [Table.get?_erase_eq_some_iff, and_iff_right (Ne.symm here)]
      rw [erased, List.find?_cons_of_neg (by simpa using here),
        Table.get?_insert_of_ne _ _ (Ne.symm here)]

/-- After an update there is a state of every active body, the next one after that which was there
before, and of no other. -/
theorem state?_update {f : Frame K} (distinct : f.Distinct) (a : Animator K) (uid : String) :
    (a.update f.scene f.bodies f.dt).state? uid =
      (f.sight? uid).map fun s => .next s.scene s.dt s.body (a.state? uid) := by
  have active : ((f.bodies.filter (·.active)).map Body.uid).Nodup :=
    (List.filter_sublist.map Body.uid).nodup distinct
  have none : (∅ : Table String (AnimationState K)).get? uid = none := rfl
  refine (get?_carry active a.states ∅).trans ?_
  rw [none, Option.or_none, List.find?_filter, Frame.sight?, Option.map_map]
  simp only [Bool.decide_and, Bool.decide_eq_true]
  rfl

/-- The state of a body tells what was seen of it since it was last absent or inactive. -/
theorem told_after {frames : List (Frame K)} (distinct : ∀ f ∈ frames, f.Distinct)
    (uid : String) :
    match sights uid frames.reverse with
    | [] => (after frames).state? uid = none
    | last :: earlier => ∃ a, (after frames).state? uid = some a ∧ a.Told last earlier := by
  induction frames using List.reverseRecOn with
  | nil => rfl
  | append_singleton frames f ih =>
    rw [List.forall_mem_append, List.forall_mem_singleton] at distinct
    have now := state?_update distinct.2 (after frames) uid
    have before := ih distinct.1
    rw [after_concat, now, List.reverse_concat, sights]
    cases f.sight? uid with
    | none => rfl
    | some s =>
      cases seen : sights uid frames.reverse with
      | nil =>
        rw [seen] at before
        exact ⟨_, rfl, before ▸ AnimationState.told_first s⟩
      | cons last earlier =>
        rw [seen] at before
        obtain ⟨a, state, told⟩ := before
        exact ⟨_, rfl, state ▸ AnimationState.told_next told s⟩

namespace Stroll

/-- Heroes run. -/
def scene : Scene Rat :=
  { Scene.default with
    templates := Table.ofList
      [("hero", { Template.default with animations := Table.ofList [("walk", "run")] })] }

/-- A hero with some horizontal velocity. -/
def hero (vx : Rat) : Body Rat :=
  { uid := "h", type := "hero", pos := .zero, vel := ⟨vx, 0⟩, prevPos := .zero, prevVel := .zero
    half := .zero, flags := {}, active := true, blockMask := none, parent := none
    onGround := true }

/-- He goes to the right, is hidden for a tick, goes to the left and then stands. -/
def frames : List (Frame Rat) :=
  [⟨scene, [hero 20], 1⟩, ⟨scene, [{ hero 20 with active := false }], 1⟩,
    ⟨scene, [hero (-20)], 1 / 2⟩,
    ⟨scene, [hero (-20)], 1 / 4⟩, ⟨scene, [hero 0], 1 / 2⟩, ⟨scene, [hero 0], 1 / 8⟩]

end Stroll

end Animator

end Playfield
