import Mathlib.Data.List.Forall2
import Playfield.Body.System
import Playfield.Proofs.Table
import Playfield.Proofs.World.Motion

/-!
# The bodies of a world

What names find in the bodies that follow a world, and in the world after they are written back.

* `Body.Mirrors b a`: the body `b` is where the actor `a` is and looks like it.
* `Body.start`: what no motion within a tick changes.
* `body?_sync`: each actor continues the body that had its uid, and the new body mirrors it.
* `actor?_writeBack`, `actors_writeBack`: each actor is placed where its body is.
* `get?_motion`: the recorded motion of a body is that at the start of the tick.
-/

namespace Playfield

variable {K : Type}

theorem Axis.of_set_of_ne {axis along : Axis} (ne : axis ≠ along) (v : Vec K) (c : K) :
    axis.of (along.set v c) = axis.of v := by
  cases axis <;> cases along <;> first | rfl | exact absurd rfl ne

namespace Body

/-- The body as it was at the start of the tick, in the air. -/
def start (b : Body K) : Body K := { b with pos := b.prevPos, vel := b.prevVel, onGround := false }

/-- Position and velocity at the start of the tick. -/
def startMotion (b : Body K) : Motion K := ⟨b.prevPos.x, b.prevPos.y, b.prevVel.x, b.prevVel.y⟩

theorem uid_eq_of_start {b b' : Body K} (h : b'.start = b.start) : b'.uid = b.uid :=
  (congrArg Body.uid h :)

theorem blockMask_eq_of_start {b b' : Body K} (h : b'.start = b.start) :
    b'.blockMask = b.blockMask :=
  (congrArg Body.blockMask h :)

theorem uids_of_starts {l l' : List (Body K)} (h : l'.map start = l.map start) :
    l'.map uid = l.map uid := by
  have uids := congrArg (List.map uid) h
  rw [List.map_map, List.map_map] at uids
  exact uids

variable [Scalar K]

/-- The body is where the actor is and looks like it. -/
structure Mirrors (b : Body K) (a : Actor K) : Prop where
  uid : b.uid = a.uid
  type : b.type = a.type
  pos : b.pos = ⟨a.x, a.y⟩
  vel : b.vel = ⟨a.vx, a.vy⟩
  half : b.half = ⟨Scalar.half a.width, Scalar.half a.height⟩
  flags : b.flags = a.physics
  active : b.active = a.active
  blockMask : b.blockMask = a.blockMask
  parent : b.parent = a.parent

theorem mirrors_ofActor (a : Actor K) : (ofActor a).Mirrors a :=
  ⟨rfl, rfl, rfl, rfl, rfl, rfl, rfl, rfl, rfl⟩

theorem mirrors_refresh {b : Body K} {a : Actor K} (same : b.uid = a.uid) :
    (b.refresh a).Mirrors a :=
  ⟨same, rfl, rfl, rfl, rfl, rfl, rfl, rfl, rfl⟩

end Body

namespace Roster

variable {α β : Type} {key : α → String} {key' : β → String} {name : String}

/-- Where entries of two rosters correspond one by one, so do those that a name finds. -/
theorem find?_of_forall₂ {R : α → β → Prop} (same : ∀ a b, R a b → key' b = key a)
    {l : List α} {l' : List β} (h : List.Forall₂ R l l') :
    Option.Rel R (find? key name l) (find? key' name l') := by
  induction h with
  | nil => exact .none
  | @cons a b rest rest' related _ ih =>
    rw [find?, find?]
    cases hf : find? key name rest <;> cases hf' : find? key' name rest' <;> rw [hf, hf'] at ih
    · rw [same a b related]
      by_cases hk : key a = name
      · rw [if_pos hk, if_pos hk]
        exact .some related
      · rw [if_neg hk, if_neg hk]
        exact .none
    · cases ih
    · cases ih
    · exact ih

end Roster

namespace Physics

variable [Scalar K] {p : Physics K} {w : World K} {uid : String}

/-- The body that an actor gets from those there were. -/
def continued (previous : List (Body K)) (a : Actor K) : Body K :=
  match Roster.find? Body.uid a.uid previous with
  | some b => b.refresh a
  | none => .ofActor a

theorem continued_mirrors (previous : List (Body K)) (a : Actor K) :
    (continued previous a).Mirrors a := by
  unfold continued
  split
  · rename_i b found
    exact Body.mirrors_refresh (Roster.mem_of_find?_eq_some found).2
  · exact Body.mirrors_ofActor a

theorem continued_of_body {previous : List (Body K)} {a : Actor K} {b : Body K}
    (found : Roster.find? Body.uid a.uid previous = some b) :
    continued previous a = b.refresh a := by
  rw [continued, found]

/-- With distinct uids it does not matter that a body is continued only once. -/
theorem follow_eq_map {actors : List (Actor K)} (distinct : (actors.map Actor.uid).Nodup)
    (previous : List (Body K)) : follow previous actors = actors.map (continued previous) := by
  induction actors generalizing previous with
  | nil => rfl
  | cons a rest ih =>
    rw [List.map_cons, List.nodup_cons] at distinct
    rw [follow, List.map_cons, continued]
    cases found : Roster.find? Body.uid a.uid previous with
    | none => simp only [ih distinct.2]
    | some b =>
      simp only [ih distinct.2, List.cons.injEq, true_and]
      refine List.map_congr_left fun c hc => ?_
      have ne : c.uid ≠ a.uid := fun same => distinct.1 (same ▸ List.mem_map_of_mem hc)
      rw [continued, continued, Roster.find?_filter_ne ne]

/-- Each actor continues the body that had its uid. -/
theorem body?_sync (indexed : w.Indexed) :
    (p.sync w).body? uid = (w.actor? uid).map (continued p.bodies) := by
  rw [body?, sync, follow_eq_map indexed.distinct,
    Roster.find?_map fun a => (continued_mirrors p.bodies a).uid, indexed.find?_eq]

theorem uids_sync (distinct : (w.actors.map Actor.uid).Nodup) :
    (p.sync w).bodies.map Body.uid = w.actors.map Actor.uid := by
  rw [sync, follow_eq_map distinct, List.map_map]
  exact List.map_congr_left fun a _ => (continued_mirrors p.bodies a).uid

theorem attachments_sync (distinct : (w.actors.map Actor.uid).Nodup) :
    (p.sync w).attachments = w.attachments := by
  rw [attachments, World.attachments, sync, follow_eq_map distinct, List.map_map]
  refine congrArg Attachments.mk (List.map_congr_left fun a _ => ?_)
  have mirrors := continued_mirrors p.bodies a
  rw [Function.comp_apply, mirrors.uid, mirrors.parent]

omit [Scalar K] in
theorem body?_beginTick : p.beginTick.body? uid = (p.body? uid).map Body.beginTick :=
  Roster.find?_map fun _ => rfl

omit [Scalar K] in
theorem uids_beginTick : p.beginTick.bodies.map Body.uid = p.bodies.map Body.uid := by
  rw [beginTick, List.map_map]
  rfl

omit [Scalar K] in
/-- The recorded motion of a body is that at the start of the tick. -/
theorem get?_motion : p.motion.get? uid = (p.body? uid).map Body.startMotion :=
  Table.get?_ofList_map

/-! ### Writing back -/

omit [Scalar K] in
theorem writeBack_eq : p.writeBack w = { w with actors := (p.writeBack w).actors } := by
  unfold writeBack
  induction p.bodies generalizing w with
  | nil => rfl
  | cons b rest ih =>
    rw [List.foldl_cons, ih]
    rfl

omit [Scalar K] in
theorem index_writeBack : (p.writeBack w).index = w.index := by
  rw [writeBack_eq]

omit [Scalar K] in
/-- What placing does not touch stays as it is. -/
theorem map_writeBack {β : Type} {g : Actor K → β} (keeps : ∀ b a, g (place b a) = g a) :
    (p.writeBack w).actors.map g = w.actors.map g := by
  unfold writeBack
  induction p.bodies generalizing w with
  | nil => rfl
  | cons b rest ih => rw [List.foldl_cons, ih, World.map_modifyActor (keeps b)]

omit [Scalar K] in
/-- Bodies are put where they belong without a new index. -/
theorem indexed_writeBack (indexed : w.Indexed) : (p.writeBack w).Indexed :=
  indexed.of_uids index_writeBack (map_writeBack fun _ _ => rfl)

omit [Scalar K] in
/-- The actor that is found under a uid is placed where the body of the uid is. -/
theorem actor?_writeBack (filed : w.Filed) : (p.writeBack w).actor? uid =
    (w.actor? uid).map fun a => (p.body? uid).elim a (place · a) := by
  unfold writeBack body?
  induction p.bodies generalizing w with
  | nil => exact Option.map_id'.symm
  | cons b rest ih =>
    -- Of two bodies with one uid the later one counts, on both sides.
    rw [List.foldl_cons, ih (filed.modifyActor _ _), filed.actor?_modifyActor, Option.map_map]
    refine Option.map_congr fun a _ => ?_
    rw [Function.comp_apply, Roster.find?]
    cases Roster.find? Body.uid uid rest with
    | some b' =>
      by_cases h : uid = b.uid
      · simp only [h, if_true]
        rfl
      · simp only [h, if_false]
    | none =>
      by_cases h : uid = b.uid
      · simp only [h, if_true]
        rfl
      · simp only [h, Ne.symm h, if_false]

omit [Scalar K] in
/-- Where uids find their actors, every actor is placed where its body is, and none changes its
place in the list. -/
theorem actors_writeBack (indexed : w.Indexed) :
    (p.writeBack w).actors = w.actors.map fun a => (p.body? a.uid).elim a (place · a) := by
  have keeps (a : Actor K) : ((p.body? a.uid).elim a (place · a)).uid = a.uid := by
    cases p.body? a.uid <;> rfl
  have uids : (p.writeBack w).actors.map Actor.uid = w.actors.map Actor.uid :=
    map_writeBack fun _ _ => rfl
  have found (uid : String) : Roster.find? Actor.uid uid (p.writeBack w).actors =
      Roster.find? Actor.uid uid (w.actors.map fun a => (p.body? a.uid).elim a (place · a)) := by
    rw [Roster.find?_map keeps, (indexed_writeBack indexed).find?_eq, indexed.find?_eq,
      actor?_writeBack indexed.filed]
    refine Option.map_congr fun a found => ?_
    rw [(indexed.mem_of_actor? found).2]
  refine Roster.ext_find? ?_ (uids ▸ indexed.distinct) found
  rw [uids, List.map_map]
  exact (List.map_congr_left fun a _ => keeps a).symm

end Physics

end Playfield
