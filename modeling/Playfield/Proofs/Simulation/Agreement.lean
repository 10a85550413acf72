import Playfield.Proofs.Body.Separation
import Playfield.Proofs.Positions
import Playfield.Proofs.Simulation.Start
import Playfield.Proofs.Simulation.Tick

/-!
# World, bodies and animation agree

A tick moves bodies and actors in turns, and rules create and destroy actors in between. When it has
come to its end, all that is known of an actor in three places is the same.

* `Physics.mirrors_writeBack`: bodies that follow a world mirror its actors, one by one, after they
  are written back, whatever moved them.
* `Animator.isSome_state?_update`: the animation has a state for each active body and no other.
* `Simulation.Agrees`: bodies and actors correspond one by one, one index finds both, and the
  animation shows the active actors.
* `agrees_after_tick`: in a run from the start of a valid scene, failing ticks included, this holds
  after every tick that comes to its end.
-/

namespace Playfield

variable {K τ : Type} [Scalar K]

namespace Body

/-- What mirrors an actor and is moved within a tick mirrors it where it is placed then. -/
theorem Mirrors.place {b c : Body K} {a : Actor K} (mirrors : c.Mirrors a)
    (starts : b.start = c.start) : b.Mirrors (Physics.place b a) where
  uid := (uid_eq_of_start starts).trans mirrors.uid
  type := (congrArg Body.type starts :).trans mirrors.type
  pos := rfl
  vel := rfl
  half := (congrArg Body.half starts :).trans mirrors.half
  flags := (congrArg Body.flags starts :).trans mirrors.flags
  active := (congrArg Body.active starts :).trans mirrors.active
  blockMask := (congrArg Body.blockMask starts :).trans mirrors.blockMask
  parent := (congrArg Body.parent starts :).trans mirrors.parent

theorem uids_of_mirrors {bodies : List (Body K)} {actors : List (Actor K)}
    (mirrors : List.Forall₂ Mirrors bodies actors) :
    bodies.map Body.uid = actors.map Actor.uid := by
  rw [← List.forall₂_eq_eq_eq, List.forall₂_map_left_iff, List.forall₂_map_right_iff]
  exact mirrors.imp fun _ _ h => h.uid

/-- The active ones of bodies and actors have the same uids. -/
theorem any_active_of_mirrors {bodies : List (Body K)} {actors : List (Actor K)}
    (mirrors : List.Forall₂ Mirrors bodies actors) (uid : String) :
    (bodies.filter (·.active)).any (·.uid == uid) =
      (actors.filter (·.active)).any (·.uid == uid) := by
  induction mirrors with
  | nil => rfl
  | @cons b a _ _ mirrors _ ih =>
    rw [List.filter_cons, List.filter_cons, mirrors.active]
    split
    · rw [List.any_cons, List.any_cons, mirrors.uid, ih]
    · exact ih

end Body

/-- Bodies that follow a world and are then moved mirror its actors when these are placed. -/
theorem Physics.mirrors_writeBack {p q : Physics K} {w : World K}
    (indexed : w.Indexed)
    (starts : p.bodies.map Body.start = (q.sync w).bodies.map Body.start) :
    List.Forall₂ Body.Mirrors p.bodies (p.writeBack w).actors := by
  have distinct := indexed.distinct
  have uids : p.bodies.map Body.uid = w.actors.map Actor.uid :=
    (Body.uids_of_starts starts).trans (uids_sync distinct)
  rw [sync, follow_eq_map distinct, ← List.forall₂_eq_eq_eq, List.map_map,
    List.forall₂_map_left_iff, List.forall₂_map_right_iff] at starts
  rw [actors_writeBack indexed, List.forall₂_map_right_iff]
  -- Each actor finds the body that it corresponds to.
  have both : List.Forall₂
      (fun b a => b ∈ p.bodies ∧ b.start = (continued q.bodies a).start) p.bodies w.actors :=
    (List.forall₂_and_left _ _).2 ⟨fun _ mem => mem, starts⟩
  refine both.imp fun b a same => ?_
  obtain ⟨mem, start⟩ := same
  have mirrors := continued_mirrors q.bodies a
  have found : p.body? a.uid = some b := by
    rw [← mirrors.uid, ← Body.uid_eq_of_start start]
    exact Roster.find?_key (uids ▸ distinct) mem
  rw [found]
  exact mirrors.place start

namespace Animator

theorem contains_carry (s : Scene K) (dt : K) (previous next : Table String (AnimationState K))
    (bodies : List (Body K)) (uid : String) : (carry s dt previous next bodies).contains uid =
      (next.contains uid || bodies.any (·.uid == uid)) := by
  induction bodies generalizing previous next with
  | nil => exact (Bool.or_false _).symm
  | cons b rest ih => rw [carry, ih, Table.contains_insert, List.any_cons, Bool.or_assoc]

/-- There is a state for each active body and no other. -/
theorem isSome_state?_update (a : Animator K) (s : Scene K) (bodies : List (Body K)) (dt : K)
    (uid : String) : ((a.update s bodies dt).state? uid).isSome =
      (bodies.filter (·.active)).any (·.uid == uid) :=
  (contains_carry s dt a.states ∅ _ uid).trans (Bool.false_or _)

end Animator

namespace Simulation

/-- World, bodies and animation say the same. -/
structure Agrees (s : Simulation K τ) : Prop where
  /-- Bodies and actors correspond one by one, in the same order. -/
  bodies : List.Forall₂ Body.Mirrors s.physics.bodies s.world.actors
  /-- A uid has one place in both lists. -/
  places : s.world.Indexed ∧
    ∀ uid, s.physics.body? uid = (s.world.index.get? uid).bind (s.physics.bodies[·]?)
  /-- Just the active actors are shown. -/
  shown : ∀ uid, (s.animator.state? uid).isSome ↔
    ∃ a ∈ s.world.actors, a.uid = uid ∧ a.active = true

variable {s s' : Simulation K τ} {input : InputFrame K} {report : TickReport K}

/-- All agree after a tick that has come to its end, if uids still found their actors before bodies
were resolved. -/
theorem agrees_of_indexed (passed : Passed s input report s')
    (indexed : (s.carried input).world.Indexed) : Agrees s' := by
  have mirrors : List.Forall₂ Body.Mirrors s'.physics.bodies s'.world.actors := by
    rw [passed.actors]
    refine Physics.mirrors_writeBack (q := s.moved) indexed ?_
    rw [passed.physics]
    exact Pushing.starts_resolve _
  have located := passed.indexed indexed
  refine ⟨mirrors, ⟨located, ?_⟩, fun uid => ?_⟩
  · rw [World.Indexed, ← Body.uids_of_mirrors mirrors] at located
    exact located.find?_eq
  · rw [passed.animator, Animator.isSome_state?_update, Body.any_active_of_mirrors mirrors,
      List.any_filter, List.any_eq_true]
    simp [and_comm]

/-- In a run from the start of a valid scene, failing ticks included, all agree after every tick
that has come to its end. -/
theorem agrees_after_tick {sc : Scene K} {roles : List (Role K)} {r : Registry K τ} {seed : UInt64}
    {t : ℕ → Simulation K τ} {inputs : ℕ → InputFrame K} (valid : sc.validate = .ok ())
    (respects : r.Respects (World.Acted World.Act.KeepsUids))
    (start : Simulation.new sc roles r seed = .ok (t 0))
    (next : ∀ i, t (i + 1) = ((t i).step (inputs i)).2) {n : ℕ}
    (ok : ((t n).step (inputs n)).1 = .ok report) : Agrees (t (n + 1)) := by
  have starts := new_ok start
  have indexed : (t n).world.Indexed :=
    indexed_run (fun i _ => next i) (starts.registry ▸ respects) (indexed_of_start valid start)
  have registry : (t n).rules.registry = (t 0).rules.registry := registry_run fun i _ => next i
  have ruled : ((t n).ruled (inputs n)).2.world.Indexed :=
    (ruled_acted (registry.trans starts.registry ▸ respects) (inputs n)).indexed
      (fun _ keeps => keeps) (move_indexed indexed)
  have ticked : (t n).step (inputs n) = (.ok report, t (n + 1)) := Prod.ext ok (next n).symm
  exact agrees_of_indexed (step_ok ticked) (carried_indexed (inputs n) ruled)

/-! ### A new actor after a tick that fails -/

namespace Hatch

/-- Two actors, of which one moves, and a rule. -/
def scene : Scene Rat :=
  let actor : Placement Rat :=
    { uid := "egg", type := "t", x := 0, y := 0, width := none, height := none, layer := none
      blockMask := none, vx := 0, vy := 0, parent := none, sprite := none, active := true
      physics := none, fields := ∅ }
  { Scene.default with
    templates := Table.ofList [("t", Template.default)]
    actors := [actor, { actor with uid := "hen", y := 50, vx := 30 }]
    rules := [⟨.keyboard "k" .on, "hatch"⟩] }

/-- The action destroys the egg and fails; when there is none, it creates an actor. -/
def registry : Registry Rat Empty :=
  { actions := Table.ofList [("hatch", fun _ s =>
      match s.world.destroy "egg" with
      | (true, world) => (.error "broken", { s with world })
      | (false, _) =>
        (.ok .done, { s with world := (s.world.spawn ⟨"t", 7, 7, 0, 0, none, ∅⟩).2 }))]
    resume := fun t => nomatch t }

/-- The key of the rule is held. -/
def frame : InputFrame Rat := { keyboard := { on := NameSet.ofNames ["k"] } }

theorem registry_respects : registry.Respects (World.Acted World.Act.KeepsUids) := by
  refine Registry.respects_of_action rfl fun _ s => ?_
  have gone : World.Acted World.Act.KeepsUids s.world (s.world.destroy "egg").2 :=
    .single (a := .destroy "egg") trivial s.world
  rcases broken : s.world.destroy "egg" with ⟨_ | _, world⟩
  · exact .single (a := .spawn ⟨"t", 7, 7, 0, 0, none, ∅⟩) trivial s.world
  · rwa [broken] at gone

/-- The first tick fails, and after the second one there is a new actor. -/
def works : Bool :=
  match Simulation.new scene [] registry 0 with
  | .error _ => false
  | .ok s => match s.step frame with
    | (.ok _, _) => false
    | (.error _, s) => match s.step frame with
      | (.error _, _) => false
      | (.ok _, s) => s.world.actors.map Actor.uid == ["hen", "t_1"]

end Hatch

/-- A tick fails when an actor is destroyed and another one creates an actor; then all agree. -/
theorem hatched_actor_has_a_body : ∃ (t : ℕ → Simulation Rat Empty) (e : RuleError)
    (report : TickReport Rat),
    Simulation.new Hatch.scene [] Hatch.registry 0 = .ok (t 0) ∧
      (∀ i, t (i + 1) = ((t i).step Hatch.frame).2) ∧
      ((t 0).step Hatch.frame).1 = .error e ∧ ((t 1).step Hatch.frame).1 = .ok report ∧
      (t 2).physics.bodies.map Body.uid = ["hen", "t_1"] ∧
      ((t 2).animator.state? "egg").isSome = false ∧ Agrees (t 2) := by
  have works : Hatch.works = true := by cbv
  unfold Hatch.works at works
  split at works
  · cases works
  rename_i s new
  split at works
  · cases works
  rename_i e s' first
  split at works
  · cases works
  rename_i report s'' second
  have uids : s''.world.actors.map Actor.uid = ["hen", "t_1"] := by simpa using works
  let t (n : ℕ) : Simulation Rat Empty := (fun s => (s.step Hatch.frame).2)^[n] s
  have next (i : ℕ) : t (i + 1) = ((t i).step Hatch.frame).2 := Function.iterate_succ_apply' ..
  have one : t 1 = s' := (next 0).trans (congrArg Prod.snd first)
  have two : t 2 = s'' := by rw [next 1, one, second]
  have failed : ((t 0).step Hatch.frame).1 = .error e := congrArg Prod.fst first
  have ended : ((t 1).step Hatch.frame).1 = .ok report := by rw [one, second]
  have agrees : Agrees (t 2) := agrees_after_tick (by cbv) Hatch.registry_respects new
    next ended
  have hidden : ¬((t 2).animator.state? "egg").isSome := by
    rw [agrees.shown, two]
    rintro ⟨a, mem, egg, -⟩
    have : a.uid ∈ s''.world.actors.map Actor.uid := List.mem_map_of_mem mem
    rw [uids, egg] at this
    simp at this
  refine ⟨t, e, report, new, next, failed, ended, ?_, by simpa using hidden, agrees⟩
  rw [Body.uids_of_mirrors agrees.bodies, two, uids]

end Simulation

end Playfield
