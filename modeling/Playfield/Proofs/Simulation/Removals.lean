import Playfield.Proofs.Simulation.Play
import Playfield.Proofs.Simulation.Start
import Playfield.Proofs.World.Ledger

/-!
# What becomes of actors in ticks

A tick, whether it fails or not, is a list of operations on the world, so the ledger of actors can
be kept across ticks.

* `Simulation.operations` are the operations of a tick whose calls do the given ones; they leave the
  world of the tick (`ruled_eq_foldl`, `settled_eq_foldl`).
* `run_operations`: a tick that comes to its end hands out what is pending, one that fails hands
  out nothing.
* `actors_accounted_for`: the ledger is sound after any operations and after any ticks, and a tick
  that comes to its end reports just those destroyed actors that no earlier tick has reported.
-/

namespace Playfield

open World

variable {K τ : Type} [Scalar K]

/-- Writing back, as operations. -/
def Physics.writes (p : Physics K) : List (Act K) := p.bodies.map fun b => .edit b.uid (place b)

theorem Physics.writeBack_eq_foldl (p : Physics K) (w : World K) :
    p.writeBack w = p.writes.foldl Act.apply w := by
  rw [writes, List.foldl_map]
  rfl

/-- Carrying attached actors along, as operations. -/
def World.carries (w : World K) (before : Table String (Motion K)) : List (Act K) :=
  (w.inherited before).map fun (uid, m) => .edit uid (·.carried m)

theorem World.propagate_eq_foldl (w : World K) (before : Table String (Motion K)) :
    w.propagate before = (w.carries before).foldl Act.apply w := by
  rw [carries, List.foldl_map, propagate]
  exact congrFun (congrFun (congrArg List.foldl (funext₂ fun w e => w.inherit_eq e.1 e.2)) _) _

theorem World.foldl_ticked (w : World K) (acts : List (Act K)) :
    (Op.beginTick :: acts.map .act).foldl Op.apply w = acts.foldl Act.apply w.beginTick := by
  rw [List.foldl_cons, List.foldl_map]
  rfl

omit [Scalar K] in
theorem World.keepsUids_ticked {acts : List (Act K)} (keeps : ∀ a ∈ acts, a.KeepsUids) :
    ∀ op ∈ Op.beginTick :: acts.map .act, op.KeepsUids := by
  intro op mem
  rcases List.mem_cons.1 mem with rfl | mem
  · trivial
  · obtain ⟨a, ha, rfl⟩ := List.mem_map.1 mem
    exact keeps a ha

namespace Simulation

variable {s s' : Simulation K τ} {input : InputFrame K} {acts : List (Act K)}
  {report : TickReport K}

/-- The calls of a tick do these operations, none of which changes a uid. -/
structure Does (s : Simulation K τ) (input : InputFrame K) (acts : List (Act K)) : Prop where
  keeps : ∀ a ∈ acts, a.KeepsUids
  world : (s.ruled input).2.world = acts.foldl Act.apply s.move.2.world

/-- The operations of a tick up to the end of its calls. -/
def opening (s : Simulation K τ) (acts : List (Act K)) : List (Act K) := s.moved.writes ++ acts

/-- The operations after the calls, when bodies have been resolved. -/
def closing (s : Simulation K τ) (input : InputFrame K) (s' : Simulation K τ) : List (Act K) :=
  (s.ruled input).2.world.carries s.moved.motion ++ s'.physics.writes

/-- The operations of a tick whose calls do `acts`. -/
def operations (s : Simulation K τ) (input : InputFrame K) (acts : List (Act K)) : List (Op K) :=
  match s.step input with
  | (.error _, _) => .beginTick :: (s.opening acts).map .act
  | (.ok _, s') => .beginTick :: (s.opening acts ++ s.closing input s').map .act ++ [.takeRemoved]

theorem ruled_eq_foldl (does : s.Does input acts) :
    (s.ruled input).2.world = (s.opening acts).foldl Act.apply s.world.beginTick := by
  rw [does.world, move_world, Physics.writeBack_eq_foldl, opening, List.foldl_append]

theorem settled_eq_foldl (does : s.Does input acts) :
    s'.physics.writeBack (s.carried input).world =
      (s.opening acts ++ s.closing input s').foldl Act.apply s.world.beginTick := by
  rw [carried_world, Physics.writeBack_eq_foldl, propagate_eq_foldl, List.foldl_append,
    ← ruled_eq_foldl does, closing, List.foldl_append]

theorem operations_keep (does : s.Does input acts) :
    ∀ op ∈ s.operations input acts, op.KeepsUids := by
  have writes (p : Physics K) : ∀ a ∈ p.writes, a.KeepsUids := by
    intro a mem
    obtain ⟨b, -, rfl⟩ := List.mem_map.1 mem
    exact fun _ => rfl
  have carries (w : World K) (before : Table String (Motion K)) :
      ∀ a ∈ w.carries before, a.KeepsUids := by
    intro a mem
    obtain ⟨⟨uid, m⟩, -, rfl⟩ := List.mem_map.1 mem
    exact fun a => a.uid_carried m
  have opening : ∀ a ∈ s.opening acts, a.KeepsUids := fun a mem =>
    (List.mem_append.1 mem).elim (writes _ a) (does.keeps a)
  have closing (s' : Simulation K τ) : ∀ a ∈ s.closing input s', a.KeepsUids := fun a mem =>
    (List.mem_append.1 mem).elim (carries _ _ a) (writes _ a)
  unfold operations
  rcases s.step input with ⟨e | report, s'⟩
  · exact keepsUids_ticked opening
  · have all : ∀ a ∈ s.opening acts ++ s.closing input s', a.KeepsUids := fun a mem =>
      (List.mem_append.1 mem).elim (opening a) (closing s' a)
    intro op mem
    rcases List.mem_append.1 mem with mem | last
    · exact keepsUids_ticked all op mem
    · rw [List.mem_singleton.1 last]
      trivial

/-- What a tick does to the ledger of its world. -/
structure Entered (l l' : Ledger K) (outcome : Except RuleError (TickReport K)) : Prop where
  destroyed : ∀ m, l.Destroyed m → l'.Destroyed m
  /-- A tick that fails hands out nothing. -/
  failed : ∀ e, outcome = .error e → l'.handed = l.handed ∧ l'.reports = l.reports
  /-- A tick that comes to its end reports what is destroyed and not reported yet. -/
  ended : ∀ report, outcome = .ok report → l'.reports = l.reports ++ [report.removed] ∧
    ∃ now, l'.handed = l.handed ++ [now] ∧
      ∀ m, m ∈ now ↔ l'.Destroyed m ∧ m ∉ l.handed.flatten

theorem run_operations {l : Ledger K} (sound : l.Sound) (same : l.world = s.world)
    (does : s.Does input acts) :
    (l.run (s.operations input acts)).Sound ∧
      (l.run (s.operations input acts)).world = (s.step input).2.world ∧
      Entered l (l.run (s.operations input acts)) (s.step input).1 := by
  have sound' := sound.run (operations_keep does)
  have destroyed (m : ℕ) (h : l.Destroyed m) := h.run (s.operations input acts)
  have handed (acts : List (Act K)) := (l.enter .beginTick).run_acts acts
  refine ⟨sound', ?_⟩
  unfold operations at sound' destroyed ⊢
  rcases ticked : s.step input with ⟨e | report, s'⟩
  · rw [ticked] at destroyed
    refine ⟨?_, destroyed, fun _ _ => handed _, fun _ h => by cases h⟩
    rw [Ledger.world_run, foldl_ticked, same, ← ruled_eq_foldl does, world, step_error ticked]
  · have passed := step_ok ticked
    simp only [ticked, Ledger.run_append] at sound' destroyed ⊢
    have world : (l.run (.beginTick :: (s.opening acts ++ s.closing input s').map .act)).world =
        s'.physics.writeBack (s.carried input).world := by
      rw [Ledger.world_run, foldl_ticked, same, settled_eq_foldl does]
    obtain ⟨before, reports⟩ := handed (s.opening acts ++ s.closing input s')
    change (l.run (.beginTick :: _)).handed = l.handed at before
    change (l.run (.beginTick :: _)).reports = l.reports at reports
    generalize l.run (.beginTick :: _) = called at world before reports sound' destroyed ⊢
    have last : (called.run [.takeRemoved]).handed = l.handed ++ [called.pending] :=
      congrArg (· ++ [called.pending]) before
    refine ⟨?_, destroyed, fun _ h => by (cases h), fun _ h =>
      ⟨?_, called.pending, last, fun m => sound'.mem_last_iff rfl last⟩⟩
    · rw [passed.world, ← world]
      rfl
    · cases h
      rw [passed.removed, ← world, ← reports]
      rfl

/-- The ledger after some ticks, where the calls of the `i`-th do `acts i`. -/
def ledger (t : ℕ → Simulation K τ) (inputs : ℕ → InputFrame K) (acts : ℕ → List (Act K)) :
    ℕ → Ledger K
  | 0 => .ofWorld (t 0).world
  | n + 1 => (ledger t inputs acts n).run ((t n).operations (inputs n) (acts n))

section Runs

variable {sc : Scene K} {t : ℕ → Simulation K τ} {inputs : ℕ → InputFrame K}
  (next : ∀ i, t (i + 1) = ((t i).step (inputs i)).2)
include next

/-- What calls do is known to be operations if every function of the registry does only such. -/
theorem exists_does (respects : (t 0).rules.registry.Respects (Acted Act.KeepsUids)) (n : ℕ) :
    ∃ acts, (t n).Does (inputs n) acts := by
  rw [← registry_run fun i (_ : i < n) => next i] at respects
  obtain ⟨acts, keeps, world⟩ := ruled_acted respects (inputs n)
  exact ⟨acts, keeps, world⟩

theorem ledger_sound {acts : ℕ → List (Act K)} (does : ∀ i, (t i).Does (inputs i) (acts i))
    (start : (Ledger.ofWorld (t 0).world).Sound) (n : ℕ) :
    (ledger t inputs acts n).Sound ∧ (ledger t inputs acts n).world = (t n).world := by
  induction n with
  | zero => exact ⟨start, rfl⟩
  | succ n ih =>
    obtain ⟨sound, world, -⟩ := run_operations ih.1 ih.2 (does n)
    exact ⟨sound, world.trans (congrArg Simulation.world (next n)).symm⟩

end Runs

/-- The ledger of a valid scene is sound after any operations on its world that change no uid, and
after any ticks, failing ones too, whose calls do only such operations. A tick that comes to its end
reports just those destroyed actors that no earlier tick has reported. -/
theorem actors_accounted_for {sc : Scene K} (valid : sc.validate = .ok ()) :
    (∀ roles : List (Role K), ∃ w, World.new sc roles = .ok w ∧
      ∀ ops : List (Op K), (∀ op ∈ ops, op.KeepsUids) →
        ((Ledger.ofWorld w).run ops).Sound ∧
          ((Ledger.ofWorld w).run ops).world = ops.foldl Op.apply w) ∧
    ∀ (roles : List (Role K)) (r : Registry K τ) (seed : UInt64) (t : ℕ → Simulation K τ)
      (inputs : ℕ → InputFrame K),
      r.Respects (Acted Act.KeepsUids) → Simulation.new sc roles r seed = .ok (t 0) →
      (∀ i, t (i + 1) = ((t i).step (inputs i)).2) →
      (∃ acts : ℕ → List (Act K), ∀ i, (t i).Does (inputs i) (acts i)) ∧
        ∀ acts : ℕ → List (Act K), (∀ i, (t i).Does (inputs i) (acts i)) → ∀ n,
          (ledger t inputs acts n).Sound ∧ (ledger t inputs acts n).world = (t n).world ∧
            Entered (ledger t inputs acts n) (ledger t inputs acts (n + 1))
              ((t n).step (inputs n)).1 := by
  have start {roles : List (Role K)} {w : World K} (new : World.new sc roles = .ok w) :
      (Ledger.ofWorld w).Sound :=
    Ledger.sound_ofWorld (World.indexed_of_new new (Scene.distinct_of_validate valid))
      (World.removed_of_new new)
  refine ⟨fun roles => ?_, fun roles r seed t inputs respects new next => ⟨?_, ?_⟩⟩
  · obtain ⟨w, new⟩ := World.new_of_validate valid roles
    exact ⟨w, new, fun ops keeps => ⟨(start new).run keeps, Ledger.world_run _ ops⟩⟩
  · exact Classical.skolem.1 (exists_does next ((new_ok new).registry ▸ respects))
  · intro acts does n
    obtain ⟨sound, world⟩ := ledger_sound next does (start (world_of_new new)) n
    exact ⟨sound, world, (run_operations sound world (does n)).2.2⟩

/-! ### An actor that is destroyed in a tick that fails -/

namespace Strike

/-- Two actors, and a rule that strikes the first. -/
def scene : Scene Rat :=
  let actor : Placement Rat :=
    { uid := "a", type := "t", x := 0, y := 0, width := none, height := none, layer := none
      blockMask := none, vx := 0, vy := 0, parent := none, sprite := none, active := true
      physics := none, fields := ∅ }
  { Scene.default with
    templates := Table.ofList [("t", Template.default)]
    actors := [actor, { actor with uid := "b", y := 50 }]
    rules := [⟨.keyboard "k" .on, "strike"⟩] }

/-- The action destroys the actor, and fails if there was one. -/
def registry : Registry Rat Empty :=
  { actions := Table.ofList [("strike", fun _ s =>
      let (found, world) := s.world.destroy "a"
      (if found then .error "struck" else .ok .done, { s with world }))]
    resume := fun t => nomatch t }

/-- The key of the rule is held. -/
def frame : InputFrame Rat := { keyboard := { on := NameSet.ofNames ["k"] } }

theorem registry_respects : registry.Respects (Acted Act.KeepsUids) :=
  Registry.respects_of_action rfl fun _ s => .single (a := .destroy "a") trivial s.world

/-- The first tick fails, and the second one reports the actor. -/
def works : Bool :=
  match Simulation.new scene [] registry 0 with
  | .error _ => false
  | .ok s => match s.step frame with
    | (.ok _, _) => false
    | (.error _, s) => match s.step frame with
      | (.error _, _) => false
      | (.ok report, _) => report.removed.map Actor.uid == ["a"]

end Strike

/-- The actor is in no report after the tick that fails, and in that of the next tick. -/
theorem struck_actor_is_reported_once : ∃ (t : ℕ → Simulation Rat Empty) (acts : ℕ → List (Act Rat))
    (e : RuleError) (report : TickReport Rat),
    Simulation.new Strike.scene [] Strike.registry 0 = .ok (t 0) ∧
      (∀ i, t (i + 1) = ((t i).step Strike.frame).2 ∧ (t i).Does Strike.frame (acts i)) ∧
      ((t 0).step Strike.frame).1 = .error e ∧ ((t 1).step Strike.frame).1 = .ok report ∧
      report.removed.map Actor.uid = ["a"] ∧
      (ledger t (fun _ => Strike.frame) acts 1).reports = [] ∧
      (ledger t (fun _ => Strike.frame) acts 2).reports = [report.removed] ∧
      ∃ m, (ledger t (fun _ => Strike.frame) acts 2).handed = [[m]] := by
  have works : Strike.works = true := by cbv
  unfold Strike.works at works
  split at works
  · cases works
  rename_i s new
  split at works
  · cases works
  rename_i e s' first
  split at works
  · cases works
  rename_i report s'' second
  have uids : report.removed.map Actor.uid = ["a"] := by simpa using works
  let t (n : ℕ) : Simulation Rat Empty := (fun s => (s.step Strike.frame).2)^[n] s
  have next (i : ℕ) : t (i + 1) = ((t i).step Strike.frame).2 := Function.iterate_succ_apply' ..
  have failed : ((t 0).step Strike.frame).1 = .error e := congrArg Prod.fst first
  have ended : ((t 1).step Strike.frame).1 = .ok report := by
    rw [next 0]
    exact (congrArg (fun s => (s.step Strike.frame).1) (congrArg Prod.snd first)).trans
      (congrArg Prod.fst second)
  obtain ⟨⟨acts, does⟩, accounted⟩ := (actors_accounted_for (by cbv)).2 [] Strike.registry 0 t
    (fun _ => Strike.frame) Strike.registry_respects new next
  have enters := accounted acts does
  obtain ⟨unhanded, unreported⟩ := (enters 0).2.2.failed e failed
  obtain ⟨one, now, handed, -⟩ := (enters 1).2.2.ended report ended
  have reports : (ledger t (fun _ => Strike.frame) acts 2).reports = [report.removed] := by
    rw [one, unreported]
    rfl
  refine ⟨t, acts, e, report, new, fun i => ⟨next i, does i⟩, failed, ended, uids, unreported,
    reports, ?_⟩
  -- The one report has one actor, and so has its list of numbers.
  rw [unhanded] at handed
  have sound := (enters 2).1.handed
  rw [reports, handed] at sound
  obtain ⟨a, single, -⟩ := List.map_eq_singleton_iff.1 uids
  obtain ⟨numbers, -⟩ := List.forall₂_cons.1 sound
  rw [single] at numbers
  obtain ⟨m, numbered⟩ := List.length_eq_one_iff.1 numbers.length_eq
  exact ⟨m, numbered ▸ handed⟩

end Simulation

end Playfield
