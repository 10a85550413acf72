import Mathlib.Data.List.Forall2
import Mathlib.Data.List.Nodup
import Playfield.Proofs.World.Index
import Playfield.Simulation

/-!
# The start of a simulation

* `distinct_of_validate`: the actors of a valid scene have distinct uids.
* `World.forall₂_place`: the actors of a world at its start. Its index has their uids where these
  are distinct (`World.indexed_of_new`).
* `new_ok`: what a simulation of a scene starts with.
-/

namespace Playfield

theorem eq_ok_of_toOption {ε α : Type} {x : Except ε α} {a : α} (h : x.toOption = some a) :
    x = .ok a := by
  cases x with
  | error e => cases h
  | ok b => exact congrArg _ (Option.some.inj h)

variable {K τ : Type} [Scalar K]

namespace Scene

variable {s : Scene K}

theorem unless_ok {e : SceneError} {c : Bool} (h : e.unless c = .ok ()) : c = true := by
  unfold SceneError.unless at h
  split at h
  · assumption
  · cases h

theorem bind_ok {α : Type} {x : Except SceneError Unit} {f : Unit → Except SceneError α} {a : α}
    (h : (x >>= f) = .ok a) : x = .ok () ∧ f () = .ok a := by
  cases x with
  | error e => cases h
  | ok u => exact ⟨rfl, h⟩

theorem distinct_of_validatePlacements {seen : List String} {l : List (Placement K)}
    (h : s.validatePlacements seen l = .ok ()) :
    (l.map Placement.uid).Nodup ∧ ∀ p ∈ l, p.uid ∉ seen := by
  induction l generalizing seen with
  | nil => exact ⟨List.nodup_nil, fun p hp => absurd hp List.not_mem_nil⟩
  | cons p rest ih =>
    unfold validatePlacements at h
    obtain ⟨new, h⟩ := bind_ok h
    obtain ⟨known, h⟩ := bind_ok h
    have unseen : p.uid ∉ seen := by simpa using unless_ok new
    split at h
    · obtain ⟨distinct, later⟩ := ih h
      have others : ∀ q ∈ rest, q.uid ≠ p.uid ∧ q.uid ∉ seen := fun q hq => by
        simpa using later q hq
      refine ⟨?_, fun q hq => ?_⟩
      · rw [List.map_cons, List.nodup_cons]
        refine ⟨fun again => ?_, distinct⟩
        obtain ⟨q, hq, same⟩ := List.mem_map.1 again
        exact (others q hq).1 same
      · rcases List.mem_cons.1 hq with rfl | hq
        · exact unseen
        · exact (others q hq).2
    · cases h

/-- The actors of a valid scene have distinct uids. -/
theorem distinct_of_validate (h : s.validate = .ok ()) : (s.actors.map Placement.uid).Nodup :=
  (distinct_of_validatePlacements (bind_ok h).1).1

/-- The tick rate of a valid scene is positive. -/
theorem tickRate_ne_zero_of_validate (h : s.validate = .ok ()) : s.multiplayer.tickRate ≠ 0 := by
  obtain ⟨_, h⟩ := bind_ok h
  obtain ⟨_, h⟩ := bind_ok h
  obtain ⟨_, h⟩ := bind_ok h
  obtain ⟨_, h⟩ := bind_ok h
  obtain ⟨_, h⟩ := bind_ok h
  obtain ⟨multiplayer, _⟩ := bind_ok h
  have positive := unless_ok (bind_ok multiplayer).1
  simpa using positive

end Scene

namespace World

variable {s : Scene K} {w : World K}

/-- An actor is placed for every placement, in order. -/
theorem forall₂_place {l : List (Placement K)} {actors : List (Actor K)}
    (h : place s l = .ok actors) : List.Forall₂ (fun p a => ∃ fields,
      s.fieldsOf p.type p.fields = .ok fields ∧ a = .ofPlacement s p fields) l actors := by
  induction l generalizing actors with
  | nil =>
    cases h
    exact .nil
  | cons p rest ih =>
    unfold place at h
    split at h
    · cases h
    · rename_i fields fits
      cases eq : place s rest with
      | error e =>
        rw [eq] at h
        cases h
      | ok placed =>
        rw [eq] at h
        cases h
        exact .cons ⟨fields, fits, rfl⟩ (ih eq)

theorem uids_place {l : List (Placement K)} {actors : List (Actor K)}
    (h : place s l = .ok actors) : actors.map Actor.uid = l.map Placement.uid := by
  have placed := forall₂_place h
  clear h
  induction placed with
  | nil => rfl
  | cons one _ ih =>
    obtain ⟨fields, -, rfl⟩ := one
    exact congrArg _ ih

/-- A world at its start has the placed actors and an index of their uids. -/
theorem eq_of_new {roles : List (Role K)} (h : World.new s roles = .ok w) :
    ∃ actors, place s s.actors = .ok actors ∧ w =
      { scene := s
        actors
        index := positions (actors.map Actor.uid)
        globals := Table.ofList (s.globals.map fun g => (g.name, g.value))
        roles := Table.ofList (roles.map fun r => (r.id, r.serverFields))
        gravityEnabled := s.world.gravityEnabled } := by
  unfold World.new at h
  cases placed : place s s.actors with
  | error e =>
    rw [placed] at h
    cases h
  | ok actors =>
    rw [placed] at h
    exact ⟨actors, rfl, (Except.ok.inj h).symm⟩

theorem actors_of_new {roles : List (Role K)} (h : World.new s roles = .ok w) :
    place s s.actors = .ok w.actors := by
  obtain ⟨actors, placed, rfl⟩ := eq_of_new h
  exact placed

theorem new_ok {roles : List (Role K)} (h : World.new s roles = .ok w) :
    w.scene = s ∧ w.actors.map Actor.uid = s.actors.map Placement.uid ∧ w.tick = 0 := by
  obtain ⟨actors, placed, rfl⟩ := eq_of_new h
  exact ⟨rfl, uids_place placed, rfl⟩

theorem index_of_new {roles : List (Role K)} (h : World.new s roles = .ok w) :
    w.index = positions (w.actors.map Actor.uid) := by
  obtain ⟨actors, -, rfl⟩ := eq_of_new h
  rfl

theorem filed_of_new {roles : List (Role K)} (h : World.new s roles = .ok w) : w.Filed := by
  have places := places_positions (w.actors.map Actor.uid)
  rwa [← index_of_new h, List.length_map] at places

/-- The index has the uids of all actors where they are distinct. -/
theorem indexed_of_new {roles : List (Role K)} (h : World.new s roles = .ok w)
    (distinct : (s.actors.map Placement.uid).Nodup) : w.Indexed := by
  rw [Indexed, index_of_new h]
  rw [← (new_ok h).2.1] at distinct
  exact locates_positions distinct

/-- The actors of a valid scene can be placed. -/
theorem place_of_validatePlacements {seen : List String} {l : List (Placement K)}
    (h : s.validatePlacements seen l = .ok ()) : ∃ actors, place s l = .ok actors := by
  induction l generalizing seen with
  | nil => exact ⟨[], rfl⟩
  | cons p rest ih =>
    unfold Scene.validatePlacements at h
    obtain ⟨-, h⟩ := Scene.bind_ok h
    obtain ⟨-, h⟩ := Scene.bind_ok h
    split at h
    · rename_i fields fits
      obtain ⟨actors, placed⟩ := ih h
      refine ⟨.ofPlacement s p fields :: actors, ?_⟩
      rw [place, fits, placed]
      rfl
    · cases h

/-- A valid scene has a world. -/
theorem new_of_validate (h : s.validate = .ok ()) (roles : List (Role K)) :
    ∃ w, World.new s roles = .ok w := by
  obtain ⟨actors, placed⟩ := place_of_validatePlacements (Scene.bind_ok h).1
  rw [World.new, placed]
  exact ⟨_, rfl⟩

theorem removed_of_new {roles : List (Role K)} (h : World.new s roles = .ok w) :
    w.removed = [] := by
  obtain ⟨actors, -, rfl⟩ := eq_of_new h
  rfl

end World

namespace Simulation

variable {sc : Scene K} {roles : List (Role K)} {r : Registry K τ} {seed : UInt64}
  {s : Simulation K τ}

/-- What a simulation of a scene starts with. -/
structure Starts (sc : Scene K) (r : Registry K τ) (s : Simulation K τ) : Prop where
  scene : s.world.scene = sc
  uids : s.world.actors.map Actor.uid = sc.actors.map Placement.uid
  tick : s.world.tick = 0
  registry : s.rules.registry = r
  dt : s.dt = 1.0 / Scalar.ofInt sc.multiplayer.tickRate

theorem new_ok (h : Simulation.new sc roles r seed = .ok s) : Starts sc r s := by
  unfold Simulation.new RuleEngine.new at h
  cases valid : r.validate sc with
  | error e =>
    rw [valid] at h
    cases h
  | ok u =>
    cases placed : World.new sc roles with
    | error e =>
      rw [valid, placed] at h
      cases h
    | ok w =>
      rw [valid, placed] at h
      cases h
      obtain ⟨same, uids, tick⟩ := World.new_ok placed
      exact ⟨same, uids, tick, rfl, rfl⟩

theorem world_of_new (h : Simulation.new sc roles r seed = .ok s) :
    World.new sc roles = .ok s.world := by
  unfold Simulation.new RuleEngine.new at h
  generalize r.validate sc = valid at h
  generalize World.new sc roles = placed at h ⊢
  cases valid <;> cases placed <;> cases h
  rfl

/-- In the simulation of a valid scene the index has the uids of the actors. -/
theorem indexed_of_start (valid : sc.validate = .ok ())
    (h : Simulation.new sc roles r seed = .ok s) : s.world.Indexed :=
  World.indexed_of_new (world_of_new h) (Scene.distinct_of_validate valid)

/-- Nothing is remembered at the start. -/
theorem previous_of_new (h : Simulation.new sc roles r seed = .ok s) : s.previous = ∅ := by
  unfold Simulation.new at h
  generalize RuleEngine.new sc roles r seed = rules at h
  cases rules <;> cases h
  rfl

end Simulation

end Playfield
