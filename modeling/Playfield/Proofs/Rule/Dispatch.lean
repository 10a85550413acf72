import Playfield.Proofs.Rule.Engine

/-!
# Rules find their functions

The names in the rules of a scene are looked up in every step, but tested only when the rules are
first put together with a registry.

* `Registry.Serves`: a rule finds its action, and its predicate if it asks one. Validation tests
  just this of all rules (`validate_eq_ok_iff`).
* `RuleEngine.facing` is the engine to which a step has come when it looks at a rule. Its registry
  is still the one that was tested (`facing_keeps`).
* `act_registered`: where all rules are served, no step fails for want of an action.
-/

namespace Playfield

variable {K τ : Type}

namespace Registry

variable {r : Registry K τ} {rule : Rule} {sc : Scene K}

/-- The rule finds its action, and its predicate if it asks one. -/
def Serves (r : Registry K τ) (rule : Rule) : Prop :=
  (∃ run, r.actions.get? rule.action = some run) ∧
    ∀ predicate type phase, rule.condition = .logical predicate type phase →
      ∃ p, r.predicates.get? predicate = some p

theorem validateRule_eq_ok_iff {index : Nat} :
    r.validateRule rule index = .ok () ↔ r.Serves rule := by
  have test : ∀ (e : SceneError) (c : Bool), e.unless c = .ok () ↔ c = true := by
    intro e c
    cases c <;> simp [SceneError.unless]
  unfold validateRule Serves
  rw [← Option.isSome_iff_exists, show (r.actions.get? rule.action).isSome =
    r.actions.contains rule.action from rfl]
  cases acts : r.actions.contains rule.action with
  | false => exact ⟨nofun, nofun⟩
  | true =>
    refine Iff.trans ?_ (and_iff_right rfl).symm
    cases rule.condition with
    | logical predicate type phase =>
      refine (test _ _).trans ?_
      rw [show r.predicates.contains predicate = (r.predicates.get? predicate).isSome from rfl,
        Option.isSome_iff_exists]
      exact ⟨by rintro h _ _ _ ⟨⟩; exact h, fun h => h predicate type phase rfl⟩
    | _ => exact ⟨fun _ => nofun, fun _ => rfl⟩

/-- A registry is valid for a scene if it serves all rules. -/
theorem validate_eq_ok_iff : r.validate sc = .ok () ↔ ∀ rule ∈ sc.rules, r.Serves rule := by
  unfold validate
  rw [Roster.forM_eq_ok_iff]
  simp only [validateRule_eq_ok_iff]
  constructor
  · intro h rule mem
    obtain ⟨i, lt, rfl⟩ := List.getElem_of_mem mem
    exact h (sc.rules[i], i) (List.mem_zipIdx_iff_getElem?.2 (List.getElem?_eq_getElem lt))
  · rintro h ⟨rule, i⟩ mem
    exact h rule (List.mem_of_getElem? (List.mem_zipIdx_iff_getElem?.1 mem))

end Registry

namespace RuleEngine

variable {e : RuleEngine K τ} {frame : InputFrame K}

/-! ### The moment at which a rule is looked at -/

/-- The engine when all tasks have been resumed. -/
def resumed (e : RuleEngine K τ) : RuleEngine K τ :=
  let left := resumeTasks e.registry e.dt e.tasks e.stage
  { e with tasks := left.2.1, stage := left.2.2 }

/-- Tasks that keep the scene leave the rules that a step goes through. -/
theorem resumed_scene (keeps : e.registry.KeepsScene) : e.resumed.world.scene = e.world.scene :=
  resumeTasks_respects (R := fun w w' => w'.scene = w.scene) (fun _ => rfl)
    (fun _ _ _ h h' => h'.trans h) keeps e.dt e.tasks e.stage

/-- The engine when a step comes to the rule at a position: tasks have been resumed and the rules
before it applied. -/
def facing (e : RuleEngine K τ) (frame : InputFrame K) (index : Nat) : RuleEngine K τ :=
  (e.resumed.applyRules frame (e.resumed.world.scene.rules.zipIdx.take index)).2

/-- The registry is the same whenever a rule is looked at. -/
theorem facing_keeps (e : RuleEngine K τ) (frame : InputFrame K) (index : Nat) :
    e.Keeps (e.facing frame index) :=
  have applied := e.resumed.applyRules_keeps frame (e.resumed.world.scene.rules.zipIdx.take index)
  ⟨applied.registry, applied.dt⟩

/-! ### No step fails for want of an action -/

theorem resumeTasks_registered (r : Registry K τ) (dt : K) (tasks : List (RunningTask K τ))
    (s : Stage K) (name : String) : (resumeTasks r dt tasks s).1 ≠ .error (.unregistered name) := by
  induction tasks generalizing s with
  | nil => simp [resumeTasks]
  | cons t rest ih =>
    unfold resumeTasks
    rcases r.resume t.task ⟨t.binding, dt⟩ s with ⟨cause | left, s'⟩
    · simp
    · have later := ih s'
      dsimp only
      generalize resumeTasks r dt rest s' = resumed at later ⊢
      cases left with
      | some task => exact later
      | none =>
        rcases resumed with ⟨err | completed, _⟩
        · exact later
        · simp [Except.map]

theorem invoke_registered {action : String} {run : Run K (Outcome τ)}
    (found : e.registry.actions.get? action = some run) (b : Binding K) (name : String) :
    (e.invoke action b).1 ≠ .error (.unregistered name) := by
  unfold invoke
  rw [found]
  simp only
  split <;> exact nofun

theorem invokeAll_registered {action : String} {run : Run K (Outcome τ)}
    (found : e.registry.actions.get? action = some run) (bs : List (Binding K)) (name : String) :
    (e.invokeAll action bs).1 ≠ .error (.unregistered name) := by
  induction bs generalizing e with
  | nil => exact nofun
  | cons b rest ih =>
    have keeps := e.invoke_keeps action b
    have called := invoke_registered found b name
    unfold invokeAll
    split
    · rename_i err e' eq
      rw [eq] at called
      simpa using called
    · rename_i e' eq
      rw [eq] at keeps
      have later := @ih e' (keeps.registry.symm ▸ found)
      simp only
      generalize e'.invokeAll action rest = invoked at later ⊢
      rcases invoked with ⟨err | fired, e''⟩
      · exact later
      · exact nofun

theorem applyRules_registered {rules : List (Rule × Nat)}
    (served : ∀ entry ∈ rules, e.registry.Serves entry.1) (name : String) :
    (e.applyRules frame rules).1 ≠ .error (.unregistered name) := by
  induction rules generalizing e with
  | nil => exact nofun
  | cons entry rest ih =>
    obtain ⟨rule, index⟩ := entry
    have keeps := (e.bindings_keeps frame index rule.condition).1
    obtain ⟨⟨run, found⟩, -⟩ := served (rule, index) List.mem_cons_self
    unfold applyRules
    simp only
    generalize e.bindings frame index rule.condition = bound at keeps ⊢
    have called := invokeAll_registered (keeps.registry.symm ▸ found) bound.1 name
    have keeps' := invokeAll_keeps bound.2 rule.action bound.1
    split
    · rename_i err e' eq
      rw [eq] at called
      simpa using called
    · rename_i fired e' eq
      rw [eq] at keeps'
      -- The rules that follow meet another engine, but the same registry.
      have same := (keeps.trans keeps').registry
      have later := @ih e' fun entry mem => same.symm ▸ served entry (List.mem_cons_of_mem _ mem)
      generalize e'.applyRules frame rest = applied at later ⊢
      rcases applied with ⟨err | fired', e''⟩
      · exact later
      · exact nofun

/-- Where the registry serves all rules of the scene and no task replaces the scene, no step fails
for want of an action. -/
theorem act_registered (served : ∀ rule ∈ e.world.scene.rules, e.registry.Serves rule)
    (keeps : e.registry.KeepsScene) (name : String) :
    (e.act frame).1 ≠ .error (.unregistered name) := by
  have scene := resumed_scene keeps
  have resumed := resumeTasks_registered e.registry e.dt e.tasks e.stage name
  unfold act
  split
  · rename_i err tasks stage eq
    rw [eq] at resumed
    simpa using resumed
  · rename_i completed tasks stage eq
    -- Tasks may have changed the world, but not the rules that are applied in it.
    rw [RuleEngine.resumed, eq] at scene
    have applied := @applyRules_registered _ _ { e with tasks, stage } frame
      (RuleEngine.world { e with tasks, stage }).scene.rules.zipIdx (by
        rintro ⟨rule, i⟩ mem
        refine served rule ?_
        rw [show e.world.scene = stage.world.scene from scene.symm]
        exact List.mem_of_getElem? (List.mem_zipIdx_iff_getElem?.1 mem)) name
    simp only
    split
    · rename_i err e' eq'
      rw [eq'] at applied
      simpa using applied
    · exact nofun

end RuleEngine

end Playfield
